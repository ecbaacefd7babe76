/-
  FlatFile/Stream/Sink.lean
  =========================
  **A place that takes bytes, perhaps not all of them.**

  A sink takes at most `widest` bytes in one write and `room` bytes altogether;
  once it is full, a write fails with `refusal` or, if there is none, takes
  nothing.  `writeAll` writes until every byte is taken, and a write that takes
  nothing makes it fail.  What the sink has taken stays there whatever happens
  later.
-/
import FlatFile.Stream.Growing
import FlatFile.Stream.Source

namespace FlatFile

/-- A sink and the bytes it has taken. -/
structure Sink where
  /-- The most bytes that one write takes. -/
  widest : Option Nat := none
  /-- The bytes that there is still room for, unless it is unlimited. -/
  room : Option Nat := none
  /-- The failure of a write to a full sink. -/
  refusal : Option IoFailure := none
  /-- The failure of a flush. -/
  flushFailure : Option IoFailure := none
  taken : Growing UInt8 := {}
deriving DecidableEq, Repr

namespace Sink

/-- The bytes a sink has taken, in order. -/
def accepted (sink : Sink) : List UInt8 := sink.taken.toList

/-- A write that takes nothing although there is something to take. -/
def writeZero : IoFailure := ⟨.writeZero, some "failed to write whole buffer"⟩

/-- What becomes of a write to a full sink. -/
def fullFailure (sink : Sink) : IoFailure := sink.refusal.getD writeZero

/-- The sink with more bytes taken. -/
def take (sink : Sink) (bytes : List UInt8) : Sink :=
  { sink with room := sink.room.map (· - bytes.length), taken := sink.taken.add bytes }

/-- Writes until every byte is taken: the failure that prevents it, if any, and the sink
    afterwards.  How much one write takes is of no account here unless it is nothing at
    all. -/
def writeAll (sink : Sink) (bytes : List UInt8) : Option IoFailure × Sink :=
  if bytes.isEmpty then (none, sink)
  else if sink.room = some 0 then (some sink.fullFailure, sink)
  else if sink.widest = some 0 then (some writeZero, sink)
  else
    match sink.room with
    | none => (none, sink.take bytes)
    | some room =>
      if bytes.length ≤ room then (none, sink.take bytes)
      else (some sink.fullFailure, sink.take (bytes.take room))

/-- Copies what a source gives until its end, then flushes: the number of bytes copied,
    or the failure that ended the copy. -/
def copyFrom (sink : Sink) (copied : Nat) : Source → Except IoFailure Nat × Sink
  | [] | .data [] :: _ =>
    match sink.flushFailure with
    | none => (.ok copied, sink)
    | some failure => (.error failure, sink)
  | .data bytes :: rest =>
    match sink.writeAll bytes with
    | (none, sink) => sink.copyFrom (copied + bytes.length) rest
    | (some failure, sink) => (.error failure, sink)
  | .failure failure :: rest =>
    if failure.kind = .interrupted then sink.copyFrom copied rest else (.error failure, sink)

end Sink

end FlatFile
