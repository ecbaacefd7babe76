/-
  FlatFile/Stream/Source.lean
  ===========================
  **Bytes that arrive read by read.**

  A source of bytes is what its reads give, in order: each one some bytes or a
  failure.  A read that gives no bytes is the end of the source, and so is the
  end of the list.  Whoever reads asks for at most `blockSize` bytes at a time;
  `inBlocks` is the source as it is seen through such reads, where a longer piece
  is served in several of them.
-/
import FlatFile.Failure

namespace FlatFile

/-- What one read gives. -/
inductive Reading where
  | data (bytes : List UInt8)
  | failure (failure : IoFailure)
deriving DecidableEq, Repr

/-- A source of bytes, read by read. -/
abbrev Source := List Reading

/-- The most bytes asked for at once. -/
def blockSize : Nat := 8192

/-- The bytes in pieces of `most + 1`, the last one maybe shorter. -/
def pieces (most : Nat) : List UInt8 → List (List UInt8)
  | [] => []
  | b :: rest => (b :: rest.take most) :: pieces most (rest.drop most)
termination_by bytes => bytes.length
decreasing_by simp only [List.length_drop, List.length_cons]; omega

namespace Source

/-- A source that gives all its bytes at once. -/
def ofBytes (bytes : List UInt8) : Source := [.data bytes]

/-- What one item of a source gives to reads of at most `blockSize` bytes. -/
def blocksOf : Reading → List Reading
  | .data [] => [.data []]
  | .data bytes => (pieces (blockSize - 1) bytes).map .data
  | .failure failure => [.failure failure]

/-- The source as it is seen by reads of at most `blockSize` bytes. -/
def inBlocks (source : Source) : Source := source.flatMap blocksOf

end Source

end FlatFile
