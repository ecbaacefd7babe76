/-
  FlatFile/Proofs/Document/Serving.lean
  =====================================
  **Chunks and bytes of a document are one stream, however calls for them are mixed.**

  What is left to be read of a chunk has no part in which chunk comes next (`next_withPending`).
  So calls of both kinds, in any order, pull the chunks that calls for chunks alone would
  (`oneStream`): a read pulls one only when nothing is left of the chunk before, the bytes
  read are those of the chunks that reads have pulled, and a failure is reported by the
  call that meets it and never again.
-/
import FlatFile.Proofs.Document.Steps

namespace FlatFile

/-! ### Chunks have bytes -/

variable [MultibyteCodecs]

theorem Charset.encodeChar_ne_nil (charset : Charset) (c : Char) : charset.encodeChar c ≠ [] := by
  have reference (c : Char) : asciiBytes (characterReference c) ≠ [] := List.cons_ne_nil _ _
  unfold encodeChar
  cases own : charset.output.encodeChar? c with
  | none => exact reference _
  | some bytes =>
    rw [Option.getD_some]
    rintro rfl
    unfold encodeChar? at own
    split at own
    · cases Option.map_eq_some_iff.mp own with
      | intro b same => cases same.2
    · split at own
      · cases own
      · split at own
        · cases own
        · cases own
    · split at own
      · exact MultibyteCodec.encode_ne_nil _ (List.cons_ne_nil _ _) (Option.some.inj own)
      · cases own
    · exact absurd (Option.some.inj own) (String.utf8EncodeChar_ne_nil)

theorem Charset.encode_ne_nil {charset : Charset} {text : List Char} (nonempty : text ≠ []) :
    charset.encode text ≠ [] := by
  unfold encode
  split
  · exact MultibyteCodec.encode_ne_nil _ nonempty
  · cases text with
    | nil => exact absurd rfl nonempty
    | cons c rest =>
      rw [List.flatMap_cons]
      exact List.append_ne_nil_of_left_ne_nil (charset.encodeChar_ne_nil c) _

omit [MultibyteCodecs] in
theorem Rendering.line_ne_nil {rendering : Rendering} {number : Nat} {line element : List Char}
    (written : rendering.line number line = .ok element) : element ≠ [] := by
  obtain ⟨own, rfl, -⟩ := element_of_line written
  exact List.cons_ne_nil _ _

omit [MultibyteCodecs] in
theorem Rendering.prologue_ne_nil (rendering : Rendering) (origin : Origin) (charset : Charset) :
    rendering.prologue origin charset ≠ [] := by
  unfold Rendering.prologue
  intro none
  have last := (List.append_eq_nil_iff.mp none).2
  cases last

namespace Assembly

variable {assembly after : Assembly}

theorem Step.chunk_ne_nil {chunk : List UInt8} (step : Step assembly (some (.ok chunk)) after) :
    chunk ≠ [] := by
  cases step with
  | prologue => exact Charset.encode_ne_nil (Rendering.prologue_ne_nil _ _ _)
  | comment => exact Charset.encode_ne_nil (List.cons_ne_nil _ _)
  | element _ _ written => exact Charset.encode_ne_nil (Rendering.line_ne_nil written)
  | last => exact Charset.encode_ne_nil (List.cons_ne_nil _ _)
  | footer => exact Charset.encode_ne_nil (List.cons_ne_nil _ _)

theorem Step.done_of_error {failure : Failure} (step : Step assembly (some (.error failure)) after) :
    after.stage = .done := by
  cases step with
  | unnamed => rfl
  | undivided => rfl
  | unread => rfl

/-! ### What is left of a chunk -/

/-- The document with other bytes left to be read of the chunk at hand. -/
def withPending (assembly : Assembly) (pending : List UInt8) : Assembly := { assembly with pending }

omit [MultibyteCodecs] in
theorem withPending_withPending (assembly : Assembly) (pending other : List UInt8) :
    (assembly.withPending pending).withPending other = assembly.withPending other := rfl

omit [MultibyteCodecs] in
theorem withPending_pending (assembly : Assembly) :
    assembly.withPending assembly.pending = assembly := rfl

theorem nextBody_withPending (assembly : Assembly) (pending : List UInt8) :
    (assembly.withPending pending).nextBody =
      (assembly.nextBody.1, assembly.nextBody.2.withPending pending) := by
  unfold nextBody withPending
  dsimp only
  split
  · rfl
  · rfl
  · split
    · rfl
    · rfl

theorem nextHeader_withPending (assembly : Assembly) (pending : List UInt8) :
    (assembly.withPending pending).nextHeader =
      (assembly.nextHeader.1, assembly.nextHeader.2.withPending pending) := by
  rcases assembly with ⟨reader, rendering, origin, charset, stage, headerLines, bodyLines, old⟩
  unfold nextHeader withPending
  dsimp only
  by_cases past : rendering.style.headerLines ≤ headerLines
  · rw [if_pos past, if_pos past]
    exact nextBody_withPending
      ⟨reader, rendering, origin, charset, .body, headerLines, bodyLines, old⟩ pending
  · rw [if_neg past, if_neg past]
    rcases reader.next with ⟨_ | failure | line, reader⟩
    · exact nextBody_withPending
        ⟨reader, rendering, origin, charset, .body, headerLines, bodyLines, old⟩ pending
    · rfl
    · simp only [takeHeader_eq]
      cases rendering.afterHeader (headerLines + 1) line with
      | error failure => rfl
      | ok rendering => rfl

/-- **What is left of a chunk has no part in what comes next**, and stays as it is. -/
theorem next_withPending (assembly : Assembly) (pending : List UInt8) :
    (assembly.withPending pending).next =
      (assembly.next.1, assembly.next.2.withPending pending) := by
  unfold next
  rw [show (assembly.withPending pending).stage = assembly.stage from rfl]
  split
  · rfl
  · exact nextHeader_withPending assembly pending
  · exact nextBody_withPending assembly pending
  · rfl
  · rfl

theorem next_keeps_pending (assembly : Assembly) :
    assembly.next.2.pending = assembly.pending := by
  have next := assembly.next_withPending assembly.pending
  rw [withPending_pending] at next
  rw [next]
  rfl

theorem handed_withPending (assembly : Assembly) (pending : List UInt8) (calls : Nat) :
    (assembly.withPending pending).handed calls = assembly.handed calls := by
  induction calls generalizing assembly with
  | zero => rfl
  | succ calls ih => rw [handed, next_withPending, ih, handed]

theorem afterCalls_withPending (assembly : Assembly) (pending : List UInt8) (calls : Nat) :
    (assembly.withPending pending).afterCalls calls =
      (assembly.afterCalls calls).withPending pending := by
  induction calls generalizing assembly with
  | zero => rfl
  | succ calls ih => rw [afterCalls, next_withPending, ih, afterCalls]

/-! ### Failures -/

/-- The failure that a call for a chunk reports, as a reader of bytes sees it. -/
def failureOf : Option Chunk → Option IoFailure
  | some (.error failure) => some failure.asIo
  | _ => none

/-- **At most one call for a chunk reports a failure.** -/
theorem length_failures_le (assembly : Assembly) (calls : Nat) :
    ((assembly.handed calls).filterMap failureOf).length ≤ 1 := by
  induction calls generalizing assembly with
  | zero => exact Nat.zero_le _
  | succ calls ih =>
    have step := assembly.next_step
    rw [handed]
    cases given : assembly.next.1 with
    | none => exact ih _
    | some chunk =>
      rw [given] at step
      cases chunk with
      | ok bytes => exact ih _
      | error failure =>
        -- The document is done, so all later calls hand out nothing.
        rw [handed_eq, chunks_done step.done_of_error]
        simp [failureOf]

/-! ### Calls of both kinds -/

inductive Call where
  | next
  | read (size : Nat)
deriving DecidableEq, Repr

inductive Answer where
  | chunk (given : Option Chunk)
  | reading (reading : Reading)

def perform (assembly : Assembly) : Call → Answer × Assembly
  | .next => (.chunk assembly.next.1, assembly.next.2)
  | .read size => (.reading (assembly.read size).1, (assembly.read size).2)

def performAll (assembly : Assembly) (calls : List Call) : Assembly :=
  calls.foldl (fun assembly call => (assembly.perform call).2) assembly

/-- A call with its answer, and the document before and after it. -/
structure Exchange where
  before : Assembly
  call : Call
  answer : Answer
  after : Assembly

def exchange (assembly : Assembly) (call : Call) : Exchange :=
  ⟨assembly, call, (assembly.perform call).1, (assembly.perform call).2⟩

/-- The calls of a run, one after the other. -/
def exchanges (assembly : Assembly) : List Call → List Exchange
  | [] => []
  | call :: calls => assembly.exchange call :: (assembly.perform call).2.exchanges calls

namespace Exchange

/-- What the call pulls: a call for a chunk always pulls one, a read only if it has to. -/
def pulled (exchange : Exchange) : List (Option Chunk) :=
  match exchange.call with
  | .next => [exchange.before.next.1]
  | .read size =>
    if size ≠ 0 ∧ exchange.before.pending = [] then [exchange.before.next.1] else []

/-- The bytes of the chunk that a read has pulled. -/
def loaded (exchange : Exchange) : List UInt8 :=
  match exchange.call, exchange.pulled with
  | .read _, [some (.ok chunk)] => chunk
  | _, _ => []

/-- The bytes that a read has given. -/
def served (exchange : Exchange) : List UInt8 :=
  match exchange.answer with
  | .reading (.data bytes) => bytes
  | _ => []

/-- The failure that the call reports, as a reader of bytes sees it. -/
def failure? (exchange : Exchange) : Option IoFailure :=
  match exchange.answer with
  | .chunk given => failureOf given
  | .reading (.failure failure) => some failure
  | .reading (.data _) => none

/-- **What is right about a single call.** -/
structure Sound (exchange : Exchange) : Prop where
  /-- A call for a chunk hands out what it pulls and leaves the bytes alone. -/
  chunk : ∀ given, exchange.answer = .chunk given →
    exchange.pulled = [given] ∧ exchange.after.pending = exchange.before.pending
  /-- A read pulls nothing for an empty buffer, nor while there are bytes left. -/
  spares : ∀ size, exchange.call = .read size → size = 0 ∨ exchange.before.pending ≠ [] →
    exchange.after = exchange.before.withPending exchange.after.pending
  bytes : exchange.before.pending ++ exchange.loaded = exchange.served ++ exchange.after.pending
  /-- A read gives the bytes left, or else those of the chunk that it pulls, as far as the buffer
      has room. -/
  served : ∀ size, exchange.call = .read size →
    exchange.served = (exchange.before.pending ++ exchange.loaded).take size
  /-- A read into a buffer with room gives nothing only at the end. -/
  ended : ∀ size, exchange.call = .read size → size ≠ 0 → exchange.answer = .reading (.data []) →
    exchange.before.pending = [] ∧ exchange.before.stage = .done
  /-- A read reports a failure only when there are no bytes left. -/
  failed : ∀ failure, exchange.answer = .reading (.failure failure) →
    exchange.before.pending = []
      ∧ ∃ met, exchange.pulled = [some (.error met)] ∧ failure = met.asIo

end Exchange

/-- **Chunks and bytes are one stream**, in whichever order calls ask for them. -/
structure OneStream (assembly : Assembly) (calls : List Call) : Prop where
  sound : ∀ exchange ∈ assembly.exchanges calls, exchange.Sound
  /-- What all calls pull is what calls for chunks alone hand out. -/
  sequence : (assembly.exchanges calls).flatMap Exchange.pulled =
    assembly.handed ((assembly.exchanges calls).flatMap Exchange.pulled).length
  state : assembly.performAll calls =
    (assembly.afterCalls ((assembly.exchanges calls).flatMap Exchange.pulled).length).withPending
      (assembly.performAll calls).pending
  /-- The bytes read are those of the chunks that reads have pulled, up to those left. -/
  bytes : assembly.pending ++ (assembly.exchanges calls).flatMap Exchange.loaded =
    (assembly.exchanges calls).flatMap Exchange.served ++ (assembly.performAll calls).pending
  /-- Every failure met is reported, and it is the only one. -/
  failures : (assembly.exchanges calls).filterMap Exchange.failure? =
    ((assembly.exchanges calls).flatMap Exchange.pulled).filterMap failureOf
  once : ((assembly.exchanges calls).filterMap Exchange.failure?).length ≤ 1

/-! ### One call -/

/-- What a read does. -/
inductive Reads (assembly : Assembly) (size : Nat) : Reading → Assembly → Prop where
  | nothing (none_asked : size = 0) : Reads assembly size (.data []) assembly
  | rest (asked : size ≠ 0) (left : assembly.pending ≠ []) :
      Reads assembly size (.data (assembly.pending.take size))
        (assembly.withPending (assembly.pending.drop size))
  | ended (asked : size ≠ 0) (none_left : assembly.pending = []) (done : assembly.stage = .done) :
      Reads assembly size (.data []) assembly
  | failed {failure : Failure} (asked : size ≠ 0) (none_left : assembly.pending = [])
      (next : assembly.next.1 = some (.error failure)) :
      Reads assembly size (.failure failure.asIo) assembly.next.2
  | loaded {chunk : List UInt8} (asked : size ≠ 0) (none_left : assembly.pending = [])
      (next : assembly.next.1 = some (.ok chunk)) :
      Reads assembly size (.data (chunk.take size)) (assembly.next.2.withPending (chunk.drop size))

theorem reads_read (assembly : Assembly) (size : Nat) :
    Reads assembly size (assembly.read size).1 (assembly.read size).2 := by
  unfold read
  by_cases asked : size = 0
  · rw [if_pos asked]
    exact .nothing asked
  · rw [if_neg asked]
    by_cases left : assembly.pending = []
    · rw [if_pos (by simpa using left)]
      rcases step : assembly.next with ⟨_ | failure | chunk, after⟩
      · have done := (next_eq_none_iff assembly).mp (by rw [step])
        rw [next_of_done done] at step
        cases step
        exact .ended asked left done
      · have failed := Reads.failed asked left (show assembly.next.1 = some (.error failure) by rw [step])
        rwa [step] at failed
      · have loaded := Reads.loaded asked left (show assembly.next.1 = some (.ok chunk) by rw [step])
        rwa [step] at loaded
    · rw [if_neg (by simpa using left)]
      exact .rest asked left

theorem sound_next (assembly : Assembly) : (assembly.exchange .next).Sound := by
  constructor
  · rintro given ⟨⟩
    exact ⟨rfl, assembly.next_keeps_pending⟩
  · rintro size ⟨⟩
  · change assembly.pending ++ [] = [] ++ assembly.next.2.pending
    rw [next_keeps_pending, List.append_nil, List.nil_append]
  · rintro size ⟨⟩
  · rintro size ⟨⟩
  · rintro failure ⟨⟩

theorem sound_read (assembly : Assembly) (size : Nat) : (assembly.exchange (.read size)).Sound := by
  have reads := assembly.reads_read size
  unfold exchange perform
  dsimp only
  generalize (assembly.read size).1 = reading at reads ⊢
  generalize (assembly.read size).2 = after at reads ⊢
  cases reads with
  | nothing none_asked =>
    subst none_asked
    refine ⟨nofun, fun _ _ _ => rfl, ?_, ?_, ?_, nofun⟩
    · simp [Exchange.loaded, Exchange.pulled, Exchange.served]
    · rintro size ⟨⟩
      rfl
    · rintro size ⟨⟩ asked
      exact absurd rfl asked
  | rest asked left =>
    refine ⟨nofun, fun _ _ _ => rfl, ?_, ?_, ?_, nofun⟩
    · simp [Exchange.loaded, Exchange.pulled, Exchange.served, left, withPending]
    · rintro size ⟨⟩
      simp [Exchange.loaded, Exchange.pulled, Exchange.served, left]
    · rintro size ⟨⟩ - nothing
      have none_given := Reading.data.inj (Answer.reading.inj nothing)
      simp [asked, left] at none_given
  | ended asked none_left done =>
    have loaded : Exchange.loaded ⟨assembly, .read size, .reading (.data []), assembly⟩ = [] := by
      simp [Exchange.loaded, Exchange.pulled, asked, none_left, next_of_done done]
    refine ⟨nofun, fun _ _ _ => rfl, ?_, ?_, ?_, nofun⟩
    · rw [loaded, List.append_nil]
      rfl
    · rintro size ⟨⟩
      rw [loaded, none_left, List.append_nil, List.take_nil]
      rfl
    · rintro size ⟨⟩ - -
      exact ⟨none_left, done⟩
  | @failed failure asked none_left next =>
    have loaded : Exchange.loaded ⟨assembly, .read size, .reading (.failure failure.asIo),
        assembly.next.2⟩ = [] := by
      simp [Exchange.loaded, Exchange.pulled, asked, none_left, next]
    refine ⟨nofun, ?_, ?_, ?_, ?_, ?_⟩
    · rintro size ⟨⟩ spared
      exact absurd none_left (spared.resolve_left asked)
    · rw [loaded, List.append_nil, next_keeps_pending]
      rfl
    · rintro size ⟨⟩
      rw [loaded, none_left, List.append_nil, List.take_nil]
      rfl
    · rintro size ⟨⟩ - ⟨⟩
    · rintro failure ⟨⟩
      refine ⟨none_left, _, ?_, rfl⟩
      simp [Exchange.pulled, asked, none_left, next]
  | @loaded chunk asked none_left next =>
    have step := assembly.next_step
    rw [next] at step
    have loaded : Exchange.loaded ⟨assembly, .read size, .reading (.data (chunk.take size)),
        assembly.next.2.withPending (chunk.drop size)⟩ = chunk := by
      simp [Exchange.loaded, Exchange.pulled, asked, none_left, next]
    refine ⟨nofun, ?_, ?_, ?_, ?_, nofun⟩
    · rintro size ⟨⟩ spared
      exact absurd none_left (spared.resolve_left asked)
    · rw [loaded, none_left, List.nil_append]
      exact (List.take_append_drop size chunk).symm
    · rintro size ⟨⟩
      rw [loaded, none_left, List.nil_append]
      rfl
    · rintro size ⟨⟩ - nothing
      have none_given := Reading.data.inj (Answer.reading.inj nothing)
      simp [asked, step.chunk_ne_nil] at none_given

theorem sound_exchange (assembly : Assembly) (call : Call) : (assembly.exchange call).Sound := by
  cases call with
  | next => exact assembly.sound_next
  | read size => exact assembly.sound_read size

/-- What a call does to the document is what it pulls, but for the bytes left. -/
structure Exchange.Follows (exchange : Exchange) : Prop where
  sequence : exchange.pulled = exchange.before.handed exchange.pulled.length
  state : exchange.after =
    (exchange.before.afterCalls exchange.pulled.length).withPending exchange.after.pending
  failures : exchange.failure?.toList = exchange.pulled.filterMap failureOf

theorem Exchange.follows_of_spared {exchange : Exchange} (pulled : exchange.pulled = [])
    (after : exchange.after = exchange.before.withPending exchange.after.pending)
    (quiet : exchange.failure? = none) : exchange.Follows := by
  refine ⟨?_, ?_, ?_⟩
  · rw [pulled]
    rfl
  · rw [pulled]
    exact after
  · rw [pulled, quiet]
    rfl

theorem Exchange.follows_of_asked {exchange : Exchange}
    (pulled : exchange.pulled = [exchange.before.next.1])
    (after : exchange.after = exchange.before.next.2.withPending exchange.after.pending)
    (reported : exchange.failure? = failureOf exchange.before.next.1) : exchange.Follows := by
  refine ⟨?_, ?_, ?_⟩
  · rw [pulled]
    rfl
  · rw [pulled]
    exact after
  · rw [pulled, reported]
    cases given : failureOf exchange.before.next.1 with
    | none => rw [List.filterMap_cons_none given]; rfl
    | some failure => rw [List.filterMap_cons_some given]; rfl

theorem follows_exchange (assembly : Assembly) (call : Call) :
    (assembly.exchange call).Follows := by
  cases call with
  | next => exact Exchange.follows_of_asked rfl rfl rfl
  | read size =>
    have reads := assembly.reads_read size
    unfold exchange perform
    dsimp only
    generalize (assembly.read size).1 = reading at reads ⊢
    generalize (assembly.read size).2 = after at reads ⊢
    cases reads with
    | nothing none_asked =>
      exact Exchange.follows_of_spared (if_neg fun asks => asks.1 none_asked) rfl rfl
    | rest asked left =>
      exact Exchange.follows_of_spared (if_neg fun asks => left asks.2) rfl rfl
    | ended asked none_left done =>
      have step := next_of_done done
      refine Exchange.follows_of_asked (if_pos ⟨asked, none_left⟩) ?_ ?_
      · rw [step]
        rfl
      · rw [step]
        rfl
    | failed asked none_left next =>
      exact Exchange.follows_of_asked (if_pos ⟨asked, none_left⟩) rfl
        (congrArg failureOf next).symm
    | loaded asked none_left next =>
      exact Exchange.follows_of_asked (if_pos ⟨asked, none_left⟩) rfl
        (congrArg failureOf next).symm

/-! ### Runs -/

theorem pulled_exchanges (assembly : Assembly) (calls : List Call) :
    (assembly.exchanges calls).flatMap Exchange.pulled =
        assembly.handed ((assembly.exchanges calls).flatMap Exchange.pulled).length
      ∧ assembly.performAll calls = (assembly.afterCalls
        ((assembly.exchanges calls).flatMap Exchange.pulled).length).withPending
          (assembly.performAll calls).pending := by
  induction calls generalizing assembly with
  | nil => exact ⟨rfl, rfl⟩
  | cons call calls ih =>
    obtain ⟨first, state, -⟩ := assembly.follows_exchange call
    obtain ⟨rest, final⟩ := ih (assembly.perform call).2
    change _ = assembly.handed _ at first
    change (assembly.perform call).2 = (assembly.afterCalls _).withPending _ at state
    have all : assembly.performAll (call :: calls) = (assembly.perform call).2.performAll calls :=
      rfl
    rw [exchanges, List.flatMap_cons, List.length_append, all, handed_add, afterCalls_add]
    generalize (assembly.exchange call).pulled = pulled at first state ⊢
    generalize ((assembly.perform call).2.exchanges calls).flatMap Exchange.pulled = pulled'
      at rest final ⊢
    -- The later calls start from a document that differs from the one of the pure calls in the
    -- bytes left.
    have handed' : (assembly.perform call).2.handed pulled'.length =
        (assembly.afterCalls pulled.length).handed pulled'.length := by
      rw [state, handed_withPending]
    have after : (assembly.perform call).2.afterCalls pulled'.length =
        ((assembly.afterCalls pulled.length).afterCalls pulled'.length).withPending
          (assembly.exchange call).after.pending := by
      rw [state, afterCalls_withPending]
    constructor
    · rw [← first, ← handed', ← rest]
    · rw [after, withPending_withPending] at final
      exact final

theorem bytes_exchanges (assembly : Assembly) (calls : List Call) :
    assembly.pending ++ (assembly.exchanges calls).flatMap Exchange.loaded =
      (assembly.exchanges calls).flatMap Exchange.served
        ++ (assembly.performAll calls).pending := by
  induction calls generalizing assembly with
  | nil => rw [exchanges, List.flatMap_nil, List.flatMap_nil, List.append_nil]; rfl
  | cons call calls ih =>
    have first := (assembly.sound_exchange call).bytes
    have rest := ih (assembly.perform call).2
    change assembly.pending ++ _ = _ ++ (assembly.perform call).2.pending at first
    rw [exchanges, List.flatMap_cons, List.flatMap_cons, ← List.append_assoc, first,
      List.append_assoc, rest, List.append_assoc]
    rfl

theorem failures_exchanges (assembly : Assembly) (calls : List Call) :
    (assembly.exchanges calls).filterMap Exchange.failure? =
      ((assembly.exchanges calls).flatMap Exchange.pulled).filterMap failureOf := by
  induction calls generalizing assembly with
  | nil => rfl
  | cons call calls ih =>
    rw [exchanges, List.flatMap_cons, List.filterMap_append, ← ih,
      ← (assembly.follows_exchange call).failures]
    cases reported : (assembly.exchange call).failure? with
    | none => rw [List.filterMap_cons_none reported]; rfl
    | some failure => rw [List.filterMap_cons_some reported]; rfl

theorem sound_exchanges (assembly : Assembly) (calls : List Call) :
    ∀ exchange ∈ assembly.exchanges calls, exchange.Sound := by
  induction calls generalizing assembly with
  | nil => exact fun exchange inside => absurd inside List.not_mem_nil
  | cons call calls ih =>
    exact List.forall_mem_cons.mpr ⟨assembly.sound_exchange call, ih _⟩

/-- **Chunks and bytes are one stream**, from any document on and for any calls. -/
theorem oneStream (assembly : Assembly) (calls : List Call) : assembly.OneStream calls := by
  obtain ⟨sequence, state⟩ := assembly.pulled_exchanges calls
  refine ⟨assembly.sound_exchanges calls, sequence, state, assembly.bytes_exchanges calls,
    assembly.failures_exchanges calls, ?_⟩
  rw [failures_exchanges, sequence]
  exact assembly.length_failures_le _

end Assembly

end FlatFile
