/-
  FlatFile/Proofs/Document/Steps.lean
  ===================================
  **What one call for a chunk can do, and what any number of them do.**

  `Step` lists the cases of a call, each with what it asks of the state before and with
  the state after it; what holds of every call is read off from there.  Calls hand out
  the chunks of the document in order and nothing ever after (`handed_eq`).
-/
import FlatFile.Proofs.Document.Whole

namespace FlatFile.Assembly

/-! ### One call -/

/-- The header lines have all been taken. -/
def PastHeader (assembly : Assembly) : Prop :=
  assembly.stage = .body
    ∨ assembly.stage = .header ∧ assembly.rendering.style.headerLines ≤ assembly.headerLines

theorem PastHeader.reading {assembly : Assembly} (past : assembly.PastHeader) :
    assembly.stage = .header ∨ assembly.stage = .body :=
  past.symm.imp_left And.left

theorem ne_done_of_reading {assembly : Assembly}
    (reading : assembly.stage = .header ∨ assembly.stage = .body) : assembly.stage ≠ .done := by
  intro done
  rcases reading with stage | stage
  · cases stage.symm.trans done
  · cases stage.symm.trans done

variable [MultibyteCodecs]

/-- **What a call hands out, and the document after it.** -/
inductive Step (assembly : Assembly) : Option Chunk → Assembly → Prop where
  | prologue (stage : assembly.stage = .initial) :
      Step assembly
        (some (.ok (assembly.encoded
          (assembly.rendering.prologue assembly.origin assembly.charset))))
        { assembly with stage := .header }
  | comment {line : List Char} {reader : LineReader} {rendering : Rendering}
      (stage : assembly.stage = .header)
      (within : assembly.headerLines < assembly.rendering.style.headerLines)
      (pulled : assembly.reader.next = (some (.ok line), reader))
      (named : assembly.rendering.afterHeader (assembly.headerLines + 1) line = .ok rendering) :
      Step assembly (some (.ok (assembly.encoded (Rendering.headerComment line))))
        { assembly with reader, headerLines := assembly.headerLines + 1, rendering }
  | unnamed {line : List Char} {reader : LineReader} {failure : Failure}
      (stage : assembly.stage = .header)
      (within : assembly.headerLines < assembly.rendering.style.headerLines)
      (pulled : assembly.reader.next = (some (.ok line), reader))
      (failed : assembly.rendering.afterHeader (assembly.headerLines + 1) line = .error failure) :
      Step assembly (some (.error failure))
        { assembly with reader, headerLines := assembly.headerLines + 1, stage := .done }
  | element {line element : List Char} {reader : LineReader} (past : assembly.PastHeader)
      (pulled : assembly.reader.next = (some (.ok line), reader))
      (written : assembly.rendering.line (assembly.bodyLines + 1) line = .ok element) :
      Step assembly (some (.ok (assembly.encoded element)))
        { assembly with reader, bodyLines := assembly.bodyLines + 1, stage := .body }
  | undivided {line : List Char} {reader : LineReader} {failure : Failure}
      (past : assembly.PastHeader) (pulled : assembly.reader.next = (some (.ok line), reader))
      (failed : assembly.rendering.line (assembly.bodyLines + 1) line = .error failure) :
      Step assembly (some (.error failure))
        { assembly with reader, bodyLines := assembly.bodyLines + 1, stage := .done }
  | unread {reader : LineReader} {failure : IoFailure}
      (stage : assembly.stage = .header ∨ assembly.stage = .body)
      (pulled : assembly.reader.next = (some (.error failure), reader)) :
      Step assembly (some (.error (.io failure))) { assembly with reader, stage := .done }
  | last {reader : LineReader} (stage : assembly.stage = .header ∨ assembly.stage = .body)
      (ended : assembly.reader.drain.1 = []) (ended' : reader.drain.1 = []) :
      Step assembly (some (.ok (assembly.encoded assembly.rendering.footer)))
        { assembly with reader, stage := .done }
  | footer (stage : assembly.stage = .footer) :
      Step assembly (some (.ok (assembly.encoded assembly.rendering.footer)))
        { assembly with stage := .done }
  | done (stage : assembly.stage = .done) : Step assembly none assembly

theorem nextBody_step {assembly : Assembly} (past : assembly.PastHeader) :
    Step assembly { assembly with stage := .body }.nextBody.1
      { assembly with stage := .body }.nextBody.2 := by
  have stage := past.reading
  unfold nextBody
  dsimp only
  split
  · rename_i reader pulled
    exact .last stage (LineReader.drain_of_next_none pulled)
      (LineReader.drain_of_next_none_again pulled)
  · rename_i failure reader pulled
    exact .unread stage pulled
  · rename_i line reader pulled
    split
    · rename_i element written
      exact .element past pulled written
    · rename_i failure failed
      exact .undivided past pulled failed

theorem nextHeader_step {assembly : Assembly} (stage : assembly.stage = .header) :
    Step assembly assembly.nextHeader.1 assembly.nextHeader.2 := by
  unfold nextHeader
  split
  · rename_i past
    exact nextBody_step (.inr ⟨stage, past⟩)
  · rename_i within
    have within := Nat.lt_of_not_le within
    split
    · -- The reader is asked once more, and still has nothing.
      rename_i reader pulled
      have ended' := LineReader.drain_of_next_none_again pulled
      obtain ⟨again, nothing⟩ := LineReader.next_of_drain_nil ended'
      simp only [nextBody, nothing]
      exact .last (.inl stage) (LineReader.drain_of_next_none pulled)
        (LineReader.drain_of_next_none_again nothing)
    · rename_i failure reader pulled
      exact .unread (.inl stage) pulled
    · rename_i line reader pulled
      simp only [takeHeader_eq]
      cases named : assembly.rendering.afterHeader (assembly.headerLines + 1) line with
      | error failure => exact .unnamed stage within pulled named
      | ok rendering => exact .comment stage within pulled named

theorem next_step (assembly : Assembly) : Step assembly assembly.next.1 assembly.next.2 := by
  unfold next
  split
  · rename_i stage
    exact .prologue stage
  · rename_i stage
    exact nextHeader_step stage
  · rename_i stage
    have step := nextBody_step (.inl stage : assembly.PastHeader)
    rwa [← stage] at step
  · rename_i stage
    exact .footer stage
  · rename_i stage
    exact .done stage

/-! ### What holds of every call -/

variable {assembly after : Assembly} {given : Option Chunk}

theorem next_of_done (stage : assembly.stage = .done) : assembly.next = (none, assembly) := by
  rw [next, stage]

theorem Step.eq_none_iff (step : Step assembly given after) :
    given = none ↔ assembly.stage = .done := by
  cases step with
  | done stage => exact ⟨fun _ => stage, fun _ => rfl⟩
  | prologue stage => simp [stage]
  | comment stage => simp [stage]
  | unnamed stage => simp [stage]
  | element past => simp [ne_done_of_reading past.reading]
  | undivided past => simp [ne_done_of_reading past.reading]
  | unread reading => simp [ne_done_of_reading reading]
  | last reading => simp [ne_done_of_reading reading]
  | footer stage => simp [stage]

theorem next_eq_none_iff (assembly : Assembly) : assembly.next.1 = none ↔ assembly.stage = .done :=
  assembly.next_step.eq_none_iff

theorem stage_of_chunks_nil (none_left : assembly.chunks = []) : assembly.stage = .done := by
  rw [← next_eq_none_iff]
  cases step : assembly.next with
  | mk given after =>
    cases given with
    | none => rfl
    | some chunk =>
      rw [chunks_of_next_some step] at none_left
      cases none_left

/-! ### Any number of calls -/

/-- What the first calls hand out. -/
def handed (assembly : Assembly) : Nat → List (Option Chunk)
  | 0 => []
  | calls + 1 => assembly.next.1 :: assembly.next.2.handed calls

/-- The document after some calls. -/
def afterCalls (assembly : Assembly) : Nat → Assembly
  | 0 => assembly
  | calls + 1 => assembly.next.2.afterCalls calls

theorem afterCalls_add (assembly : Assembly) (calls more : Nat) :
    assembly.afterCalls (calls + more) = (assembly.afterCalls calls).afterCalls more := by
  induction calls generalizing assembly with
  | zero => rw [Nat.zero_add, afterCalls]
  | succ calls ih => rw [Nat.succ_add, afterCalls, ih, afterCalls]

theorem handed_add (assembly : Assembly) (calls more : Nat) :
    assembly.handed (calls + more) =
      assembly.handed calls ++ (assembly.afterCalls calls).handed more := by
  induction calls generalizing assembly with
  | zero => rw [Nat.zero_add, handed, List.nil_append, afterCalls]
  | succ calls ih => rw [Nat.succ_add, handed, ih, handed, List.cons_append, afterCalls]

/-- What every call preserves holds after any number of them. -/
theorem afterCalls_induction {holds : Assembly → Prop}
    (preserved : ∀ before given after, Step before given after → holds before → holds after)
    (start : holds assembly) (calls : Nat) : holds (assembly.afterCalls calls) := by
  induction calls generalizing assembly with
  | zero => exact start
  | succ calls ih => exact ih (preserved _ _ _ assembly.next_step start)

theorem chunks_afterCalls (assembly : Assembly) (calls : Nat) :
    (assembly.afterCalls calls).chunks = assembly.chunks.drop calls := by
  induction calls generalizing assembly with
  | zero => rfl
  | succ calls ih =>
    rw [afterCalls, ih]
    cases step : assembly.next with
    | mk given after =>
      cases given with
      | none =>
        have done := (next_eq_none_iff assembly).mp (by rw [step])
        rw [next_of_done done] at step
        cases step
        rw [chunks_done done, List.drop_nil, List.drop_nil]
      | some chunk => rw [chunks_of_next_some step, List.drop_succ_cons]

/-- **Calls hand out the chunks of the document, and nothing after the last one.** -/
theorem handed_eq (assembly : Assembly) (calls : Nat) :
    assembly.handed calls = (assembly.chunks.take calls).map some
      ++ List.replicate (calls - assembly.chunks.length) none := by
  induction calls generalizing assembly with
  | zero => rw [handed, List.take_zero, Nat.zero_sub]; rfl
  | succ calls ih =>
    rw [handed, ih]
    cases step : assembly.next with
    | mk given after =>
      cases given with
      | none =>
        have done := (next_eq_none_iff assembly).mp (by rw [step])
        rw [next_of_done done] at step
        cases step
        rw [chunks_done done]
        simp [List.replicate_succ]
      | some chunk =>
        rw [chunks_of_next_some step, List.take_succ_cons, List.map_cons, List.cons_append,
          List.length_cons, Nat.add_sub_add_right]

theorem stage_afterCalls (assembly : Assembly) {calls : Nat}
    (all : assembly.chunks.length ≤ calls) : (assembly.afterCalls calls).stage = .done := by
  apply stage_of_chunks_nil
  rw [chunks_afterCalls, List.drop_eq_nil_iff]
  exact all

end FlatFile.Assembly
