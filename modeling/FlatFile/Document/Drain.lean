/-
  FlatFile/Document/Drain.lean
  ============================
  **Taking a document to its end.**

  `Assembly.drain` asks for the next chunk until there is none, and
  `Assembly.readings` for the next block of bytes; `Assembly.remainder` puts the
  blocks together.  All come to an end: a chunk uses up part of the lines or a
  stage of the document, and a block a part of the chunk at hand.
-/
import FlatFile.Document.Assembly
import FlatFile.Line.Drain

namespace FlatFile.Assembly

/-! ### What is left to do -/

/-- What is left to do for a document: lines to take, stages to go through, bytes of the
    chunk at hand. -/
def weight (assembly : Assembly) : (Nat × Nat × Nat) × Nat × Nat :=
  (assembly.reader.weight, assembly.stage.remaining, assembly.pending.length)

/-- One document has less to do than another. -/
def Lighter (a b : (Nat × Nat × Nat) × Nat × Nat) : Prop :=
  Prod.Lex LineReader.Lighter (Prod.Lex (· < ·) (· < ·)) a b

theorem Lighter.ofLines {a b : (Nat × Nat × Nat) × Nat × Nat} (h : LineReader.Lighter a.1 b.1) :
    Lighter a b := Prod.Lex.left _ _ h

theorem Lighter.ofStage {a b : (Nat × Nat × Nat) × Nat × Nat}
    (h : a.1 = b.1 ∨ LineReader.Lighter a.1 b.1) (h' : a.2.1 < b.2.1) : Lighter a b := by
  obtain ⟨a₁, a₂, a₃⟩ := a
  obtain ⟨b₁, b₂, b₃⟩ := b
  rcases h with h | h
  · cases h; exact Prod.Lex.right _ (Prod.Lex.left _ _ h')
  · exact Prod.Lex.left _ _ h

theorem Lighter.ofBytes {a b : (Nat × Nat × Nat) × Nat × Nat} (h : a.1 = b.1)
    (h' : a.2.1 = b.2.1) (h'' : a.2.2 < b.2.2) : Lighter a b := by
  obtain ⟨a₁, a₂, a₃⟩ := a
  obtain ⟨b₁, b₂, b₃⟩ := b
  cases h; cases h'
  exact Prod.Lex.right _ (Prod.Lex.right _ h'')

/-- What a chunk, or the failure in its place, leaves to do is less in its lines and
    stages, whatever there is of bytes. -/
def Advances (before after : Assembly) : Prop :=
  LineReader.Lighter after.reader.weight before.reader.weight
    ∨ (after.reader.weight = before.reader.weight
        ∨ LineReader.Lighter after.reader.weight before.reader.weight)
      ∧ after.stage.remaining < before.stage.remaining

theorem Advances.lighter {before after : Assembly} (h : Advances before after) :
    Lighter after.weight before.weight := by
  rcases h with h | ⟨h, h'⟩
  · exact .ofLines h
  · exact .ofStage h h'

/-! ### Chunks -/

variable [MultibyteCodecs]

theorem nextBody_advances {assembly after : Assembly} {chunk : Chunk}
    (stage : 2 ≤ assembly.stage.remaining) (h : assembly.nextBody = (some chunk, after)) :
    Advances assembly after := by
  unfold nextBody at h
  split at h
  · rename_i reader next
    cases h
    exact .inr ⟨LineReader.next_not_heavier next,
      Nat.lt_of_lt_of_le (by simp [Stage.remaining]) stage⟩
  · rename_i next
    cases h
    exact .inl (LineReader.next_lighter next)
  · rename_i next
    dsimp only at h
    split at h <;> (cases h; exact .inl (LineReader.next_lighter next))

omit [MultibyteCodecs] in
/-- The state after a header line differs in the names of the columns at most. -/
theorem takeHeader_reader {assembly after : Assembly} {line : List Char}
    (h : assembly.takeHeader line = .ok after) : after.reader = assembly.reader := by
  unfold takeHeader at h
  split at h
  · cases names : assembly.rendering.namesFrom line with
    | error failure => simp [names, Except.map] at h
    | ok names' => simp only [names, Except.map, Except.ok.injEq] at h; rw [← h]
  · cases h; rfl

theorem nextHeader_advances {assembly after : Assembly} {chunk : Chunk}
    (stage : assembly.stage = .header) (h : assembly.nextHeader = (some chunk, after)) :
    Advances assembly after := by
  have body (middle : Assembly) (at_body : middle.stage = .body)
      (lines : middle.reader.weight = assembly.reader.weight
        ∨ LineReader.Lighter middle.reader.weight assembly.reader.weight)
      (next : middle.nextBody = (some chunk, after)) : Advances assembly after := by
    rcases nextBody_advances (by simp [at_body, Stage.remaining]) next with light | ⟨light, later⟩
    · rcases lines with same | lines
      · exact .inl (same ▸ light)
      · exact .inl (light.trans lines)
    · refine .inr ⟨?_, by rw [stage]; rw [at_body] at later; exact Nat.lt_trans later (by decide)⟩
      rcases light with same | light
      · exact same ▸ lines
      · rcases lines with same | lines
        · exact .inr (same ▸ light)
        · exact .inr (light.trans lines)
  unfold nextHeader at h
  split at h
  · exact body { assembly with stage := .body } rfl (.inl rfl) h
  · split at h
    · rename_i reader next
      refine body { assembly with reader, stage := .body } rfl ?_ h
      exact LineReader.next_not_heavier next
    · rename_i next
      cases h
      exact .inl (LineReader.next_lighter next)
    · rename_i next
      dsimp only at h
      split at h
      · rename_i taken
        cases h
        exact .inl (by rw [takeHeader_reader taken]; exact LineReader.next_lighter next)
      · cases h
        exact .inl (LineReader.next_lighter next)

/-- Every chunk, and a failure in place of one, uses up lines or a stage. -/
theorem next_advances {assembly after : Assembly} {chunk : Chunk}
    (h : assembly.next = (some chunk, after)) : Advances assembly after := by
  unfold next at h
  split at h
  · rename_i stage
    cases h
    exact .inr ⟨.inl rfl, by simp [stage, Stage.remaining]⟩
  · rename_i stage
    exact nextHeader_advances stage h
  · rename_i stage
    exact nextBody_advances (by simp [stage, Stage.remaining]) h
  · rename_i stage
    cases h
    exact .inr ⟨.inl rfl, by simp [stage, Stage.remaining]⟩
  · cases h

omit [MultibyteCodecs] in
theorem lighter_wf : WellFounded Lighter :=
  (Prod.lex ⟨_, LineReader.lighter_wf⟩ (Prod.lex ⟨_, Nat.lt_wfRel.wf⟩ ⟨_, Nat.lt_wfRel.wf⟩)).wf

instance : WellFoundedRelation ((Nat × Nat × Nat) × Nat × Nat) := ⟨Lighter, lighter_wf⟩

/-- **All chunks that are left**, each with the document after it, and the document after
    them, when there is none left. -/
def drain (assembly : Assembly) : List (Chunk × Assembly) × Assembly :=
  match _h : assembly.next with
  | (none, after) => ([], after)
  | (some chunk, after) =>
    let (chunks, final) := after.drain
    ((chunk, after) :: chunks, final)
termination_by assembly.weight
decreasing_by exact (next_advances (by assumption)).lighter

/-! ### Blocks of bytes -/

/-- A read that is not the end of the document leaves less to do. -/
theorem read_lighter {assembly after : Assembly} {size : Nat} {reading : Reading}
    (h : assembly.read size = (reading, after)) (more : reading ≠ .data []) :
    Lighter after.weight assembly.weight := by
  unfold read at h
  split at h
  · cases h; exact absurd rfl more
  · rename_i positive
    split at h
    · split at h
      · cases h; exact absurd rfl more
      · rename_i next
        cases h
        exact (next_advances next).lighter
      · rename_i chunk middle next
        cases h
        have advances : Advances assembly ({ middle with pending := chunk }.serve size).2 :=
          show Advances assembly middle from next_advances next
        exact advances.lighter
    · rename_i pending
      cases h
      refine .ofBytes rfl rfl ?_
      have : assembly.pending.length ≠ 0 := by simpa using pending
      simp only [weight, List.length_drop]
      omega

/-- **What reads of at most `blockSize` bytes give from here on**, up to the end of the
    document, each with the document after it.  A failure is followed by the end. -/
def readings (assembly : Assembly) : List (Reading × Assembly) :=
  match _h : assembly.read blockSize with
  | (.data [], after) => [(.data [], after)]
  | (.data (b :: bytes), after) => (.data (b :: bytes), after) :: after.readings
  | (.failure failure, after) => (.failure failure, after) :: after.readings
termination_by assembly.weight
decreasing_by all_goals exact read_lighter (by assumption) (by simp)

/-! ### The rest of the document -/

/-- What reading a document to its end gives: bytes, the failure that came before the
    end, and the document afterwards. -/
structure Remainder where
  bytes : List UInt8
  failure : Option IoFailure
  after : Assembly

/-- What readings up to the end or the first failure give; `last` is the document before
    them. -/
def gather (last : Assembly) : List (Reading × Assembly) → Remainder
  | [] => ⟨[], none, last⟩
  | (.failure failure, after) :: _ => ⟨[], some failure, after⟩
  | (.data bytes, after) :: readings =>
    let rest := gather after readings
    { rest with bytes := bytes ++ rest.bytes }

/-- **The rest of a document**, read as bytes. -/
def remainder (assembly : Assembly) : Remainder := gather assembly assembly.readings

end FlatFile.Assembly
