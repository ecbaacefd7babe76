/-
  FlatFile/Proofs/Line/Ending.lean
  ================================
  **How a reader of lines comes to its end.**

  Once there is nothing more, there is nothing ever after, whether the source ended or
  failed (`next_eq_none_again`).  A failure that keeps the source from ending is handed
  out before that (`failure_mem_drain`), so a reader without a failure among its items
  has read the whole source.
-/
import FlatFile.Line.Drain
import FlatFile.Proofs.Stream.Content

namespace FlatFile

namespace LineBuffer

theorem cutLast_of_empty {buffer : LineBuffer} (empty : buffer.backlog = []) :
    buffer.cutLast.1 = none := by
  have none_found : buffer.search = .unfinished buffer.scanned := by
    simp only [search, empty, List.drop_nil]
    rfl
  simp [cutLast, cut, none_found, empty]

theorem backlog_of_cutLast_none {buffer after : LineBuffer} (h : buffer.cutLast = (none, after)) :
    after.backlog = [] := by
  rw [(cutLast_none h).1]
  unfold cutLast at h
  split at h
  · cases h
  · rename_i cut
    split at h
    · rename_i empty
      rw [← (cut_none cut).1]
      exact List.isEmpty_iff.mp empty
    · cases h

end LineBuffer

namespace LineReader

variable {reader after : LineReader}

variable [MultibyteCodecs]

theorem drain_of_next_none (h : reader.next = (none, after)) : reader.drain.1 = [] := by
  rw [drain]
  split
  · rfl
  · rename_i next
    rw [h] at next
    cases next

theorem drain_of_next_some {item : Except IoFailure (List Char)}
    (h : reader.next = (some item, after)) : reader.drain.1 = item :: after.drain.1 := by
  rw [drain]
  split
  · rename_i next
    rw [h] at next
    cases next
  · rename_i next
    rw [h] at next
    cases next
    rfl

theorem next_of_drain_nil (h : reader.drain.1 = []) : ∃ after, reader.next = (none, after) := by
  cases step : reader.next with
  | mk handed after =>
    cases handed with
    | none => exact ⟨after, rfl⟩
    | some item =>
      rw [drain_of_next_some step] at h
      cases h

theorem next_of_drain_cons {item : Except IoFailure (List Char)}
    {items : List (Except IoFailure (List Char))} (h : reader.drain.1 = item :: items) :
    ∃ after, reader.next = (some item, after) ∧ after.drain.1 = items := by
  cases step : reader.next with
  | mk handed after =>
    cases handed with
    | none =>
      rw [drain_of_next_none step] at h
      cases h
    | some item' =>
      rw [drain_of_next_some step] at h
      cases h
      exact ⟨after, rfl, rfl⟩

/-- A reader after whose text there is nothing. -/
def Exhausted (reader : LineReader) : Prop :=
  reader.failed = true ∨ reader.buffer.ended = true ∧ reader.buffer.backlog = []

theorem Exhausted.next_eq_none (exhausted : reader.Exhausted) : reader.next.1 = none := by
  by_cases failed : reader.failed = true
  · rw [next, if_pos failed]
  · obtain ⟨ended, empty⟩ := exhausted.resolve_left failed
    rw [next, if_neg failed, if_pos ended]
    simp [LineBuffer.cutLast_of_empty empty]

omit [MultibyteCodecs] in
theorem exhausted_of_cutLast_none {buffer after : LineBuffer} (ended : buffer.ended = true)
    (h : buffer.cutLast = (none, after)) (source : Source) :
    Exhausted ⟨after, source, false⟩ :=
  .inr ⟨(LineBuffer.cutLast_none h).2.trans ended, LineBuffer.backlog_of_cutLast_none h⟩

theorem exhausted_of_pull_none {buffer : LineBuffer} {source : Source}
    (h : pull buffer source = (none, after)) : after.Exhausted := by
  induction source generalizing buffer with
  | nil =>
    unfold pull at h
    split at h
    · cases h
    · simp only [Prod.mk.injEq, Option.map_eq_none_iff] at h
      rcases h with ⟨line, rfl⟩
      exact exhausted_of_cutLast_none rfl (Prod.ext line rfl) []
  | cons reading rest ih =>
    unfold pull at h
    split at h
    · cases h
    · split at h
      · contradiction
      · rename_i eq
        cases eq
        simp only [Prod.mk.injEq, Option.map_eq_none_iff] at h
        rcases h with ⟨line, rfl⟩
        exact exhausted_of_cutLast_none rfl (Prod.ext line rfl) _
      · rename_i eq
        cases eq
        exact ih h
      · rename_i eq
        cases eq
        split at h
        · exact ih h
        · cases h

/-- **After nothing there is nothing.** -/
theorem next_eq_none_again (h : reader.next = (none, after)) : after.next.1 = none := by
  apply Exhausted.next_eq_none
  unfold next at h
  split at h
  · rename_i failed
    cases h
    exact .inl failed
  · split at h
    · rename_i ended
      simp only [Prod.mk.injEq, Option.map_eq_none_iff] at h
      rcases h with ⟨line, rfl⟩
      exact .inr ⟨(LineBuffer.cutLast_none (Prod.ext line rfl)).2.trans ended,
        LineBuffer.backlog_of_cutLast_none (Prod.ext line rfl)⟩
    · exact exhausted_of_pull_none h

theorem drain_of_next_none_again (h : reader.next = (none, after)) : after.drain.1 = [] := by
  have again := next_eq_none_again h
  cases step : after.next with
  | mk handed last =>
    rw [step] at again
    cases again
    exact drain_of_next_none step

/-! ### Failures -/

/-- The failure is still ahead of the reader. -/
structure Awaits (reader : LineReader) (failure : IoFailure) : Prop where
  working : reader.failed = false
  reading : reader.buffer.ended = false
  ahead : reader.source.failure? = some failure

theorem pull_awaits {buffer : LineBuffer} {source : Source} {failure : IoFailure}
    (reading : buffer.ended = false) (ahead : source.failure? = some failure) :
    (pull buffer source).1 = some (.error failure)
      ∨ (∃ line, (pull buffer source).1 = some (.ok line))
        ∧ (pull buffer source).2.Awaits failure := by
  induction source generalizing buffer with
  | nil => cases ahead
  | cons read rest ih =>
    unfold pull
    split
    · rename_i line after cut
      exact .inr ⟨⟨line, rfl⟩, rfl, (LineBuffer.cut_some cut).2.trans reading, ahead⟩
    · rename_i after cut
      have reading' : after.ended = false := (LineBuffer.cut_none cut).2.trans reading
      split
      · contradiction
      · rename_i eq
        cases eq
        cases ahead
      · rename_i b block rest' eq
        cases eq
        exact @ih (after.feed (b :: block)) reading' ahead
      · rename_i failure' rest' eq
        cases eq
        simp only [Source.failure?] at ahead
        split
        · rename_i retried
          rw [if_pos retried] at ahead
          exact ih reading' ahead
        · rename_i fatal
          rw [if_neg fatal] at ahead
          cases ahead
          exact .inl rfl

theorem next_awaits {failure : IoFailure} (awaits : reader.Awaits failure) :
    reader.next.1 = some (.error failure)
      ∨ (∃ line, reader.next.1 = some (.ok line)) ∧ reader.next.2.Awaits failure := by
  rw [next, awaits.working, awaits.reading]
  exact pull_awaits awaits.reading awaits.ahead

/-- **A failure ahead is handed out in the end.** -/
theorem Awaits.mem_drain {failure : IoFailure} (awaits : reader.Awaits failure) :
    .error failure ∈ reader.drain.1 := by
  induction reader using drain.induct with
  | case1 reader after next =>
    rcases next_awaits awaits with first | ⟨⟨line, first⟩, -⟩
    · rw [next] at first
      cases first
    · rw [next] at first
      cases first
  | case2 reader item after next _ _ _ ih =>
    rw [drain_of_next_some next]
    rcases next_awaits awaits with first | ⟨-, awaits'⟩
    · rw [next] at first
      cases first
      exact List.mem_cons_self
    · rw [next] at awaits'
      exact List.mem_cons_of_mem _ (ih awaits')

theorem failure_mem_drain {source : Source} {failure : IoFailure}
    (fails : source.failure? = some failure) (charset : Charset) (terminator : Line.Terminator) :
    .error failure ∈ (new source charset terminator).drain.1 :=
  Awaits.mem_drain ⟨rfl, rfl, by rw [new, (Source.content_inBlocks source).2, fails]⟩

end LineReader

end FlatFile
