/-
  FlatFile/Proofs/Document/Failing.lean
  =====================================
  **A failure of the source comes through a document unchanged.**

  The lines of a source that fails are those complete before the failure, and then the
  failure (`LineReader.drain_new_of_failure`).  A document made of them holds the chunks of
  these lines and ends with the same failure, unless one of the lines cannot be divided,
  which ends it before (`Assembly.failsAfter_of_new?`).

  In which way the document is taken makes no difference (`Assembly.FailsAfter`): the
  failure is handed out in the place of a chunk, or reported by the read that needs that
  chunk, and by one call only.
-/
import FlatFile.Proofs.Document.Serving
import FlatFile.Proofs.Document.Stages
import FlatFile.Proofs.Line.Failing

namespace FlatFile.Assembly

variable {assembly : Assembly} {blocks : List (List UInt8)} {failure : Failure}

/-! ### Reading to the end -/

variable [MultibyteCodecs]

theorem chunks_withPending (assembly : Assembly) (pending : List UInt8) :
    (assembly.withPending pending).chunks = assembly.chunks := by
  induction assembly using drain.induct with
  | case1 assembly after next =>
    have step := assembly.next_withPending pending
    rw [next] at step
    rw [chunks_of_next_none step, chunks_of_next_none next]
  | case2 assembly chunk after next _ _ _ ih =>
    have step := assembly.next_withPending pending
    rw [next] at step
    rw [chunks_of_next_some step, chunks_of_next_some next, ih]

theorem chunks_eq_cons {chunk : Chunk} (given : assembly.next.1 = some chunk) :
    assembly.chunks = chunk :: assembly.next.2.chunks :=
  chunks_of_next_some (Prod.ext given rfl)

/-- A failure in the place of the first chunk is the one that ends the document. -/
theorem eq_of_next_failed {met : Failure}
    (ends : assembly.chunks = blocks.map .ok ++ [.error failure])
    (given : assembly.next.1 = some (.error met)) : blocks = [] ∧ met = failure := by
  rw [chunks_eq_cons given] at ends
  cases blocks with
  | nil =>
    cases List.cons.inj ends with
    | intro first _ =>
      cases first
      exact ⟨rfl, rfl⟩
  | cons block blocks =>
    cases List.cons.inj ends with
    | intro first _ => cases first

theorem exists_of_next_ok {chunk : List UInt8}
    (ends : assembly.chunks = blocks.map .ok ++ [.error failure])
    (given : assembly.next.1 = some (.ok chunk)) :
    ∃ others, blocks = chunk :: others
      ∧ assembly.next.2.chunks = others.map .ok ++ [.error failure] := by
  rw [chunks_eq_cons given] at ends
  cases blocks with
  | nil =>
    cases List.cons.inj ends with
    | intro first _ => cases first
  | cons block blocks =>
    cases List.cons.inj ends with
    | intro first rest =>
      cases first
      exact ⟨blocks, rfl, rest⟩

theorem readings_eq_cons {after : Assembly} {reading : Reading} (more : reading ≠ .data [])
    (read : assembly.read blockSize = (reading, after)) :
    assembly.readings = (reading, after) :: after.readings := by
  rw [readings]
  split
  · rename_i nothing
    cases read.symm.trans nothing
    exact absurd rfl more
  · rename_i here
    cases read.symm.trans here
    rfl
  · rename_i failed
    cases read.symm.trans failed
    rfl

theorem remainder_of_data {after : Assembly} {b : UInt8} {bytes : List UInt8}
    (read : assembly.read blockSize = (.data (b :: bytes), after)) :
    assembly.remainder.bytes = b :: bytes ++ after.remainder.bytes
      ∧ assembly.remainder.failure = after.remainder.failure := by
  rw [remainder, readings_eq_cons (by simp) read]
  exact ⟨rfl, rfl⟩

theorem remainder_of_failure {after : Assembly} {met : IoFailure}
    (read : assembly.read blockSize = (.failure met, after)) :
    assembly.remainder.bytes = [] ∧ assembly.remainder.failure = some met := by
  rw [remainder, readings_eq_cons (by simp) read]
  exact ⟨rfl, rfl⟩

/-- **Reading to the end** gives the bytes of all chunks, and then meets the failure. -/
theorem remainder_of_chunks (ends : assembly.chunks = blocks.map .ok ++ [.error failure]) :
    assembly.remainder.bytes = assembly.pending ++ blocks.flatten
      ∧ assembly.remainder.failure = some failure.asIo := by
  induction assembly using readings.induct generalizing blocks with
  | case1 assembly after read =>
    have reads := assembly.reads_read blockSize
    rw [read] at reads
    -- No read gives nothing before the failure has been met.
    generalize nothing : Reading.data [] = reading at reads
    cases reads with
    | nothing none_asked => cases none_asked
    | rest asked left => simp [asked, left] at nothing
    | ended asked none_left done =>
      rw [chunks_done done] at ends
      simp at ends
    | failed asked none_left next => cases nothing
    | loaded asked none_left next =>
      have step := assembly.next_step
      rw [next] at step
      simp [asked, step.chunk_ne_nil] at nothing
  | case2 assembly b bytes after read ih =>
    obtain ⟨here, there⟩ := remainder_of_data read
    have reads := assembly.reads_read blockSize
    rw [read] at reads
    rw [here, there]
    generalize taken : Reading.data (b :: bytes) = reading at reads
    cases reads with
    | nothing none_asked => cases none_asked
    | rest asked left =>
      obtain ⟨more, last⟩ := ih ((chunks_withPending assembly _).trans ends)
      rw [more, Reading.data.inj taken]
      refine ⟨?_, last⟩
      rw [← List.append_assoc]
      exact congrArg (· ++ _) (List.take_append_drop _ _)
    | ended asked none_left done => cases taken
    | failed asked none_left next => cases taken
    | loaded asked none_left next =>
      obtain ⟨others, rfl, rest⟩ := exists_of_next_ok ends next
      obtain ⟨more, last⟩ := ih ((chunks_withPending _ _).trans rest)
      rw [more, Reading.data.inj taken, none_left, List.flatten_cons]
      refine ⟨?_, last⟩
      rw [← List.append_assoc]
      exact congrArg (· ++ _) (List.take_append_drop _ _)
  | case3 assembly met after read ih =>
    obtain ⟨here, there⟩ := remainder_of_failure read
    have reads := assembly.reads_read blockSize
    rw [read] at reads
    rw [here, there]
    generalize taken : Reading.failure met = reading at reads
    cases reads with
    | nothing none_asked => cases taken
    | rest asked left => cases taken
    | ended asked none_left done => cases taken
    | failed asked none_left next =>
      obtain ⟨rfl, rfl⟩ := eq_of_next_failed ends next
      cases taken
      rw [none_left]
      exact ⟨rfl, rfl⟩
    | loaded asked none_left next => cases taken

/-! ### Documents that end with a failure -/

/-- **A document that ends with a failure**, in whichever way it is taken. -/
structure FailsAfter (assembly : Assembly) (blocks : List (List UInt8)) (failure : Failure) :
    Prop where
  chunks : assembly.chunks = blocks.map .ok ++ [.error failure]
  /-- Calls for chunks hand out these, and then nothing. -/
  handed : ∀ calls, assembly.handed calls = (assembly.chunks.take calls).map some
    ++ List.replicate (calls - assembly.chunks.length) none
  /-- Calls for chunks and reads of any sizes report the failure once they have come to it, and no
      other one. -/
  reported : ∀ calls, (assembly.exchanges calls).filterMap Exchange.failure? =
    if blocks.length < ((assembly.exchanges calls).flatMap Exchange.pulled).length
    then [failure.asIo] else []
  /-- Reading to the end comes to it. -/
  read : assembly.remainder.bytes = blocks.flatten
    ∧ assembly.remainder.failure = some failure.asIo

theorem failures_handed (ends : assembly.chunks = blocks.map .ok ++ [.error failure])
    (calls : Nat) :
    (assembly.handed calls).filterMap failureOf =
      if blocks.length < calls then [failure.asIo] else [] := by
  have none_ok (chunks : List (List UInt8)) :
      ((chunks.map Except.ok).map some).filterMap failureOf = [] := by
    rw [List.filterMap_eq_nil_iff]
    simp [failureOf]
  rw [handed_eq, ends, List.filterMap_append]
  have nothing (calls : Nat) : (List.replicate calls none).filterMap failureOf = [] := by
    rw [List.filterMap_eq_nil_iff]
    intro given inside
    rw [List.eq_of_mem_replicate inside]
    rfl
  rw [nothing, List.append_nil]
  by_cases all : blocks.length < calls
  · have whole : assembly.chunks.length ≤ calls := by
      rw [ends, List.length_append, List.length_map]
      exact all
    rw [ends] at whole
    rw [if_pos all, List.take_of_length_le whole, List.map_append, List.filterMap_append, none_ok]
    rfl
  · rw [if_neg all, List.take_append_of_le_length (by simpa using all), ← List.map_take, none_ok]

theorem failsAfter_of_chunks (fresh : assembly.pending = [])
    (ends : assembly.chunks = blocks.map .ok ++ [.error failure]) :
    assembly.FailsAfter blocks failure where
  chunks := ends
  handed := handed_eq assembly
  reported := by
    intro calls
    rw [(assembly.oneStream calls).failures, (assembly.oneStream calls).sequence,
      failures_handed ends]
    rw [← (assembly.oneStream calls).sequence]
  read := by
    obtain ⟨bytes, met⟩ := remainder_of_chunks ends
    rw [fresh, List.nil_append] at bytes
    exact ⟨bytes, met⟩

/-- **The failure of a source ends its document**, unless one of the lines that are complete before
    it cannot be divided. -/
theorem failsAfter_of_new? {before after : Source} {failure : IoFailure}
    (steady : ∀ reading ∈ before, reading.GoesOn) (fatal : failure.kind ≠ .interrupted)
    {charset : Charset} {terminator : Line.Terminator} {origin : Origin} {style : DocumentStyle}
    {layout : Option ColumnLayout} {converters : ColumnConverters}
    (made : new? (.new (before ++ .failure failure :: after) charset terminator) origin style layout
      converters = .ok assembly) :
    ∃ blocks last, assembly.FailsAfter blocks last
      ∧ (last = .io failure ∨ ∃ chosen line, layout = some chosen
        ∧ line ∈ Line.completeLines terminator (charset.decodeSoFar before.bytes)
        ∧ chosen.columns line = .error last) := by
  rw [new?_eq] at made
  cases checked : checks style layout converters with
  | error refused =>
    rw [checked] at made
    cases made
  | ok output =>
    rw [checked] at made
    cases made
    obtain ⟨lines, blocks, last, chunks, -, ends⟩ := chunks_shape
      (.new (before ++ .failure failure :: after) charset terminator) origin output
      (initialRendering style layout converters)
    have pulled := (LineReader.drain_new_of_failure before after failure steady fatal charset
      terminator).1
    -- Every item is a line that is complete, or the failure.
    have item {given : Except IoFailure (List Char)} (inside : given ∈ (LineReader.new
        (before ++ .failure failure :: after) charset terminator).drain.1) :
        given = .error failure ∨ ∃ line, given = .ok line
          ∧ line ∈ Line.completeLines terminator (charset.decodeSoFar before.bytes) := by
      rw [pulled] at inside
      rcases List.mem_append.mp inside with complete | last
      · obtain ⟨line, member, rfl⟩ := List.mem_map.mp complete
        exact .inr ⟨line, rfl, member⟩
      · exact .inl (List.mem_singleton.mp last)
    have met : .error failure ∈ (LineReader.new (before ++ .failure failure :: after) charset
        terminator).drain.1 := by
      rw [pulled]
      exact List.mem_append_right _ (List.mem_singleton_self _)
    generalize (LineReader.new (before ++ .failure failure :: after) charset terminator).drain.1 =
      items at ends item met
    cases ends with
    | whole =>
      obtain ⟨line, -, other⟩ := List.mem_map.mp met
      cases other
    | unread _ failure' more =>
      refine ⟨blocks, .io failure', failsAfter_of_chunks rfl chunks, .inl ?_⟩
      rcases item (List.mem_append_right _ List.mem_cons_self) with same | ⟨line, other, -⟩
      · cases same
        rfl
      · cases other
    | @undivided chosen refused _ line more selected failed =>
      refine ⟨blocks, refused, failsAfter_of_chunks rfl chunks, .inr ⟨chosen, line, selected, ?_,
        failed⟩⟩
      rcases item (List.mem_append_right _ List.mem_cons_self) with other | ⟨line', same, member⟩
      · cases other
      · cases same
        exact member

end FlatFile.Assembly
