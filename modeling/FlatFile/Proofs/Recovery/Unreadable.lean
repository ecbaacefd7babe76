/-
  FlatFile/Proofs/Recovery/Unreadable.lean
  ========================================
  **What becomes of a failed read, in both directions.**

  A document in the making reports the failure of its source as it is
  (`Assembly.failsAfter_of_new?`).  A recovery does not: the failure of the document that it
  reads becomes a fault of the document, with the text of the failure in its message and
  without its kind (`Recovery.failed_read`, `Recovery.kind_lost`).

  In both directions the reads before the failure come first, and what they cause is not
  covered up by it.  For a recovery these are the reads that `takeReads` takes; they cause
  nothing if some document that begins with them can be recovered.
-/
import FlatFile.Charset.AsciiOnly
import FlatFile.Proofs.Document.Failing
import FlatFile.Proofs.Recovery.Parts

namespace FlatFile

namespace Recovery

variable {recovery : Recovery} {before : Source}

section

variable [MultibyteCodecs]

/-- What some reads do, up to the first failure that they cause. -/
def takeReads (recovery : Recovery) (state : RecoveryState) : Source → RecoveryStep
  | [] => (none, state)
  | .failure _ :: rest => recovery.takeReads state rest
  | .data block :: rest =>
    match recovery.takeBlock state block with
    | (none, state) => recovery.takeReads state rest
    | failed => failed

/-- A step after which there is a failure, if it has not failed itself. -/
def endedBy (failure : Failure) : RecoveryStep → RecoveryStep
  | (none, state) => (some failure, state)
  | failed => failed

omit [MultibyteCodecs] in
theorem outcome_endedBy (failure : Failure) (step : RecoveryStep) (reads : Nat) :
    (outcome reads (endedBy failure step)).result = .error (step.1.getD failure)
      ∧ (outcome reads (endedBy failure step)).sink = step.2.sink := by
  rcases step with ⟨_ | other, state⟩
  · exact ⟨rfl, rfl⟩
  · exact ⟨rfl, rfl⟩

/-- A run on a document that fails takes the reads before the failure, and then ends. -/
theorem runFrom_of_failure (steady : ∀ reading ∈ before, reading.GoesOn) {failure : IoFailure}
    (fatal : failure.kind ≠ .interrupted) (after : Source) (state : RecoveryState)
    (reads : Nat) :
    ∃ made, recovery.runFrom state reads (before ++ .failure failure :: after) =
      outcome made
        (endedBy (.document (.unreadable failure)) (recovery.takeReads state before)) := by
  induction before generalizing state reads with
  | nil =>
    refine ⟨reads + 1, ?_⟩
    rw [List.nil_append, runFrom, if_neg fatal]
    rfl
  | cons reading before ih =>
    obtain ⟨here, others⟩ := List.forall_mem_cons.mp steady
    rw [List.cons_append]
    cases reading with
    | failure again =>
      have retried : again.kind = .interrupted := here
      rw [runFrom, if_pos retried]
      exact ih others state (reads + 1)
    | data block =>
      cases block with
      | nil => exact absurd rfl here
      | cons b bytes =>
        rw [runFrom, takeReads]
        rcases recovery.takeBlock state (b :: bytes) with ⟨_ | other, next⟩
        · exact ih others next (reads + 1)
        · exact ⟨reads + 1, rfl⟩

/-- Reads with which a document begins that is recovered cause no failure. -/
theorem takeReads_of_recovered (steady : ∀ reading ∈ before, reading.GoesOn) {rest : Source}
    {state : RecoveryState} {reads count : Nat}
    (recovered : (recovery.runFrom state reads (before ++ rest)).result = .ok count) :
    (recovery.takeReads state before).1 = none := by
  induction before generalizing state reads with
  | nil => rfl
  | cons reading before ih =>
    obtain ⟨here, others⟩ := List.forall_mem_cons.mp steady
    rw [List.cons_append] at recovered
    cases reading with
    | failure again =>
      have retried : again.kind = .interrupted := here
      rw [runFrom, if_pos retried] at recovered
      exact ih others recovered
    | data block =>
      cases block with
      | nil => exact absurd rfl here
      | cons b bytes =>
        rw [runFrom] at recovered
        rw [takeReads]
        rcases taken : recovery.takeBlock state (b :: bytes) with ⟨_ | other, next⟩
        · rw [taken] at recovered
          exact ih others recovered
        · rw [taken] at recovered
          cases recovered

/-- **What a recovery gives whose document fails**: what the reads before the failure give, and then
    a fault of the document. -/
structure Unreadable (recovery : Recovery) (charset : Charset) (before : Source)
    (failure : IoFailure) (sink : Sink) (made : Outcome) : Prop where
  result : made.result = .error (((recovery.takeReads (start charset sink) before.inBlocks).1).getD
    (.document (.unreadable failure)))
  kept : made.sink = (recovery.takeReads (start charset sink) before.inBlocks).2.sink
  /-- Where a document that begins with these reads can be recovered, they cause nothing. -/
  quiet : ∀ rest count, (recovery.run (before ++ rest) sink).result = .ok count →
    made.result = .error (.document (.unreadable failure))

theorem unreadable_run (steady : ∀ reading ∈ before, reading.GoesOn) {failure : IoFailure}
    (fatal : failure.kind ≠ .interrupted) (after : Source) {charset : Charset}
    (output : recovery.style.outputCharset? = .ok charset) (sink : Sink) :
    recovery.Unreadable charset before failure sink
      (recovery.run (before ++ .failure failure :: after) sink) := by
  have steady' := Source.goesOn_inBlocks steady
  have begun (document : Source) :
      recovery.run document sink = recovery.runFrom (start charset sink) 0 document.inBlocks := by
    simp only [run, output]
    rfl
  obtain ⟨made, ended⟩ := @runFrom_of_failure recovery _ _ steady' failure fatal after.inBlocks
    (start charset sink) 0
  rw [← Source.inBlocks_before, ← begun] at ended
  obtain ⟨result, sink'⟩ := outcome_endedBy (.document (.unreadable failure))
    (recovery.takeReads (start charset sink) before.inBlocks) made
  rw [ended]
  refine ⟨result, sink', ?_⟩
  intro rest count recovered
  have split : Source.inBlocks (before ++ rest) = before.inBlocks ++ rest.inBlocks :=
    List.flatMap_append
  rw [begun, split] at recovered
  rw [result, takeReads_of_recovered steady' recovered]
  rfl

/-- **A read that fails, in both directions.**  A document in the making hands out the failure of
    its source unchanged and reports it to readers unchanged, unless a complete line before it
    cannot be divided; a recovery makes it a fault of the document. -/
theorem failed_read {failure : IoFailure} (steady : ∀ reading ∈ before, reading.GoesOn)
    (fatal : failure.kind ≠ .interrupted) (after : Source) :
    (∀ (charset : Charset) (terminator : Line.Terminator) (origin : Origin) (style : DocumentStyle)
        (layout : Option ColumnLayout) (converters : ColumnConverters) (assembly : Assembly),
        Assembly.new? (.new (before ++ .failure failure :: after) charset terminator) origin style
          layout converters = .ok assembly →
        ∃ blocks last, assembly.FailsAfter blocks last
          ∧ (last = .io failure ∨ ∃ chosen line, layout = some chosen
            ∧ line ∈ Line.completeLines terminator (charset.decodeSoFar before.bytes)
            ∧ chosen.columns line = .error last))
      ∧ ∀ (recovery : Recovery) (charset : Charset) (sink : Sink),
        recovery.style.outputCharset? = .ok charset →
        recovery.Unreadable charset before failure sink
          (recovery.run (before ++ .failure failure :: after) sink) := by
  constructor
  · intro charset terminator origin style layout converters assembly made
    exact Assembly.failsAfter_of_new? steady fatal made
  · intro recovery charset sink output
    exact unreadable_run steady fatal after output sink

end

def resetFailure : IoFailure := ⟨.connectionReset, some "gone"⟩

/-- A tag is cut in two by an interrupted read, and another one by the failure. -/
def resetReads : Source :=
  [.data (Charset.utf8.encode "<a><Li".toList), .failure ⟨.interrupted, none⟩,
    .data (Charset.utf8.encode "ne>x</Line>\n<Li".toList)]

/-- The same reads as a file and as a document: one line is complete before the failure. -/
theorem failed_read_reset :
    (∀ reading ∈ resetReads, reading.GoesOn) ∧ resetFailure.kind ≠ .interrupted
      ∧ (∃ assembly, Assembly.new? (.new (resetReads ++ .failure resetFailure :: []) .utf8 none)
          ⟨"f", "f"⟩ { declaration := false } none ⟨[], false, true⟩ = .ok assembly
        ∧ (∃ blocks, assembly.FailsAfter blocks (.io resetFailure))
        ∧ assembly.handed 4 = [some (.ok (Charset.utf8.encode
              "<DocElement name=\"f\" location=\"f\">\n".toList)),
            some (.ok (Charset.utf8.encode
              "  <Line number=\"1\">&lt;a&gt;&lt;Line&gt;x&lt;/Line&gt;</Line>\n".toList)),
            some (.error (.io resetFailure)), none])
      ∧ (plainRecovery.run (resetReads ++ .failure resetFailure :: []) {}).result =
        .error (.document (.unreadable resetFailure)) := by
  have steady : ∀ reading ∈ resetReads, reading.GoesOn := by decide +kernel
  have fatal : resetFailure.kind ≠ .interrupted := by decide
  obtain ⟨documents, recoveries⟩ := failed_read steady fatal []
  refine ⟨steady, fatal, ?_, ?_⟩
  · have made : Assembly.new? (.new (resetReads ++ .failure resetFailure :: []) .utf8 none)
        ⟨"f", "f"⟩ { declaration := false } none ⟨[], false, true⟩ = .ok _ := rfl
    obtain ⟨blocks, last, fails, rfl | ⟨chosen, line, other, -⟩⟩ :=
      documents _ _ _ _ _ _ _ made
    · exact ⟨_, made, ⟨blocks, fails⟩, by decide +kernel⟩
    · cases other
  · have ended := recoveries plainRecovery .utf8 {} rfl
    apply ended.quiet [.data (Charset.utf8.encode "ne/></a>".toList)] 2
    decide +kernel

/-- **The kind of a failure is lost on a recovery**: it is no failure of the outside world any more
    but a fault of the document, which is well formed as far as it could be read. -/
theorem kind_lost :
    let document := Charset.utf8.encode "<a><Line>x</Line>".toList
    let made := plainRecovery.run [.data document, .failure resetFailure] {}
    (plainRecovery.run [.data document] {}).result = .ok 1
      ∧ made.result = .error (.document (.unreadable resetFailure))
      ∧ made.result ≠ .error (.io resetFailure)
      ∧ (Failure.document (.unreadable resetFailure)).asIo.kind = .invalidData := by
  decide +kernel

end Recovery

end FlatFile
