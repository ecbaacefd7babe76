/-
  FlatFile/Proofs/Value/Date.lean
  ===============================
  **What a date rule makes of the text of a moment.**

  A rule between two plain patterns with the same fields reads the text of a moment under one of
  them and writes what it read under the other.  What a plain pattern writes depends on the
  values of its fields alone (`PlainPattern.written_congr`), so the text is that of the moment
  itself if every field is read with the value that it had (`PlainField.value_kept`).

  That holds of whole days, of times from hours to minutes or seconds, and of both together
  (`Moment.isKept_of_whole`), so such texts come back.  A day with only a part of a time is read
  as that day and nothing more (`Moment.kept?_of_loose`), so the part is written as zero.
-/
import FlatFile.Value.Converter
import FlatFile.Proofs.Calendar.Scanning

namespace FlatFile

namespace Calendar

variable {moment : Moment} {known : List PlainField}

/-! ### Fields that are kept -/

theorem TimeOfDay.shownSecond_kept (second : .second ∈ known) (time : TimeOfDay) :
    (time.kept known).shownSecond = time.shownSecond := by
  have whole : nanosPerSecond * (time.fraction / nanosPerSecond) / nanosPerSecond =
      time.fraction / nanosPerSecond := Nat.mul_div_cancel_left _ (by decide)
  rw [kept, if_pos second, shownSecond, shownSecond, whole]

/-- **A field of a time that is read has its value**, whatever the day. -/
theorem PlainField.value_kept {field : PlainField} (inside : field ∈ known)
    (of_time : field ∉ [year, month, day]) (date : Date) (moment : Moment) :
    field.value ⟨date, moment.time.kept known⟩ = field.value moment := by
  cases field with
  | year => exact absurd (by decide) of_time
  | month => exact absurd (by decide) of_time
  | day => exact absurd (by decide) of_time
  | hour =>
    change ((moment.time.kept known).hour : Int) = moment.time.hour
    rw [TimeOfDay.kept]
    split <;> rfl
  | minute =>
    change ((moment.time.kept known).minute : Int) = moment.time.minute
    rw [TimeOfDay.kept]
    split <;> rfl
  | second => exact congrArg Nat.cast (TimeOfDay.shownSecond_kept inside moment.time)

/-- A field is written as its value tells. -/
theorem PlainField.written_congr {field : PlainField} {moment other : Moment}
    (same : field.value moment = field.value other) :
    field.written moment = field.written other := by
  cases field with
  | year => exact congrArg (writtenYear .zeros) same
  | month => exact congrArg (writtenTwo .zeros) (Int.ofNat.inj same)
  | day => exact congrArg (writtenTwo .zeros) (Int.ofNat.inj same)
  | hour => exact congrArg (writtenTwo .zeros) (Int.ofNat.inj same)
  | minute => exact congrArg (writtenTwo .zeros) (Int.ofNat.inj same)
  | second => exact congrArg (writtenTwo .zeros) (Int.ofNat.inj same)

namespace PlainPattern

/-- **The text of a moment depends on the values of the fields alone.** -/
theorem written_congr {pattern : PlainPattern} {moment other : Moment}
    (same : ∀ field ∈ pattern.fields, field.value moment = field.value other) :
    pattern.written moment = pattern.written other := by
  rw [written, written, List.flatMap_def, List.flatMap_def]
  congr 1
  apply List.map_congr_left
  intro item inside
  cases item with
  | field part =>
    exact PlainField.written_congr (same part (List.mem_filterMap.mpr ⟨_, inside, rfl⟩))
  | mark c ink => rfl

theorem ne_nil_of_fields {pattern : PlainPattern} {field : PlainField}
    (inside : field ∈ pattern.fields) : pattern ≠ [] := by
  rintro rfl
  cases inside

theorem not_isBlank_written (exist : moment.Exists) {pattern : PlainPattern} {field : PlainField}
    (inside : field ∈ pattern.fields) : Text.isBlank (pattern.written moment) = false := by
  obtain ⟨item, found, same⟩ := List.mem_filterMap.mp inside
  cases item with
  | mark c ink => cases same
  | field part =>
    obtain ⟨c, digits, written⟩ :=
      List.exists_cons_of_ne_nil (PlainField.written_ne_nil exist part)
    have first : c ∈ pattern.written moment := by
      refine List.mem_flatMap.mpr ⟨_, found, ?_⟩
      change c ∈ part.written moment
      rw [written]
      exact List.mem_cons_self
    rw [Text.isBlank, List.all_eq_false]
    refine ⟨c, first, ?_⟩
    rw [ink_written exist pattern c first]
    exact Bool.false_ne_true

end PlainPattern

/-! ### Moments that are kept -/

/-- Fields with a part of a time that is not read as one. -/
def HasLooseTime (known : List PlainField) : Prop :=
  (.hour ∈ known ∨ .minute ∈ known ∨ .second ∈ known) ∧ ¬ TellsTime known

instance (known : List PlainField) : Decidable (HasLooseTime known) :=
  inferInstanceAs (Decidable (_ ∧ _))

namespace Moment

/-- The start of the day of a moment. -/
def dayStart (moment : Moment) : Moment := ⟨moment.date, .midnight⟩

/-- Fields from which a moment is read that has the same values in all of them. -/
def IsKept (known : List PlainField) (moment : Moment) : Prop :=
  ∃ kept, moment.kept? known = some kept ∧ ∀ field ∈ known, field.value kept = field.value moment

theorem kept?_of_loose (tells : TellsDay known) (loose : HasLooseTime known) (moment : Moment) :
    moment.kept? known = some moment.dayStart := by
  rw [kept?, if_pos tells, if_neg loose.2]
  rfl

theorem isKept_of_day (tells : TellsDay known) (nothing_loose : ¬ HasLooseTime known)
    (moment : Moment) : moment.IsKept known := by
  refine ⟨_, if_pos tells, ?_⟩
  intro field inside
  by_cases of_time : field ∈ [PlainField.year, .month, .day]
  · simp only [List.mem_cons, List.not_mem_nil, or_false] at of_time
    rcases of_time with rfl | rfl | rfl
    · rfl
    · rfl
    · rfl
  · -- There is a field of a time, so the time is read as a whole.
    have time : TellsTime known := by
      by_contra open_time
      apply nothing_loose
      refine ⟨?_, open_time⟩
      cases field with
      | year => exact absurd (by decide) of_time
      | month => exact absurd (by decide) of_time
      | day => exact absurd (by decide) of_time
      | hour => exact .inl inside
      | minute => exact .inr (.inl inside)
      | second => exact .inr (.inr inside)
    rw [if_pos time]
    exact PlainField.value_kept inside of_time moment.date moment

theorem isKept_of_time (tells : TellsTime known)
    (of_time : ∀ field ∈ known, field ∉ [PlainField.year, .month, .day]) (moment : Moment) :
    moment.IsKept known := by
  have open_day : ¬ TellsDay known := fun day => of_time _ day.1 (by decide)
  refine ⟨_, (if_neg open_day).trans (if_pos tells), ?_⟩
  intro field inside
  exact PlainField.value_kept inside (of_time field inside) epoch moment

end Moment

/-- The sets of fields that leave nothing open: a day, a time of hours, minutes and perhaps
    seconds, or both. -/
def wholeFields : List (List PlainField) := [
  [.year, .month, .day],
  [.year, .month, .day, .hour, .minute],
  [.year, .month, .day, .hour, .minute, .second],
  [.hour, .minute],
  [.hour, .minute, .second]]

theorem Moment.isKept_of_whole {fields : List PlainField} (whole : fields ∈ wholeFields)
    (same : ∀ field, field ∈ known ↔ field ∈ fields) (moment : Moment) :
    moment.IsKept known := by
  -- Which fields there are is decided by the set, not by the order.
  have day : TellsDay known ↔ TellsDay fields := by simp only [TellsDay, same]
  have time : TellsTime known ↔ TellsTime fields := by simp only [TellsTime, same]
  have loose : HasLooseTime known ↔ HasLooseTime fields := by
    simp only [HasLooseTime, time, same]
  by_cases tells : TellsDay fields
  · have nothing_loose : ∀ fields ∈ wholeFields, ¬ HasLooseTime fields := by decide
    exact isKept_of_day (day.mpr tells) (nothing_loose fields whole ∘ loose.mp) moment
  · have of_time : ∀ fields ∈ wholeFields, ¬ TellsDay fields →
        TellsTime fields ∧ ∀ field ∈ fields, field ∉ [PlainField.year, .month, .day] := by decide
    obtain ⟨tells, others⟩ := of_time fields whole tells
    exact isKept_of_time (time.mpr tells)
      (fun field inside => others field ((same field).mp inside)) moment

end Calendar

namespace DateRule

open Calendar

variable {input output : PlainPattern} {moment : Moment} {blankToEmpty : Bool}

/-! ### Rules between plain patterns -/

/-- The rule from one plain pattern to another. -/
def ofPlain (input output : PlainPattern) (blankToEmpty : Bool) : DateRule where
  inputPattern := String.ofList input.spelled
  outputPattern := String.ofList output.spelled
  blankToEmpty := blankToEmpty

/-- The way back is the way of the other rule. -/
theorem toLine_ofPlain (input output : PlainPattern) (blankToEmpty : Bool) (text : List Char) :
    (ofPlain input output blankToEmpty).toLine text =
      (ofPlain output input blankToEmpty).toDocument text := rfl

theorem check_ofPlain (some_input : input ≠ []) (some_output : output ≠ []) :
    (ofPlain input output blankToEmpty).check = .ok () := by
  rw [check, ofPlain, PlainPattern.isUsable_spelled some_input,
    PlainPattern.isUsable_spelled some_output]
  rfl

/-- **The text of a moment is restated as far as it is read.** -/
theorem toDocument_written (exist : moment.Exists) {field : PlainField}
    (inside : field ∈ input.fields) :
    (ofPlain input output blankToEmpty).toDocument (input.written moment) =
      if input.runsOn moment then input.written moment
      else ((moment.kept? input.fields).map output.written).getD (input.written moment) := by
  have restated : restated? (String.ofList input.spelled) (String.ofList output.spelled)
      (input.written moment) =
        (if input.runsOn moment then none else moment.kept? input.fields).map output.written := by
    rw [restated?, String.toList_ofList, String.toList_ofList, PlainPattern.read?_spelled,
      PlainPattern.read?_spelled, ← PlainPattern.scan?_written exist]
    simp only [Option.bind_eq_bind, Option.bind_some, PlainPattern.print?_items]
    exact Option.map_eq_bind.symm
  have ink := PlainPattern.not_isBlank_written exist inside
  rw [toDocument, reformat, if_neg (by rw [ink]; exact Bool.false_ne_true)]
  change (restated? (String.ofList input.spelled) (String.ofList output.spelled) _).getD _ = _
  rw [restated]
  split
  · rfl
  · rfl

/-- What is read with its values is written with them. -/
theorem toDocument_of_isKept (exist : moment.Exists) {field : PlainField}
    (inside : field ∈ input.fields) (same : ∀ field, field ∈ output.fields ↔ field ∈ input.fields)
    (kept : moment.IsKept input.fields) :
    (ofPlain input output blankToEmpty).toDocument (input.written moment) =
      if input.runsOn moment then input.written moment else output.written moment := by
  obtain ⟨read, found, values⟩ := kept
  have text : output.written read = output.written moment :=
    PlainPattern.written_congr fun field here => values field ((same field).mp here)
  rw [toDocument_written exist inside, found, Option.map_some, Option.getD_some, text]

/-! ### Days -/

/-- **A rule between patterns with the same fields keeps the day.**  The text is passed through
    if a year runs on.  Else it is restated, with every field as it was; but a part of a time that
    is not read as a time is lost, and the other pattern writes the start of the day. -/
theorem toDocument_day (exist : moment.Exists) (tells : TellsDay input.fields)
    (same : ∀ field, field ∈ output.fields ↔ field ∈ input.fields) (blankToEmpty : Bool) :
    (ofPlain input output blankToEmpty).check = .ok ()
      ∧ (ofPlain input output blankToEmpty).toDocument (input.written moment) =
        (if input.runsOn moment then input.written moment
          else output.written (if HasLooseTime input.fields then moment.dayStart else moment)) := by
  constructor
  · exact check_ofPlain (PlainPattern.ne_nil_of_fields tells.1)
      (PlainPattern.ne_nil_of_fields ((same .year).mpr tells.1))
  · by_cases loose : HasLooseTime input.fields
    · rw [toDocument_written exist tells.1, Moment.kept?_of_loose tells loose, if_pos loose]
      rfl
    · rw [if_neg loose]
      exact toDocument_of_isKept exist tells.1 same (Moment.isKept_of_day tells loose moment)

/-- A day and an hour, closely spelled. -/
def hourly : PlainPattern := [.field .year, .field .month, .field .day, .field .hour]

/-- A day and an hour with marks between them. -/
def markedHourly : PlainPattern := [
  .field .year, .mark '-' rfl, .field .month, .mark '-' rfl, .field .day, .mark 'T' rfl,
  .field .hour]

/-- The last day of a January, five in the morning. -/
def earlyMorning : Moment := ⟨⟨2024, 1, 31⟩, ⟨5, 0, 0, 0⟩⟩

theorem toDocument_day_hourly :
    (ofPlain hourly markedHourly true).toDocument "2024013105".toList =
      "2024-01-31T00".toList := by
  have same : ∀ field, field ∈ markedHourly.fields ↔ field ∈ hourly.fields := by
    intro field
    cases field <;> decide
  have exist : earlyMorning.Exists := by decide
  have restated := (toDocument_day exist (by decide) same true).2
  have text : hourly.written earlyMorning = "2024013105".toList := by decide +kernel
  have start : markedHourly.written earlyMorning.dayStart = "2024-01-31T00".toList := by
    decide +kernel
  have ends : hourly.runsOn earlyMorning = false := by decide +kernel
  have loose : HasLooseTime hourly.fields := by decide
  rw [ends, if_neg Bool.false_ne_true, if_pos loose, text, start] at restated
  exact restated

/-- **An hour without minutes is lost**: the text changes, and five in the morning becomes
    midnight. -/
theorem hour_lost :
    earlyMorning.Exists
      ∧ hourly.fields = [.year, .month, .day, .hour] ∧ markedHourly.fields = hourly.fields
      ∧ hourly.written earlyMorning = "2024013105".toList
      ∧ markedHourly.written earlyMorning = "2024-01-31T05".toList
      ∧ (ofPlain hourly markedHourly true).toDocument "2024013105".toList ≠ "2024013105".toList
      ∧ (ofPlain hourly markedHourly true).toDocument "2024013105".toList ≠
        "2024-01-31T05".toList := by
  decide +kernel

/-! ### Texts that come back -/

/-- **A text comes back if its fields leave nothing open.**  Between patterns with the same such
    fields, in any order and with any marks around them, the text of a moment of the years 0 to
    9999 becomes the text of the same moment under the other pattern, and is restored from it. -/
theorem comesBack_whole {fields : List PlainField} (whole : fields ∈ wholeFields)
    (input_fields : ∀ field, field ∈ input.fields ↔ field ∈ fields)
    (output_fields : ∀ field, field ∈ output.fields ↔ field ∈ fields)
    (exist : moment.Exists) (from_zero : 0 ≤ moment.date.year) (to_last : moment.date.year ≤ 9999)
    (blankToEmpty : Bool) :
    (ofPlain input output blankToEmpty).check = .ok ()
      ∧ (ofPlain input output blankToEmpty).toDocument (input.written moment) =
        output.written moment
      ∧ (ofPlain input output blankToEmpty).toLine
          ((ofPlain input output blankToEmpty).toDocument (input.written moment)) =
        input.written moment := by
  have short : IsShortYear moment.date.year := ⟨from_zero, by omega⟩
  have same : ∀ field, field ∈ output.fields ↔ field ∈ input.fields :=
    fun field => (output_fields field).trans (input_fields field).symm
  have some_field : ∀ fields ∈ wholeFields, ∃ field, field ∈ fields := by
    intro fields inside
    have minutes : .day ∈ fields ∨ .minute ∈ fields := by
      revert fields
      decide
    rcases minutes with day | minute
    · exact ⟨_, day⟩
    · exact ⟨_, minute⟩
  obtain ⟨field, inside⟩ := some_field fields whole
  have in_input := (input_fields field).mpr inside
  have in_output := (output_fields field).mpr inside
  have there : (ofPlain input output blankToEmpty).toDocument (input.written moment) =
      output.written moment := by
    rw [toDocument_of_isKept exist in_input same (Moment.isKept_of_whole whole input_fields moment),
      PlainPattern.runsOn_of_short short, if_neg Bool.false_ne_true]
  have back : (ofPlain output input blankToEmpty).toDocument (output.written moment) =
      input.written moment := by
    rw [toDocument_of_isKept exist in_output (fun field => (same field).symm)
        (Moment.isKept_of_whole whole output_fields moment),
      PlainPattern.runsOn_of_short short, if_neg Bool.false_ne_true]
  refine ⟨?_, there, ?_⟩
  · exact check_ofPlain (PlainPattern.ne_nil_of_fields in_input)
      (PlainPattern.ne_nil_of_fields in_output)
  · rw [there, toLine_ofPlain, back]

/-- The digits of a minute, without anything between them. -/
def dense : PlainPattern := [
  .field .hour, .field .minute, .field .day, .field .month, .field .year]

/-- A minute with digits and signs as marks. -/
def spread : PlainPattern := [
  .field .year, .mark '-' rfl, .field .month, .mark '0' rfl, .field .day, .mark '+' rfl,
  .field .hour, .field .minute, .mark '9' rfl]

/-- The last minute of a leap day. -/
def leapDayEnd : Moment := ⟨⟨2024, 2, 29⟩, ⟨23, 59, 0, 0⟩⟩

theorem comesBack_whole_leapDay :
    (ofPlain dense spread true).toDocument "235929022024".toList = "2024-02029+23599".toList
      ∧ (ofPlain dense spread true).toLine "2024-02029+23599".toList = "235929022024".toList := by
  have exist : leapDayEnd.Exists := by decide
  have dense_fields : ∀ field, field ∈ dense.fields ↔
      field ∈ [PlainField.year, .month, .day, .hour, .minute] := by
    intro field
    cases field <;> decide
  have spread_fields : ∀ field, field ∈ spread.fields ↔
      field ∈ [PlainField.year, .month, .day, .hour, .minute] := by
    intro field
    cases field <;> decide
  obtain ⟨-, there, back⟩ :=
    comesBack_whole (by decide) dense_fields spread_fields exist (by decide) (by decide) true
  have text : dense.written leapDayEnd = "235929022024".toList := by decide +kernel
  have other : spread.written leapDayEnd = "2024-02029+23599".toList := by decide +kernel
  rw [there, other, text] at back
  rw [other, text] at there
  exact ⟨there, back⟩

end DateRule

end FlatFile
