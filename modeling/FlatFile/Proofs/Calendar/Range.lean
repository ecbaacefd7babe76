/-
  FlatFile/Proofs/Calendar/Range.lean
  ===================================
  **A moment that was read from a text lies within the calendar.**

  Every field that is filled in has a value of its range (`Fields.InRange.set?`), whichever
  item of a pattern it comes from (`PatternItem.inRange_scan?`).  A day exists only with a
  month and a day of the month that the calendar has (`Date.inRange_ofYearMonthDay?`), and
  a time is put together from fields, so a moment that a text describes has both
  (`Pattern.inRange_scan?`).
-/
import FlatFile.Calendar.Scan
import Mathlib.Data.Option.Basic

namespace FlatFile.Calendar

/-! ### Days -/

/-- A month and a day of the month of the calendar. -/
structure Date.InRange (date : Date) : Prop where
  month : date.month ≤ 12
  day : date.day ≤ 31

/-- The lengths of the months, the first one at zero. -/
theorem monthLengths_getD (year : Int) (index : Nat) :
    (monthLengths year).getD index 0 ≤ 31 ∧ (12 ≤ index → (monthLengths year).getD index 0 = 0) := by
  have all : ∀ leap : Bool, ∀ k < 12, ([31, if leap then 29 else 28, 31, 30, 31, 30, 31, 31, 30, 31,
      30, 31] : List Nat).getD k 0 ≤ 31 := by decide
  have beyond (past : 12 ≤ index) : (monthLengths year).getD index 0 = 0 := by
    rw [List.getD_eq_getElem?_getD, List.getElem?_eq_none (by simpa [monthLengths] using past)]
    rfl
  refine ⟨?_, beyond⟩
  by_cases inside : index < 12
  · exact all (isLeapYear year) index inside
  · rw [beyond (Nat.le_of_not_lt inside)]
    exact Nat.zero_le _

theorem sum_monthLengths (year : Int) :
    (monthLengths year).foldr (· + ·) 0 = daysInYear year := by
  unfold monthLengths daysInYear
  cases isLeapYear year with
  | true => rfl
  | false => rfl

theorem daysBeforeMonth_le (year : Int) {month : Nat} (inside : month ≤ 12) :
    daysBeforeMonth year month ≤ 366 := by
  have all : ∀ leap : Bool, ∀ k < 12, (([31, if leap then 29 else 28, 31, 30, 31, 30, 31, 31, 30, 31,
      30, 31] : List Nat).take k).foldl (· + ·) 0 ≤ 366 := by decide
  exact all (isLeapYear year) (month - 1) (by omega)

namespace Date

variable {date : Date}

theorem inRange_ofYearMonthDay? {year : Int} {month day : Nat}
    (exist : ofYearMonthDay? year month day = some date) : date.InRange := by
  unfold ofYearMonthDay? at exist
  split at exist
  · rename_i given
    cases exist
    obtain ⟨-, -, first, last⟩ := given
    unfold daysInMonth at last
    split at last
    · omega
    · obtain ⟨short, none_past⟩ := monthLengths_getD year (month - 1)
      constructor
      · have inside : ¬ 12 ≤ month - 1 := by
          intro past
          rw [none_past past] at last
          omega
        change month ≤ 12
        omega
      · exact Nat.le_trans last short
  · cases exist

/-- The month of a day that lies within some months is one of these. -/
theorem monthOf_le {lengths : List Nat} (short : ∀ length ∈ lengths, length ≤ 31) {month n : Nat}
    (first : 1 ≤ n) (last : n ≤ lengths.foldr (· + ·) 0) :
    (monthOf month n lengths).1 < month + lengths.length ∧ (monthOf month n lengths).2 ≤ 31 := by
  induction lengths generalizing month n with
  | nil =>
    rw [List.foldr_nil] at last
    omega
  | cons length lengths ih =>
    rcases List.forall_mem_cons.mp short with ⟨here, others⟩
    rw [List.foldr_cons] at last
    rw [monthOf, List.length_cons]
    split
    · rename_i within
      exact ⟨by omega, Nat.le_trans within here⟩
    · have more := @ih others (month + 1) (n - length) (by omega) (by omega)
      exact ⟨by omega, more.2⟩

theorem inRange_ofYearOrdinal? {year : Int} {ordinal : Nat}
    (exist : ofYearOrdinal? year ordinal = some date) : date.InRange := by
  unfold ofYearOrdinal? at exist
  split at exist
  · rename_i given
    obtain rfl := Option.some.inj exist
    obtain ⟨-, -, first, last⟩ := given
    rw [← sum_monthLengths] at last
    have short : ∀ length ∈ monthLengths year, length ≤ 31 := by
      intro length inside
      obtain ⟨index, found⟩ := List.mem_iff_getElem?.mp inside
      have bound := (monthLengths_getD year index).1
      rwa [List.getD_eq_getElem?_getD, found, Option.getD_some] at bound
    obtain ⟨month, day⟩ := @monthOf_le _ short 1 ordinal first last
    have twelve : (monthLengths year).length = 12 := rfl
    rw [twelve] at month
    exact ⟨Nat.le_of_lt_succ month, day⟩
  · cases exist

theorem inRange_ofNumber? {number : Int} (exist : ofNumber? number = some date) : date.InRange :=
  inRange_ofYearOrdinal? exist

theorem inRange_ofIsoWeek? {year : Int} {week weekday : Nat}
    (exist : ofIsoWeek? year week weekday = some date) : date.InRange := by
  unfold ofIsoWeek? at exist
  dsimp only at exist
  split at exist
  · exact inRange_ofNumber? exist
  · cases exist

theorem InRange.ordinal_le (inRange : date.InRange) : date.ordinal ≤ 397 := by
  have before := daysBeforeMonth_le date.year inRange.month
  have day := inRange.day
  unfold ordinal
  omega

theorem InRange.weekFrom_lt (inRange : date.InRange) (start : Nat) : date.weekFrom start < 100 := by
  have ordinal := inRange.ordinal_le
  unfold weekFrom
  omega

theorem yearOrdinalOfNumber_le (number : Int) : (yearOrdinalOfNumber number).2 ≤ 366 := by
  unfold yearOrdinalOfNumber
  dsimp only
  omega

theorem isoWeek_lt (date : Date) : date.isoWeek < 100 := by
  have ordinal := yearOrdinalOfNumber_le date.thursday
  unfold isoWeek
  omega

end Date

/-! ### Times -/

/-- A time that a clock shows; the fraction may hold a leap second. -/
structure TimeOfDay.InRange (time : TimeOfDay) : Prop where
  hour : time.hour < 24
  minute : time.minute < 60
  second : time.second < 60
  fraction : time.fraction < 2 * nanosPerSecond

structure Moment.InRange (moment : Moment) : Prop where
  date : moment.date.InRange
  time : moment.time.InRange

theorem TimeOfDay.InRange.shownSecond_lt {time : TimeOfDay} (inRange : time.InRange) :
    time.shownSecond < 100 := by
  have second := inRange.second
  have fraction := inRange.fraction
  unfold shownSecond nanosPerSecond at *
  omega

/-! ### Fields -/

namespace Fields

/-- The fields of a time have values of their ranges. -/
structure InRange (fields : Fields) : Prop where
  halfDay : ∀ half ∈ fields.halfDay, half ≤ 1
  hourOfHalf : ∀ hour ∈ fields.hourOfHalf, hour < 12
  minute : ∀ minute ∈ fields.minute, minute < 60
  second : ∀ second ∈ fields.second, second ≤ 60
  nanosecond : ∀ nanosecond ∈ fields.nanosecond, nanosecond < nanosPerSecond

theorem inRange_empty : InRange {} := ⟨nofun, nofun, nofun, nofun, nofun⟩

theorem eq_of_agree? {α : Type} [DecidableEq α] {old : Option α} {new : α} {field : Option α}
    (agree : agree? old new = some field) : field = some new := by
  unfold agree? at agree
  split at agree
  · exact (Option.some.inj agree).symm
  · split at agree
    · exact (Option.some.inj agree).symm
    · cases agree

theorem within?_le {low high : Nat} {value : Int} {n : Nat} (within : within? low high value = some n) :
    n ≤ high := by
  unfold within? at within
  split at within
  · cases within
    omega
  · cases within

/-- A field that was read again has the value that it had, or the one that is read now. -/
theorem forall_mem_of_agree? {α : Type} [DecidableEq α] {old : Option α} {new : α}
    {field : Option α} {good : α → Prop} (agree : agree? old new = some field) (here : good new) :
    ∀ value ∈ field, good value := by
  rw [eq_of_agree? agree]
  rintro value ⟨⟩
  exact here

variable {fields after : Fields} {value : Int}

theorem InRange.setHalfDay? (inRange : fields.InRange) {half : Nat} (small : half ≤ 1)
    (set : fields.setHalfDay? half = some after) : after.InRange := by
  obtain ⟨field, agree, same⟩ := Option.bind_eq_some_iff.mp set
  cases same
  exact ⟨forall_mem_of_agree? agree small, inRange.hourOfHalf, inRange.minute, inRange.second,
    inRange.nanosecond⟩

theorem InRange.setHour? (inRange : fields.InRange) (set : fields.setHour? value = some after) :
    after.InRange := by
  obtain ⟨n, within, set⟩ := Option.bind_eq_some_iff.mp set
  obtain ⟨half, agree, set⟩ := Option.bind_eq_some_iff.mp set
  obtain ⟨hour, agree', same⟩ := Option.bind_eq_some_iff.mp set
  cases same
  have small := within?_le within
  have hour_small : n % 12 < 12 := Nat.mod_lt n (by decide)
  have half_small : n / 12 ≤ 1 := by omega
  exact ⟨forall_mem_of_agree? agree half_small, forall_mem_of_agree? agree' hour_small,
    inRange.minute, inRange.second, inRange.nanosecond⟩

theorem InRange.setHour12? (inRange : fields.InRange)
    (set : fields.setHour12? value = some after) : after.InRange := by
  obtain ⟨n, within, set⟩ := Option.bind_eq_some_iff.mp set
  obtain ⟨hour, agree, same⟩ := Option.bind_eq_some_iff.mp set
  cases same
  have small : n % 12 < 12 := Nat.mod_lt n (by decide)
  exact ⟨inRange.halfDay, forall_mem_of_agree? agree small, inRange.minute, inRange.second,
    inRange.nanosecond⟩

theorem InRange.setMinute? (inRange : fields.InRange)
    (set : fields.setMinute? value = some after) : after.InRange := by
  obtain ⟨n, within, set⟩ := Option.bind_eq_some_iff.mp set
  obtain ⟨minute, agree, same⟩ := Option.bind_eq_some_iff.mp set
  cases same
  have small : n < 60 := Nat.lt_succ_of_le (within?_le within)
  exact ⟨inRange.halfDay, inRange.hourOfHalf, forall_mem_of_agree? agree small, inRange.second,
    inRange.nanosecond⟩

theorem InRange.setSecond? (inRange : fields.InRange)
    (set : fields.setSecond? value = some after) : after.InRange := by
  obtain ⟨n, within, set⟩ := Option.bind_eq_some_iff.mp set
  obtain ⟨second, agree, same⟩ := Option.bind_eq_some_iff.mp set
  cases same
  exact ⟨inRange.halfDay, inRange.hourOfHalf, inRange.minute,
    forall_mem_of_agree? agree (within?_le within), inRange.nanosecond⟩

theorem InRange.setNanosecond? (inRange : fields.InRange)
    (set : fields.setNanosecond? value = some after) : after.InRange := by
  obtain ⟨n, within, set⟩ := Option.bind_eq_some_iff.mp set
  obtain ⟨nanosecond, agree, same⟩ := Option.bind_eq_some_iff.mp set
  cases same
  have small : n < nanosPerSecond := Nat.lt_of_le_of_lt (within?_le within) (by decide)
  exact ⟨inRange.halfDay, inRange.hourOfHalf, inRange.minute, inRange.second,
    forall_mem_of_agree? agree small⟩

/-- **A field that is filled in has a value of its range.** -/
theorem InRange.set? (inRange : fields.InRange) {field : NumericField}
    (set : field.set? value fields = some after) : after.InRange := by
  cases field with
  | hour => exact inRange.setHour? set
  | hour12 => exact inRange.setHour12? set
  | minute => exact inRange.setMinute? set
  | second => exact inRange.setSecond? set
  | nanosecond => exact inRange.setNanosecond? set
  | _ =>
    -- The others are no fields of a time.
    simp only [NumericField.set?, setYear?, setCentury?, setYearOfCentury?, setIsoYear?,
      setIsoYearOfCentury?, setQuarter?, setMonth?, setDay?, setWeekFromSunday?,
      setWeekFromMonday?, setIsoWeek?, setWeekday?, setOrdinal?, setTimestamp?,
      Option.bind_eq_bind, Option.bind_eq_some_iff, Option.pure_def, Option.some.injEq] at set
    obtain ⟨_, -, _, -, rfl⟩ := set
    exact ⟨inRange.halfDay, inRange.hourOfHalf, inRange.minute, inRange.second,
      inRange.nanosecond⟩

theorem InRange.setWeekday? (inRange : fields.InRange) {weekday : Nat}
    (set : fields.setWeekday? weekday = some after) : after.InRange := by
  obtain ⟨_, -, same⟩ := Option.bind_eq_some_iff.mp set
  cases same
  exact ⟨inRange.halfDay, inRange.hourOfHalf, inRange.minute, inRange.second, inRange.nanosecond⟩

theorem InRange.setOffset? (inRange : fields.InRange)
    (set : fields.setOffset? value = some after) : after.InRange := by
  obtain ⟨_, -, same⟩ := Option.bind_eq_some_iff.mp set
  cases same
  exact ⟨inRange.halfDay, inRange.hourOfHalf, inRange.minute, inRange.second, inRange.nanosecond⟩

/-! ### What the fields describe -/

theorem InRange.time (inRange : fields.InRange) {time : TimeOfDay}
    (described : fields.time = .ok time) : time.InRange := by
  unfold Fields.time at described
  split at described
  · rename_i half hour minute half_eq hour_eq minute_eq
    have half_small := inRange.halfDay half half_eq
    have hour_small := inRange.hourOfHalf hour hour_eq
    have minute_small := inRange.minute minute minute_eq
    dsimp only at described
    split at described
    · cases described
    · rename_i nanosecond second _
      cases described
      have second_small : ∀ second ∈ fields.second, second ≤ 60 := inRange.second
      have nanosecond_small : fields.nanosecond.getD 0 < nanosPerSecond := by
        cases given : fields.nanosecond with
        | none => decide
        | some nanosecond => exact inRange.nanosecond nanosecond given
      refine ⟨?_, minute_small, ?_, ?_⟩
      · change 12 * half + hour < 24
        omega
      · cases given : fields.second with
        | none => simp
        | some second =>
          have small := second_small second given
          by_cases leap : second = 60
          · simp [leap]
          · simp [leap]
            omega
      · change (if _ then nanosPerSecond else 0) + fields.nanosecond.getD 0 < 2 * nanosPerSecond
        split
        · omega
        · omega
  · cases described

theorem eq_of_verified {described : Except FieldFault Date} {agrees : Date → Bool} {date : Date}
    (agreed : verified described agrees = .ok date) : described = .ok date := by
  unfold verified at agreed
  split at agreed
  · cases agreed
  · split at agreed
    · exact agreed
    · cases agreed

theorem eq_of_existing {found : Option Date} {date : Date} (exist : existing found = .ok date) :
    found = some date := by
  unfold existing at exist
  split at exist
  · exact congrArg some (Except.ok.inj exist)
  · cases exist

theorem inRange_ofWeek {year : Int} {week weekday start : Nat} {date : Date}
    (exist : ofWeek year week weekday start = .ok date) : date.InRange := by
  unfold ofWeek at exist
  split at exist
  · cases exist
  · dsimp only at exist
    split at exist
    · cases exist
    · split at exist
      · rename_i found
        cases exist
        exact Date.inRange_ofYearOrdinal? found
      · cases exist

theorem inRange_dayOf {year isoYear : Option Int} {date : Date}
    (described : fields.dayOf year isoYear = .ok date) : date.InRange := by
  unfold dayOf at described
  split at described
  · exact Date.inRange_ofYearMonthDay? (eq_of_existing (eq_of_verified described))
  · dsimp only at described
    split at described
    · exact Date.inRange_ofYearOrdinal? (eq_of_existing (eq_of_verified described))
    · exact inRange_ofWeek (eq_of_verified described)
    · exact inRange_ofWeek (eq_of_verified described)
    · split at described
      · exact Date.inRange_ofIsoWeek? (eq_of_existing (eq_of_verified described))
      · cases described

theorem inRange_date {date : Date} (described : fields.date = .ok date) : date.InRange := by
  unfold Fields.date at described
  split at described
  · cases described
  · split at described
    · cases described
    · exact inRange_dayOf (eq_of_verified described)

theorem InRange.completedBy? (inRange : fields.InRange) {timestamp : Int}
    (completed : fields.completedBy? timestamp = some after) : after.InRange := by
  -- Once the second is settled, the other fields are filled in from the moment.
  have complete {begun : Fields} {moment : Moment} (started : begun.InRange)
      (filled : (do
        let fields ← begun.setYear? moment.date.year
        let fields ← fields.setOrdinal? moment.date.ordinal
        let fields ← fields.setHour? moment.time.hour
        fields.setMinute? moment.time.minute) = some after) : after.InRange := by
    obtain ⟨dated, set, filled⟩ := Option.bind_eq_some_iff.mp filled
    obtain ⟨placed, set', filled⟩ := Option.bind_eq_some_iff.mp filled
    obtain ⟨timed, set'', filled⟩ := Option.bind_eq_some_iff.mp filled
    have begun' : dated.InRange :=
      started.set? (show NumericField.year.set? _ begun = some dated from set)
    have placed' : placed.InRange :=
      begun'.set? (show NumericField.ordinal.set? _ dated = some placed from set')
    exact (placed'.setHour? set'').setMinute? filled
  unfold Fields.completedBy? at completed
  obtain ⟨moment, -, completed⟩ := Option.bind_eq_some_iff.mp completed
  dsimp only at completed
  split at completed
  · split at completed
    · exact complete inRange completed
    · split at completed
      · obtain ⟨⟨begun, earlier⟩, found, filled⟩ := Option.bind_eq_some_iff.mp completed
        obtain ⟨earlier', -, same⟩ := Option.map_eq_some_iff.mp found
        cases same
        exact complete inRange filled
      · cases completed
  · obtain ⟨⟨begun, moment'⟩, found, filled⟩ := Option.bind_eq_some_iff.mp completed
    obtain ⟨fields', set, same⟩ := Option.map_eq_some_iff.mp found
    cases same
    exact complete (inRange.setSecond? set) filled

theorem eq_of_toOption {α : Type} {described : Except FieldFault α} {value : α}
    (found : described.toOption = some value) : described = .ok value := by
  cases described with
  | error fault => cases found
  | ok value' =>
    cases found
    rfl

/-- **A moment that fields describe lies within the calendar.** -/
theorem InRange.moment? (inRange : fields.InRange) {moment : Moment}
    (described : fields.moment? = some moment) : moment.InRange := by
  unfold Fields.moment? at described
  split at described
  · rename_i date time date_eq time_eq
    have whole : Moment.InRange ⟨date, time⟩ := ⟨inRange_date date_eq, inRange.time time_eq⟩
    dsimp only at described
    split at described
    · cases described
      exact whole
    · split at described
      · cases described
        exact whole
      · cases described
  · split at described
    · cases described
    · obtain ⟨-, described⟩ := Option.ite_none_left_eq_some.mp described
      obtain ⟨completed, set, described⟩ := Option.bind_eq_some_iff.mp described
      obtain ⟨date, dated, described⟩ := Option.bind_eq_some_iff.mp described
      obtain ⟨time, timed, same⟩ := Option.bind_eq_some_iff.mp described
      cases same
      exact ⟨inRange_date (eq_of_toOption dated),
        (inRange.completedBy? set).time (eq_of_toOption timed)⟩

end Fields

/-! ### Patterns -/

variable {fields after : Fields} {text rest : List Char} {moment : Moment}

theorem NumericField.inRange_scan? (inRange : fields.InRange) {field : NumericField}
    (read : field.scan? fields text = some (after, rest)) : after.InRange := by
  unfold NumericField.scan? at read
  dsimp only at read
  split at read
  · obtain ⟨number, -, read⟩ := Option.bind_eq_some_iff.mp read
    obtain ⟨fields', set, same⟩ := Option.bind_eq_some_iff.mp read
    cases same
    exact inRange.set? set
  · obtain ⟨number, -, read⟩ := Option.bind_eq_some_iff.mp read
    obtain ⟨fields', set, same⟩ := Option.bind_eq_some_iff.mp read
    cases same
    exact inRange.set? set

theorem inRange_scanExchange? (inRange : fields.InRange)
    (read : scanExchange? fields text = some (after, rest)) : after.InRange := by
  have offset {begun : Fields} {value : Int} {left : List Char} (started : begun.InRange)
      (set : (do
        let fields ← begun.setOffset? value
        return (fields, left)) = some (after, rest)) : after.InRange := by
    obtain ⟨fields', set', same⟩ := Option.bind_eq_some_iff.mp set
    cases same
    exact started.setOffset? set'
  unfold scanExchange? at read
  obtain ⟨⟨year, text⟩, here, read⟩ := Option.bind_eq_some_iff.mp read
  replace inRange := NumericField.inRange_scan? inRange here
  obtain ⟨text, -, read⟩ := Option.bind_eq_some_iff.mp read
  obtain ⟨⟨month, text⟩, here, read⟩ := Option.bind_eq_some_iff.mp read
  replace inRange := NumericField.inRange_scan? inRange here
  obtain ⟨text, -, read⟩ := Option.bind_eq_some_iff.mp read
  obtain ⟨⟨day, text⟩, here, read⟩ := Option.bind_eq_some_iff.mp read
  replace inRange := NumericField.inRange_scan? inRange here
  dsimp only at read
  split at read
  · split at read
    · obtain ⟨text, -, read⟩ := Option.bind_eq_some_iff.mp read
      obtain ⟨⟨hour, text⟩, here, read⟩ := Option.bind_eq_some_iff.mp read
      replace inRange := NumericField.inRange_scan? inRange here
      obtain ⟨text, -, read⟩ := Option.bind_eq_some_iff.mp read
      obtain ⟨⟨minute, text⟩, here, read⟩ := Option.bind_eq_some_iff.mp read
      replace inRange := NumericField.inRange_scan? inRange here
      obtain ⟨text, -, read⟩ := Option.bind_eq_some_iff.mp read
      obtain ⟨⟨second, text⟩, here, read⟩ := Option.bind_eq_some_iff.mp read
      replace inRange := NumericField.inRange_scan? inRange here
      -- There may be a fraction, and the offset may be a word.
      split at read
      · obtain ⟨⟨value, left⟩, -, read⟩ := Option.bind_eq_some_iff.mp read
        obtain ⟨nanosecond, set, read⟩ := Option.bind_eq_some_iff.mp read
        replace inRange := inRange.setNanosecond? set
        obtain ⟨⟨fields', text⟩, same, read⟩ := Option.bind_eq_some_iff.mp read
        cases same
        split at read
        · exact offset inRange read
        · obtain ⟨⟨value, left⟩, -, read⟩ := Option.bind_eq_some_iff.mp read
          exact offset inRange read
      · obtain ⟨⟨fields', text⟩, same, read⟩ := Option.bind_eq_some_iff.mp read
        cases same
        split at read
        · exact offset inRange read
        · obtain ⟨⟨value, left⟩, -, read⟩ := Option.bind_eq_some_iff.mp read
          exact offset inRange read
    · cases read
  · cases read

/-- **Whatever an item of a pattern reads, the fields stay within their ranges.** -/
theorem PatternItem.inRange_scan? (inRange : fields.InRange) {item : PatternItem}
    (read : item.scan? fields text = some (after, rest)) : after.InRange := by
  cases item with
  | literal c =>
    obtain ⟨left, -, same⟩ := Option.map_eq_some_iff.mp read
    cases same
    exact inRange
  | blank c =>
    cases read
    exact inRange
  | numeric field filling => exact NumericField.inRange_scan? inRange read
  | monthName long =>
    obtain ⟨⟨position, left⟩, -, read⟩ := Option.bind_eq_some_iff.mp read
    obtain ⟨fields', set, same⟩ := Option.bind_eq_some_iff.mp read
    cases same
    exact inRange.set? (show NumericField.month.set? _ fields = some after from set)
  | weekdayName long =>
    obtain ⟨⟨position, left⟩, -, read⟩ := Option.bind_eq_some_iff.mp read
    obtain ⟨fields', set, same⟩ := Option.bind_eq_some_iff.mp read
    cases same
    exact inRange.setWeekday? set
  | halfDay upper =>
    unfold PatternItem.scan? at read
    dsimp only at read
    split at read
    · obtain ⟨⟨half, left⟩, found, read⟩ := Option.bind_eq_some_iff.mp read
      cases found
      obtain ⟨fields', set, same⟩ := Option.bind_eq_some_iff.mp read
      cases same
      exact inRange.setHalfDay? (Nat.zero_le 1) set
    · obtain ⟨⟨half, left⟩, found, read⟩ := Option.bind_eq_some_iff.mp read
      obtain ⟨left', -, same⟩ := Option.map_eq_some_iff.mp found
      cases same
      obtain ⟨fields', set, same⟩ := Option.bind_eq_some_iff.mp read
      cases same
      exact inRange.setHalfDay? (Nat.le_refl 1) set
  | pointFraction width =>
    unfold PatternItem.scan? at read
    dsimp only at read
    split at read
    · split at read
      · obtain ⟨⟨value, left⟩, -, read⟩ := Option.bind_eq_some_iff.mp read
        obtain ⟨fields', set, same⟩ := Option.bind_eq_some_iff.mp read
        cases same
        exact inRange.setNanosecond? set
      · obtain ⟨⟨value, left⟩, -, read⟩ := Option.bind_eq_some_iff.mp read
        obtain ⟨fields', set, same⟩ := Option.bind_eq_some_iff.mp read
        cases same
        exact inRange.setNanosecond? set
    · cases read
      exact inRange
  | fraction width =>
    obtain ⟨⟨value, left⟩, -, read⟩ := Option.bind_eq_some_iff.mp read
    obtain ⟨fields', set, same⟩ := Option.bind_eq_some_iff.mp read
    cases same
    exact inRange.setNanosecond? set
  | zoneName =>
    cases read
    exact inRange
  | offset permissive =>
    obtain ⟨⟨value, left⟩, -, read⟩ := Option.bind_eq_some_iff.mp read
    obtain ⟨fields', set, same⟩ := Option.bind_eq_some_iff.mp read
    cases same
    exact inRange.setOffset? set
  | exchange => exact inRange_scanExchange? inRange read

theorem inRange_scanFrom? {pattern : Pattern} (inRange : fields.InRange)
    (read : scanFrom? fields pattern text = some after) : after.InRange := by
  induction pattern generalizing fields text with
  | nil =>
    rw [scanFrom?] at read
    split at read
    · cases read
      exact inRange
    · cases read
  | cons item items ih =>
    rw [scanFrom?] at read
    split at read
    · rename_i here
      exact ih (PatternItem.inRange_scan? inRange here) read
    · cases read

/-- **A moment that a text describes lies within the calendar.** -/
theorem Pattern.inRange_scan? {pattern : Pattern} (read : pattern.scan? text = some moment) :
    moment.InRange := by
  have start : TimeOfDay.midnight.InRange := by
    constructor
    · decide
    · decide
    · decide
    · decide
  have epoch_day : epoch.InRange := by
    constructor
    · decide
    · decide
  obtain ⟨fields, filled, read⟩ := Option.bind_eq_some_iff.mp read
  have inRange := inRange_scanFrom? Fields.inRange_empty filled
  split at read
  · rename_i described
    cases read
    exact inRange.moment? described
  · split at read
    · rename_i described
      cases read
      exact ⟨Fields.inRange_date described, start⟩
    · obtain ⟨time, timed, same⟩ := Option.map_eq_some_iff.mp read
      cases same
      exact ⟨epoch_day, inRange.time (Fields.eq_of_toOption timed)⟩

end FlatFile.Calendar
