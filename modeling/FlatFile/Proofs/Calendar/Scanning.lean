/-
  FlatFile/Proofs/Calendar/Scanning.lean
  ======================================
  **What is read from a text that was written by a plain pattern.**

  A number of fixed width ends where its digits do, whatever comes next.  A year with a sign
  takes all digits that follow; where the next character is a digit too, nothing tells where the
  year ends (`PlainPattern.runsOn`), and the text is not read at all.  Any other text fills in
  the fields that the pattern has, each with its value (`PlainPattern.scanFrom?_written`).

  Fields describe a day if year, month and day are among them, and a time if hour and minute are.
  So the moment that is read has the day or the epoch, and the time or midnight
  (`PlainPattern.scan?_written`).
-/
import FlatFile.Proofs.Calendar.Plain
import FlatFile.Proofs.Calendar.Range
import Mathlib.Data.List.TakeWhile

namespace FlatFile.Calendar

/-! ### Digits -/

/-- A text that does not begin with a digit. -/
def NoDigitAhead (text : List Char) : Prop := ∀ c ∈ text.head?, c.isDigit = false

instance (text : List Char) : Decidable (NoDigitAhead text) :=
  match text with
  | [] => isTrue nofun
  | c :: _ => decidable_of_iff (c.isDigit = false)
      ⟨fun letter _ first => Option.some.inj first ▸ letter, fun apart => apart c rfl⟩

theorem digitValue?_of_not_isDigit {c : Char} (letter : c.isDigit = false) :
    Text.digitValue? c = none := by
  have range : ¬ ('0' ≤ c ∧ c ≤ '9') := by
    intro range
    rw [Bool.eq_false_iff] at letter
    apply letter
    simp only [Char.isDigit, ge_iff_le, Bool.and_eq_true, decide_eq_true_eq]
    exact range
  rw [Text.digitValue?, if_neg range]

/-- Digits for which there is room are taken one by one. -/
theorem digitRun_append {digits : List Char} (all : ∀ c ∈ digits, c.isDigit = true)
    {most : Option Nat} {value count : Nat} (room : ∀ bound ∈ most, count + digits.length ≤ bound)
    (small : Nat.ofDigitChars 10 digits value ≤ greatestNumber) (rest : List Char) :
    digitRun most value count (digits ++ rest) =
      digitRun most (Nat.ofDigitChars 10 digits value) (count + digits.length) rest := by
  induction digits generalizing value count with
  | nil => rfl
  | cons c digits ih =>
    rcases List.forall_mem_cons.mp all with ⟨digit, others⟩
    rw [Nat.ofDigitChars_cons] at small ⊢
    rw [List.length_cons] at room ⊢
    have open_end : ¬ most = some count := by
      rintro rfl
      have := room count rfl
      omega
    have in_bounds : ¬ greatestNumber < value := by
      have grows := Text.le_ofDigitChars digits (10 * value + (c.toNat - '0'.toNat))
      omega
    have more := @ih others (10 * value + (c.toNat - '0'.toNat)) (count + 1)
      (fun bound here => by have := room bound here; omega) small
    rw [List.cons_append, digitRun, Text.digitValue?_of_isDigit digit]
    dsimp only
    rw [if_neg open_end, if_neg in_bounds, more]
    congr 1
    omega

theorem digitRun_stop {most : Option Nat} {value count : Nat} {rest : List Char}
    (ends : most = some count ∨ NoDigitAhead rest) :
    digitRun most value count rest = ⟨value, count, rest⟩ := by
  cases rest with
  | nil => rfl
  | cons c rest =>
    rw [digitRun]
    rcases ends with full | apart
    · split
      · rw [if_pos full]
      · rfl
    · rw [digitValue?_of_not_isDigit (apart c rfl)]

/-- **A number is read back from its digits**, if these are all that can be taken. -/
theorem number?_append {digits : List Char} (some_digit : digits ≠ [])
    (all : ∀ c ∈ digits, c.isDigit = true) {most : Option Nat}
    (room : ∀ bound ∈ most, digits.length ≤ bound) {rest : List Char}
    (ends : most = some digits.length ∨ NoDigitAhead rest)
    (small : Nat.ofDigitChars 10 digits 0 ≤ greatestNumber) :
    number? 1 most (digits ++ rest) =
      some ⟨Nat.ofDigitChars 10 digits 0, digits.length, rest⟩ := by
  have run : digitRun most 0 0 (digits ++ rest) =
      ⟨Nat.ofDigitChars 10 digits 0, digits.length, rest⟩ := by
    have taken := @digitRun_append digits all most 0 0 (by simpa using room) small rest
    rw [Nat.zero_add] at taken
    rw [taken, digitRun_stop ends]
  have count := List.length_pos_iff.mpr some_digit
  rw [number?, run]
  dsimp only
  rw [if_neg (by omega)]

theorem rest_digitRun (value count : Nat) (text : List Char) :
    (digitRun none value count text).rest = text.dropWhile Char.isDigit := by
  induction text generalizing value count with
  | nil => rfl
  | cons c text ih =>
    rw [digitRun]
    by_cases digit : c.isDigit = true
    · rw [Text.digitValue?_of_isDigit digit, List.dropWhile_cons_of_pos digit]
      dsimp only
      rw [if_neg (Option.some_ne_none count).symm, ih]
    · rw [digitValue?_of_not_isDigit (Bool.eq_false_iff.mpr digit),
        List.dropWhile_cons_of_neg digit]

theorem rest_of_number? {least : Nat} {text : List Char} {run : DigitRun}
    (read : number? least none text = some run) : run.rest = text.dropWhile Char.isDigit := by
  unfold number? at read
  dsimp only at read
  split at read
  · cases read
  · cases read
    exact rest_digitRun 0 0 text

/-! ### Years -/

theorem signedNumber?_unsigned {c : Char} {text : List Char} (digit : c.isDigit = true)
    (most : Option Nat) :
    signedNumber? most (c :: text) =
      (number? 1 most (c :: text)).map fun run => ((run.value : Int), run.rest) := by
  unfold signedNumber?
  split
  · rename_i same
    cases same
    cases digit
  · rename_i same
    cases same
    cases digit
  · rfl

theorem signedNumber?_short {year : Int} (short : IsShortYear year) (rest : List Char) :
    signedNumber? (some 4) (writtenYear .zeros year ++ rest) = some (year, rest) := by
  have small : year.toNat < 10000 := by
    have := short.2
    omega
  have width := length_filled (by decide) (show year.toNat < Nat.pow 10 4 from small)
  have read := @number?_append (filled .zeros 4 (Text.decimal year.toNat)) (filled_ne_nil _ _)
    (fun _ inside => isDigit_of_mem_filled inside) (some 4) (by simp [width]) rest
    (.inl (by rw [width])) (by rw [ofDigitChars_filled, greatestNumber]; omega)
  rw [ofDigitChars_filled] at read
  rw [writtenYear_of_short short]
  obtain ⟨c, digits, shape⟩ := List.exists_cons_of_ne_nil (filled_ne_nil 4 year.toNat)
  have digit : c.isDigit = true := isDigit_of_mem_filled (shape ▸ List.mem_cons_self)
  rw [shape, List.cons_append] at read ⊢
  rw [signedNumber?_unsigned digit, read, Option.map_some, Int.toNat_of_nonneg short.1]

/-- A year with a sign is read by its digits and all that follow. -/
theorem signedNumber?_long {year : Int} (long : ¬ IsShortYear year) (most : Option Nat)
    (rest : List Char) :
    signedNumber? most (writtenYear .zeros year ++ rest) =
      (number? 1 none (filled .zeros 4 (Text.decimal year.natAbs) ++ rest)).map fun run =>
        (if year < 0 then -(run.value : Int) else run.value, run.rest) := by
  rw [writtenYear_of_long long, List.cons_append]
  by_cases negative : year < 0
  · simp only [if_pos negative, signedNumber?]
  · simp only [if_neg negative, signedNumber?]

theorem signedNumber?_long_of_noDigit {year : Int} (long : ¬ IsShortYear year)
    (small : year.natAbs ≤ greatestNumber) (most : Option Nat) {rest : List Char}
    (apart : NoDigitAhead rest) :
    signedNumber? most (writtenYear .zeros year ++ rest) = some (year, rest) := by
  have read := @number?_append (filled .zeros 4 (Text.decimal year.natAbs)) (filled_ne_nil _ _)
    (fun _ inside => isDigit_of_mem_filled inside) none nofun rest (.inr apart)
    (by rwa [ofDigitChars_filled])
  rw [ofDigitChars_filled] at read
  rw [signedNumber?_long long, read, Option.map_some]
  dsimp only
  congr 2
  split
  · omega
  · omega

theorem rest_of_signedNumber?_long {year value : Int} (long : ¬ IsShortYear year)
    {most : Option Nat} {rest left : List Char}
    (read : signedNumber? most (writtenYear .zeros year ++ rest) = some (value, left)) :
    left = rest.dropWhile Char.isDigit := by
  rw [signedNumber?_long long] at read
  obtain ⟨run, found, same⟩ := Option.map_eq_some_iff.mp read
  cases same
  have digits : (filled .zeros 4 (Text.decimal year.natAbs)).dropWhile Char.isDigit = [] :=
    List.dropWhile_eq_nil_iff.mpr fun _ inside => isDigit_of_mem_filled inside
  rw [rest_of_number? found, List.dropWhile_append, digits]
  rfl

/-! ### Moments -/

/-- A moment that the calendar and the clock have; only the last second of a minute may be a leap
    second. -/
structure Moment.Exists (moment : Moment) : Prop where
  date : Date.ofYearMonthDay? moment.date.year moment.date.month moment.date.day =
    some moment.date
  time : moment.time.InRange
  leap : nanosPerSecond ≤ moment.time.fraction → moment.time.second = 59

instance (time : TimeOfDay) : Decidable time.InRange :=
  decidable_of_iff
    (time.hour < 24 ∧ time.minute < 60 ∧ time.second < 60 ∧ time.fraction < 2 * nanosPerSecond)
    ⟨fun ⟨hour, minute, second, fraction⟩ => ⟨hour, minute, second, fraction⟩,
      fun inRange => ⟨inRange.hour, inRange.minute, inRange.second, inRange.fraction⟩⟩

instance (moment : Moment) : Decidable moment.Exists :=
  decidable_of_iff
    (Date.ofYearMonthDay? moment.date.year moment.date.month moment.date.day = some moment.date
      ∧ moment.time.InRange
      ∧ (nanosPerSecond ≤ moment.time.fraction → moment.time.second = 59))
    ⟨fun ⟨date, time, leap⟩ => ⟨date, time, leap⟩,
      fun exist => ⟨exist.date, exist.time, exist.leap⟩⟩

variable {moment : Moment}

theorem Moment.Exists.given (exist : moment.Exists) :
    firstYear ≤ moment.date.year ∧ moment.date.year ≤ lastYear ∧ 1 ≤ moment.date.day
      ∧ moment.date.day ≤ daysInMonth moment.date.year moment.date.month := by
  have date := exist.date
  rw [Date.ofYearMonthDay?] at date
  exact (Option.ite_none_right_eq_some.mp date).1

theorem Moment.Exists.month (exist : moment.Exists) :
    1 ≤ moment.date.month ∧ moment.date.month ≤ 12 := by
  refine ⟨?_, (Date.inRange_ofYearMonthDay? exist.date).month⟩
  obtain ⟨-, -, first, last⟩ := exist.given
  rw [daysInMonth] at last
  split at last
  · omega
  · omega

theorem Moment.Exists.day_le (exist : moment.Exists) : moment.date.day ≤ 31 :=
  (Date.inRange_ofYearMonthDay? exist.date).day

theorem Moment.Exists.shownSecond (exist : moment.Exists) : moment.time.shownSecond ≤ 60 := by
  have second := exist.time.second
  have fraction := exist.time.fraction
  have leap := exist.leap
  unfold TimeOfDay.shownSecond
  unfold nanosPerSecond at *
  by_cases late : 1000000000 ≤ moment.time.fraction
  · have := leap late
    omega
  · omega

/-! ### Fields -/

namespace Fields

/-- The fields of a moment, as far as they are known. -/
def told (known : List PlainField) (moment : Moment) : Fields where
  year := if .year ∈ known then some moment.date.year else none
  month := if .month ∈ known then some moment.date.month else none
  day := if .day ∈ known then some moment.date.day else none
  halfDay := if .hour ∈ known then some (moment.time.hour / 12) else none
  hourOfHalf := if .hour ∈ known then some (moment.time.hour % 12) else none
  minute := if .minute ∈ known then some moment.time.minute else none
  second := if .second ∈ known then some moment.time.shownSecond else none

theorem told_nil (moment : Moment) : told [] moment = {} := rfl

/-- Only which fields are known matters. -/
theorem told_congr {known others : List PlainField} (same : ∀ field, field ∈ known ↔ field ∈ others)
    (moment : Moment) : told known moment = told others moment := by
  simp only [told, same]

theorem agree?_known {α : Type} [DecidableEq α] {known : Prop} [Decidable known] (value : α) :
    agree? (if known then some value else none) value = some (some value) := by
  split
  · rw [agree?, if_pos rfl]
  · rfl

theorem within?_eq_some {low high n : Nat} (least : low ≤ n) (greatest : n ≤ high) :
    within? low high n = some n := by
  rw [within?, if_pos ⟨Int.ofNat_le.mpr least, Int.ofNat_le.mpr greatest⟩, Int.toNat_natCast]

/-- **A field that is filled in with its value is known from then on**, also if it was before. -/
theorem set?_told (exist : moment.Exists) (known : List PlainField) (field : PlainField) :
    field.numeric.set? (field.value moment) (told known moment) =
      some (told (field :: known) moment) := by
  obtain ⟨first, last, day_pos, -⟩ := exist.given
  obtain ⟨month_pos, month_le⟩ := exist.month
  cases field with
  | year =>
    have number : yearNumber? moment.date.year = some moment.date.year := by
      rw [yearNumber?, if_pos]
      unfold firstYear at first
      unfold lastYear at last
      unfold greatestYear
      omega
    simp [PlainField.numeric, PlainField.value, NumericField.set?, setYear?, number, told,
      agree?_known]
  | month =>
    have within := within?_eq_some month_pos month_le
    simp [PlainField.numeric, PlainField.value, NumericField.set?, setMonth?, within, told,
      agree?_known]
  | day =>
    have within := within?_eq_some day_pos exist.day_le
    simp [PlainField.numeric, PlainField.value, NumericField.set?, setDay?, within, told,
      agree?_known]
  | hour =>
    have within := within?_eq_some (Nat.zero_le _) (Nat.le_of_lt_succ exist.time.hour)
    simp [PlainField.numeric, PlainField.value, NumericField.set?, setHour?, within, told,
      agree?_known]
  | minute =>
    have within := within?_eq_some (Nat.zero_le _) (Nat.le_of_lt_succ exist.time.minute)
    simp [PlainField.numeric, PlainField.value, NumericField.set?, setMinute?, within, told,
      agree?_known]
  | second =>
    have within := within?_eq_some (Nat.zero_le _) exist.shownSecond
    simp [PlainField.numeric, PlainField.value, NumericField.set?, setSecond?, within, told,
      agree?_known]

end Fields

/-! ### Items -/

namespace PlainField

/-- **All fields but the year are written with two digits.** -/
theorem written_eq (exist : moment.Exists) {field : PlainField} (other : field ≠ .year) :
    ∃ n : Nat, n < 100 ∧ field.value moment = n
      ∧ field.written moment = filled .zeros 2 (Text.decimal n) := by
  have month := exist.month.2
  have day := exist.day_le
  have hour := exist.time.hour
  have minute := exist.time.minute
  have second := exist.shownSecond
  cases field with
  | year => exact absurd rfl other
  | month => exact ⟨moment.date.month, by omega, rfl, writtenTwo_eq (by omega)⟩
  | day => exact ⟨moment.date.day, by omega, rfl, writtenTwo_eq (by omega)⟩
  | hour => exact ⟨moment.time.hour, by omega, rfl, writtenTwo_eq (by omega)⟩
  | minute => exact ⟨moment.time.minute, by omega, rfl, writtenTwo_eq (by omega)⟩
  | second => exact ⟨moment.time.shownSecond, by omega, rfl, writtenTwo_eq (by omega)⟩

theorem numeric_ne {field : PlainField} (other : field ≠ .year) :
    ¬ (field.numeric = .year ∨ field.numeric = .isoYear) ∧ field.numeric.digits = some 2 := by
  cases field with
  | year => exact absurd rfl other
  | month => decide
  | day => decide
  | hour => decide
  | minute => decide
  | second => decide

theorem written_ne_nil (exist : moment.Exists) (field : PlainField) : field.written moment ≠ [] := by
  by_cases year : field = .year
  · subst year
    change writtenYear .zeros moment.date.year ≠ []
    by_cases short : IsShortYear moment.date.year
    · rw [writtenYear_of_short short]
      exact filled_ne_nil _ _
    · rw [writtenYear_of_long short]
      exact List.cons_ne_nil _ _
  · obtain ⟨n, -, -, written⟩ := written_eq exist year
    rw [written]
    exact filled_ne_nil _ _

/-- A field is written without blanks. -/
theorem ink_written (exist : moment.Exists) {field : PlainField} {c : Char}
    (inside : c ∈ field.written moment) : Text.isBlankChar c = false := by
  by_cases year : field = .year
  · subst year
    change c ∈ writtenYear .zeros moment.date.year at inside
    by_cases short : IsShortYear moment.date.year
    · rw [writtenYear_of_short short] at inside
      exact Text.isBlankChar_of_isDigit (isDigit_of_mem_filled inside)
    · rw [writtenYear_of_long short] at inside
      rcases List.mem_cons.mp inside with rfl | digit
      · split
        · decide
        · decide
      · exact Text.isBlankChar_of_isDigit (isDigit_of_mem_filled digit)
  · obtain ⟨n, -, -, written⟩ := written_eq exist year
    rw [written] at inside
    exact Text.isBlankChar_of_isDigit (isDigit_of_mem_filled inside)

/-- **A field is read back from what it writes**; a year with a sign needs something other than a
    digit behind it. -/
theorem scan?_written (exist : moment.Exists) (known : List PlainField) {field : PlainField}
    {rest : List Char} (ink : ∀ c ∈ rest, Text.isBlankChar c = false)
    (ends : field = .year → IsShortYear moment.date.year ∨ NoDigitAhead rest) :
    field.numeric.scan? (Fields.told known moment) (field.written moment ++ rest) =
      some (Fields.told (field :: known) moment, rest) := by
  have start : Text.trimStart (field.written moment ++ rest) = field.written moment ++ rest := by
    apply Text.trimStart_eq_self
    exact List.forall_mem_append.mpr ⟨fun c inside => ink_written exist inside, ink⟩
  have set := Fields.set?_told exist known field
  rw [NumericField.scan?, start]
  by_cases year : field = .year
  · subst year
    have read : signedNumber? (some 4) (writtenYear .zeros moment.date.year ++ rest) =
        some (moment.date.year, rest) := by
      by_cases short : IsShortYear moment.date.year
      · exact signedNumber?_short short rest
      · apply signedNumber?_long_of_noDigit short
        · obtain ⟨first, last, -⟩ := exist.given
          unfold firstYear at first
          unfold lastYear at last
          unfold greatestNumber
          omega
        · exact (ends rfl).resolve_left short
    rw [if_pos (.inl rfl)]
    change (signedNumber? (some 4) (writtenYear .zeros moment.date.year ++ rest)).bind _ = _
    rw [read, Option.bind_some]
    change (NumericField.set? .year moment.date.year _).bind _ = _
    rw [show NumericField.set? .year moment.date.year _ = _ from set]
    rfl
  · obtain ⟨other, digits⟩ := numeric_ne year
    obtain ⟨n, small, value, written⟩ := written_eq exist year
    have width := length_filled (by decide) (show n < Nat.pow 10 2 from small)
    have read := @number?_append (filled .zeros 2 (Text.decimal n)) (filled_ne_nil _ _)
      (fun _ inside => isDigit_of_mem_filled inside) (some 2) (by simp [width]) rest
      (.inl (by rw [width])) (by rw [ofDigitChars_filled, greatestNumber]; omega)
    rw [ofDigitChars_filled, ← written] at read
    rw [if_neg other, digits, read, Option.map_some]
    rw [value] at set
    change (field.numeric.set? (n : Int) _).bind _ = _
    rw [set]
    rfl

/-- Nothing is read where no digit is, but for the sign of a year. -/
theorem scan?_of_noDigit {field : PlainField} (other : field ≠ .year) {text : List Char}
    (ink : ∀ c ∈ text, Text.isBlankChar c = false) (apart : NoDigitAhead text) (fields : Fields) :
    field.numeric.scan? fields text = none := by
  obtain ⟨not_year, digits⟩ := numeric_ne other
  have nothing : number? 1 (some 2) text = none := by
    rw [number?, digitRun_stop (.inr apart)]
    rfl
  rw [NumericField.scan?, Text.trimStart_eq_self ink, if_neg not_year, digits, nothing]
  rfl

end PlainField

namespace PlainPattern

theorem ink_written (exist : moment.Exists) (pattern : PlainPattern) :
    ∀ c ∈ pattern.written moment, Text.isBlankChar c = false := by
  intro c inside
  obtain ⟨item, -, inside⟩ := List.mem_flatMap.mp inside
  cases item with
  | field part => exact PlainField.ink_written exist inside
  | mark d ink =>
    rw [List.mem_singleton.mp inside]
    exact ink

/-- **A year with a sign stands in front of a digit**: nothing tells where it ends. -/
def runsOn (moment : Moment) : PlainPattern → Bool
  | [] => false
  | item :: pattern =>
    decide (item = .field .year ∧ ¬ IsShortYear moment.date.year
      ∧ ¬ NoDigitAhead (written pattern moment)) || runsOn moment pattern

theorem runsOn_of_short (short : IsShortYear moment.date.year) (pattern : PlainPattern) :
    pattern.runsOn moment = false := by
  induction pattern with
  | nil => rfl
  | cons item pattern ih => simp [runsOn, short, ih]

/-- What follows a year that has taken the digits in front of it is not read: it begins with a
    digit, and none is left. -/
theorem scanFrom?_run_on (exist : moment.Exists) {pattern : PlainPattern}
    (long : ¬ IsShortYear moment.date.year)
    (digit_ahead : ¬ NoDigitAhead (pattern.written moment)) (fields : Fields) :
    scanFrom? fields pattern.items ((pattern.written moment).dropWhile Char.isDigit) = none := by
  have ink : ∀ c ∈ (pattern.written moment).dropWhile Char.isDigit, Text.isBlankChar c = false :=
    fun c inside => ink_written exist pattern c ((List.dropWhile_suffix _).subset inside)
  have apart : NoDigitAhead ((pattern.written moment).dropWhile Char.isDigit) := by
    intro c first
    have stops := List.head?_dropWhile_not Char.isDigit (pattern.written moment)
    rw [Option.mem_def.mp first] at stops
    exact stops
  cases pattern with
  | nil => exact absurd nofun digit_ahead
  | cons item pattern =>
    generalize left : (written (item :: pattern) moment).dropWhile Char.isDigit = text at ink apart
    have first : item.item.scan? fields text = none := by
      cases item with
      | field part =>
        apply PlainField.scan?_of_noDigit ?_ ink apart
        rintro rfl
        -- The year begins with its sign.
        apply digit_ahead
        rw [written_cons]
        change NoDigitAhead (writtenYear .zeros moment.date.year ++ _)
        rw [writtenYear_of_long long]
        rintro c ⟨⟩
        split
        · rfl
        · rfl
      | mark c mark_ink =>
        have digit : c.isDigit = true := by
          rw [← Bool.not_eq_false]
          intro letter
          apply digit_ahead
          rintro d ⟨⟩
          exact letter
        change (Text.after? [c] text).map _ = none
        cases text with
        | nil => rfl
        | cons d text =>
          have other : c ≠ d := by
            rintro rfl
            rw [apart c rfl] at digit
            cases digit
          rw [Text.after?, if_neg other]
          rfl
    rw [items, List.map_cons, scanFrom?, first]

/-- A year that runs on leaves nothing to read. -/
theorem scanFrom?_year_run_on (exist : moment.Exists) {pattern : PlainPattern}
    (long : ¬ IsShortYear moment.date.year)
    (digit_ahead : ¬ NoDigitAhead (pattern.written moment)) (fields : Fields) :
    scanFrom? fields (items (.field .year :: pattern)) (written (.field .year :: pattern) moment) =
      none := by
  have start : Text.trimStart (written (.field .year :: pattern) moment) =
      written (.field .year :: pattern) moment :=
    Text.trimStart_eq_self (ink_written exist _)
  rw [items, List.map_cons, ← items, scanFrom?]
  generalize read : (PlainItem.field .year).item.scan? fields _ = result
  cases result with
  | none => rfl
  | some taken =>
    obtain ⟨after, rest⟩ := taken
    change NumericField.year.scan? fields _ = some (after, rest) at read
    rw [NumericField.scan?, start, if_pos (.inl rfl), written_cons] at read
    obtain ⟨⟨value, left⟩, number, read⟩ := Option.bind_eq_some_iff.mp read
    obtain ⟨set, -, same⟩ := Option.bind_eq_some_iff.mp read
    cases same
    rw [rest_of_signedNumber?_long long number]
    exact scanFrom?_run_on exist long digit_ahead after

/-- **What is read from the text of a moment**: its fields, as far as the pattern has them, or
    nothing if a year runs on. -/
theorem scanFrom?_written (exist : moment.Exists) (pattern : PlainPattern)
    (known : List PlainField) :
    scanFrom? (Fields.told known moment) pattern.items (pattern.written moment) =
      if pattern.runsOn moment then none
      else some (Fields.told (pattern.fields.reverse ++ known) moment) := by
  -- The fields read so far are part of what is known, so the induction is over all of that.
  induction pattern generalizing known with
  | nil => rfl
  | cons item pattern ih =>
    have ink := ink_written exist pattern
    cases item with
    | mark c mark_ink =>
      have first : (PlainItem.mark c mark_ink).item.scan? (Fields.told known moment)
          ((PlainItem.mark c mark_ink).written moment ++ written pattern moment) =
          some (Fields.told known moment, written pattern moment) := by
        change (Text.after? [c] (c :: written pattern moment)).map _ = _
        rw [Text.after?, if_pos rfl]
        rfl
      have same : runsOn moment (.mark c mark_ink :: pattern) = runsOn moment pattern := by
        simp [runsOn]
      rw [items, List.map_cons, ← items, written_cons, scanFrom?, first, same]
      exact ih known
    | field part =>
      by_cases stuck : part = .year ∧ ¬ IsShortYear moment.date.year
          ∧ ¬ NoDigitAhead (written pattern moment)
      · obtain ⟨rfl, long, digit_ahead⟩ := stuck
        have runs_on : runsOn moment (.field .year :: pattern) = true := by
          simp [runsOn, long, digit_ahead]
        rw [runs_on, if_pos rfl]
        exact scanFrom?_year_run_on exist long digit_ahead _
      · have ends : part = .year →
            IsShortYear moment.date.year ∨ NoDigitAhead (written pattern moment) := by
          intro year
          by_contra neither
          exact stuck ⟨year, not_or.mp neither⟩
        have same : runsOn moment (.field part :: pattern) = runsOn moment pattern := by
          have apart : ¬ (PlainItem.field part = .field .year ∧ ¬ IsShortYear moment.date.year
              ∧ ¬ NoDigitAhead (written pattern moment)) := by
            rw [PlainItem.field.injEq]
            exact stuck
          rw [runsOn, decide_eq_false apart, Bool.false_or]
        have first : (PlainItem.field part).item.scan? (Fields.told known moment)
            ((PlainItem.field part).written moment ++ written pattern moment) =
            some (Fields.told (part :: known) moment, written pattern moment) :=
          PlainField.scan?_written exist known ink ends
        have more : (fields (.field part :: pattern)).reverse ++ known =
            (fields pattern).reverse ++ part :: known := by
          change (part :: fields pattern).reverse ++ known = _
          rw [List.reverse_cons, List.append_assoc, List.singleton_append]
        rw [items, List.map_cons, ← items, written_cons, scanFrom?, first, same, more]
        exact ih (part :: known)

end PlainPattern

/-! ### Moments that are read back -/

/-- The fields of a day. -/
def TellsDay (known : List PlainField) : Prop := .year ∈ known ∧ .month ∈ known ∧ .day ∈ known

instance (known : List PlainField) : Decidable (TellsDay known) :=
  inferInstanceAs (Decidable (_ ∧ _))

/-- The fields of a time. -/
def TellsTime (known : List PlainField) : Prop := .hour ∈ known ∧ .minute ∈ known

instance (known : List PlainField) : Decidable (TellsTime known) :=
  inferInstanceAs (Decidable (_ ∧ _))

/-- A time as fields keep it: whole seconds, if these are among them, and whole minutes if not. -/
def TimeOfDay.kept (known : List PlainField) (time : TimeOfDay) : TimeOfDay :=
  if .second ∈ known then
    ⟨time.hour, time.minute, time.second, nanosPerSecond * (time.fraction / nanosPerSecond)⟩
  else ⟨time.hour, time.minute, 0, 0⟩

/-- **The moment that is read from fields of another one**: without the fields of a time it is the
    start of the day, without those of a day a time of the epoch. -/
def Moment.kept? (known : List PlainField) (moment : Moment) : Option Moment :=
  if TellsDay known then
    some ⟨moment.date, if TellsTime known then moment.time.kept known else .midnight⟩
  else if TellsTime known then some ⟨epoch, moment.time.kept known⟩
  else none

namespace Fields

theorem date_told (exist : moment.Exists) (known : List PlainField) :
    (told known moment).date =
      if TellsDay known then .ok moment.date else .error .notEnough := by
  have whole := exist.date
  by_cases tells : TellsDay known
  · obtain ⟨year, month, day⟩ := tells
    rw [if_pos (show TellsDay known from ⟨year, month, day⟩)]
    simp [Fields.date, told, resolveYear, dayOf, year, month, day, whole, existing, verified,
      fitsIsoWeek, fitsOrdinal, fits, fitsYearParts]
  · rw [if_neg tells]
    unfold TellsDay at tells
    by_cases year : .year ∈ known
    · by_cases month : .month ∈ known
      · have day : .day ∉ known := fun day => tells ⟨year, month, day⟩
        simp [Fields.date, told, resolveYear, dayOf, year, day, verified]
      · simp [Fields.date, told, resolveYear, dayOf, year, month, verified]
    · simp [Fields.date, told, resolveYear, dayOf, year, verified]

/-- A leap second is read as such. -/
theorem shownSecond_kept (exist : moment.Exists) :
    (if moment.time.shownSecond = 60 then 59 else moment.time.shownSecond) = moment.time.second
      ∧ (if moment.time.shownSecond = 60 then nanosPerSecond else 0) =
        nanosPerSecond * (moment.time.fraction / nanosPerSecond) := by
  have second := exist.time.second
  have fraction := exist.time.fraction
  have leap := exist.leap
  unfold TimeOfDay.shownSecond
  unfold nanosPerSecond at *
  by_cases late : 1000000000 ≤ moment.time.fraction
  · have last := leap late
    have one : moment.time.fraction / 1000000000 = 1 := by omega
    rw [last, one]
    exact ⟨rfl, rfl⟩
  · have none_over : moment.time.fraction / 1000000000 = 0 := by omega
    rw [none_over, Nat.add_zero, if_neg (by omega), if_neg (by omega)]
    exact ⟨rfl, rfl⟩

theorem time_told (exist : moment.Exists) (known : List PlainField) :
    (told known moment).time =
      if TellsTime known then .ok (moment.time.kept known) else .error .notEnough := by
  by_cases tells : TellsTime known
  · obtain ⟨hour, minute⟩ := tells
    have whole : 12 * (moment.time.hour / 12) + moment.time.hour % 12 = moment.time.hour :=
      Nat.div_add_mod _ _
    obtain ⟨second_eq, fraction_eq⟩ := shownSecond_kept exist
    rw [if_pos (show TellsTime known from ⟨hour, minute⟩), TimeOfDay.kept, ← second_eq,
      ← fraction_eq]
    by_cases second : .second ∈ known
    · simp [Fields.time, told, hour, minute, second, whole]
    · simp [Fields.time, told, hour, minute, second, whole]
  · rw [if_neg tells]
    unfold TellsTime at tells
    by_cases hour : .hour ∈ known
    · have minute : .minute ∉ known := fun minute => tells ⟨hour, minute⟩
      simp [Fields.time, told, hour, minute]
    · simp [Fields.time, told, hour]

end Fields

/-- **A text that a plain pattern wrote is read as far as its fields tell the moment**, unless a
    year runs on. -/
theorem PlainPattern.scan?_written (exist : moment.Exists) (pattern : PlainPattern) :
    Pattern.scan? pattern.items (pattern.written moment) =
      if pattern.runsOn moment then none else moment.kept? pattern.fields := by
  have filled := scanFrom?_written exist pattern []
  rw [Fields.told_nil, List.append_nil] at filled
  rw [Pattern.scan?, filled]
  by_cases runs_on : pattern.runsOn moment = true
  · rw [if_pos runs_on, if_pos runs_on]
    rfl
  · have same := Fields.told_congr (fun field => @List.mem_reverse _ field pattern.fields) moment
    have no_timestamp : (Fields.told pattern.fields moment).timestamp = none := rfl
    rw [if_neg runs_on, if_neg runs_on, same, Option.bind_eq_bind, Option.bind_some, Fields.moment?,
      Fields.date_told exist, Fields.time_told exist, no_timestamp, Moment.kept?]
    by_cases day : TellsDay pattern.fields
    · by_cases time : TellsTime pattern.fields
      · simp [day, time]
      · simp [day, time]
    · by_cases time : TellsTime pattern.fields
      · simp [day, time, Except.toOption]
      · simp [day, time, Except.toOption]

end FlatFile.Calendar
