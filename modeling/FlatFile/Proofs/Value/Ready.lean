/-
  FlatFile/Proofs/Value/Ready.lean
  ================================
  **When the value of a column can be put into a document as it is.**

  A document gets what a converter makes of a value without a further look at it.
  Numbers are written with digits and a sign.  Dates are written with digits, signs and
  names, apart from two things: what stands in the pattern for itself, and a century of
  more than two digits, whose tens are one character (`PatternItem.IsTame`).  Text that is
  neither goes through unchanged, and has to be ready already (`Converter.Tame`); only the
  values of columns without a converter, and of those that are just escaped, are ready
  whatever the text is.
-/
import FlatFile.Proofs.Calendar.Range
import FlatFile.Proofs.Markup.Ready
import FlatFile.Proofs.Text.Numerals
import FlatFile.Value.Table
import Mathlib.Data.List.TakeWhile

namespace FlatFile

open Markup

/-- Nothing in a text means something to markup. -/
def Plain (text : List Char) : Prop := ∀ c ∈ text, isPlain c = true

instance (text : List Char) : Decidable (Plain text) := List.decidableBAll _ text

/-! ### Numerals -/

theorem isPlain_of_isDigit {c : Char} (digit : c.isDigit = true) : isPlain c = true := by
  have other {d : Char} (not_digit : d.isDigit = false) : c ≠ d := by
    rintro rfl
    rw [digit] at not_digit
    cases not_digit
  simp only [isPlain, Bool.and_eq_true, bne_iff_ne]
  exact ⟨⟨other (by decide), other (by decide)⟩, other (by decide)⟩

theorem plain_decimal (n : Nat) : Plain (Text.decimal n) :=
  fun _ inside => isPlain_of_isDigit (Text.isDigit_of_mem_decimal inside)

theorem plain_signedDecimal (value : Int) : Plain (Text.signedDecimal value) := by
  cases value with
  | ofNat n => exact plain_decimal n
  | negSucc n => exact List.forall_mem_cons.mpr ⟨by decide, plain_decimal (n + 1)⟩

theorem isPlain_of_isBlankChar {c : Char} (blank : Text.isBlankChar c = true) :
    isPlain c = true := by
  have other {d : Char} (ink : Text.isBlankChar d = false) : c ≠ d := by
    rintro rfl
    rw [blank] at ink
    cases ink
  simp only [isPlain, Bool.and_eq_true, bne_iff_ne]
  exact ⟨⟨other (by decide), other (by decide)⟩, other (by decide)⟩

/-! ### Moments -/

namespace Calendar

theorem plain_replicate (count : Nat) {c : Char} (plain : isPlain c = true) :
    Plain (List.replicate count c) := by
  intro d inside
  rw [List.eq_of_mem_replicate inside]
  exact plain

theorem plain_filled (filling : Filling) (width : Nat) {digits : List Char}
    (plain : Plain digits) : Plain (filled filling width digits) := by
  cases filling with
  | nothing => exact plain
  | zeros => exact List.forall_mem_append.mpr ⟨plain_replicate _ (by decide), plain⟩
  | spaces => exact List.forall_mem_append.mpr ⟨plain_replicate _ (by decide), plain⟩

theorem plain_filledSigned (filling : Filling) (width : Nat) (plus : Bool) (value : Int) :
    Plain (filledSigned filling width plus value) := by
  have sign : Plain (if value < 0 then ['-'] else if plus then ['+'] else []) := by
    split
    · decide
    · cases plus with
      | true => decide
      | false => decide
  have digits := plain_decimal value.natAbs
  have signed := List.forall_mem_append.mpr ⟨sign, digits⟩
  unfold filledSigned
  cases filling with
  | nothing => exact signed
  | zeros => exact List.forall_mem_append.mpr ⟨sign, plain_filled _ _ digits⟩
  | spaces => exact plain_filled .spaces width signed

theorem plain_writtenYear (filling : Filling) (year : Int) : Plain (writtenYear filling year) := by
  unfold writtenYear
  split
  · exact plain_filledSigned _ _ _ _
  · exact plain_filledSigned _ _ _ _

/-- From a hundred on, tens are written in one character each, and those of 120 as `<`. -/
theorem plain_writtenTwo (filling : Filling) {value : Nat} (small : value < 120) :
    Plain (writtenTwo filling value) := by
  have places : ∀ n < 12, isPlain (Char.ofNat ('0'.toNat + n)) = true := by decide
  have octet : value % 256 = value := Nat.mod_eq_of_lt (by omega)
  have ones := places (value % 10) (by omega)
  have tens := places (value / 10) (by omega)
  have zero : isPlain '0' = true := by decide
  have space : isPlain ' ' = true := by decide
  unfold writtenTwo
  simp only [octet]
  split
  · cases filling with
    | nothing => simpa [Plain] using ones
    | zeros => simpa [Plain, zero] using ones
    | spaces => simpa [Plain, space] using ones
  · simpa [Plain] using ⟨tens, ones⟩

theorem plain_writtenName (long : Bool) {names : List String}
    (plain : ∀ name ∈ names, Plain name.toList) (position : Nat) :
    Plain (writtenName long names position) := by
  have name : Plain (names.getD position "").toList := by
    rw [List.getD_eq_getElem?_getD]
    cases found : names[position]? with
    | none => decide
    | some name => exact plain name (List.mem_of_getElem? found)
  cases long with
  | true => exact name
  | false => exact fun c inside => name c (List.mem_of_mem_take inside)

theorem plain_writtenFraction (width nanoseconds : Nat) :
    Plain (writtenFraction width nanoseconds) :=
  plain_filled _ _ (plain_decimal _)

/-- **What an item writes of a moment means nothing to markup**: it does not write itself,
    or is harmless, and a century has tens that are a digit, or nearly so. -/
def PatternItem.IsTame (moment : Moment) : PatternItem → Prop
  | .literal c | .blank c => isPlain c = true
  | .numeric .century _ => 0 ≤ moment.date.year ∧ moment.date.year < 12000
  | _ => True

variable {moment : Moment}

theorem NumericField.plain_written (inRange : moment.InRange) {field : NumericField}
    {filling : Filling} (tame : PatternItem.IsTame moment (.numeric field filling)) :
    Plain (field.written filling moment) := by
  have month := inRange.date.month
  have day := inRange.date.day
  have weeks := inRange.date.weekFrom_lt
  have isoWeek := moment.date.isoWeek_lt
  have hour := inRange.time.hour
  have minute := inRange.time.minute
  have second := inRange.time.shownSecond_lt
  cases field with
  | year => exact plain_writtenYear _ _
  | century =>
    have years : 0 ≤ moment.date.year ∧ moment.date.year < 12000 := tame
    apply plain_writtenTwo
    unfold octetOf
    omega
  | yearOfCentury => exact plain_writtenTwo _ (by omega)
  | isoYear => exact plain_writtenYear _ _
  | isoYearOfCentury => exact plain_writtenTwo _ (by omega)
  | quarter => exact plain_decimal _
  | month => exact plain_writtenTwo _ (by omega)
  | day => exact plain_writtenTwo _ (by omega)
  | weekFromSunday => exact plain_writtenTwo _ (Nat.lt_trans (weeks 6) (by decide))
  | weekFromMonday => exact plain_writtenTwo _ (Nat.lt_trans (weeks 0) (by decide))
  | isoWeek => exact plain_writtenTwo _ (by omega)
  | weekdayFromSunday => exact plain_decimal _
  | weekdayFromMonday => exact plain_decimal _
  | ordinal => exact plain_filled _ _ (plain_decimal _)
  | hour => exact plain_writtenTwo _ (by omega)
  | hour12 =>
    apply plain_writtenTwo
    unfold TimeOfDay.hour12
    split
    · decide
    · omega
  | minute => exact plain_writtenTwo _ (by omega)
  | second => exact plain_writtenTwo _ (by omega)
  | nanosecond => exact plain_filled _ _ (plain_decimal _)
  | timestamp => exact plain_filledSigned _ _ _ _

theorem PatternItem.plain_written? (inRange : moment.InRange) {item : PatternItem}
    (tame : item.IsTame moment) {text : List Char} (written : item.written? moment = some text) :
    Plain text := by
  have months : ∀ name ∈ monthNames, Plain name.toList := by decide
  have weekdays : ∀ name ∈ weekdayNames, Plain name.toList := by decide
  have point {digits : List Char} (plain : Plain digits) : Plain ('.' :: digits) :=
    List.forall_mem_cons.mpr ⟨by decide, plain⟩
  cases item with
  | literal c =>
    cases written
    exact List.forall_mem_singleton.mpr tame
  | blank c =>
    cases written
    exact List.forall_mem_singleton.mpr tame
  | numeric field filling =>
    cases written
    exact NumericField.plain_written inRange tame
  | monthName long =>
    cases written
    exact plain_writtenName long months _
  | weekdayName long =>
    cases written
    exact plain_writtenName long weekdays _
  | halfDay upper =>
    cases written
    by_cases morning : moment.time.hour < 12
    · rw [if_pos morning]
      cases upper with
      | true => decide
      | false => decide
    · rw [if_neg morning]
      cases upper with
      | true => decide
      | false => decide
  | pointFraction width =>
    cases width with
    | none =>
      cases written
      split
      · exact List.forall_mem_nil _
      · exact point (plain_writtenFraction _ _)
    | some width =>
      cases written
      exact point (plain_writtenFraction _ _)
  | fraction width =>
    cases written
    exact plain_writtenFraction _ _
  | zoneName => cases written
  | offset permissive => cases written
  | exchange => cases written

theorem Pattern.plain_print? (inRange : moment.InRange) {pattern : Pattern}
    (tame : ∀ item ∈ pattern, item.IsTame moment) {text : List Char}
    (written : pattern.print? moment = some text) : Plain text := by
  obtain ⟨pieces, printed, rfl⟩ := Option.map_eq_some_iff.mp written
  clear written
  induction pattern generalizing pieces with
  | nil =>
    cases printed
    exact List.forall_mem_nil _
  | cons item pattern ih =>
    rw [List.mapM_cons] at printed
    obtain ⟨piece, here, printed⟩ := Option.bind_eq_some_iff.mp printed
    obtain ⟨others, more, same⟩ := Option.bind_eq_some_iff.mp printed
    cases same
    rcases List.forall_mem_cons.mp tame with ⟨tame_here, tame_more⟩
    rw [List.flatten_cons]
    exact List.forall_mem_append.mpr
      ⟨PatternItem.plain_written? inRange tame_here here, ih tame_more others more⟩

end Calendar

/-! ### Converters -/

open Calendar

/-- **A date is written without markup**, or is none and has none. -/
structure DateRule.Tame (rule : DateRule) (quoted : Bool) (text : List Char) : Prop where
  parsed : ∀ {source target : Pattern} {moment : Moment},
    Pattern.read? rule.inputPattern.toList = some source →
    Pattern.read? rule.outputPattern.toList = some target →
    source.scan? text = some moment → ∀ item ∈ target, item.IsTame moment
  unparsed : DateRule.restated? rule.inputPattern rule.outputPattern text = none →
    Ready quoted text

/-- **What a converter passes through has to be ready already.** -/
def Converter.Tame (quoted : Bool) (text : List Char) : Converter → Prop
  | .keep => Ready quoted text
  | .strip => Ready quoted (Text.trim text)
  | .escape => True
  | .number _ => Text.wideInteger? (Text.trim text) = none → Ready quoted text
  | .date rule => rule.Tame quoted text

variable {quoted : Bool} {text : List Char}

theorem NumberRule.ready_toDocument (rule : NumberRule)
    (unparsed : Text.wideInteger? (Text.trim text) = none → Ready quoted text) :
    Ready quoted (rule.toDocument text) := by
  unfold NumberRule.toDocument
  dsimp only
  split
  · rename_i blank
    split
    · exact .nil
    · apply unparsed
      rw [List.isEmpty_iff.mp blank]
      rfl
  · split
    · split
      · exact .nil
      · exact .of_plain (plain_signedDecimal _)
    · rename_i none_read
      exact unparsed none_read

theorem DateRule.Tame.ready_toDocument {rule : DateRule} (tame : rule.Tame quoted text) :
    Ready quoted (rule.toDocument text) := by
  unfold DateRule.toDocument DateRule.reformat
  split
  · rename_i blank
    split
    · exact .nil
    · apply Ready.of_plain
      intro c inside
      exact isPlain_of_isBlankChar (List.all_eq_true.mp blank c inside)
  · cases written : restated? rule.inputPattern rule.outputPattern text with
    | none => exact tame.unparsed written
    | some restated =>
      obtain ⟨source, reads, written⟩ := Option.bind_eq_some_iff.mp written
      obtain ⟨target, writes, written⟩ := Option.bind_eq_some_iff.mp written
      obtain ⟨moment, scanned, printed⟩ := Option.bind_eq_some_iff.mp written
      have inRange := Pattern.inRange_scan? scanned
      exact .of_plain (Pattern.plain_print? inRange (tame.parsed reads writes scanned) printed)

/-- **A value is put into the document ready for it.** -/
theorem Converter.Tame.ready {converter : Converter} (tame : converter.Tame quoted text) :
    Ready quoted (converter.toDocument text) := by
  cases converter with
  | keep => exact tame
  | strip => exact tame
  | escape => exact ready_escape quoted text
  | number rule => exact rule.ready_toDocument tame
  | date rule => exact DateRule.Tame.ready_toDocument tame

/-- A number is ready for the document exactly if it is one, or if its text is ready. -/
theorem NumberRule.ready_toDocument_iff (rule : NumberRule) :
    Ready quoted (rule.toDocument text) ↔
      (Text.wideInteger? (Text.trim text) = none → Ready quoted text) := by
  refine ⟨?_, rule.ready_toDocument⟩
  intro ready unparsed
  unfold NumberRule.toDocument at ready
  dsimp only at ready
  split at ready
  · rename_i blank
    apply Ready.of_plain
    intro c inside
    have whole := Text.trim_eq_nil_iff.mp (List.isEmpty_iff.mp blank)
    exact isPlain_of_isBlankChar (List.all_eq_true.mp whole c inside)
  · rwa [unparsed] at ready

/-- The values of all columns of a line are written ready for a document. -/
def ColumnConverters.Tame (table : ColumnConverters) (quoted : Bool)
    (columns : List (Option (List Char))) : Prop :=
  ∀ index converter text, table.converter? index = some converter →
    columns[index]?.join = some text → converter.Tame quoted text

theorem ColumnConverters.Tame.ready {table : ColumnConverters}
    {columns : List (Option (List Char))} (tame : table.Tame quoted columns)
    (escape : table.escape = true) {index : Nat} {written : List Char}
    (given : table.toDocument index columns[index]?.join = some written) :
    Ready quoted written := by
  unfold ColumnConverters.toDocument at given
  split at given
  · rename_i converter found
    obtain ⟨text, here, rfl⟩ := Option.map_eq_some_iff.mp given
    exact (tame index converter text found here).ready
  · obtain ⟨text, -, rfl⟩ := Option.map_eq_some_iff.mp given
    rw [unconverted, escape, if_pos rfl]
    exact ready_escape quoted _

end FlatFile
