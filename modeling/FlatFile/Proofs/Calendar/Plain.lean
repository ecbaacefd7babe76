/-
  FlatFile/Proofs/Calendar/Plain.lean
  ===================================
  **Patterns of day and time fields with marks around them.**

  A plain pattern has six kinds of fields, each in its usual width, and characters that stand
  for themselves, none of them a blank.  It is spelled with a letter after a percent sign for
  each field, and is read as spelled (`PlainPattern.read?_spelled`); what it writes of a moment
  is what its fields write, with the marks between them (`PlainPattern.print?_items`).

  Each field but the year is written with two digits (`writtenTwo_eq`).  A year has four, or a
  sign and four or more (`writtenYear_of_short`, `writtenYear_of_long`).
-/
import FlatFile.Calendar.Print
import FlatFile.Proofs.Text.Numerals

namespace FlatFile.Calendar

/-! ### Fields -/

/-- The fields of a day and of a time of day. -/
inductive PlainField where
  | year
  | month
  | day
  | hour
  | minute
  | second
deriving DecidableEq, Repr

namespace PlainField

def letter : PlainField → Char
  | year => 'Y'
  | month => 'm'
  | day => 'd'
  | hour => 'H'
  | minute => 'M'
  | second => 'S'

def numeric : PlainField → NumericField
  | year => .year
  | month => .month
  | day => .day
  | hour => .hour
  | minute => .minute
  | second => .second

/-- The value of a field of a moment; a leap second is the sixtieth. -/
def value (field : PlainField) (moment : Moment) : Int :=
  match field with
  | year => moment.date.year
  | month => moment.date.month
  | day => moment.date.day
  | hour => moment.time.hour
  | minute => moment.time.minute
  | second => moment.time.shownSecond

def written (field : PlainField) (moment : Moment) : List Char :=
  field.numeric.written .zeros moment

end PlainField

/-! ### Patterns -/

/-- A piece of a plain pattern: a field, or a character that is no blank. -/
inductive PlainItem where
  | field (part : PlainField)
  | mark (c : Char) (ink : Text.isBlankChar c = false)
deriving DecidableEq, Repr

abbrev PlainPattern := List PlainItem

namespace PlainItem

/-- How a piece is spelled; a percent sign that stands for itself is doubled. -/
def spelled : PlainItem → List Char
  | .field part => ['%', part.letter]
  | .mark c _ => if c = '%' then ['%', '%'] else [c]

theorem spelled_ne_nil (item : PlainItem) : item.spelled ≠ [] := by
  cases item with
  | field part => exact List.cons_ne_nil _ _
  | mark c ink =>
    rw [spelled]
    split <;> exact List.cons_ne_nil _ _

def item : PlainItem → PatternItem
  | .field part => .numeric part.numeric .zeros
  | .mark c _ => .literal c

/-- What a piece writes of a moment. -/
def written (moment : Moment) : PlainItem → List Char
  | .field part => part.written moment
  | .mark c _ => [c]

def field? : PlainItem → Option PlainField
  | .field part => some part
  | .mark _ _ => none

end PlainItem

namespace PlainPattern

def spelled (pattern : PlainPattern) : List Char := pattern.flatMap PlainItem.spelled

def items (pattern : PlainPattern) : Pattern := pattern.map PlainItem.item

/-- **The text of a moment under a plain pattern.** -/
def written (pattern : PlainPattern) (moment : Moment) : List Char :=
  pattern.flatMap (PlainItem.written moment)

/-- The fields of a pattern, in their order. -/
def fields (pattern : PlainPattern) : List PlainField := pattern.filterMap PlainItem.field?

theorem written_cons (item : PlainItem) (pattern : PlainPattern) (moment : Moment) :
    written (item :: pattern) moment = item.written moment ++ written pattern moment :=
  List.flatMap_cons

end PlainPattern

/-! ### Reading and writing patterns -/

/-- A letter that is no sign of a specification stands for its items. -/
theorem specification?_of_letter {letter : Char} {items : Pattern}
    (signs : letter ∉ [':', '#', '.']) (unfilled : filling? letter = none)
    (no_width : fractionWidth? letter = none) (known : letterItems? letter = some items)
    (rest : List Char) : specification? (letter :: rest) = some (items, 1) := by
  simp only [List.mem_cons, List.not_mem_nil, or_false, not_or] at signs
  obtain ⟨colon, hash, point⟩ := signs
  cases rest with
  | nil => simp [specification?, unfilled, known]
  | cons c rest => by_cases f : c = 'f' <;> simp [specification?, colon, hash, point, unfilled,
      no_width, known, f]

theorem specification?_letter (field : PlainField) (rest : List Char) :
    specification? (field.letter :: rest) = some ([.numeric field.numeric .zeros], 1) := by
  cases field <;> exact specification?_of_letter (by decide) rfl rfl rfl rest

theorem specification?_percent (rest : List Char) :
    specification? ('%' :: rest) = some ([.literal '%'], 1) :=
  specification?_of_letter (by decide) rfl rfl rfl rest

theorem readFrom?_spelled_append (item : PlainItem) (rest : List Char) :
    readFrom? 0 (item.spelled ++ rest) = (readFrom? 0 rest).map (item.item :: ·) := by
  cases item with
  | field part =>
    simp only [PlainItem.spelled, List.cons_append, List.nil_append, readFrom?, if_true,
      specification?_letter]
    rfl
  | mark c ink =>
    by_cases percent : c = '%'
    · subst percent
      simp only [PlainItem.spelled, if_true, List.cons_append, List.nil_append, readFrom?,
        specification?_percent]
      rfl
    · simp only [PlainItem.spelled, if_neg percent, List.cons_append, List.nil_append, readFrom?,
        ink]
      rfl

namespace PlainPattern

/-- **A plain pattern is read as it is spelled.** -/
theorem read?_spelled (pattern : PlainPattern) :
    Pattern.read? pattern.spelled = some pattern.items := by
  unfold Pattern.read?
  induction pattern with
  | nil => rfl
  | cons item pattern ih =>
    rw [spelled, List.flatMap_cons, readFrom?_spelled_append, ← spelled, ih]
    rfl

theorem isUsable_spelled {pattern : PlainPattern} (some_item : pattern ≠ []) :
    Pattern.isUsable (String.ofList pattern.spelled) = true := by
  have some_text : pattern.spelled.isEmpty = false := by
    obtain ⟨item, rest, rfl⟩ := List.exists_cons_of_ne_nil some_item
    rw [List.isEmpty_eq_false_iff, spelled, List.flatMap_cons]
    exact List.append_ne_nil_of_left_ne_nil item.spelled_ne_nil _
  rw [Pattern.isUsable, String.toList_ofList, read?_spelled, some_text]
  rfl

theorem written?_item (item : PlainItem) (moment : Moment) :
    item.item.written? moment = some (item.written moment) := by
  cases item with
  | field part => rfl
  | mark c ink => rfl

/-- **A plain pattern writes its fields and its marks**, one after the other. -/
theorem print?_items (pattern : PlainPattern) (moment : Moment) :
    Pattern.print? pattern.items moment = some (pattern.written moment) := by
  unfold Pattern.print? items
  have pieces : (pattern.map PlainItem.item).mapM (PatternItem.written? moment) =
      some (pattern.map (PlainItem.written moment)) := by
    induction pattern with
    | nil => rfl
    | cons item pattern ih =>
      rw [List.map_cons, List.mapM_cons, written?_item, ih]
      rfl
  rw [pieces, Option.map_some, written, List.flatMap_def]

end PlainPattern

/-! ### Digits -/

/-- The digits of a number with zeros in front of them, at least so many in all. -/
theorem isDigit_of_mem_filled {width n : Nat} {c : Char}
    (inside : c ∈ filled .zeros width (Text.decimal n)) : c.isDigit = true := by
  rcases List.mem_append.mp inside with zero | digit
  · rw [List.eq_of_mem_replicate zero]
    rfl
  · exact Text.isDigit_of_mem_decimal digit

theorem ofDigitChars_filled (width n : Nat) :
    Nat.ofDigitChars 10 (filled .zeros width (Text.decimal n)) 0 = n := by
  rw [filled, Nat.ofDigitChars_append, Nat.ofDigitChars_replicate_zero, Nat.mul_zero]
  exact Nat.ofDigitChars_ten_toDigits

theorem filled_ne_nil (width n : Nat) : filled .zeros width (Text.decimal n) ≠ [] := by
  intro empty
  exact Nat.toDigits_ne_nil (List.append_eq_nil_iff.mp empty).2

theorem length_filled {width n : Nat} (some_width : 0 < width) (small : n < Nat.pow 10 width) :
    (filled .zeros width (Text.decimal n)).length = width := by
  have short : (Text.decimal n).length ≤ width :=
    (Nat.length_toDigits_le_iff (by decide) some_width).mpr small
  rw [filled, List.length_append, List.length_replicate]
  omega

theorem writtenTwo_eq {n : Nat} (small : n < 100) :
    writtenTwo .zeros n = filled .zeros 2 (Text.decimal n) := by
  have all : ∀ n < 100, writtenTwo .zeros n = filled .zeros 2 (Text.decimal n) := by
    decide +kernel
  exact all n small

/-- A year that is written without a sign. -/
def IsShortYear (year : Int) : Prop := 0 ≤ year ∧ year < 10000

instance (year : Int) : Decidable (IsShortYear year) := inferInstanceAs (Decidable (_ ∧ _))

theorem writtenYear_of_short {year : Int} (short : IsShortYear year) :
    writtenYear .zeros year = filled .zeros 4 (Text.decimal year.toNat) := by
  have positive : ¬ year < 0 := Int.not_lt.mpr short.1
  have same : year.natAbs = year.toNat := by
    have := short.1
    omega
  rw [writtenYear, if_pos (show 0 ≤ year ∧ year < 10000 from short), filledSigned]
  rw [if_neg positive, if_neg Bool.false_ne_true, same]
  rfl

theorem writtenYear_of_long {year : Int} (long : ¬ IsShortYear year) :
    writtenYear .zeros year =
      (if year < 0 then '-' else '+') :: filled .zeros 4 (Text.decimal year.natAbs) := by
  rw [writtenYear, if_neg (show ¬ (0 ≤ year ∧ year < 10000) from long), filledSigned]
  split
  · rfl
  · rfl

end FlatFile.Calendar
