/-
  FlatFile/Proofs/Settings/Reading.lean
  =====================================
  **Settings survive their own JSON.**

  `Json.Conveys` says of one value that its JSON gives it back and has no integer that its
  text could not hold.  It passes from the parts of a value to the value: to lists, to what
  may be missing, and to records, where each field puts its own value into the record read
  so far (`JsonField.Restores`) and the fields together put in all of it
  (`JsonField.Rebuilds`).  As the keys of a record are distinct, no member is refused or
  taken for another.

  The tables of fields then need one line for each field.  `Settings.ofText_print_toJson`
  puts the record of the settings and the text of its JSON together.
-/
import FlatFile.Proofs.Json.Reading
import FlatFile.Settings.Json

namespace FlatFile

/-! ### Values -/

namespace Json

/-- **The JSON of a value gives the value back**, also by way of its text. -/
structure Conveys {α : Type} (encode : α → Json) (decode : Json → Option α) (value : α) : Prop where
  decodes : decode (encode value) = some value
  fits : (encode value).Fits

theorem conveys_bool (value : Bool) : Conveys .bool bool? value := ⟨rfl, .bool value⟩

theorem conveys_text (value : String) : Conveys ofText text? value := ⟨rfl, .string _⟩

theorem conveys_word (word : UInt64) : Conveys ofWord word? word where
  decodes := by
    have small : word.toNat < UInt64.size := word.toNat_lt
    change (if word.toNat < UInt64.size then some (UInt64.ofNat word.toNat) else none) = some word
    rw [if_pos small, UInt64.ofNat_toNat]
  fits := by
    have small : word.toNat < UInt64.size := word.toNat_lt
    refine .integer ?_ (Int.ofNat_lt.mpr small)
    omega

/-- A signed width as JSON. -/
theorem conveys_signedWord (word : Int32) :
    Conveys (fun width : Int32 => .integer width.toInt) signedWord? word where
  decodes := by
    have low := word.minValue_le_toInt
    have high := word.toInt_le
    rw [signedWord?, if_pos ⟨low, high⟩, Int32.ofInt_toInt]
  fits := by
    have low : -2 ^ 31 ≤ word.toInt := word.le_toInt
    have high : word.toInt < 2 ^ 31 := word.toInt_lt
    refine .integer ?_ ?_
    · change -9223372036854775808 ≤ word.toInt
      omega
    · change word.toInt < 18446744073709551616
      omega

variable {α : Type} {encode : α → Json} {decode : Json → Option α}

theorem Conveys.list {items : List α} (each : ∀ item ∈ items, Conveys encode decode item) :
    Conveys (ofList encode) (list? decode) items where
  decodes := by
    change (items.map encode).mapM decode = some items
    induction items with
    | nil => rfl
    | cons item items ih =>
      rcases List.forall_mem_cons.mp each with ⟨here, others⟩
      rw [List.map_cons, List.mapM_cons, here.decodes, ih others]
      rfl
  fits := by
    refine .array ?_
    intro json inside
    obtain ⟨item, member, rfl⟩ := List.mem_map.mp inside
    exact (each item member).fits

/-- A value that may be missing, if it is not written as one that is. -/
theorem Conveys.option {value : Option α}
    (held : ∀ inner ∈ value, Conveys encode decode inner ∧ encode inner ≠ .null) :
    Conveys (ofOption encode) (option? decode) value where
  decodes := by
    cases value with
    | none => rfl
    | some inner =>
      obtain ⟨conveys, other⟩ := held inner rfl
      rw [ofOption, option?, conveys.decodes]
      · rfl
      · exact other
  fits := by
    cases value with
    | none => exact .null
    | some inner => exact (held inner rfl).1.fits

end Json

/-! ### Records -/

namespace JsonField

open Json

variable {α β : Type} {record : α}

/-- **A field is restored by a change of the record**: whatever was read before it, the value of
    the field is put in its place. -/
structure Restores (record : α) (field : JsonField α) (change : α → α) : Prop where
  reads : ∀ before, field.read? (field.write record) before = some (change before)
  fits : (field.write record).Fits

theorem restores_of {key : String} {get : α → β} {set : α → β → α} {decode : Json → Option β}
    {encode : β → Json} (conveys : Conveys encode decode (get record)) :
    Restores record (of key get set decode encode) fun before => set before (get record) where
  reads before := by
    change (decode (encode (get record))).map (set before) = _
    rw [conveys.decodes]
    rfl
  fits := conveys.fits

/-- The fields of a record, one after the other, make one record of another. -/
inductive Rebuilds (record : α) : List (JsonField α) → α → α → Prop where
  | nil (before : α) : Rebuilds record [] before before
  | cons {field : JsonField α} {fields : List (JsonField α)} {change : α → α} {before after : α}
      (first : Restores record field change)
      (others : Rebuilds record fields (change before) after) :
      Rebuilds record (field :: fields) before after

theorem find?_key {fields : List (JsonField α)} (distinct : (fields.map (·.key)).Nodup)
    {field : JsonField α} (inside : field ∈ fields) :
    (fields.find? fun other => other.key == field.key) = some field := by
  induction fields with
  | nil => cases inside
  | cons first fields ih =>
    rw [List.map_cons, List.nodup_cons] at distinct
    rcases List.mem_cons.mp inside with rfl | inside
    · rw [List.find?_cons_of_pos (by simp)]
    · have other : first.key ≠ field.key := by
        intro same
        exact distinct.1 (same ▸ List.mem_map_of_mem inside)
      rw [List.find?_cons_of_neg (by simpa using other), ih distinct.2 inside]

/-- Members that fields of a table have written are read into the record, one after the other. -/
theorem readMembers?_of_rebuilds {table fields : List (JsonField α)} {before after : α}
    (distinct : (table.map (·.key)).Nodup) (rebuilds : Rebuilds record fields before after)
    (inside : ∀ field ∈ fields, field ∈ table) (apart : (fields.map (·.key)).Nodup)
    {used : List String} (unused : ∀ field ∈ fields, field.key ∉ used) :
    readMembers? table used before
        (fields.map fun field => (some field.key, field.write record)) = some after := by
  induction rebuilds generalizing used with
  | nil before => rfl
  | @cons field fields change before after first others ih =>
    rcases List.forall_mem_cons.mp inside with ⟨here, later⟩
    rcases List.forall_mem_cons.mp unused with ⟨fresh, fresh_later⟩
    rw [List.map_cons, List.nodup_cons] at apart
    rw [List.map_cons, readMembers?, find?_key distinct here]
    simp only [if_neg fresh, first.reads]
    apply ih later apart.2
    intro other member again
    rcases List.mem_cons.mp again with same | again
    · exact apart.1 (same ▸ List.mem_map_of_mem member)
    · exact fresh_later other member again

theorem fits_of_rebuilds {fields : List (JsonField α)} {before after : α}
    (rebuilds : Rebuilds record fields before after) :
    ∀ field ∈ fields, (field.write record).Fits := by
  induction rebuilds with
  | nil => nofun
  | cons first others ih => exact List.forall_mem_cons.mpr ⟨first.fits, ih⟩

theorem writeRecord_eq (fields : List (JsonField α)) (record : α) :
    writeRecord fields record =
      .object (fields.map fun field => (some field.key, field.write record)) := by
  rw [writeRecord, Json.record, List.map_map]
  rfl

/-- **A record is read back from its JSON.** -/
theorem conveys_record {fields : List (JsonField α)} {defaults : α}
    (distinct : (fields.map (·.key)).Nodup) (rebuilds : Rebuilds record fields defaults record) :
    Conveys (writeRecord fields) (readRecord? fields defaults) record := by
  constructor
  · rw [writeRecord_eq]
    exact readMembers?_of_rebuilds distinct rebuilds (fun _ inside => inside) distinct (by simp)
  · rw [writeRecord_eq]
    refine .object ?_
    intro member inside
    obtain ⟨field, listed, rfl⟩ := List.mem_map.mp inside
    exact fits_of_rebuilds rebuilds field listed

end JsonField

/-! ### Layouts -/

theorem SuffixTable.insert_of_not_mem {table : SuffixTable} {value : String}
    (fresh : value ∉ table.entries.map Prod.fst) (widths : List Int32) :
    (table.insert value widths).entries = table.entries ++ [(value, widths)] := by
  rw [insert, dif_neg fresh]

theorem LayoutKind.ofWord?_word (kind : LayoutKind) : ofWord? kind.word = some kind := by
  cases kind <;> decide

namespace Json

theorem conveys_layoutKind (kind : LayoutKind) : Conveys ofLayoutKind layoutKind? kind where
  decodes := kind.ofWord?_word
  fits := .string _

/-- Entries with values that a table does not have yet are put behind its own. -/
theorem suffixesFrom?_entries {entries : List (String × List Int32)} {table whole : SuffixTable}
    (split : whole.entries = table.entries ++ entries) :
    suffixesFrom? table (entries.map fun (value, widths) =>
      (some value, ofList (fun width : Int32 => .integer width.toInt) widths)) = some whole := by
  induction entries generalizing table with
  | nil =>
    rw [List.append_nil] at split
    cases table
    cases whole
    cases split
    rfl
  | cons entry entries ih =>
    obtain ⟨value, widths⟩ := entry
    have read := (Conveys.list fun width (_ : width ∈ widths) => conveys_signedWord width).decodes
    have fresh : value ∉ table.entries.map Prod.fst := by
      have distinct := whole.distinct
      rw [split, List.map_append, List.nodup_append] at distinct
      intro again
      exact distinct.2.2 _ again _ List.mem_cons_self rfl
    rw [List.map_cons, suffixesFrom?, read]
    apply ih
    rw [SuffixTable.insert_of_not_mem fresh, List.append_assoc, split]
    rfl

theorem conveys_suffixes (table : SuffixTable) : Conveys ofSuffixes suffixes? table := by
  have written : ofSuffixes table = .object (table.entries.map fun (value, widths) =>
      (some value, ofList (fun width : Int32 => .integer width.toInt) widths)) := by
    rw [ofSuffixes, Json.record, List.map_map]
    rfl
  constructor
  · rw [written]
    exact suffixesFrom?_entries rfl
  · rw [written]
    refine .object ?_
    intro member inside
    obtain ⟨entry, -, rfl⟩ := List.mem_map.mp inside
    exact (Conveys.list fun width (_ : width ∈ entry.2) => conveys_signedWord width).fits

/-- A list of words as JSON. -/
theorem conveys_words (words : List UInt64) : Conveys (ofList ofWord) (list? word?) words :=
  .list fun word _ => conveys_word word

theorem conveys_layout (layout : BranchingLayout) : Conveys ofLayout layout? layout :=
  JsonField.conveys_record (by decide) <|
    .cons (JsonField.restores_of (conveys_word _)) <|
    .cons (JsonField.restores_of (conveys_words _)) <|
    .cons (JsonField.restores_of (conveys_suffixes _)) <|
    .nil _

/-! ### Converters -/

/-- What is said besides the kind of a converter is not taken for it. -/
theorem converter?_ofKind {kind : String} {members : List (JsonText × Json)}
    (besides : ∀ member ∈ members, member.1 ≠ kindKey) :
    converter? (ofKind kind (.object members)) = converterOfKind? kind (.object members) := by
  have no_kind : members.filter (fun member => member.1 == kindKey) = [] := by
    rw [List.filter_eq_nil_iff]
    intro member inside
    simpa using besides member inside
  have all : members.filter (fun member => member.1 != kindKey) = members := by
    rw [List.filter_eq_self]
    intro member inside
    simpa using besides member inside
  have kinds : ((kindKey, text kind) :: members).filter (fun member => member.1 == kindKey) =
      [(kindKey, text kind)] := by
    rw [List.filter_cons_of_pos (by simp), no_kind]
  have others : ((kindKey, text kind) :: members).filter (fun member => member.1 != kindKey) =
      members := by
    rw [List.filter_cons_of_neg (by simp), all]
  rw [ofKind, converter?, kinds]
  simp only [text]
  rw [← text, others]

theorem converter?_ofRecord {α : Type} {kind : String} {fields : List (JsonField α)}
    (besides : "type" ∉ fields.map (·.key)) (record : α) :
    converter? (ofKind kind (JsonField.writeRecord fields record)) =
      converterOfKind? kind (JsonField.writeRecord fields record) := by
  rw [JsonField.writeRecord_eq]
  apply converter?_ofKind
  intro member inside same
  obtain ⟨field, listed, rfl⟩ := List.mem_map.mp inside
  exact besides (Option.some.inj same ▸ List.mem_map_of_mem listed)

theorem conveys_number (rule : NumberRule) :
    Conveys (JsonField.writeRecord numberFields) (JsonField.readRecord? numberFields {}) rule :=
  JsonField.conveys_record (by decide) <|
    .cons (JsonField.restores_of (conveys_bool _)) <|
    .cons (JsonField.restores_of (conveys_bool _)) <|
    .nil _

/-- A pattern that has come is written as the text that it is. -/
theorem conveys_pattern (pattern : String) :
    Conveys (ofOption ofText) (fun json => (text? json).map some) (some pattern) :=
  ⟨rfl, .string _⟩

theorem conveys_dateDraft (rule : DateRule) :
    Conveys (JsonField.writeRecord dateFields) (JsonField.readRecord? dateFields {})
      ⟨some rule.inputPattern, some rule.outputPattern, rule.blankToEmpty⟩ :=
  JsonField.conveys_record (by decide) <|
    .cons (JsonField.restores_of (conveys_pattern _)) <|
    .cons (JsonField.restores_of (conveys_pattern _)) <|
    .cons (JsonField.restores_of (conveys_bool _)) <|
    .nil _

theorem date?_ofRecord (rule : DateRule) :
    date? (JsonField.writeRecord dateFields
      ⟨some rule.inputPattern, some rule.outputPattern, rule.blankToEmpty⟩) = some rule := by
  rw [date?, (conveys_dateDraft rule).decodes]
  rfl

theorem converter?_ofConverter (converter : Converter) :
    converter? (ofConverter converter) = some converter := by
  cases converter with
  | keep => exact converter?_ofKind nofun
  | strip => exact converter?_ofKind nofun
  | escape => exact converter?_ofKind nofun
  | number rule =>
    have kind (json : Json) : converterOfKind? "number" json =
        (JsonField.readRecord? numberFields {} json).map .number := rfl
    rw [ofConverter, converter?_ofRecord (by decide), kind, (conveys_number rule).decodes]
    rfl
  | date rule =>
    have kind (json : Json) : converterOfKind? "date" json = (date? json).map .date := rfl
    rw [ofConverter, converter?_ofRecord (by decide), kind, date?_ofRecord]
    rfl

theorem fits_ofConverter (converter : Converter) : (ofConverter converter).Fits := by
  have ofKind {kind : String} {members : List (JsonText × Json)}
      (fits : (Json.object members).Fits) : (ofKind kind (.object members)).Fits := by
    cases fits with
    | object all => exact .object (List.forall_mem_cons.mpr ⟨.string _, all⟩)
  cases converter with
  | keep => exact ofKind (.object nofun)
  | strip => exact ofKind (.object nofun)
  | escape => exact ofKind (.object nofun)
  | number rule => exact ofKind (conveys_number rule).fits
  | date rule => exact ofKind (conveys_dateDraft rule).fits

/-- All that is written about a converter can be looked into, and is not deep. -/
theorem isSound_ofConverter (converter : Converter) :
    (ofConverter converter).isSound converterDepth = true := by
  cases converter <;> rfl

theorem conveys_converter (converter : Converter) :
    Conveys ofConverter soundConverter? converter where
  decodes := by rw [soundConverter?, if_pos (isSound_ofConverter converter), converter?_ofConverter]
  fits := fits_ofConverter converter

theorem ofConverter_ne_null (converter : Converter) : ofConverter converter ≠ .null := by
  cases converter <;> nofun

end Json

/-! ### Settings -/

namespace Settings

open Json JsonField

/-- A text that may be missing. -/
theorem conveys_maybeText (value : Option String) :
    Conveys (ofOption Json.ofText) (option? text?) value :=
  .option fun inner _ => ⟨conveys_text inner, nofun⟩

theorem rebuilds_fields (settings : Settings) : Rebuilds settings fields {} settings :=
  .cons (restores_of (.option fun kind _ => ⟨conveys_layoutKind kind, nofun⟩)) <|
  .cons (restores_of (conveys_words _)) <|
  .cons (restores_of (conveys_maybeText _)) <|
  .cons (restores_of (.option fun layout _ => ⟨conveys_layout layout, nofun⟩)) <|
  .cons (restores_of (.list fun name _ => conveys_text name)) <|
  .cons (restores_of (.option fun line _ => ⟨conveys_word line, nofun⟩)) <|
  .cons (restores_of (conveys_word _)) <|
  .cons (restores_of (conveys_text _)) <|
  .cons (restores_of (conveys_text _)) <|
  .cons (restores_of (conveys_text _)) <|
  .cons (restores_of (conveys_maybeText _)) <|
  .cons (restores_of (conveys_bool _)) <|
  .cons (restores_of (conveys_bool _)) <|
  .cons (restores_of (conveys_bool _)) <|
  .cons (restores_of (conveys_bool _)) <|
  .cons (restores_of (conveys_bool _)) <|
  .cons (restores_of (conveys_bool _)) <|
  .cons (restores_of (conveys_bool _)) <|
  .cons (restores_of (conveys_bool _)) <|
  .cons (restores_of (conveys_bool _)) <|
  .cons (restores_of (conveys_maybeText _)) <|
  .cons (restores_of (conveys_maybeText _)) <|
  .cons (restores_of (conveys_maybeText _)) <|
  .cons (restores_of (.list fun _ _ =>
    .option fun converter _ => ⟨conveys_converter converter, ofConverter_ne_null converter⟩)) <|
  .nil _

theorem conveys_toJson (settings : Settings) : Conveys toJson ofJson? settings :=
  conveys_record (by decide) (rebuilds_fields settings)

/-- **Settings survive their own JSON**: the text of their JSON says these very settings,
    whatever they are.  The widths by value are written in the order in which they are held. -/
theorem ofText_print_toJson (settings : Settings) :
    ofText (Json.print settings.toJson) = .ok settings := by
  rw [ofText, read?_print (conveys_toJson settings).fits, Option.bind_some,
    (conveys_toJson settings).decodes]

end Settings

end FlatFile
