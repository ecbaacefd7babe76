/-
  FlatFile/Settings/Json.lean
  ===========================
  **Settings as JSON.**

  Every record of the settings is a table of fields, each with its key and the
  two directions between its value and JSON.  A record is written as an object of
  all its fields.  It is read from an object, where a key may come once and
  unknown keys are passed over, or from an array of the values in the order of
  the table, which may end early; fields that do not come keep their value in a
  record of defaults.

  A converter is an object too, with its kind under the key `type`, or an array
  that begins with its kind.  In the text of settings all of it has to be sound,
  down to the members that say nothing about it.
-/
import FlatFile.Json.Print
import FlatFile.Json.Read
import FlatFile.Settings.Basic

namespace FlatFile

/-! ### Records -/

/-- A field of a record of type `α`. -/
structure JsonField (α : Type) where
  key : String
  /-- The record with the value read for this field. -/
  read? : Json → α → Option α
  /-- The value of this field. -/
  write : α → Json

namespace JsonField

/-- A field given by its value in a record and by how its value is read and written. -/
def of {α β : Type} (key : String) (get : α → β) (set : α → β → α) (decode : Json → Option β)
    (encode : β → Json) : JsonField α where
  key
  read? json record := (decode json).map (set record)
  write record := encode (get record)

/-- The record read from the members of an object, given the keys before them. -/
def readMembers? {α : Type} (fields : List (JsonField α)) (used : List String) (record : α) :
    List (JsonText × Json) → Option α
  | [] => some record
  | (none, _) :: _ => none
  | (some key, value) :: members =>
    match fields.find? fun field => field.key == key with
    | none => readMembers? fields used record members
    | some field =>
      if key ∈ used then none
      else
        match field.read? value record with
        | some record => readMembers? fields (key :: used) record members
        | none => none

/-- The record read from the items of an array. -/
def readItems? {α : Type} (record : α) : List (JsonField α) → List Json → Option α
  | _, [] => some record
  | [], _ :: _ => none
  | field :: fields, item :: items =>
    match field.read? item record with
    | some record => readItems? record fields items
    | none => none

/-- A record read from JSON, over the record of defaults. -/
def readRecord? {α : Type} (fields : List (JsonField α)) (defaults : α) : Json → Option α
  | .object members => readMembers? fields [] defaults members
  | .array items => readItems? defaults fields items
  | _ => none

/-- A record as JSON. -/
def writeRecord {α : Type} (fields : List (JsonField α)) (record : α) : Json :=
  .record (fields.map fun field => (field.key, field.write record))

end JsonField

namespace Json

/-! ### Values -/

def ofText (text : String) : Json := .text text

def ofWord (word : UInt64) : Json := .count word.toNat

def ofList {α : Type} (encode : α → Json) (items : List α) : Json := .array (items.map encode)

/-- A layout kind: its word, or an object with nothing under it. -/
def layoutKind? : Json → Option LayoutKind
  | .string (some word) => LayoutKind.ofWord? word
  | .object [(some word, .null)] => LayoutKind.ofWord? word
  | _ => none

def ofLayoutKind (kind : LayoutKind) : Json := .text kind.word

/-! ### Variable layouts -/

/-- The widths by value read from the members of an object; the last of equal keys
    counts. -/
def suffixesFrom? (table : SuffixTable) : List (JsonText × Json) → Option SuffixTable
  | [] => some table
  | (none, _) :: _ => none
  | (some value, widths) :: members =>
    match list? signedWord? widths with
    | some widths => suffixesFrom? (table.insert value widths) members
    | none => none

/-- The widths by value. -/
def suffixes? : Json → Option SuffixTable
  | .object members => suffixesFrom? .empty members
  | _ => none

def ofSuffixes (table : SuffixTable) : Json :=
  .record (table.entries.map fun (value, widths) =>
    (value, ofList (fun width => .integer width.toInt) widths))

def layoutFields : List (JsonField BranchingLayout) := [
  .of "discriminatorIndex" (·.discriminatorIndex)
    (fun layout discriminatorIndex => { layout with discriminatorIndex }) word? ofWord,
  .of "prefixWidths" (·.prefixWidths) (fun layout prefixWidths => { layout with prefixWidths })
    (list? word?) (ofList ofWord),
  .of "suffixWidthsByValue" (·.suffixes) (fun layout suffixes => { layout with suffixes })
    suffixes? ofSuffixes]

def emptyLayout : BranchingLayout := ⟨0, [], .empty⟩

def layout? (json : Json) : Option BranchingLayout :=
  JsonField.readRecord? layoutFields emptyLayout json

def ofLayout (layout : BranchingLayout) : Json := JsonField.writeRecord layoutFields layout

/-! ### Converters -/

def numberFields : List (JsonField NumberRule) := [
  .of "blankToEmpty" (·.blankToEmpty) (fun rule blankToEmpty => { rule with blankToEmpty })
    bool? .bool,
  .of "zeroToEmpty" (·.zeroToEmpty) (fun rule zeroToEmpty => { rule with zeroToEmpty })
    bool? .bool]

/-- A date converter of which the patterns may still be missing. -/
structure DateDraft where
  inputPattern : Option String := none
  outputPattern : Option String := none
  blankToEmpty : Bool := true

def dateFields : List (JsonField DateDraft) := [
  .of "inputPattern" (·.inputPattern) (fun draft inputPattern => { draft with inputPattern })
    (fun json => (text? json).map some) (ofOption ofText),
  .of "outputPattern" (·.outputPattern) (fun draft outputPattern => { draft with outputPattern })
    (fun json => (text? json).map some) (ofOption ofText),
  .of "blankToEmpty" (·.blankToEmpty) (fun draft blankToEmpty => { draft with blankToEmpty })
    bool? .bool]

/-- A date converter; it needs both patterns. -/
def date? (json : Json) : Option DateRule := do
  let draft ← JsonField.readRecord? dateFields {} json
  let inputPattern ← draft.inputPattern
  let outputPattern ← draft.outputPattern
  return { inputPattern, outputPattern, blankToEmpty := draft.blankToEmpty }

/-- Nothing is to be said about a kind of converter: an object of any members, or an
    array without items. -/
def isPlain : Json → Bool
  | .object _ => true
  | .array items => items.isEmpty
  | _ => false

/-- A converter of a kind, from what is said besides its kind. -/
def converterOfKind? (kind : String) (json : Json) : Option Converter :=
  match kind with
  | "noConversion" => if json.isPlain then some .keep else none
  | "textStrip" => if json.isPlain then some .strip else none
  | "xmlEscape" => if json.isPlain then some .escape else none
  | "number" => (JsonField.readRecord? numberFields {} json).map .number
  | "date" => json.date?.map .date
  | _ => none

/-- The key under which an object tells the kind of a converter. -/
def kindKey : JsonText := some "type"

def converter? : Json → Option Converter
  | .object members =>
    match members.filter fun member => member.1 == kindKey with
    | [(_, .string (some kind))] =>
      converterOfKind? kind (.object (members.filter fun member => member.1 != kindKey))
    | _ => none
  | .array (.string (some kind) :: items) => converterOfKind? kind (.array items)
  | _ => none

/-- How deep the values of a converter may be nested in the text of settings. -/
def converterDepth : Nat := 125

/-- A converter in the text of settings, which is looked into as a whole. -/
def soundConverter? (json : Json) : Option Converter :=
  if json.isSound converterDepth then json.converter? else none

/-- A converter of a kind as JSON, with what is said besides. -/
def ofKind (kind : String) (json : Json) : Json :=
  match json with
  | .object members => .object ((kindKey, .text kind) :: members)
  | other => other

def ofConverter : Converter → Json
  | .keep => ofKind "noConversion" (.object [])
  | .strip => ofKind "textStrip" (.object [])
  | .escape => ofKind "xmlEscape" (.object [])
  | .number rule => ofKind "number" (JsonField.writeRecord numberFields rule)
  | .date rule =>
    ofKind "date" (JsonField.writeRecord dateFields
      ⟨some rule.inputPattern, some rule.outputPattern, rule.blankToEmpty⟩)

end Json

/-! ### Settings -/

namespace Settings

open Json in
def fields : List (JsonField Settings) := [
  .of "layout" (·.layout) (fun s layout => { s with layout }) (option? layoutKind?)
    (ofOption ofLayoutKind),
  .of "columnWidths" (·.columnWidths) (fun s columnWidths => { s with columnWidths })
    (list? word?) (ofList ofWord),
  .of "separator" (·.separator) (fun s separator => { s with separator }) (option? text?)
    (ofOption ofText),
  .of "variableLayout" (·.variableLayout) (fun s variableLayout => { s with variableLayout })
    (option? layout?) (ofOption ofLayout),
  .of "columnNames" (·.columnNames) (fun s columnNames => { s with columnNames }) (list? text?)
    (ofList ofText),
  .of "namesFromHeaderLine" (·.namesFromHeaderLine)
    (fun s namesFromHeaderLine => { s with namesFromHeaderLine }) (option? word?)
    (ofOption ofWord),
  .of "headerLineCount" (·.headerLineCount) (fun s headerLineCount => { s with headerLineCount })
    word? ofWord,
  .of "docElementName" (·.docElementName) (fun s docElementName => { s with docElementName })
    text? ofText,
  .of "lineElementName" (·.lineElementName) (fun s lineElementName => { s with lineElementName })
    text? ofText,
  .of "columnElementName" (·.columnElementName)
    (fun s columnElementName => { s with columnElementName }) text? ofText,
  .of "namespace" (·.namespaceUri) (fun s namespaceUri => { s with namespaceUri })
    (option? text?) (ofOption ofText),
  .of "emitXmlDeclaration" (·.emitXmlDeclaration)
    (fun s emitXmlDeclaration => { s with emitXmlDeclaration }) bool? .bool,
  .of "emitLineNumbers" (·.emitLineNumbers) (fun s emitLineNumbers => { s with emitLineNumbers })
    bool? .bool,
  .of "emitColumnNumbers" (·.emitColumnNumbers)
    (fun s emitColumnNumbers => { s with emitColumnNumbers }) bool? .bool,
  .of "emitRawLine" (·.emitRawLine) (fun s emitRawLine => { s with emitRawLine }) bool? .bool,
  .of "columnsAsAttributes" (·.columnsAsAttributes)
    (fun s columnsAsAttributes => { s with columnsAsAttributes }) bool? .bool,
  .of "skipEmptyDefaultNamedColumns" (·.skipEmptyDefaultNamedColumns)
    (fun s skipEmptyDefaultNamedColumns => { s with skipEmptyDefaultNamedColumns }) bool? .bool,
  .of "skipAnyEmptyColumn" (·.skipAnyEmptyColumn)
    (fun s skipAnyEmptyColumn => { s with skipAnyEmptyColumn }) bool? .bool,
  .of "defaultStrip" (·.defaultStrip) (fun s defaultStrip => { s with defaultStrip }) bool? .bool,
  .of "defaultEscape" (·.defaultEscape) (fun s defaultEscape => { s with defaultEscape })
    bool? .bool,
  .of "encoding" (·.encoding) (fun s encoding => { s with encoding }) (option? text?)
    (ofOption ofText),
  .of "outputEncoding" (·.outputEncoding) (fun s outputEncoding => { s with outputEncoding })
    (option? text?) (ofOption ofText),
  .of "lineTerminator" (·.lineTerminator) (fun s lineTerminator => { s with lineTerminator })
    (option? text?) (ofOption ofText),
  .of "converters" (·.converters) (fun s converters => { s with converters })
    (list? (option? soundConverter?)) (ofList (ofOption ofConverter))]

def ofJson? (json : Json) : Option Settings := JsonField.readRecord? fields {} json

/-- **The settings as JSON.** -/
def toJson (settings : Settings) : Json := JsonField.writeRecord fields settings

/-- **The settings that a text says.** -/
def ofText (text : List Char) : Except Failure Settings :=
  match (Json.read? text).bind ofJson? with
  | some settings => .ok settings
  | none => .error .settings

end Settings

end FlatFile
