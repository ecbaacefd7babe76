/-
  FlatFile/Proofs/Settings/Accepted.lean
  ======================================
  **Settings at fault are found when a conversion is made, and never later.**

  What settings have to be like is said by `Settings.Proper`, one condition for each
  setting, apart from the order in which they are checked.  A check that passes just when a
  condition holds decides it (`Decides`), and checks made one after the other decide all of
  their conditions.  A conversion that was made fails only by what it is given afterwards:
  by its sources, its sinks and its documents, and by lines that cannot be divided
  (`Conversion.Dependable`).
-/
import FlatFile.Charset.AsciiOnly
import FlatFile.Proofs.Document.Reading
import FlatFile.Proofs.Document.Serving
import FlatFile.Proofs.Document.Stages
import FlatFile.Proofs.Line.Failing
import FlatFile.Proofs.Recovery.Halting

namespace FlatFile

/-! ### Checks -/

/-- A failure that is one of settings. -/
inductive Failure.OfSettings : Failure → Prop where
  | configuration (fault : ConfigurationFault) : OfSettings (.configuration fault)
  | unknownCharset (label : String) : OfSettings (.unknownCharset label)

/-- A check passes just when a condition holds, and blames the settings otherwise. -/
structure Decides {α : Type} (check : Except Failure α) (condition : Prop) : Prop where
  passes : (∃ a, check = .ok a) ↔ condition
  blames : ∀ failure, check = .error failure → failure.OfSettings

namespace Decides

variable {α β : Type} {check : Except Failure α} {condition other : Prop} {failure : Failure}

theorem ok (a : α) : Decides (.ok a : Except Failure α) True :=
  ⟨iff_true_intro ⟨a, rfl⟩, nofun⟩

theorem error (ofSettings : failure.OfSettings) : Decides (.error failure : Except Failure α) False := by
  constructor
  · exact iff_false_intro nofun
  · rintro _ ⟨⟩
    exact ofSettings

theorem of_iff (decides : Decides check condition) (same : condition ↔ other) :
    Decides check other :=
  ⟨decides.passes.trans same, decides.blames⟩

/-- A check that goes on with what another one has found. -/
theorem bind {next : α → Except Failure β} (first : Decides check condition)
    (rest : ∀ a, check = .ok a → Decides (next a) other) :
    Decides (check >>= next) (condition ∧ other) := by
  cases checked : check with
  | error failure =>
    subst checked
    constructor
    · constructor
      · rintro ⟨_, ⟨⟩⟩
      · rintro ⟨held, -⟩
        obtain ⟨_, ⟨⟩⟩ := first.passes.mpr held
    · rintro _ ⟨⟩
      exact first.blames failure rfl
  | ok a =>
    have held := first.passes.mp ⟨a, checked⟩
    exact (rest a checked).of_iff (and_iff_right held).symm

theorem map (decides : Decides check condition) (f : α → β) :
    Decides (check.map f) condition := by
  cases check with
  | error failure =>
    constructor
    · rw [← decides.passes]
      constructor
      · rintro ⟨_, ⟨⟩⟩
      · rintro ⟨_, ⟨⟩⟩
    · rintro _ ⟨⟩
      exact decides.blames failure rfl
  | ok a =>
    have held := decides.passes.mp ⟨a, rfl⟩
    exact (ok (f a)).of_iff (iff_of_true trivial held)

theorem require {test : Prop} [Decidable test] (rest : Decides check condition)
    (ofSettings : failure.OfSettings) :
    Decides (if test then check else .error failure) (test ∧ condition) := by
  split
  · rename_i holds
    exact rest.of_iff (and_iff_right holds).symm
  · rename_i fails
    exact (error ofSettings).of_iff (iff_of_false id fun both => fails both.1)

theorem refuse {test : Prop} [Decidable test] (rest : Decides check condition)
    (ofSettings : failure.OfSettings) :
    Decides (if test then .error failure else check) (¬test ∧ condition) := by
  rw [← ite_not]
  exact rest.require ofSettings

theorem forM {item : Type} {check : item → Except Failure Unit} {condition : item → Prop}
    (each : ∀ i, Decides (check i) (condition i)) (items : List item) :
    Decides (items.forM check) (∀ i ∈ items, condition i) := by
  induction items with
  | nil => exact (ok ()).of_iff (iff_of_true trivial nofun)
  | cons i items ih =>
    exact ((each i).bind fun _ _ => ih).of_iff List.forall_mem_cons.symm

end Decides

/-! ### The single settings -/

/-- A label that some charset answers to, blanks around it and the case of its ASCII letters
    apart. -/
def Charset.IsLabel (label : String) : Prop :=
  ∃ charset : Charset, ∃ known ∈ charset.labels,
    known.toList = (Text.trim label.toList).map Char.toLower

theorem Charset.mem_all (charset : Charset) : charset ∈ Charset.all := by
  cases charset with
  | page codePage => cases codePage <;> decide
  | multibyte set => cases set <;> decide
  | utf8 => decide
  | utf16le => decide
  | utf16be => decide
  | replacement => decide
  | userDefined => decide

theorem Charset.isSome_ofLabel? (label : String) :
    (Charset.ofLabel? label.toList).isSome ↔ Charset.IsLabel label := by
  rw [ofLabel?, ofCanonicalLabel?, List.find?_isSome]
  constructor
  · rintro ⟨charset, -, found⟩
    obtain ⟨known, listed, same⟩ := List.any_eq_true.mp found
    exact ⟨charset, known, listed, by simpa using same⟩
  · rintro ⟨charset, known, listed, same⟩
    refine ⟨charset, charset.mem_all, List.any_eq_true.mpr ⟨known, listed, ?_⟩⟩
    simpa using same

theorem decides_resolve? (label : Option String) :
    Decides (Charset.resolve? label) (∀ text, label = some text → Charset.IsLabel text) := by
  cases label with
  | none => exact (Decides.ok _).of_iff (iff_of_true trivial nofun)
  | some text =>
    have known := Charset.isSome_ofLabel? text
    rw [Charset.resolve?]
    cases found : Charset.ofLabel? text.toList with
    | none =>
      rw [found] at known
      refine (Decides.error (.unknownCharset text)).of_iff (iff_of_false id fun all => ?_)
      exact absurd (known.mpr (all text rfl)) Bool.false_ne_true
    | some charset =>
      rw [found] at known
      refine (Decides.ok charset).of_iff (iff_of_true trivial ?_)
      rintro _ ⟨⟩
      exact known.mp rfl

theorem decides_terminator? (text : Option String) :
    Decides (Line.terminator? text) (∀ given, text = some given → ∃ c, given.toList = [c]) := by
  cases text with
  | none => exact (Decides.ok _).of_iff (iff_of_true trivial nofun)
  | some given =>
    rw [Line.terminator?]
    split
    · rename_i c single
      refine (Decides.ok _).of_iff (iff_of_true trivial ?_)
      rintro _ ⟨⟩
      exact ⟨c, single⟩
    · rename_i several
      refine (Decides.error (.configuration _)).of_iff (iff_of_false id fun all => ?_)
      obtain ⟨c, single⟩ := all given rfl
      exact several c single

theorem decides_checkNamesLine (settings : Settings) :
    Decides settings.checkNamesLine (∀ line, settings.namesFromHeaderLine = some line →
      1 ≤ line.toNat ∧ line.toNat ≤ settings.headerLineCount.toNat) := by
  rw [Settings.checkNamesLine]
  cases settings.namesFromHeaderLine with
  | none => exact (Decides.ok _).of_iff (iff_of_true trivial nofun)
  | some line =>
    refine ((Decides.ok ()).refuse (.configuration _)).of_iff ?_
    rw [and_true, not_or, UInt64.lt_iff_toNat_lt, Nat.not_lt, ← UInt64.toNat_inj,
      UInt64.toNat_zero, ← Ne, ← Nat.one_le_iff_ne_zero]
    constructor
    · rintro within _ ⟨⟩
      exact within
    · intro all
      exact all line rfl

/-- The settings that a kind of layout needs. -/
def Settings.Supports (settings : Settings) (custom : Option LineSplitter) : LayoutKind → Prop
  | .fixed => settings.columnWidths ≠ []
  | .delimited => ∃ separator, settings.separator = some separator ∧ separator ≠ ""
  | .variable => ∃ layout, settings.variableLayout = some layout
      ∧ layout.discriminatorIndex.toNat < layout.prefixWidths.length
  | .variableCustom => ∃ splitter, custom = some splitter

theorem exists_columnLayout {settings : Settings} {custom : Option LineSplitter}
    (supports : ∀ kind, settings.layout = some kind → settings.Supports custom kind) :
    ∃ layout, settings.columnLayout custom = .ok layout := by
  unfold Settings.columnLayout
  cases selected : settings.layout with
  | none => exact ⟨none, rfl⟩
  | some kind =>
    have supported := supports kind selected
    cases kind with
    | fixed =>
      dsimp only
      rw [if_neg fun empty => supported (List.isEmpty_iff.mp empty)]
      exact ⟨_, rfl⟩
    | delimited =>
      obtain ⟨separator, given, -⟩ := supported
      dsimp only
      rw [given]
      exact ⟨_, rfl⟩
    | «variable» =>
      obtain ⟨layout, given, -⟩ := supported
      dsimp only
      rw [given]
      exact ⟨_, rfl⟩
    | variableCustom =>
      obtain ⟨splitter, rfl⟩ := supported
      exact ⟨_, rfl⟩

/-- Which layout it is can be told by the settings. -/
inductive Selects (settings : Settings) (custom : Option LineSplitter) :
    Option ColumnLayout → Prop where
  | none (selected : settings.layout = none) : Selects settings custom none
  | fixed (selected : settings.layout = some .fixed) (given : settings.columnWidths ≠ []) :
      Selects settings custom (some (.fixed (settings.columnWidths.map UInt64.toNat)))
  | delimited {separator : String} (selected : settings.layout = some .delimited)
      (given : settings.separator = some separator) :
      Selects settings custom (some (.delimited separator.toList))
  | branching {layout : BranchingLayout} (selected : settings.layout = some .variable)
      (given : settings.variableLayout = some layout) :
      Selects settings custom (some (.variable layout))
  | custom {splitter : LineSplitter} (selected : settings.layout = some .variableCustom)
      (given : custom = some splitter) : Selects settings custom (some (.custom splitter))

theorem selects_of_columnLayout {settings : Settings} {custom : Option LineSplitter}
    {layout : Option ColumnLayout} (found : settings.columnLayout custom = .ok layout) :
    Selects settings custom layout := by
  unfold Settings.columnLayout at found
  split at found
  · rename_i selected
    cases found
    exact .none selected
  · rename_i selected
    split at found
    · cases found
    · rename_i given
      cases found
      exact .fixed selected (by simpa using given)
  · rename_i selected
    split at found
    · rename_i given
      cases found
      exact .delimited selected given
    · cases found
  · rename_i selected
    split at found
    · rename_i given
      cases found
      exact .branching selected given
    · cases found
  · rename_i selected
    split at found
    · cases found
      exact .custom selected rfl
    · cases found

theorem ofSettings_of_columnLayout {settings : Settings} {custom : Option LineSplitter}
    {failure : Failure} (failed : settings.columnLayout custom = .error failure) :
    failure.OfSettings := by
  unfold Settings.columnLayout at failed
  split at failed
  · cases failed
  · split at failed
    · cases failed
      exact .configuration _
    · cases failed
  · split at failed
    · cases failed
    · cases failed
      exact .configuration _
  · split at failed
    · cases failed
    · cases failed
      exact .configuration _
  · split at failed
    · cases failed
    · cases failed
      exact .configuration _

/-- The check of the layout that was found is all that is left of what its kind needs. -/
theorem Selects.decides_check {settings : Settings} {custom : Option LineSplitter}
    {layout : Option ColumnLayout} (selects : Selects settings custom layout) :
    Decides ((layout.map ColumnLayout.check).getD (.ok ()))
      (∀ kind, settings.layout = some kind → settings.Supports custom kind) := by
  -- The condition is about one kind of layout only, the selected one.
  have one {kind : LayoutKind} (selected : settings.layout = some kind) :
      settings.Supports custom kind ↔
        ∀ kind, settings.layout = some kind → settings.Supports custom kind := by
    rw [selected]
    constructor
    · rintro supported _ ⟨⟩
      exact supported
    · intro all
      exact all kind rfl
  cases selects with
  | none selected =>
    rw [selected]
    exact (Decides.ok ()).of_iff (iff_of_true trivial nofun)
  | fixed selected given =>
    exact ((Decides.ok ()).of_iff (iff_of_true trivial given)).of_iff (one selected)
  | @delimited separator selected given =>
    refine Decides.of_iff ?_ (one selected)
    refine ((Decides.ok ()).refuse (.configuration _)).of_iff ?_
    constructor
    · rintro ⟨nonempty, -⟩
      exact ⟨separator, given, by simpa using nonempty⟩
    · rintro ⟨_, given', nonempty⟩
      cases given.symm.trans given'
      exact ⟨by simpa using nonempty, trivial⟩
  | @branching layout selected given =>
    refine Decides.of_iff ?_ (one selected)
    refine ((Decides.ok ()).require (.configuration _)).of_iff ?_
    constructor
    · rintro ⟨reached, -⟩
      exact ⟨layout, given, reached⟩
    · rintro ⟨_, given', reached⟩
      cases given.symm.trans given'
      exact ⟨reached, trivial⟩
  | @custom splitter selected given =>
    exact ((Decides.ok ()).of_iff (iff_of_true trivial ⟨splitter, given⟩)).of_iff (one selected)

theorem decides_checkName (name : String) :
    Decides (Assembly.checkName name) (Markup.isName name.toList = true) :=
  ((Decides.ok ()).require (.configuration _)).of_iff (and_true _ ▸ Iff.rfl)

/-- Both patterns of every date converter are usable. -/
def DateRule.Usable (rule : DateRule) : Prop :=
  Calendar.Pattern.isUsable rule.inputPattern = true
    ∧ Calendar.Pattern.isUsable rule.outputPattern = true

theorem decides_convertersCheck (table : ColumnConverters) :
    Decides table.check
      (∀ rule : DateRule, some (.date rule) ∈ table.converters → rule.Usable) := by
  have dates (rule : DateRule) : Decides rule.check rule.Usable := by
    refine ((((Decides.ok ()).refuse (.configuration _)).refuse (.configuration _))).of_iff ?_
    simp [DateRule.Usable]
  have each (converter : Converter) :
      Decides converter.check (∀ rule, converter = .date rule → rule.Usable) := by
    cases converter with
    | date rule =>
      refine (dates rule).of_iff ⟨?_, fun all => all rule rfl⟩
      rintro usable _ ⟨⟩
      exact usable
    | keep => exact (Decides.ok ()).of_iff (iff_of_true trivial nofun)
    | strip => exact (Decides.ok ()).of_iff (iff_of_true trivial nofun)
    | escape => exact (Decides.ok ()).of_iff (iff_of_true trivial nofun)
    | number rule => exact (Decides.ok ()).of_iff (iff_of_true trivial nofun)
  refine (Decides.forM each _).of_iff ?_
  constructor
  · intro all rule listed
    exact all (.date rule) (List.mem_filterMap.mpr ⟨_, listed, rfl⟩) rule rfl
  · rintro all converter listed rule rfl
    obtain ⟨_, listed, same⟩ := List.mem_filterMap.mp listed
    exact all rule (same ▸ listed)

theorem decides_checkAttributeNames (reserved names : List (List Char)) :
    Decides (Assembly.checkAttributeNames reserved names)
      (names.Nodup ∧ ∀ name ∈ names, name ∉ reserved ∧ ¬"xmlns".toList <+: name) := by
  induction names generalizing reserved with
  | nil => exact (Decides.ok ()).of_iff (iff_of_true trivial ⟨List.nodup_nil, nofun⟩)
  | cons name names ih =>
    -- A name that was seen is one more reserved name for those after it.
    refine ((ih (name :: reserved)).refuse (.configuration _)).of_iff ?_
    have apart : ¬(reserved.contains name || declaresNamespace name) = true ↔
        name ∉ reserved ∧ ¬"xmlns".toList <+: name := by
      rw [Bool.or_eq_true, not_or, List.contains_iff_mem, declaresNamespace, Text.startsWith,
        List.isPrefixOf_iff_prefix]
    rw [apart, List.nodup_cons, List.forall_mem_cons]
    constructor
    · rintro ⟨here, distinct, others⟩
      refine ⟨⟨fun again => (others name again).1 List.mem_cons_self, distinct⟩, here, ?_⟩
      intro other listed
      exact ⟨fun taken => (others other listed).1 (List.mem_cons_of_mem _ taken),
        (others other listed).2⟩
    · rintro ⟨⟨fresh, distinct⟩, here, others⟩
      refine ⟨here, distinct, fun other listed => ⟨?_, (others other listed).2⟩⟩
      intro taken
      rcases List.mem_cons.mp taken with rfl | taken
      · exact fresh listed
      · exact (others other listed).1 taken

/-! ### All settings -/

/-- The settings that concern the document are without a fault. -/
structure Settings.ProperDocument (settings : Settings) (custom : Option LineSplitter) : Prop where
  /-- The document is in the charset of the lines unless it has one of its own. -/
  outputEncoding : ∀ label, settings.outputEncoding.or settings.encoding = some label →
    Charset.IsLabel label
  rootName : Markup.isName settings.docElementName.toList = true
  lineName : Markup.isName settings.lineElementName.toList = true
  columnName : Markup.isName settings.columnElementName.toList = true
  layout : ∀ kind, settings.layout = some kind → settings.Supports custom kind
  dates : ∀ rule : DateRule, some (.date rule) ∈ settings.converters → rule.Usable
  /-- The names that columns have as attributes, where they are attributes. -/
  distinct : settings.columnsAsAttributes = true →
    (settings.columnNames.filterMap fun name => Markup.nameOf? name.toList).Nodup
  free : settings.columnsAsAttributes = true →
    ∀ name ∈ settings.columnNames.filterMap fun name => Markup.nameOf? name.toList,
      ¬"xmlns".toList <+: name
        ∧ (settings.emitLineNumbers = true → name ≠ "number".toList)
        ∧ (settings.emitRawLine = true → name ≠ "raw".toList)

/-- **Settings without a fault**, given the splitter of a custom layout. -/
structure Settings.Proper (settings : Settings) (custom : Option LineSplitter) : Prop
    extends settings.ProperDocument custom where
  encoding : ∀ label, settings.encoding = some label → Charset.IsLabel label
  terminator : ∀ text, settings.lineTerminator = some text → ∃ c, text.toList = [c]
  namesLine : ∀ line, settings.namesFromHeaderLine = some line →
    1 ≤ line.toNat ∧ line.toNat ≤ settings.headerLineCount.toNat

theorem not_mem_reservedNames (style : DocumentStyle) (name : List Char) :
    name ∉ style.reservedNames ↔
      (style.lineNumbers = true → name ≠ "number".toList)
        ∧ (style.rawLine = true → name ≠ "raw".toList) := by
  rw [DocumentStyle.reservedNames, List.mem_append, not_or]
  apply and_congr
  · split <;> simp [*]
  · split <;> simp [*]

theorem decides_outputCharset? (style : DocumentStyle) :
    Decides style.outputCharset? (∀ label, style.charset = some label → Charset.IsLabel label) :=
  (decides_resolve? style.charset).map Charset.output

theorem decides_attributes (style : DocumentStyle) (charset : Charset) :
    Decides (do
        if style.attributes then
          Assembly.checkAttributeNames style.reservedNames
            ((style.columnNames.map fun name => Markup.nameOf? name.toList).filterMap id)
        return charset : Except Failure Charset)
      (style.attributes = true →
        (style.columnNames.filterMap fun name => Markup.nameOf? name.toList).Nodup
          ∧ ∀ name ∈ style.columnNames.filterMap fun name => Markup.nameOf? name.toList,
            name ∉ style.reservedNames ∧ ¬"xmlns".toList <+: name) := by
  rw [List.filterMap_map, Function.id_comp]
  cases style.attributes with
  | false => exact (Decides.ok charset).of_iff (iff_of_true trivial nofun)
  | true =>
    refine ((decides_checkAttributeNames style.reservedNames _).bind
      fun _ _ => Decides.ok charset).of_iff ?_
    rw [and_true]
    exact ⟨fun both _ => both, fun both => both rfl⟩

theorem Selects.decides_checks {settings : Settings} {custom : Option LineSplitter}
    {layout : Option ColumnLayout} (selects : Selects settings custom layout) :
    Decides (Assembly.checks settings.style layout settings.columnConverters)
      (settings.ProperDocument custom) := by
  have checked := (decides_outputCharset? settings.style).bind fun output _ =>
    (decides_checkName settings.docElementName).bind fun _ _ =>
      (decides_checkName settings.lineElementName).bind fun _ _ =>
        (decides_checkName settings.columnElementName).bind fun _ _ =>
          selects.decides_check.bind fun _ _ =>
            (decides_convertersCheck settings.columnConverters).bind fun _ _ =>
              decides_attributes settings.style output
  refine checked.of_iff ⟨?_, ?_⟩
  · rintro ⟨outputEncoding, root, line, column, layout, dates, attributes⟩
    refine ⟨outputEncoding, root, line, column, layout, dates, fun asked => (attributes asked).1, ?_⟩
    intro asked name listed
    obtain ⟨free, plain⟩ := (attributes asked).2 name listed
    exact ⟨plain, (not_mem_reservedNames settings.style name).mp free⟩
  · intro proper
    refine ⟨proper.outputEncoding, proper.rootName, proper.lineName, proper.columnName,
      proper.layout, proper.dates, fun asked => ⟨proper.distinct asked, ?_⟩⟩
    intro name listed
    obtain ⟨plain, free⟩ := proper.free asked name listed
    exact ⟨(not_mem_reservedNames settings.style name).mpr free, plain⟩

section

variable [MultibyteCodecs]

/-- **Making a conversion decides whether its settings are without a fault.** -/
theorem decides_new? (settings : Settings) (custom : Option LineSplitter) :
    Decides (Conversion.new? settings custom) (settings.Proper custom) := by
  have started (charset : Charset) (terminator : Line.Terminator) (layout : Option ColumnLayout)
      (found : settings.columnLayout custom = .ok layout) :
      Decides (Conversion.assembly? settings layout (.new [] charset terminator) ⟨"", ""⟩)
        (settings.ProperDocument custom) := by
    rw [Conversion.assembly?, Assembly.new?_eq]
    exact (selects_of_columnLayout found).decides_checks.map _
  -- That a layout can be made follows from what `Proper` says of its kind, and is no condition of
  -- its own.
  have found : Decides (settings.columnLayout custom)
      (∃ layout, settings.columnLayout custom = .ok layout) :=
    ⟨Iff.rfl, fun _ => ofSettings_of_columnLayout⟩
  have made := (decides_resolve? settings.encoding).bind fun charset _ =>
    (decides_terminator? settings.lineTerminator).bind fun terminator _ =>
      (decides_checkNamesLine settings).bind fun _ _ =>
        found.bind fun layout selected =>
          (started charset terminator layout selected).bind fun _ _ =>
            Decides.ok (Conversion.mk settings charset terminator layout)
  refine made.of_iff ⟨?_, ?_⟩
  · rintro ⟨encoding, terminator, namesLine, -, document, -⟩
    exact ⟨document, encoding, terminator, namesLine⟩
  · intro proper
    exact ⟨proper.encoding, proper.terminator, proper.namesLine,
      exists_columnLayout proper.layout, proper.toProperDocument, trivial⟩

/-! ### What can still go wrong -/

omit [MultibyteCodecs] in
/-- A source that meets a failure gives something in each read before it. -/
theorem Source.exists_of_failure? {source : Source} {failure : IoFailure}
    (met : source.failure? = some failure) :
    ∃ before after, source = before ++ .failure failure :: after
      ∧ (∀ reading ∈ before, reading.GoesOn) ∧ failure.kind ≠ .interrupted := by
  induction source with
  | nil => cases met
  | cons reading rest ih =>
    cases reading with
    | data block =>
      cases block with
      | nil => cases met
      | cons b block =>
        obtain ⟨before, after, rfl, steady, fatal⟩ := ih met
        refine ⟨.data (b :: block) :: before, after, rfl, ?_, fatal⟩
        exact List.forall_mem_cons.mpr ⟨List.cons_ne_nil _ _, steady⟩
    | failure failure' =>
      rw [Source.failure?] at met
      split at met
      · rename_i retried
        obtain ⟨before, after, rfl, steady, fatal⟩ := ih met
        exact ⟨.failure failure' :: before, after, rfl,
          List.forall_mem_cons.mpr ⟨retried, steady⟩, fatal⟩
      · rename_i fatal
        cases met
        refine ⟨[], rest, rfl, ?_, fatal⟩
        intro reading inside
        cases inside

/-- **A reader of lines fails only as its source does.** -/
theorem LineReader.failure_of_mem_drain {source : Source} {charset : Charset}
    {terminator : Line.Terminator} {failure : IoFailure}
    (handed : .error failure ∈ (new source charset terminator).drain.1) :
    source.failure? = some failure := by
  cases met : source.failure? with
  | none =>
    rw [(drain_new_eq_splitLines source charset terminator met).1] at handed
    obtain ⟨line, -, other⟩ := List.mem_map.mp handed
    cases other
  | some failure' =>
    obtain ⟨before, after, rfl, steady, fatal⟩ := Source.exists_of_failure? met
    rw [(drain_new_of_failure before after failure' steady fatal charset terminator).1] at handed
    rcases List.mem_append.mp handed with line | last
    · obtain ⟨line, -, other⟩ := List.mem_map.mp line
      cases other
    · cases List.mem_singleton.mp last
      rfl

end

namespace Conversion

variable {settings : Settings} {custom : Option LineSplitter} {conversion : Conversion}

section

variable [MultibyteCodecs]

/-- **Where a failure of a document comes from**: the source of its lines, a line that ends before
    the discriminator of a variable layout, or a line that the splitter given refuses. -/
inductive Cause (settings : Settings) (custom : Option LineSplitter) (conversion : Conversion)
    (source : Source) : Failure → Prop where
  | unread {failure : IoFailure} (met : source.failure? = some failure) :
      Cause settings custom conversion source (.io failure)
  | short {line : List Char} {column : Nat} (selected : settings.layout = some .variable)
      (taken : .ok line ∈ (LineReader.new source conversion.charset conversion.terminator).drain.1) :
      Cause settings custom conversion source (.layout (.discriminatorUnreached line.length column))
  | refused {splitter : LineSplitter} {line : List Char} {failure : Failure}
      (selected : settings.layout = some .variableCustom) (given : custom = some splitter)
      (taken : .ok line ∈ (LineReader.new source conversion.charset conversion.terminator).drain.1)
      (nonempty : line ≠ []) (failed : splitter line = .error failure) :
      Cause settings custom conversion source failure

/-- The splitter of a custom layout is the one given, and only it and a variable layout refuse
    lines. -/
theorem cause_of_columns {source : Source} {layout : ColumnLayout} {line : List Char}
    {failure : Failure} (selects : Selects settings custom (some layout))
    (taken : .ok line ∈ (LineReader.new source conversion.charset conversion.terminator).drain.1)
    (failed : layout.columns line = .error failure) :
    Cause settings custom conversion source failure := by
  unfold ColumnLayout.columns at failed
  split at failed
  · cases failed
  · rename_i nonempty
    cases selects with
    | fixed selected given => cases failed
    | delimited selected given => cases failed
    | @branching layout selected given =>
      cases divided : layout.columns line with
      | ok columns =>
        simp only [divided, Except.map] at failed
        cases failed
      | error failure' =>
        simp only [divided, Except.map, Except.error.injEq] at failed
        subst failed
        unfold BranchingLayout.columns at divided
        dsimp only at divided
        split at divided
        · split at divided <;> cases divided
        · cases divided
          exact .short selected taken
    | custom selected given => exact .refused selected given taken (by simpa using nonempty) failed

theorem cause_of_chunks (made : Made settings custom conversion) {source : Source}
    {origin : Origin} {output : Charset} {failure : Failure}
    (handed : .error failure ∈ (Assembly.start (.new source conversion.charset conversion.terminator)
      origin output conversion.rendering).chunks) :
    Cause settings custom conversion source failure := by
  obtain ⟨lines, blocks, last, chunks, -, ends⟩ := Assembly.chunks_shape
    (.new source conversion.charset conversion.terminator) origin output conversion.rendering
  rw [chunks] at handed
  rcases List.mem_append.mp handed with block | final
  · obtain ⟨block, -, other⟩ := List.mem_map.mp block
    cases other
  · cases List.mem_singleton.mp final
    generalize items : (LineReader.new source conversion.charset conversion.terminator).drain.1 =
      all at ends
    cases ends with
    | unread _ failure more =>
      have read : .error failure ∈
          (LineReader.new source conversion.charset conversion.terminator).drain.1 := by
        rw [items]
        exact List.mem_append_right _ List.mem_cons_self
      exact .unread (LineReader.failure_of_mem_drain read)
    | @undivided layout _ _ line more chosen failed =>
      have selects := selects_of_columnLayout made.layout
      change conversion.layout = some layout at chosen
      rw [chosen] at selects
      have taken : .ok line ∈
          (LineReader.new source conversion.charset conversion.terminator).drain.1 := by
        rw [items]
        exact List.mem_append_right _ List.mem_cons_self
      exact cause_of_columns selects taken failed

/-- **What a conversion does with anything it is given later**: it makes a document of every file,
    which fails only for one of the causes above, by whatever calls it is taken, and recovering
    lines fails only by the document or the sink. -/
structure Dependable (settings : Settings) (custom : Option LineSplitter)
    (conversion : Conversion) : Prop where
  wraps : ∀ source path, ∃ assembly, conversion.wrap source path = .ok assembly
    ∧ ∀ calls, ∀ exchange ∈ assembly.exchanges calls,
      (∀ failure, exchange.answer = .chunk (some (.error failure)) →
        Cause settings custom conversion source failure)
      ∧ ∀ failure, exchange.answer = .reading (.failure failure) →
        ∃ cause, Cause settings custom conversion source cause ∧ failure = cause.asIo
  recovers : ∀ document sink failure, (conversion.recover document sink).result = .error failure →
    (∃ fault, failure = .document fault) ∨ ∃ reason, failure = .io reason
  recoversFrom : ∀ assembly sink failure,
    (conversion.recoverFrom assembly sink).1.result = .error failure →
      (∃ fault, failure = .document fault) ∨ ∃ reason, failure = .io reason

theorem mem_chunks_of_pulled {assembly : Assembly} {calls : List Assembly.Call}
    {exchange : Assembly.Exchange} (exchanged : exchange ∈ assembly.exchanges calls)
    {failure : Failure} (pulled : exchange.pulled = [some (.error failure)]) :
    .error failure ∈ assembly.chunks := by
  have inside : some (.error failure) ∈ (assembly.exchanges calls).flatMap Assembly.Exchange.pulled :=
    List.mem_flatMap.mpr ⟨exchange, exchanged, pulled ▸ List.mem_singleton_self _⟩
  rw [(assembly.pulled_exchanges calls).1, Assembly.handed_eq] at inside
  rcases List.mem_append.mp inside with chunk | nothing
  · obtain ⟨chunk, taken, same⟩ := List.mem_map.mp chunk
    cases same
    exact List.mem_of_mem_take taken
  · cases List.eq_of_mem_replicate nothing

theorem Made.dependable (made : Made settings custom conversion) :
    Dependable settings custom conversion := by
  obtain ⟨output, checks⟩ := made.checks
  have resolved := (Assembly.accepts_of_checks checks).1
  have output' : conversion.recovery.style.outputCharset? = .ok output := by
    rw [recovery, made.same]
    exact resolved
  constructor
  · intro source path
    refine ⟨_, made.wrap_eq resolved source path, fun calls exchange exchanged => ?_⟩
    have sound := Assembly.sound_exchanges _ calls exchange exchanged
    constructor
    · intro failure answer
      obtain ⟨pulled, -⟩ := sound.chunk _ answer
      exact cause_of_chunks made (mem_chunks_of_pulled exchanged pulled)
    · intro failure answer
      obtain ⟨-, met, pulled, same⟩ := sound.failed failure answer
      exact ⟨met, cause_of_chunks made (mem_chunks_of_pulled exchanged pulled), same⟩
  · intro document sink failure failed
    exact Recovery.failure_of_run output' failed
  · intro assembly sink failure failed
    have same : (conversion.recoverFrom assembly sink).1 =
        conversion.recovery.run (assembly.readings.map Prod.fst) sink := by
      rw [recoverFrom]
      split
      · rfl
      · rfl
    rw [same] at failed
    exact Recovery.failure_of_run output' failed

/-- **Settings at fault are reported when a conversion is made, and never later.**  A conversion
    can be made just of settings that are proper; the failure reported otherwise is one of
    settings, and a conversion that was made meets none of these. -/
theorem faults_found_first (settings : Settings) (custom : Option LineSplitter) :
    ((∃ conversion, new? settings custom = .ok conversion) ↔ settings.Proper custom)
      ∧ (∀ failure, new? settings custom = .error failure → failure.OfSettings)
      ∧ ∀ conversion, new? settings custom = .ok conversion →
        Dependable settings custom conversion := by
  have decides := decides_new? settings custom
  refine ⟨decides.passes, decides.blames, ?_⟩
  intro conversion accepted
  exact (made_of_new? accepted).dependable

end

def branchingSettings : Settings :=
  { layout := some .variable, variableLayout := some ⟨0, [2, 8], .empty⟩,
    converters := [none, some (.date ⟨"%Y%m%d", "%d/%m/%Y", true⟩)], columnsAsAttributes := true,
    columnNames := ["kind", "due date"], namesFromHeaderLine := some 1, headerLineCount := 1,
    encoding := some " Latin1 ", lineTerminator := some ";" }

/-- Settings of every sort at once, and two names that differ in a blank only. -/
theorem faults_found_first_branching :
    branchingSettings.Proper none
      ∧ (∃ conversion, new? branchingSettings none = .ok conversion
        ∧ Dependable branchingSettings none conversion)
      ∧ ¬({ branchingSettings with columnNames := ["a b", "a_b"] } : Settings).Proper none := by
  obtain ⟨proper, -, dependable⟩ := faults_found_first branchingSettings none
  have twice := (faults_found_first { branchingSettings with columnNames := ["a b", "a_b"] } none).1
  have passes : (new? branchingSettings none).isOk = true := by decide +kernel
  have refuses : (new? { branchingSettings with columnNames := ["a b", "a_b"] } none).isOk = false := by
    decide +kernel
  have accepted : ∃ conversion, new? branchingSettings none = .ok conversion := by
    cases made : new? branchingSettings none with
    | error failure =>
      rw [made] at passes
      cases passes
    | ok conversion => exact ⟨conversion, rfl⟩
  refine ⟨proper.mp accepted, accepted.imp fun conversion made => ⟨made, dependable _ made⟩, ?_⟩
  rw [← twice]
  rintro ⟨conversion, made⟩
  rw [made] at refuses
  cases refuses

end Conversion

end FlatFile
