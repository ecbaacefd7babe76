/-
  FlatFile/Settings/Build.lean
  ============================
  **Settings put together step by step.**

  A draft starts from the defaults or from given settings.  Most steps replace
  one setting; those in this file touch more than one, or only a part of one.
-/
import FlatFile.Settings.Basic

namespace FlatFile

/-- Settings in the making, and the splitter of a custom layout. -/
structure SettingsDraft where
  settings : Settings := {}
  custom : Option LineSplitter := none

namespace SettingsDraft

def fixedColumns (draft : SettingsDraft) (widths : List UInt64) : SettingsDraft :=
  { draft with settings := { draft.settings with layout := some .fixed, columnWidths := widths } }

def delimitedColumns (draft : SettingsDraft) (separator : String) : SettingsDraft :=
  { draft with
    settings := { draft.settings with layout := some .delimited, separator := some separator } }

def variableColumns (draft : SettingsDraft) (layout : BranchingLayout) : SettingsDraft :=
  { draft with
    settings := { draft.settings with layout := some .variable, variableLayout := some layout } }

def customColumns (draft : SettingsDraft) (splitter : LineSplitter) : SettingsDraft :=
  { settings := { draft.settings with layout := some .variableCustom }, custom := some splitter }

/-- A converter for one column, counted from zero; the columns before it that have none
    yet are left without. -/
def columnConverter (draft : SettingsDraft) (index : Nat) (converter : Converter) :
    SettingsDraft :=
  let known := draft.settings.converters
  let long := known ++ List.replicate (index + 1 - known.length) none
  { draft with settings := { draft.settings with converters := long.set index (some converter) } }

/-- Any other change of the settings. -/
def change (draft : SettingsDraft) (change : Settings → Settings) : SettingsDraft :=
  { draft with settings := change draft.settings }

end SettingsDraft

end FlatFile
