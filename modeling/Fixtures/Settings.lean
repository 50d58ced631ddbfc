import Fixtures.Data.SortedMap

/-!
# Settings

How accessor names are formed and whether a block restarts the sequence counters. Settings that
are built from values are taken as they are; settings that are read from a text must have a
suffix (`Settings.checked`), because without one a record and its hash form would share a name.
-/

namespace Fixtures

/-- The settings of a workshop. -/
structure Settings where
  -- What is put after a name to form the name of its hash form.
  hashSuffix : String := "_"
  -- Whether every block starts with all sequence counters at zero.
  resetsCounters : Bool := true
  -- Plurals that the regular rules get wrong, by singular.
  irregularPlurals : SortedMap String := ∅
  deriving DecidableEq, Inhabited

namespace Settings

/-- Why settings could not be read. -/
inductive Fault where
  -- There is no such file, or its bytes are not a text.
  | unreadable
  -- The text is not a settings document, or a setting has a value of the wrong kind.
  | malformed
  -- The suffix of hash forms is empty.
  | emptySuffix
  deriving DecidableEq

def Fault.message : Fault → String
  | .unreadable => "IO error: the settings file cannot be read as text"
  | .malformed => "Settings error: not a settings document"
  | .emptySuffix => "Settings error: hash_suffix must not be empty"

/-- Admits settings that have a suffix. -/
def checked (settings : Settings) : Except Fault Settings :=
  if settings.hashSuffix.isEmpty then .error .emptySuffix else .ok settings

theorem checked_eq_ok_iff {settings result : Settings} :
    settings.checked = .ok result ↔ result = settings ∧ settings.hashSuffix ≠ "" := by
  unfold checked
  by_cases h : settings.hashSuffix = ""
  · simp [h]
  · have : settings.hashSuffix.isEmpty = false := by simpa using h
    simp [this, h, eq_comm]

/-- Settings from a text, by whatever reads the text as a document of settings. -/
def ofText (read : String → Option Settings) (text : String) : Except Fault Settings :=
  match read text with
  | none => .error .malformed
  | some settings => settings.checked

/-- Reads settings from the bytes of a file, if there is one. -/
def ofFile (read : String → Option Settings) (contents : Option ByteArray) :
    Except Fault Settings :=
  match contents.bind String.fromUTF8? with
  | none => .error .unreadable
  | some text => ofText read text

/-- Settings that are read from a text have a suffix. -/
theorem hashSuffix_ne_empty_of_ofText {read : String → Option Settings} {text : String}
    {settings : Settings} (h : ofText read text = .ok settings) : settings.hashSuffix ≠ "" := by
  unfold ofText at h
  split at h
  · cases h
  · obtain ⟨rfl, hne⟩ := checked_eq_ok_iff.mp h
    exact hne

end Settings

end Fixtures
