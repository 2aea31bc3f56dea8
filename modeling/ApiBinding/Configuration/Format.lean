import ApiBinding.Configuration.RonSettings
import ApiBinding.Configuration.YamlSettings
import ApiBinding.Ini.Reader
import ApiBinding.Json5.Reader
import ApiBinding.Ron.Reader
import ApiBinding.Toml.Reader

/-!
# Files of settings

Settings are kept in files of several formats, told apart by the ending of the file's
name.  A file is a table of settings by name; what is neither a truth value nor a
number nor a text is kept as a compound, which no part of a configuration can be read
from.

Main results:

- Theorem `ofEnding?_endings`: every ending of a format leads back to that format.
-/

namespace ApiBinding

/-- A format of files of settings. -/
inductive SettingsFormat where
  | toml
  | json
  | yaml
  | ini
  | ron
  | json5
deriving DecidableEq, Repr

namespace Toml.Value

/-- The setting that a value is. -/
def setting : Value → Setting
  | text s | moment s => .word s
  | whole n => .whole n
  | real x => .real x
  | flag b => .flag b
  | list _ | table _ _ | rows _ => .compound

end Toml.Value

namespace Json

/-- The setting that a value is.  Only a whole number of 64 bits with sign stays whole. -/
def setting : Json → Setting
  | bool b => .flag b
  | num (.whole n) => if n < integerBound then .whole n else .real (Binary64.ofInt n)
  | num (.binary x) => .real x
  | str s => .word s
  | null | arr _ | obj _ => .compound

end Json

namespace Ini.Contents

/-- The settings of a text: what is assigned in no section; a section is a compound. -/
def settings (contents : Contents) : List (String × Setting) :=
  contents.general.map (fun entry => (entry.1, .word entry.2)) ++
    contents.sections.map fun entry => (entry.1, .compound)

end Ini.Contents

namespace SettingsFormat

/-- The endings of a format's files. -/
def endings : SettingsFormat → List String
  | toml => ["toml"]
  | json => ["json"]
  | yaml => ["yaml", "yml"]
  | ini => ["ini"]
  | ron => ["ron"]
  | json5 => ["json5"]

/-- The formats, in the order in which files are looked for. -/
def all : List SettingsFormat := [toml, json, yaml, ini, ron, json5]

/-- The format of an ending. -/
def ofEnding? (ending : String) : Option SettingsFormat :=
  all.find? fun format => format.endings.contains ending

/-- The settings that a JSON value gives: the members of an object. -/
def ofJson? (value : Json) : Option (List (String × Setting)) :=
  value.members?.map fun members => members.map fun member => (member.1, member.2.setting)

/-- Settings, or the fault of a text that has no meaning in its format. -/
def orUnreadable (settings : Option (List (String × Setting))) :
    Except ConfigurationFault (List (String × Setting)) :=
  match settings with
  | some settings => .ok settings
  | none => .error .unreadable

/-- The settings of a text, under the names that it gives them. -/
def settings (format : SettingsFormat) (cs : List Char) :
    Except ConfigurationFault (List (String × Setting)) :=
  match format with
  | toml => orUnreadable ((Toml.parse? cs).map fun entries =>
    entries.map fun entry => (entry.1, entry.2.setting))
  | json => orUnreadable ((Json.parse? cs).bind ofJson?)
  | yaml => Yaml.settings cs
  | ini => orUnreadable ((Ini.parse? cs).map Ini.Contents.settings)
  | ron => orUnreadable ((Ron.parse? cs).bind Ron.Value.settings?)
  | json5 => orUnreadable ((Json5.parse? cs).bind ofJson?)

/-- Every ending of a format leads back to that format. -/
theorem ofEnding?_endings (format : SettingsFormat) :
    ∀ ending ∈ format.endings, ofEnding? ending = some format := by
  cases format <;> decide

end SettingsFormat

end ApiBinding
