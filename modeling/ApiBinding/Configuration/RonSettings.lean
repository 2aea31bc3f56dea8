import ApiBinding.Configuration.Setting
import ApiBinding.Ron.Basic

/-!
# Settings in RON texts

A text of settings is one map or structure, which may be wrapped.  Every key in it, at
any depth, must be a name.
-/

namespace ApiBinding.Ron

/-- An entry under its name with the setting that its value is, if it is readable. -/
abbrev NamedSetting := EntryName × Option Setting

/-- The entries without those whose name comes again. -/
def keepLast : List NamedSetting → List NamedSetting
  | [] => []
  | entry :: rest =>
    if rest.any fun later => later.1 == entry.1 then keepLast rest else entry :: keepLast rest

/-- The settings under their names, if all of them are readable. -/
def readable? (entries : List NamedSetting) : Option (List (String × Setting)) :=
  (keepLast entries).mapM fun entry => entry.2.map fun setting => (entry.1.text, setting)

namespace Value

mutual

/-- The setting that a value is; every part of it must be readable. -/
def setting? : Value → Option Setting
  | nothing => some .compound
  | flag b => some (.flag b)
  | whole n => some (.whole n)
  | real x => some (.real x)
  | character c => some (.word (String.singleton c))
  | text s => some (.word s)
  | present value => value.setting?
  | sequence items => (itemSettings? items).map fun _ => .compound
  | table entries => ((namedSettings? entries).bind readable?).map fun _ => .compound

/-- The settings that the items of a sequence are. -/
def itemSettings? : List Value → Option (List Setting)
  | [] => some []
  | item :: rest => do
    let setting ← item.setting?
    let settings ← itemSettings? rest
    return setting :: settings

/-- The entries of a map under their names; every key must be a name. -/
def namedSettings? : List (Value × Value) → Option (List NamedSetting)
  | [] => some []
  | (key, value) :: rest => do
    let name ← key.name?
    let settings ← namedSettings? rest
    return (name, value.setting?) :: settings

end

/-- The settings that the value of a text gives. -/
def settings? : Value → Option (List (String × Setting))
  | present value => value.settings?
  | table entries => (namedSettings? entries).bind readable?
  | _ => none

end Value

end ApiBinding.Ron
