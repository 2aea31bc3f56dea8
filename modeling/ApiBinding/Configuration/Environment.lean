import ApiBinding.Configuration.Basic

/-!
# Settings from the environment

Every variable whose name starts with a fixed opening, in letters of either case, is
a setting; the rest of the name in lower-case letters is what it is called.  Of two
variables that are called the same the later one counts.  The text of a variable is
taken for a truth value or a number where it writes one.

Main results:

- Theorem `settings_append_of_none`: a variable without the opening is no setting.
- Theorem `settingName?_congr`: the case of a variable's name does not matter.
-/

namespace ApiBinding

/-- The variables of a process, in the order in which they were set. -/
abbrev Environment := List (String × String)

namespace Setting

/-- The whole number of 64 bits that a text writes. -/
def integer64? (text : String) : Option Int :=
  let signed := WrittenNumber.readSign text.toList
  if signed.2.isEmpty || !signed.2.all Char.isDigit then none
  else
    let magnitude : Int := digitsValue signed.2
    let n := if signed.1 then -magnitude else magnitude
    if fitsInteger n then some n else none

/-- The setting that the text of a variable gives. -/
def ofVariable (text : String) : Setting :=
  if Text.lowerCase text = "true" then flag true
  else if Text.lowerCase text = "false" then flag false
  else
    match integer64? text with
    | some n => whole n
    | none =>
      match Binary64.ofText? text with
      | some x => real x
      | none => word text

end Setting

namespace Environment

/-- The opening of the names of variables that are settings. -/
def opening : List Char := "rhythm_connectors__".toList

/-- What a variable is called as a setting. -/
def settingName? (variableName : String) : Option String :=
  let name := Text.lowered variableName.toList
  if opening.isPrefixOf name then some (String.ofList (name.drop opening.length)) else none

/-- The settings that the variables give. -/
def settings (environment : Environment) : List (String × Setting) :=
  environment.foldl (fun settings entry =>
    match settingName? entry.1 with
    | none => settings
    | some name => Entries.set name (Setting.ofVariable entry.2) settings) []

/-- The case of a variable's name does not matter. -/
theorem settingName?_congr {a b : String}
    (h : Text.equalAnyCase a b = true) :
    settingName? a = settingName? b := by
  simp only [Text.equalAnyCase, beq_iff_eq] at h
  simp only [settingName?, h]

/-- A variable that is no setting changes nothing. -/
theorem settings_append_of_none (environment : Environment) {name : String} (text : String)
    (h : settingName? name = none) :
    settings (environment ++ [(name, text)]) = settings environment := by
  simp [settings, h]

/-- The last variable of a name counts. -/
theorem find?_settings_append (environment : Environment) {name called : String} (text : String)
    (h : settingName? name = some called) :
    Entries.find? called (settings (environment ++ [(name, text)])) =
      some (Setting.ofVariable text) := by
  simp [settings, h]

end Environment

end ApiBinding
