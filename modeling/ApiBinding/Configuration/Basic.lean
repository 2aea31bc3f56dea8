import ApiBinding.Configuration.Setting
import ApiBinding.Entries
import ApiBinding.Function.Basic

/-!
# Configurations

What a process decides for all of its bindings.  Sources give settings by name; a
name that stands for no part of a configuration is ignored, and a part that no
source gives has its default.
-/

namespace ApiBinding

/-- The configuration of a process. -/
structure Configuration where
  /-- How much is logged. -/
  logLevel : String := "info"
  /-- How many rows of a result are kept. -/
  maxRows : Nat := 1000
  /-- Whether numbers are taken in the binary64 format. -/
  numberIsFloat : Bool := true
deriving DecidableEq, Repr

namespace Configuration

/-- The number policy of a configuration. -/
def policy (configuration : Configuration) : NumberPolicy :=
  if configuration.numberIsFloat then .binary else .decimal

/-- The settings of a binding under this configuration. -/
def bindingSettings (configuration : Configuration) (namespaceName : String) : BindingSettings :=
  ⟨namespaceName, configuration.policy, configuration.maxRows⟩

/-- The name under which sources give how much is logged. -/
def logLevelName : String := "log_level"

/-- The name under which sources give the cap on rows. -/
def maxRowsName : String := "max_rows"

/-- The name under which sources give whether numbers are binary. -/
def numberIsFloatName : String := "number_is_float"

/-- A part that may be missing. -/
def part? {α : Type} (settings : List (String × Setting)) (name : String) (default : α)
    (read : Setting → Option α) : Option α :=
  match Entries.find? name settings with
  | none => some default
  | some setting => read setting

/-- The configuration that settings give; none if a part cannot be read. -/
def ofSettings? (settings : List (String × Setting)) : Option Configuration := do
  let defaults : Configuration := {}
  let logLevel ← part? settings logLevelName defaults.logLevel Setting.text?
  let maxRows ← part? settings maxRowsName defaults.maxRows Setting.natural?
  let numberIsFloat ← part? settings numberIsFloatName defaults.numberIsFloat Setting.bool?
  return ⟨logLevel, maxRows, numberIsFloat⟩

end Configuration

end ApiBinding
