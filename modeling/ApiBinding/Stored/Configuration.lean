import ApiBinding.Configuration.Basic
import ApiBinding.Stored.Form

/-!
# Stored configurations

A configuration is stored as a record of its parts.  Unlike in files of settings each
part has one form only, and a part that is missing has its default.

Main results:

- Theorem `ofStored?_stored`: what is stored of a configuration is read back.
-/

namespace ApiBinding.Configuration

/-- The names of the parts, in their declared order. -/
def partNames : List String := [logLevelName, maxRowsName, numberIsFloatName]

/-- The stored form of a configuration. -/
def stored (configuration : Configuration) : Json :=
  .obj [(logLevelName, .str configuration.logLevel),
    (maxRowsName, .num (.whole configuration.maxRows)),
    (numberIsFloatName, .bool configuration.numberIsFloat)]

/-- The configuration of a stored form. -/
def ofStored? (json : Json) : Option Configuration := do
  let fields ← Stored.fields? partNames json
  let defaults : Configuration := {}
  let logLevel ← fields.defaulted? logLevelName defaults.logLevel Json.text?
  let maxRows ← fields.defaulted? maxRowsName defaults.maxRows Stored.natural?
  let numberIsFloat ← fields.defaulted? numberIsFloatName defaults.numberIsFloat Json.bool?
  return ⟨logLevel, maxRows, numberIsFloat⟩

/-- What is stored of a configuration is read back. -/
theorem ofStored?_stored (configuration : Configuration) :
    ofStored? configuration.stored = some configuration := by
  have hrows : Stored.natural? (.num (.whole configuration.maxRows)) =
      some configuration.maxRows := by
    simp [Stored.natural?]
  have hfields : Stored.fields? partNames configuration.stored =
      some ⟨[(logLevelName, .str configuration.logLevel),
        (maxRowsName, .num (.whole configuration.maxRows)),
        (numberIsFloatName, .bool configuration.numberIsFloat)], false⟩ := rfl
  rw [ofStored?, hfields]
  simp [Fields.defaulted?, Entries.find?, logLevelName, maxRowsName, numberIsFloatName,
    Json.text?, Json.bool?, hrows]

end ApiBinding.Configuration
