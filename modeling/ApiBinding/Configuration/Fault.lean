/-!
# Faults of configurations

Why a configuration cannot be had from its sources, and the fault in words.

Main results:

- Theorem `isFatal_iff`: only a fault that no source is to blame for ends the whole process.
-/

namespace ApiBinding

/-- Why a configuration could not be loaded. -/
inductive ConfigurationFault where
  /-- The file of settings is missing or has no meaning in its format. -/
  | unreadable
  /-- A setting does not fit its part of the configuration. -/
  | malformed
  /-- A file of settings holds an entry whose key can be no name, which is not provided
  for. -/
  | nameless
deriving DecidableEq, Repr

namespace ConfigurationFault

/-- The fault in words. -/
def message : ConfigurationFault → String
  | unreadable => "Failed to read configuration sources"
  | malformed => "Failed to parse configuration"
  | nameless => "internal error: entered unreachable code"

/-- Whether a fault ends the whole process. -/
def isFatal (fault : ConfigurationFault) : Bool :=
  fault == nameless

/-- Only a fault that no source is to blame for ends the whole process. -/
theorem isFatal_iff (fault : ConfigurationFault) :
    fault.isFatal = true ↔ fault = nameless := by
  cases fault <;> decide

end ConfigurationFault

end ApiBinding
