import ApiBinding.Text.Quoted

/-!
# Capabilities

What a call needs from its host is looked up by a key in a provider: the time zone,
the invoker that sends requests for a namespace, or a whole context.  A provider
answers from its own entries, and otherwise asks its fallbacks in order.  An entry is
of the kind of its key.
-/

namespace ApiBinding

/-- The kinds of capabilities. -/
inductive CapabilityKind where
  | timeZone
  | invoker
  | context
deriving DecidableEq, Repr

namespace CapabilityKind

/-- The name of a kind. -/
def name : CapabilityKind → String
  | timeZone => "TimeZone"
  | invoker => "Invoker"
  | context => "ConnectorContext"

end CapabilityKind

/-- A key: a kind, and for some capabilities a namespace. -/
structure CapabilityKey where
  kind : CapabilityKind
  namespaceName : Option String
deriving DecidableEq, Repr

namespace CapabilityKey

/-- The key of the time zone. -/
def timeZone : CapabilityKey := ⟨.timeZone, none⟩

/-- The key of the invoker for a namespace, or of the default one. -/
def invoker (namespaceName : Option String) : CapabilityKey := ⟨.invoker, namespaceName⟩

/-- The key of the context. -/
def context : CapabilityKey := ⟨.context, none⟩

/-- The text of a key as it is shown for inspection. -/
def display (key : CapabilityKey) : String :=
  "CapabilityKey \x7b kind: " ++ key.kind.name ++ ", namespace: " ++
    Text.quotedOption key.namespaceName ++ " \x7d"

end CapabilityKey

mutual

/-- A context of calls, with invokers of a given type. -/
inductive Context (ι : Type) where
  /-- One invoker for every namespace, and no time zone. -/
  | temporary (invoker : ι)
  /-- The capabilities of a provider. -/
  | provider (provider : Provider ι)

/-- A capability. -/
inductive Capability (ι : Type) where
  | timeZone (offset : Int)
  | invoker (invoker : ι)
  | context (context : Context ι)

/-- A provider: its own entries, the latest of a key first, and its fallbacks. -/
inductive Provider (ι : Type) where
  | mk (entries : List (CapabilityKey × Capability ι)) (fallbacks : List (Provider ι))

end

/-- A capability that was offered under a key of another kind. -/
structure KindMismatch where
  expected : CapabilityKind
  actual : CapabilityKind
deriving DecidableEq, Repr

namespace Capability

variable {ι : Type}

/-- The kind of a capability. -/
def kind : Capability ι → CapabilityKind
  | timeZone _ => .timeZone
  | invoker _ => .invoker
  | context _ => .context

/-- The time zone, if it is one. -/
def timeZone? : Capability ι → Option Int
  | timeZone offset => some offset
  | _ => none

/-- The invoker, if it is one. -/
def invoker? : Capability ι → Option ι
  | invoker i => some i
  | _ => none

/-- The context, if it is one. -/
def context? : Capability ι → Option (Context ι)
  | context c => some c
  | _ => none

/-- An offset in hours and minutes, and seconds where there are any. -/
def offsetText (offset : Int) : String :=
  let pair := fun n : Nat => (if n < 10 then "0" else "") ++ toString n
  let n := offset.natAbs
  (if offset < 0 then "-" else "+") ++ pair (n / 3600) ++ ":" ++ pair (n / 60 % 60) ++
    (if n % 60 = 0 then "" else ":" ++ pair (n % 60))

/-- The text of a capability as it is shown for inspection. -/
def display : Capability ι → String
  | timeZone offset => "TimeZone(" ++ offsetText offset ++ ")"
  | invoker _ => "Invoker(..)"
  | context _ => "ConnectorContext(..)"

end Capability

namespace Provider

variable {ι : Type}

/-- A provider without capabilities and fallbacks. -/
def empty : Provider ι := mk [] []

instance : Inhabited (Provider ι) := ⟨empty⟩

/-- A provider without capabilities of its own.  Missing fallbacks are left out. -/
def withFallbacks (fallbacks : List (Option (Provider ι))) : Provider ι :=
  mk [] (fallbacks.filterMap id)

/-- The provider's own entries. -/
def entries : Provider ι → List (CapabilityKey × Capability ι)
  | mk entries _ => entries

/-- The provider's fallbacks. -/
def fallbacks : Provider ι → List (Provider ι)
  | mk _ fallbacks => fallbacks

/-- Enter a capability in place of an earlier one of the key. -/
def insert (provider : Provider ι) (key : CapabilityKey) (capability : Capability ι) : Provider ι :=
  mk ((key, capability) :: provider.entries.filter fun entry => entry.1 != key) provider.fallbacks

/-- Enter a capability under a key of its kind. -/
def add (provider : Provider ι) (key : CapabilityKey) (capability : Capability ι) :
    Except KindMismatch (Provider ι) :=
  if capability.kind = key.kind then .ok (provider.insert key capability)
  else .error ⟨key.kind, capability.kind⟩

/-- Enter the time zone. -/
def addTimeZone (provider : Provider ι) (offset : Int) : Provider ι :=
  provider.insert .timeZone (.timeZone offset)

/-- Enter the invoker for a namespace, or the default one. -/
def addInvoker (provider : Provider ι) (namespaceName : Option String) (invoker : ι) :
    Provider ι :=
  provider.insert (.invoker namespaceName) (.invoker invoker)

/-- Enter the context. -/
def addContext (provider : Provider ι) (context : Context ι) : Provider ι :=
  provider.insert .context (.context context)

mutual

/-- The capability of a key: the provider's own, else that of the first fallback that
has one. -/
def lookup (key : CapabilityKey) : Provider ι → Option (Capability ι)
  | mk entries fallbacks => (entries.lookup key).or (lookupFirst key fallbacks)

/-- The capability of the first provider that has one. -/
def lookupFirst (key : CapabilityKey) : List (Provider ι) → Option (Capability ι)
  | [] => none
  | provider :: rest => (provider.lookup key).or (lookupFirst key rest)

end

/-- The time zone. -/
def timeZone? (provider : Provider ι) : Option Int :=
  (provider.lookup .timeZone).bind Capability.timeZone?

/-- The invoker for a namespace, else the default one. -/
def invoker? (provider : Provider ι) (namespaceName : String) : Option ι :=
  ((provider.lookup (.invoker (some namespaceName))).or (provider.lookup (.invoker none))).bind
    Capability.invoker?

/-- The context. -/
def context? (provider : Provider ι) : Option (Context ι) :=
  (provider.lookup .context).bind Capability.context?

/-- The text of a provider as it is shown for inspection. -/
def display (provider : Provider ι) : String :=
  let entry := fun (e : CapabilityKey × Capability ι) => e.1.display ++ ": " ++ e.2.display
  "CapabilityProvider \x7b services: \x7b" ++
    String.intercalate ", " (provider.entries.reverse.map entry) ++ "\x7d, fallbacks: " ++
    toString provider.fallbacks.length ++ " \x7d"

end Provider

namespace Context

variable {ι : Type}

/-- The time zone of a context; without one it has no offset. -/
def timeZone : Context ι → Int
  | temporary _ => 0
  | provider p => p.timeZone?.getD 0

/-- The invoker for a namespace. -/
def invoker? : Context ι → String → Option ι
  | temporary invoker, _ => some invoker
  | provider p, namespaceName => p.invoker? namespaceName

/-- The context of calls over a provider: the one it holds, else the provider
itself. -/
def ofProvider (p : Provider ι) : Context ι :=
  p.context?.getD (.provider p)

end Context

end ApiBinding
