import ApiBinding.Capability
import Mathlib.Data.List.Nodup

/-!
# Looking capabilities up

Providers form a tree: each has its own entries and falls back on other providers.  A key
is looked up in the order in which the tree is walked from its root, every provider before
its fallbacks and these from the first to the last.  However the tree was built, a provider
has at most one entry for a key, and the entry is of the kind of the key.  So nothing that
is found is lost when a capability of one kind is asked for.

Main results:

- Theorem `lookup_eq_findSome?`: a key gives the entry of the first provider that holds it.
- Theorem `wellKept_of_built`: the entries of a tree that was built are of the kinds of
  their keys.
- Theorem `lookup_insert`: an entry changes what its own key gives, and no other.
- Theorem `answers_of_built`: what a tree that was built answers.
-/

namespace ApiBinding.Provider

variable {ι : Type} {provider member : Provider ι} {key : CapabilityKey}
  {capability : Capability ι}

/-! ## Trees of providers -/

mutual

/-- The providers of a tree, each before its fallbacks. -/
def preorder : Provider ι → List (Provider ι)
  | mk entries fallbacks => mk entries fallbacks :: preorderAll fallbacks

/-- The providers of several trees, one tree after the other. -/
def preorderAll : List (Provider ι) → List (Provider ι)
  | [] => []
  | provider :: rest => provider.preorder ++ preorderAll rest

end

/-- The keys of a provider's own entries. -/
def keys (provider : Provider ι) : List CapabilityKey :=
  provider.entries.map Prod.fst

/-- What a provider's own entries give for a key. -/
def own? (key : CapabilityKey) (provider : Provider ι) : Option (Capability ι) :=
  provider.entries.lookup key

/-- What can be entered into a provider. -/
inductive Addition (ι : Type) where
  /-- A capability under a key, which may be of another kind. -/
  | capability (key : CapabilityKey) (capability : Capability ι)
  | timeZone (offset : Int)
  | invoker (namespaceName : Option String) (invoker : ι)
  | context (context : Context ι)

/-- The provider after an addition; one that is refused leaves it as it was. -/
def apply (provider : Provider ι) : Addition ι → Provider ι
  | .capability key capability =>
    match provider.add key capability with
    | .ok changed => changed
    | .error _ => provider
  | .timeZone offset => provider.addTimeZone offset
  | .invoker namespaceName invoker => provider.addInvoker namespaceName invoker
  | .context context => provider.addContext context

/-- The trees that are built from providers without entries by falling back on other trees,
of which some may be missing, and by additions. -/
inductive Built : Provider ι → Prop where
  | empty : Built empty
  | withFallbacks {fallbacks : List (Option (Provider ι))}
      (h : ∀ provider, some provider ∈ fallbacks → Built provider) :
      Built (withFallbacks fallbacks)
  | apply {provider : Provider ι} (addition : Addition ι) (h : Built provider) :
      Built (provider.apply addition)

/-- A tree starts with its root. -/
theorem preorder_eq (provider : Provider ι) :
    provider.preorder = provider :: preorderAll provider.fallbacks := by
  obtain ⟨entries, fallbacks⟩ := provider
  rw [preorder, Provider.fallbacks]

/-- The providers of several trees are those of each of them. -/
theorem mem_preorderAll {providers : List (Provider ι)} :
    member ∈ preorderAll providers ↔ ∃ provider ∈ providers, member ∈ provider.preorder := by
  induction providers with
  | nil => simp [preorderAll]
  | cons provider rest ih => simp [preorderAll, ih]

/-! ## The first provider -/

mutual

/-- A key gives the entry of the first provider that holds it. -/
theorem lookup_eq_findSome? (key : CapabilityKey) :
    ∀ provider : Provider ι, provider.lookup key = provider.preorder.findSome? (own? key)
  | mk entries fallbacks => by
      rw [lookup, preorder, List.findSome?_cons, lookupFirst_eq_findSome? key fallbacks]
      cases hown : entries.lookup key <;> simp [own?, Provider.entries, hown]

/-- In several trees a key gives the entry of the first provider that holds it. -/
theorem lookupFirst_eq_findSome? (key : CapabilityKey) :
    ∀ providers : List (Provider ι),
      lookupFirst key providers = (preorderAll providers).findSome? (own? key)
  | [] => rfl
  | provider :: rest => by
      rw [lookupFirst, preorderAll, List.findSome?_append, lookup_eq_findSome? key provider,
        lookupFirst_eq_findSome? key rest]

end

/-- A provider gives nothing for a key exactly if it does not hold the key. -/
theorem own?_eq_none_iff : member.own? key = none ↔ key ∉ member.keys := by
  rw [own?, keys, List.lookup_eq_none_iff, List.mem_map]
  constructor
  · rintro h ⟨entry, hentry, rfl⟩
    simpa using h entry hentry
  · intro h entry hentry
    exact bne_iff_ne.2 fun hkey => h ⟨entry, hentry, hkey.symm⟩

/-- A key gives nothing exactly if no provider of the tree holds it. -/
theorem lookup_eq_none_iff :
    provider.lookup key = none ↔ ∀ member ∈ provider.preorder, key ∉ member.keys := by
  rw [lookup_eq_findSome?, List.findSome?_eq_none_iff]
  exact forall₂_congr fun member _ => own?_eq_none_iff

/-! ## Entries -/

/-- What every provider keeps to: its entries are of the kinds of their keys, and it has at
most one for a key. -/
structure WellKept (provider : Provider ι) : Prop where
  kinds : ∀ entry ∈ provider.entries, entry.2.kind = entry.1.kind
  nodup : provider.keys.Nodup

/-- A provider without entries is well kept. -/
theorem wellKept_mk_nil (fallbacks : List (Provider ι)) : (mk [] fallbacks).WellKept :=
  ⟨List.forall_mem_nil _, List.nodup_nil⟩

/-- A provider that is well kept gives exactly what it has entered for a key. -/
theorem WellKept.own?_eq_some_iff (h : member.WellKept) :
    member.own? key = some capability ↔ (key, capability) ∈ member.entries := by
  obtain ⟨entries, _⟩ := member
  have hnodup : (entries.map Prod.fst).Nodup := h.nodup
  rw [own?, Provider.entries]
  clear h
  induction entries with
  | nil => simp
  | cons entry rest ih =>
      obtain ⟨other, held⟩ := entry
      rw [List.map_cons, List.nodup_cons] at hnodup
      by_cases hkey : key = other
      · subst hkey
        have hlater : (key, capability) ∉ rest := fun hmem =>
          hnodup.1 (List.mem_map.2 ⟨_, hmem, rfl⟩)
        simp [hlater, eq_comm]
      · have hne : (key == other) = false := by simpa using hkey
        have hrest := ih hnodup.2
        simpa [List.lookup_cons, hne, hkey] using hrest

/-- An entry takes the place of what was entered under its key. -/
theorem WellKept.insert (h : provider.WellKept) (hkind : capability.kind = key.kind) :
    (provider.insert key capability).WellKept := by
  have hkept : ∀ entry ∈ provider.entries.filter (fun entry => entry.1 != key),
      entry ∈ provider.entries ∧ entry.1 ≠ key := by
    intro entry hentry
    simpa using List.mem_filter.1 hentry
  constructor
  · intro entry hentry
    rcases List.mem_cons.1 hentry with rfl | hentry
    · exact hkind
    · exact h.kinds entry (hkept entry hentry).1
  · apply List.nodup_cons.2
    constructor
    · intro hmem
      obtain ⟨entry, hentry, hkey⟩ := List.mem_map.1 hmem
      exact (hkept entry hentry).2 hkey
    · exact (List.filter_sublist.map Prod.fst).nodup h.nodup

/-- An addition to a provider that is well kept leaves it so: where it is not refused, it
enters a capability under a key of its kind. -/
theorem WellKept.apply (h : provider.WellKept) (addition : Addition ι) :
    (provider.apply addition).WellKept := by
  cases addition with
  | capability key capability =>
      by_cases hkind : capability.kind = key.kind
      · simpa [Provider.apply, add, hkind] using h.insert hkind
      · simpa [Provider.apply, add, hkind] using h
  | timeZone offset => exact h.insert rfl
  | invoker namespaceName invoker => exact h.insert rfl
  | context context => exact h.insert rfl

/-- An addition does not change the fallbacks. -/
theorem fallbacks_apply (provider : Provider ι) (addition : Addition ι) :
    (provider.apply addition).fallbacks = provider.fallbacks := by
  cases addition with
  | capability key capability =>
      by_cases hkind : capability.kind = key.kind
      · simp [Provider.apply, add, hkind, Provider.insert, Provider.fallbacks]
      · simp [Provider.apply, add, hkind]
  | timeZone offset => rfl
  | invoker namespaceName invoker => rfl
  | context context => rfl

/-- Every provider in a tree that was built is well kept; the induction follows how it was
built. -/
theorem wellKept_of_built (h : provider.Built) :
    ∀ member ∈ provider.preorder, member.WellKept := by
  induction h with
  | empty =>
      intro member hmember
      obtain rfl := List.mem_singleton.1 hmember
      exact wellKept_mk_nil []
  | @withFallbacks fallbacks _ ih =>
      rw [preorder_eq, List.forall_mem_cons]
      refine ⟨wellKept_mk_nil _, fun member hmember => ?_⟩
      obtain ⟨fallback, hfallback, hinside⟩ := mem_preorderAll.1 hmember
      have hlisted : some fallback ∈ fallbacks := by
        simpa [withFallbacks, Provider.fallbacks] using hfallback
      exact ih fallback hlisted member hinside
  | @apply provider addition _ ih =>
      rw [preorder_eq, List.forall_mem_cons] at ih ⊢
      rw [fallbacks_apply]
      exact ⟨ih.1.apply addition, ih.2⟩

/-! ## Additions -/

/-- Entering a capability changes what its own key gives, and no other. -/
theorem lookup_insert (provider : Provider ι) (key : CapabilityKey) (capability : Capability ι)
    (other : CapabilityKey) :
    (provider.insert key capability).lookup other =
      if other = key then some capability else provider.lookup other := by
  obtain ⟨entries, fallbacks⟩ := provider
  rw [insert, lookup, lookup]
  by_cases hkey : other = key
  · subst hkey
    simp
  · have hne : (other == key) = false := by simpa using hkey
    have hfilter : (entries.filter fun entry => entry.1 != key).lookup other =
        entries.lookup other := by
      induction entries with
      | nil => rfl
      | cons entry rest ih =>
          obtain ⟨held, _⟩ := entry
          by_cases hheld : held = key
          · subst hheld
            simp [List.lookup_cons, hne, ih]
          · simp [hheld, ih, List.lookup_cons]
    rw [if_neg hkey, List.lookup_cons, hne]
    exact congrArg (Option.or · _) hfilter

/-- A capability is refused exactly if it is not of the kind of the key. -/
theorem add_eq_error_iff {fault : KindMismatch} :
    provider.add key capability = .error fault ↔
      capability.kind ≠ key.kind ∧ fault = ⟨key.kind, capability.kind⟩ := by
  by_cases hkind : capability.kind = key.kind
  · simp [add, hkind]
  · simp [add, hkind, eq_comm]

/-! ## Capabilities of one kind -/

/-- What is found is of the kind of its key. -/
theorem kind_of_lookup (h : ∀ member ∈ provider.preorder, member.WellKept)
    (hlookup : provider.lookup key = some capability) : capability.kind = key.kind := by
  rw [lookup_eq_findSome?] at hlookup
  obtain ⟨member, hmember, hown⟩ := List.exists_of_findSome?_eq_some hlookup
  have hkept := h member hmember
  exact hkept.kinds _ (hkept.own?_eq_some_iff.1 hown)

/-- If every capability of the kind of a key has a view, then the view of what the key gives
is missing exactly if no provider holds the key. -/
theorem bind_lookup_eq_none_iff {α : Type} {view : Capability ι → Option α}
    (h : ∀ member ∈ provider.preorder, member.WellKept)
    (hview : ∀ capability, capability.kind = key.kind → view capability ≠ none) :
    (provider.lookup key).bind view = none ↔ ∀ member ∈ provider.preorder, key ∉ member.keys := by
  rw [← lookup_eq_none_iff]
  cases hlookup : provider.lookup key with
  | none => simp
  | some capability => simpa using hview capability (kind_of_lookup h hlookup)

/-- Every capability of the kind of invokers is an invoker. -/
theorem exists_invoker_of_kind (h : capability.kind = .invoker) :
    ∃ invoker, capability = .invoker invoker := by
  cases capability with
  | invoker invoker => exact ⟨invoker, rfl⟩
  | timeZone _ | context _ => cases h

/-- An invoker for a namespace is the one under its key, or where no provider holds that
key, the default one. -/
theorem invoker?_eq_some_iff (h : ∀ member ∈ provider.preorder, member.WellKept)
    {namespaceName : String} {invoker : ι} :
    provider.invoker? namespaceName = some invoker ↔
      provider.lookup (.invoker (some namespaceName)) = some (.invoker invoker) ∨
        (∀ member ∈ provider.preorder, .invoker (some namespaceName) ∉ member.keys) ∧
          provider.lookup (.invoker none) = some (.invoker invoker) := by
  have hview : ∀ (name : Option String) (capability : Capability ι),
      provider.lookup (.invoker name) = some capability →
        (capability.invoker? = some invoker ↔ capability = .invoker invoker) := by
    intro name capability hlookup
    obtain ⟨held, rfl⟩ := exists_invoker_of_kind (kind_of_lookup h hlookup)
    simp [Capability.invoker?]
  rw [invoker?, ← lookup_eq_none_iff]
  cases hnamed : provider.lookup (.invoker (some namespaceName)) with
  | some capability => simp [hview _ capability hnamed]
  | none =>
      cases hdefault : provider.lookup (.invoker none) with
      | none => simp
      | some capability => simp [hview _ capability hdefault]

/-! ## What a tree answers -/

/-- What a tree of providers guarantees to those who look capabilities up. -/
structure Answers (provider : Provider ι) : Prop where
  /-- Every entry is of the kind of its key. -/
  kinds : ∀ member ∈ provider.preorder, ∀ entry ∈ member.entries, entry.2.kind = entry.1.kind
  /-- A provider has at most one entry for a key. -/
  nodup : ∀ member ∈ provider.preorder, member.keys.Nodup
  /-- A key gives the entry of the first provider that holds it. -/
  first : ∀ key capability, provider.lookup key = some capability ↔
    ∃ before member after, provider.preorder = before ++ member :: after ∧
      (∀ earlier ∈ before, key ∉ earlier.keys) ∧ (key, capability) ∈ member.entries
  /-- It gives nothing only if none does. -/
  missing : ∀ key, provider.lookup key = none ↔ ∀ member ∈ provider.preorder, key ∉ member.keys
  timeZone_missing : provider.timeZone? = none ↔
    ∀ member ∈ provider.preorder, .timeZone ∉ member.keys
  context_missing : provider.context? = none ↔
    ∀ member ∈ provider.preorder, .context ∉ member.keys
  invoker_missing : ∀ namespaceName, provider.invoker? namespaceName = none ↔
    ∀ member ∈ provider.preorder,
      .invoker (some namespaceName) ∉ member.keys ∧ .invoker none ∉ member.keys
  /-- An entry for the namespace wins over every default one, wherever it stands. -/
  invoker_found : ∀ namespaceName invoker, provider.invoker? namespaceName = some invoker ↔
    provider.lookup (.invoker (some namespaceName)) = some (.invoker invoker) ∨
      (∀ member ∈ provider.preorder, .invoker (some namespaceName) ∉ member.keys) ∧
        provider.lookup (.invoker none) = some (.invoker invoker)
  /-- A capability of another kind than its key is refused and changes nothing. -/
  refused : ∀ key capability, (∃ fault, provider.add key capability = .error fault) ↔
    capability.kind ≠ key.kind
  unchanged : ∀ key capability fault, provider.add key capability = .error fault →
    fault = ⟨key.kind, capability.kind⟩ ∧
      ∀ other, (provider.apply (.capability key capability)).lookup other = provider.lookup other
  /-- Any other one changes what its own key gives, and no other. -/
  entered : ∀ key capability, capability.kind = key.kind → ∀ other,
    (provider.apply (.capability key capability)).lookup other =
      if other = key then some capability else provider.lookup other

/-- The entry of the first provider that holds a key, among well kept ones. -/
theorem lookup_eq_some_iff (h : ∀ member ∈ provider.preorder, member.WellKept) :
    provider.lookup key = some capability ↔
      ∃ before member after, provider.preorder = before ++ member :: after ∧
        (∀ earlier ∈ before, key ∉ earlier.keys) ∧ (key, capability) ∈ member.entries := by
  rw [lookup_eq_findSome?, List.findSome?_eq_some_iff]
  constructor
  · rintro ⟨before, member, after, hsplit, hown, hbefore⟩
    have hmember : member ∈ provider.preorder := by simp [hsplit]
    exact ⟨before, member, after, hsplit,
      fun earlier hearlier => own?_eq_none_iff.1 (hbefore earlier hearlier),
      (h member hmember).own?_eq_some_iff.1 hown⟩
  · rintro ⟨before, member, after, hsplit, hbefore, hentry⟩
    have hmember : member ∈ provider.preorder := by simp [hsplit]
    exact ⟨before, member, after, hsplit, (h member hmember).own?_eq_some_iff.2 hentry,
      fun earlier hearlier => own?_eq_none_iff.2 (hbefore earlier hearlier)⟩

/-- However a tree of providers was built, each key gives the entry of the first provider
that holds it, and what is asked for by its kind is missing only if no provider has it. -/
theorem answers_of_built (h : provider.Built) : provider.Answers := by
  have hkept := wellKept_of_built h
  constructor
  case kinds => exact fun member hmember => (hkept member hmember).kinds
  case nodup => exact fun member hmember => (hkept member hmember).nodup
  case first => exact fun _ _ => lookup_eq_some_iff hkept
  case missing => exact fun _ => lookup_eq_none_iff
  case timeZone_missing =>
    refine bind_lookup_eq_none_iff hkept fun capability hkind => ?_
    cases capability with
    | timeZone offset => exact Option.some_ne_none offset
    | invoker _ | context _ => cases hkind
  case context_missing =>
    refine bind_lookup_eq_none_iff hkept fun capability hkind => ?_
    cases capability with
    | context context => exact Option.some_ne_none context
    | timeZone _ | invoker _ => cases hkind
  case invoker_missing =>
    intro namespaceName
    have hview : ∀ capability : Capability ι, capability.kind = .invoker →
        capability.invoker? ≠ none := by
      intro capability hkind
      obtain ⟨invoker, rfl⟩ := exists_invoker_of_kind hkind
      exact Option.some_ne_none invoker
    rw [forall₂_and, ← bind_lookup_eq_none_iff hkept hview, ← bind_lookup_eq_none_iff hkept hview]
    rw [invoker?]
    cases hnamed : provider.lookup (.invoker (some namespaceName)) with
    | none => simp
    | some capability => simp [hview capability (kind_of_lookup hkept hnamed)]
  case invoker_found => exact fun _ _ => invoker?_eq_some_iff hkept
  case refused =>
    intro key capability
    simp [add_eq_error_iff]
  case unchanged =>
    intro key capability fault hrefused
    refine ⟨(add_eq_error_iff.1 hrefused).2, fun other => ?_⟩
    simp [Provider.apply, hrefused]
  case entered =>
    intro key capability hkind other
    simp [Provider.apply, add, hkind, lookup_insert]

/-- A provider that falls back on one with a default invoker and on one with the time zone and
an invoker for a namespace, and that refused an invoker as the time zone. -/
def nestedProvider : Provider String :=
  (withFallbacks
    [none, some (empty.apply (.invoker none "plain")),
      some ((empty.apply (.timeZone 3600)).apply (.invoker (some "Sql") "sql"))]).apply
    (.capability .timeZone (.invoker "late"))

/-- A default invoker that is found earlier gives way to that of the namespace, and what was
refused as the time zone does not hide it. -/
theorem answers_nestedProvider :
    nestedProvider.Built ∧ nestedProvider.Answers ∧ nestedProvider.invoker? "Sql" = some "sql" ∧
      nestedProvider.invoker? "Mail" = some "plain" ∧ nestedProvider.timeZone? = some 3600 ∧
      nestedProvider.context? = none := by
  have hbuilt : nestedProvider.Built := by
    refine .apply _ (.withFallbacks fun provider hprovider => ?_)
    simp only [List.mem_cons, List.not_mem_nil, or_false, Option.some.injEq, reduceCtorEq,
      false_or] at hprovider
    rcases hprovider with rfl | rfl
    · exact .apply _ .empty
    · exact .apply _ (.apply _ .empty)
  exact ⟨hbuilt, answers_of_built hbuilt, by decide, by decide, by decide, rfl⟩

end ApiBinding.Provider
