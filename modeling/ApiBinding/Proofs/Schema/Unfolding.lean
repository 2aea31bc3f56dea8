import ApiBinding.Proofs.Schema.Fields

/-!
# Unfolding references

A reference that is being followed is not followed again, so that a schema that leads back
to itself still has a type.  Where no schema on the way does, the guard changes nothing: the
type is the one that comes of following every reference as often as it is met, however many
times side by side.

Main results:

- Theorem `followInduction`: induction along the references of a schema that never returns
  to one it follows.
- Theorem `neverReturns_of_ranked`: schemas that refer to schemas of lower rank alone never
  return.
- Theorem `convert_innerType_eq_toType`: whichever references are open, a schema that never
  returns has the same type.
- Theorem `toType_eq_convert_of_followsFreely`: the type of such a schema without the guard.
-/

namespace ApiBinding.Schema

/-! ## Following references -/

/-- A schema stands directly inside another one. -/
inductive Contains : Schema → Schema → Prop where
  | property {schema : Schema} {property : String × Schema} (h : property ∈ schema.properties) :
      Contains schema property.2
  | item {schema item : Schema} (h : schema.items = some item) : Contains schema item
  | part {schema part : Schema} (h : part ∈ schema.parts) : Contains schema part

/-- A reference is met on the way from a schema, through the schemas that count as inside and
through the references on the way. -/
inductive Reaches (document : Option Document) (inside : Schema → Schema → Prop) :
    Schema → String → Prop where
  | itself {schema : Schema} {reference : String} (hreference : schema.reference = some reference) :
      Reaches document inside schema reference
  | inside {schema inner : Schema} {reference : String} (hinside : inside schema inner)
      (h : Reaches document inside inner reference) : Reaches document inside schema reference
  | target {schema target : Schema} {followed reference : String}
      (hreference : schema.reference = some followed)
      (hlookup : lookup? document followed = some target)
      (h : Reaches document inside target reference) : Reaches document inside schema reference

/-- No reference that is met on the way from a schema is met again while it is followed. -/
def NeverReturns (document : Option Document) (inside : Schema → Schema → Prop)
    (schema : Schema) : Prop :=
  ∀ reference target, Reaches document inside schema reference →
    lookup? document reference = some target → ¬Reaches document inside target reference

variable {document : Option Document} {inside other : Schema → Schema → Prop}
  {policy : NumberPolicy} {follow : String → ValueType} {fuel : Nat} {opened : List String}
  {reference : String} {schema inner target : Schema}

/-- Where fewer schemas count as inside, fewer references are met. -/
theorem Reaches.mono (h : Reaches document inside schema reference)
    (hinside : ∀ schema inner, inside schema inner → other schema inner) :
    Reaches document other schema reference := by
  induction h with
  | itself hreference => exact .itself hreference
  | inside hinner _ ih => exact .inside (hinside _ _ hinner) ih
  | target hreference hlookup _ ih => exact .target hreference hlookup ih

/-- Where fewer schemas count as inside, no more references are met again. -/
theorem NeverReturns.anti (h : NeverReturns document other schema)
    (hinside : ∀ schema inner, inside schema inner → other schema inner) :
    NeverReturns document inside schema :=
  fun reference target hreaches hlookup hagain =>
    h reference target (hreaches.mono hinside) hlookup (hagain.mono hinside)

/-- What never returns does not return inside. -/
theorem NeverReturns.of_inside (h : NeverReturns document inside schema)
    (hinside : inside schema inner) : NeverReturns document inside inner :=
  fun reference target hreaches => h reference target (.inside hinside hreaches)

/-- What never returns does not return where its reference leads to. -/
theorem NeverReturns.of_target (h : NeverReturns document inside schema)
    (hreference : schema.reference = some reference)
    (hlookup : lookup? document reference = some target) : NeverReturns document inside target :=
  fun other found hreaches => h other found (.target hreference hlookup hreaches)

/-- What is met on the way from where a reference leads to is met on the way to it. -/
theorem Reaches.trans {followed : String} (h : Reaches document inside schema followed)
    (hlookup : lookup? document followed = some target)
    (hnext : Reaches document inside target reference) : Reaches document inside schema reference := by
  induction h with
  | itself hreference => exact .target hreference hlookup hnext
  | inside hinner _ ih => exact .inside hinner (ih hlookup)
  | target hreference hleads _ ih => exact .target hreference hleads (ih hlookup)

/-- Where a schema never returns, the reference that it is has not been met and is not met
again below. -/
theorem not_reaches_opened (hreturns : NeverReturns document inside schema)
    (hopened : ∀ other ∈ opened, ¬Reaches document inside schema other)
    (hreference : schema.reference = some reference)
    (hlookup : lookup? document reference = some target) :
    reference ∉ opened ∧ ∀ other ∈ reference :: opened, ¬Reaches document inside target other := by
  refine ⟨fun hmem => hopened reference hmem (.itself hreference), ?_⟩
  rw [List.forall_mem_cons]
  exact ⟨hreturns reference target (.itself hreference) hlookup,
    fun other hmem hreaches => hopened other hmem (.target hreference hlookup hreaches)⟩

/-- What holds of a schema whenever it holds of the schemas inside and of the one that it
refers to holds of every schema that never returns.  The references that are open on the way
carry the induction, for only finitely many can be. -/
@[elab_as_elim]
theorem followInduction {motive : Schema → Prop}
    (hcontains : ∀ schema inner, inside schema inner → Contains schema inner)
    (step : ∀ schema, NeverReturns document inside schema →
      (∀ inner, inside schema inner → motive inner) →
      (∀ reference target, schema.reference = some reference →
        lookup? document reference = some target → motive target) → motive schema)
    (hreturns : NeverReturns document inside schema) : motive schema := by
  have hopen : ∀ fuel opened, Room document fuel opened → ∀ schema,
      NeverReturns document inside schema →
      (∀ other ∈ opened, ¬Reaches document inside schema other) → motive schema := by
    intro fuel
    induction fuel using Nat.strongRecOn with
    | ind fuel hless =>
      intro opened hroom schema
      induction schema using insideInduction with
      | inside schema hproperties hitems hparts =>
        intro hreturns hopened
        apply step schema hreturns
        · intro inner hinner
          have hbelow : ∀ other ∈ opened, ¬Reaches document inside inner other :=
            fun other hmem hreaches => hopened other hmem (.inside hinner hreaches)
          cases hcontains schema inner hinner with
          | property h => exact hproperties _ h (hreturns.of_inside hinner) hbelow
          | item h => exact hitems _ h (hreturns.of_inside hinner) hbelow
          | part h => exact hparts _ h (hreturns.of_inside hinner) hbelow
        · intro reference target hreference hlookup
          obtain ⟨hclosed, hbelow⟩ := not_reaches_opened hreturns hopened hreference hlookup
          obtain ⟨rest, rfl, hrest⟩ := hroom.exists_opened hlookup hclosed
          exact hless rest (Nat.lt_succ_self rest) _ hrest target
            (hreturns.of_target hreference hlookup) hbelow
  exact hopen _ _ (room_outerFuel document) schema hreturns (by simp)

/-! ## Ranked schemas -/

mutual

/-- The references in a schema, at any depth. -/
def mentioned : Schema → List String
  | ⟨reference, _, _, properties, items, _, parts, _, _, _, _, _⟩ =>
    reference.toList ++ mentionedByProperties properties ++ mentionedByItems items ++
      mentionedByParts parts

/-- The references in properties. -/
def mentionedByProperties : List (String × Schema) → List String
  | [] => []
  | (_, schema) :: rest => mentioned schema ++ mentionedByProperties rest

/-- The references in items. -/
def mentionedByItems : Option Schema → List String
  | none => []
  | some schema => mentioned schema

/-- The references in parts. -/
def mentionedByParts : List Schema → List String
  | [] => []
  | schema :: rest => mentioned schema ++ mentionedByParts rest

end

/-- The names of schemas that a schema refers to at any depth are below a rank. -/
def RefersBelow (rank : String → Nat) (bound : Nat) (schema : Schema) : Prop :=
  ∀ reference ∈ schema.mentioned, ∀ name ∈ Document.schemaName? reference, rank name < bound

instance (rank : String → Nat) (bound : Nat) : DecidablePred (RefersBelow rank bound) :=
  fun schema => inferInstanceAs (Decidable (∀ reference ∈ schema.mentioned,
    ∀ name ∈ Document.schemaName? reference, rank name < bound))

/-- The references of a schema inside another one are references of that one. -/
theorem mentioned_subset_of_contains (h : Contains schema inner) :
    inner.mentioned ⊆ schema.mentioned := by
  intro reference hmem
  cases h with
  | property h =>
      obtain ⟨_, _, _, properties, _, _, _, _, _, _, _, _⟩ := schema
      have hfound : reference ∈ mentionedByProperties properties := by
        dsimp only at h
        induction properties with
        | nil => cases h
        | cons first rest ih =>
            rw [mentionedByProperties, List.mem_append]
            rcases List.mem_cons.1 h with rfl | h
            · exact Or.inl hmem
            · exact Or.inr (ih h)
      simp [mentioned, hfound]
  | item h =>
      obtain ⟨_, _, _, _, items, _, _, _, _, _, _, _⟩ := schema
      obtain rfl : items = some inner := h
      simp [mentioned, mentionedByItems, hmem]
  | part h =>
      obtain ⟨_, _, _, _, _, _, parts, _, _, _, _, _⟩ := schema
      have hfound : reference ∈ mentionedByParts parts := by
        dsimp only at h
        induction parts with
        | nil => cases h
        | cons first rest ih =>
            rw [mentionedByParts, List.mem_append]
            rcases List.mem_cons.1 h with rfl | h
            · exact Or.inl hmem
            · exact Or.inr (ih h)
      simp [mentioned, hfound]

/-- What a reference leads to is the entry of its name. -/
theorem exists_entry_of_lookup? {document : Document}
    (h : lookup? (some document) reference = some target) :
    ∃ name, Document.schemaName? reference = some name ∧ (name, target) ∈ document.schemas := by
  obtain ⟨name, hname, hfind⟩ : ∃ name, Document.schemaName? reference = some name ∧
      Entries.find? name document.schemas = some target := Option.bind_eq_some_iff.1 h
  exact ⟨name, hname, Entries.mem_of_find? hfind⟩

/-- What refers to schemas below a rank meets schemas below that rank alone, if those refer
to schemas of lower rank. -/
theorem rank_lt_of_reaches {document : Document} {rank : String → Nat} {bound : Nat} {name : String}
    (hranked : ∀ entry ∈ document.schemas, rank entry.1 < bound →
      RefersBelow rank (rank entry.1) entry.2)
    (hcontains : ∀ schema inner, inside schema inner → Contains schema inner)
    (h : Reaches (some document) inside schema reference) {least : Nat} (hleast : least ≤ bound)
    (hbelow : RefersBelow rank least schema) (hname : Document.schemaName? reference = some name) :
    rank name < least := by
  induction h generalizing least with
  | @itself schema reference hreference =>
      refine hbelow reference ?_ name hname
      obtain ⟨_, _, _, _, _, _, _, _, _, _, _, _⟩ := schema
      obtain rfl := hreference
      simp [mentioned]
  | inside hinner _ ih =>
      have hsubset := mentioned_subset_of_contains (hcontains _ _ hinner)
      exact ih hleast (fun other hmem => hbelow other (hsubset hmem)) hname
  | @target schema target followed reference hreference hlookup _ ih =>
      obtain ⟨key, hkey, hentry⟩ := exists_entry_of_lookup? hlookup
      have hlower : rank key < least := by
        refine hbelow followed ?_ key hkey
        obtain ⟨_, _, _, _, _, _, _, _, _, _, _, _⟩ := schema
        obtain rfl := hreference
        simp [mentioned]
      have htarget := hranked (key, target) hentry (Nat.lt_of_lt_of_le hlower hleast)
      have hbound : rank key ≤ bound := by omega
      exact Nat.lt_trans (ih hbound htarget hname) hlower

/-- Schemas that refer to schemas of lower rank alone never return. -/
theorem neverReturns_of_ranked {document : Document} (rank : String → Nat) (bound : Nat)
    (hranked : ∀ entry ∈ document.schemas, rank entry.1 < bound →
      RefersBelow rank (rank entry.1) entry.2)
    (hcontains : ∀ schema inner, inside schema inner → Contains schema inner)
    (hbelow : RefersBelow rank bound schema) : NeverReturns (some document) inside schema := by
  intro reference target hreaches hlookup hagain
  obtain ⟨name, hname, hentry⟩ := exists_entry_of_lookup? hlookup
  have hrank := rank_lt_of_reaches hranked hcontains hreaches (Nat.le_refl _) hbelow hname
  have htarget := hranked (name, target) hentry hrank
  exact Nat.lt_irrefl _
    (rank_lt_of_reaches hranked hcontains hagain (Nat.le_of_lt hrank) htarget hname)

/-! ## Typing without the guard -/

/-- The schemas inside a schema that its type is made of: its properties, unless the declared
type lets it have none, the items of an array, and the parts. -/
inductive TypedInside : Schema → Schema → Prop where
  | property {schema : Schema} {property : String × Schema} (hreference : schema.reference = none)
      (htype : schema.primaryType? ∉ fieldlessTypes) (h : property ∈ schema.properties) :
      TypedInside schema property.2
  | item {schema item : Schema} (hreference : schema.reference = none)
      (htype : schema.primaryType? = some "array") (h : schema.items = some item) :
      TypedInside schema item
  | part {schema part : Schema} (hreference : schema.reference = none) (h : part ∈ schema.parts) :
      TypedInside schema part

/-- What a type is made of stands directly inside. -/
theorem contains_of_typedInside (h : TypedInside schema inner) : Contains schema inner := by
  cases h with
  | property _ _ h => exact .property h
  | item _ _ h => exact .item h
  | part _ h => exact .part h

/-- References are followed without a guard, as far as they are met from a schema: each has
the type of the schema that it leads to, and is untyped if it leads to none. -/
def FollowsFreely (document : Option Document) (policy : NumberPolicy)
    (follow : String → ValueType) (schema : Schema) : Prop :=
  ∀ reference, Reaches document TypedInside schema reference →
    follow reference =
      ((lookup? document reference).map (convert policy follow)).getD .untyped

/-- The declared type decides which of the properties and items are read. -/
theorem keywordType_congr {primary format : Option String}
    {properties others : List (String × ValueType)} {items otherItems : Option ValueType}
    (hproperties : primary ∉ fieldlessTypes → properties = others)
    (hitems : primary = some "array" → items = otherItems) :
    keywordType policy primary format properties items =
      keywordType policy primary format others otherItems := by
  by_cases harray : primary = some "array"
  · rw [hitems harray, harray]
    rfl
  · by_cases hfieldless : primary ∈ fieldlessTypes
    · simp only [fieldlessTypes, List.mem_cons, List.not_mem_nil, or_false] at hfieldless
      rcases hfieldless with rfl | rfl | rfl | rfl | rfl | rfl
      all_goals first
        | rfl
        | exact absurd rfl harray
    · rw [hproperties hfieldless]
      unfold keywordType
      simp only [if_neg harray]

/-- The type of a schema depends on those of the schemas that it is made of alone. -/
theorem convert_congr {free : String → ValueType} (hreference : schema.reference = none)
    (h : ∀ inner, TypedInside schema inner → convert policy follow inner = convert policy free inner) :
    convert policy follow schema = convert policy free schema := by
  have hkeywords : ∀ own : Schema, own.reference = none → own.parts = [] →
      own.primaryType? = schema.primaryType? → own.properties = schema.properties →
      own.items = schema.items → convert policy follow own = convert policy free own := by
    intro own hplain hparts htype hproperties hitems
    rw [convert_of_keywords hplain hparts, convert_of_keywords hplain hparts, htype, hproperties,
      hitems, convertProperties_eq_map, convertProperties_eq_map, convertItems_eq_map,
      convertItems_eq_map]
    apply keywordType_congr
    · intro hfields
      apply List.map_congr_left
      intro property hproperty
      rw [h _ (.property hreference hfields hproperty)]
    · intro harray
      cases hitem : schema.items with
      | none => rfl
      | some item => rw [Option.map_some, Option.map_some, h item (.item hreference harray hitem)]
  by_cases hparts : schema.parts = []
  · exact hkeywords schema hreference hparts rfl rfl rfl
  · have hall : ∀ parts : List Schema, parts ⊆ schema.parts →
        convertParts policy follow parts = convertParts policy free parts := by
      intro parts hsubset
      induction parts with
      | nil => rfl
      | cons part rest ih =>
          obtain ⟨hpart, hrest⟩ := List.cons_subset.1 hsubset
          rw [convertParts, convertParts, h part (.part hreference hpart), ih hrest]
    rw [convert_of_parts hreference hparts, convert_of_parts hreference hparts,
      hall schema.parts (List.Subset.refl _),
      hkeywords schema.ownKeywords hreference rfl rfl rfl rfl]

/-- An open way to where a reference leads to gives the reference the type of that schema. -/
theorem innerType_eq_toType (hroom : Room document fuel opened)
    (hlookup : lookup? document reference = some target) (hclosed : reference ∉ opened)
    (hbelow : ∀ other ∈ reference :: opened, ¬Reaches document TypedInside target other)
    (htarget : ∀ fuel opened, Room document fuel opened →
      (∀ other ∈ opened, ¬Reaches document TypedInside target other) →
      convert policy (innerType document policy fuel opened) target =
        target.toType document policy) :
    innerType document policy fuel opened reference = target.toType document policy := by
  obtain ⟨rest, _, hrest, htype⟩ := hroom.innerType_of_not_mem policy hlookup hclosed
  rw [htype, htarget rest _ hrest hbelow]

/-- Whichever references are open that a schema does not meet, one that never returns has the
type that it has where none is open. -/
theorem convert_innerType_eq_toType (hreturns : NeverReturns document TypedInside schema) :
    ∀ fuel opened, Room document fuel opened →
      (∀ other ∈ opened, ¬Reaches document TypedInside schema other) →
      convert policy (innerType document policy fuel opened) schema =
        schema.toType document policy := by
  refine followInduction (fun _ _ => contains_of_typedInside) ?_ hreturns
  intro schema hreturns hinside htarget fuel opened hroom hopened
  rw [toType_eq_convert]
  cases hreference : schema.reference with
  | none =>
      apply convert_congr hreference
      intro inner hinner
      rw [← toType_eq_convert]
      exact hinside inner hinner fuel opened hroom
        fun other hmem hreaches => hopened other hmem (.inside hinner hreaches)
  | some reference =>
      rw [convert_of_reference hreference, convert_of_reference hreference]
      cases hlookup : lookup? document reference with
      | none => rw [innerType_of_lookup?_eq_none hlookup, innerType_of_lookup?_eq_none hlookup]
      | some target =>
          have htype := htarget reference target hreference hlookup
          obtain ⟨hclosed, hbelow⟩ := not_reaches_opened hreturns hopened hreference hlookup
          obtain ⟨houter, hfirst⟩ :=
            not_reaches_opened hreturns (List.forall_mem_nil _) hreference hlookup
          rw [innerType_eq_toType hroom hlookup hclosed hbelow htype,
            innerType_eq_toType (room_outerFuel document) hlookup houter hfirst htype]

/-- References that a schema meets have the types of their schemas if it never returns. -/
theorem followsFreely_innerType (hreturns : NeverReturns document TypedInside schema) :
    FollowsFreely document policy (innerType document policy (outerFuel document) []) schema := by
  intro reference hreaches
  cases hlookup : lookup? document reference with
  | none => exact innerType_of_lookup?_eq_none hlookup
  | some target =>
      have hbelow : NeverReturns document TypedInside target := fun other found hother =>
        hreturns other found (hreaches.trans hlookup hother)
      have hagain := hreturns reference target hreaches hlookup
      rw [Option.map_some, Option.getD_some, ← toType_eq_convert]
      exact innerType_eq_toType (room_outerFuel document) hlookup List.not_mem_nil
        (by simpa using hagain) (convert_innerType_eq_toType hbelow)

/-- The type of a schema that never returns is what follows from any types of the references
that it meets, if these are followed freely. -/
theorem convert_eq_toType_of_followsFreely (hreturns : NeverReturns document TypedInside schema)
    (hfree : FollowsFreely document policy follow schema) :
    convert policy follow schema = schema.toType document policy := by
  revert hfree
  refine followInduction (fun _ _ => contains_of_typedInside) ?_ hreturns
  intro schema hreturns hinside htarget hfree
  rw [toType_eq_convert]
  cases hreference : schema.reference with
  | none =>
      apply convert_congr hreference
      intro inner hinner
      rw [← toType_eq_convert]
      exact hinside inner hinner fun other hreaches => hfree other (.inside hinner hreaches)
  | some reference =>
      rw [convert_of_reference hreference, convert_of_reference hreference,
        hfree reference (.itself hreference),
        followsFreely_innerType hreturns reference (.itself hreference)]
      cases hlookup : lookup? document reference with
      | none => rfl
      | some target =>
          have htype := htarget reference target hreference hlookup fun other hreaches =>
            hfree other (.target hreference hlookup hreaches)
          rw [Option.map_some, Option.map_some, Option.getD_some, Option.getD_some, htype,
            toType_eq_convert]

/-- The type of a schema from which no reference is met again while it is followed is the one
that comes of replacing every reference by the type of its schema, however often it is met. -/
theorem toType_eq_convert_of_followsFreely (hreturns : NeverReturns document TypedInside schema) :
    (∃ follow, FollowsFreely document policy follow schema) ∧
      ∀ follow, FollowsFreely document policy follow schema →
        schema.toType document policy = convert policy follow schema :=
  ⟨⟨_, followsFreely_innerType hreturns⟩, fun _ hfree =>
    (convert_eq_toType_of_followsFreely hreturns hfree).symm⟩

/-- A description in which people have two addresses each, beside a schema that refers to
itself. -/
def peopleDocument : Document where
  version := .openApi3
  title := none
  basePath := ""
  schemas :=
    [("Address", { properties := [("city", ofType "string")] }),
      ("Person",
        { properties :=
            [("home", { reference := some "#/components/schemas/Address" }),
              ("work", { reference := some "#/components/schemas/Address" })] }),
      ("Tree", { properties := [("left", { reference := some "#/components/schemas/Tree" })] })]
  operations := []

/-- A schema with a person as a part, one as a property and several as items. -/
def householdSchema : Schema where
  parts := [{ reference := some "#/components/schemas/Person" }]
  properties :=
    [("guests",
        { typeKeyword := some (.single "array")
          items := some { reference := some "#/components/schemas/Person" } }),
      ("owner", { reference := some "#/components/schemas/Person" })]

/-- Every person and every address is typed in full, each time it is met. -/
theorem toType_householdSchema :
    NeverReturns (some peopleDocument) TypedInside householdSchema ∧
      (∃ follow, FollowsFreely (some peopleDocument) .binary follow householdSchema) ∧
      (∀ follow, FollowsFreely (some peopleDocument) .binary follow householdSchema →
        householdSchema.toType (some peopleDocument) .binary =
          convert .binary follow householdSchema) ∧
      ∃ address person, address = ValueType.record [("city", .text)] ∧
        person = [("home", address), ("work", address)] ∧
        householdSchema.toType (some peopleDocument) .binary =
          .record [("guests", .table person), ("home", address), ("owner", .record person),
            ("work", address)] := by
  have hreturns : NeverReturns (some peopleDocument) TypedInside householdSchema := by
    refine neverReturns_of_ranked
      (fun name => if name = "Address" then 0 else if name = "Person" then 1 else 2) 2
      (by decide) (fun _ _ => contains_of_typedInside) (by decide)
  exact ⟨hreturns, (toType_eq_convert_of_followsFreely hreturns).1,
    (toType_eq_convert_of_followsFreely hreturns).2, _, _, rfl, rfl, rfl⟩

end ApiBinding.Schema
