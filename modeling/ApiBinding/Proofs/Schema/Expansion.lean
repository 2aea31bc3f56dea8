import ApiBinding.Proofs.Schema.Unfolding

/-!
# Expanding references

Where the references of a description never lead back to themselves, every schema can be
written without them: each reference gives way to the schema that it leads to, at any depth.
The expanded schema has the same type.  A shape that another operation describes is looked
for only in the schema that a reply refers to directly and in its items as they are written,
so that behind a second reference, or behind one in the items, it is not found.

Main results:

- Theorems `expanded_of_resolved` and `expanded_of_unresolved`: what the expanded schema is.
- Theorem `toType_expanded`: expanding a schema keeps its type.
- Theorem `returnType_expanded_iff`: exactly when expanding a schema keeps the result type.
-/

namespace ApiBinding.Schema

/-! ## Expanded schemas -/

/-- The schema that the reference of a schema leads to, if it is one that does. -/
def resolved? (document : Option Document) (schema : Schema) : Option Schema :=
  schema.reference.bind (lookup? document)

/-- The schema is written in place and stays when references are expanded, so that what it
contains is expanded in turn. -/
def ExpandedInside (document : Option Document) (schema inner : Schema) : Prop :=
  schema.resolved? document = none ∧ Contains schema inner

/-- No reference leads back to itself. -/
def AcyclicReferences (document : Option Document) : Prop :=
  ∀ reference target, lookup? document reference = some target →
    ¬Reaches document (ExpandedInside document) target reference

mutual

/-- A schema with the references that have a replacement replaced, at any depth. -/
def replace (replacement : String → Option Schema) : Schema → Schema
  | ⟨reference, keyword, format, properties, items, required, parts, default, description,
      visibility, dynamicSchema, dynamicProperties⟩ =>
    (reference.bind replacement).getD
      ⟨reference, keyword, format, replaceProperties replacement properties,
        replaceItems replacement items, required, replaceParts replacement parts, default,
        description, visibility, dynamicSchema, dynamicProperties⟩

/-- Properties with references replaced. -/
def replaceProperties (replacement : String → Option Schema) :
    List (String × Schema) → List (String × Schema)
  | [] => []
  | (name, schema) :: rest => (name, replace replacement schema) :: replaceProperties replacement rest

/-- Items with references replaced. -/
def replaceItems (replacement : String → Option Schema) : Option Schema → Option Schema
  | none => none
  | some schema => some (replace replacement schema)

/-- Parts with references replaced. -/
def replaceParts (replacement : String → Option Schema) : List Schema → List Schema
  | [] => []
  | schema :: rest => replace replacement schema :: replaceParts replacement rest

end

/-- What replaces a reference: the schema that it leads to, with its own references replaced.
The number bounds how many references are replaced inside each other. -/
def replacementWithin (document : Option Document) : Nat → String → Option Schema
  | 0, _ => none
  | fuel + 1, reference =>
    (lookup? document reference).map (replace (replacementWithin document fuel))

/-- A schema with every reference that leads to a schema replaced by that schema, at any
depth. -/
def expanded (document : Option Document) (schema : Schema) : Schema :=
  replace (replacementWithin document (outerFuel document)) schema

/-- The schema with the schemas directly inside changed. -/
def mapInside (change : Schema → Schema) (schema : Schema) : Schema :=
  { schema with
    properties := schema.properties.map fun property => (property.1, change property.2)
    items := schema.items.map change
    parts := schema.parts.map change }

variable {document : Option Document} {policy : NumberPolicy} {follow : String → ValueType}
  {replacement : String → Option Schema} {fuel : Nat} {opened : List String}
  {reference : String} {schema inner target : Schema}

/-! ## Replacing references -/

/-- A reference with a replacement is replaced. -/
theorem replace_of_replacement {other : Schema}
    (h : schema.reference.bind replacement = some other) : replace replacement schema = other := by
  obtain ⟨_, _, _, _, _, _, _, _, _, _, _, _⟩ := schema
  rw [replace, h, Option.getD_some]

/-- In any other schema the references inside are replaced. -/
theorem replace_of_no_replacement (h : schema.reference.bind replacement = none) :
    replace replacement schema = schema.mapInside (replace replacement) := by
  have hproperties : ∀ properties : List (String × Schema),
      replaceProperties replacement properties =
        properties.map fun property => (property.1, replace replacement property.2) := by
    intro properties
    induction properties with
    | nil => rw [replaceProperties, List.map_nil]
    | cons property rest ih => rw [replaceProperties, List.map_cons, ih]
  have hitems : ∀ items : Option Schema,
      replaceItems replacement items = items.map (replace replacement) := by
    intro items
    cases items with
    | none => rw [replaceItems, Option.map_none]
    | some item => rw [replaceItems, Option.map_some]
  have hparts : ∀ parts : List Schema,
      replaceParts replacement parts = parts.map (replace replacement) := by
    intro parts
    induction parts with
    | nil => rw [replaceParts, List.map_nil]
    | cons part rest ih => rw [replaceParts, List.map_cons, ih]
  obtain ⟨_, _, _, _, _, _, _, _, _, _, _, _⟩ := schema
  rw [replace, h, Option.getD_none, hproperties, hitems, hparts]
  rfl

/-- Changes that agree on the schemas directly inside a schema change it alike. -/
theorem mapInside_congr {change other : Schema → Schema}
    (h : ∀ inner, Contains schema inner → change inner = other inner) :
    schema.mapInside change = schema.mapInside other := by
  have hproperties : schema.properties.map (fun property => (property.1, change property.2)) =
      schema.properties.map fun property => (property.1, other property.2) := by
    apply List.map_congr_left
    intro property hproperty
    rw [h _ (.property hproperty)]
  have hitems : schema.items.map change = schema.items.map other := by
    cases hitem : schema.items with
    | none => rfl
    | some item => rw [Option.map_some, Option.map_some, h item (.item hitem)]
  have hparts : schema.parts.map change = schema.parts.map other :=
    List.map_congr_left fun part hpart => h part (.part hpart)
  rw [mapInside, mapInside, hproperties, hitems, hparts]

/-- Changes that keep the types of the schemas directly inside a schema keep its type. -/
theorem convert_mapInside {change : Schema → Schema} (hreference : schema.reference = none)
    (h : ∀ inner, Contains schema inner →
      convert policy follow (change inner) = convert policy follow inner) :
    convert policy follow (schema.mapInside change) = convert policy follow schema := by
  have hproperties : convertProperties policy follow (schema.mapInside change).properties =
      convertProperties policy follow schema.properties := by
    rw [convertProperties_eq_map, convertProperties_eq_map, mapInside, List.map_map]
    apply List.map_congr_left
    intro property hproperty
    rw [Function.comp_apply, h _ (.property hproperty)]
  have hitems : convertItems policy follow (schema.mapInside change).items =
      convertItems policy follow schema.items := by
    rw [convertItems_eq_map, convertItems_eq_map, mapInside]
    cases hitem : schema.items with
    | none => rfl
    | some item => rw [Option.map_some, Option.map_some, Option.map_some, h item (.item hitem)]
  have hparts : convertParts policy follow (schema.mapInside change).parts =
      convertParts policy follow schema.parts := by
    have hall : ∀ parts : List Schema, parts ⊆ schema.parts →
        convertParts policy follow (parts.map change) = convertParts policy follow parts := by
      intro parts hsubset
      induction parts with
      | nil => rfl
      | cons part rest ih =>
          obtain ⟨hpart, hrest⟩ := List.cons_subset.1 hsubset
          rw [List.map_cons, convertParts, convertParts, h part (.part hpart), ih hrest]
    exact hall schema.parts (List.Subset.refl _)
  obtain ⟨_, _, _, _, _, _, _, _, _, _, _, _⟩ := schema
  obtain rfl := hreference
  simp only [mapInside] at hproperties hitems hparts ⊢
  rw [convert, convert, hproperties, hitems, hparts, List.isEmpty_map]

/-! ## Acyclic references -/

/-- Where no reference leads back to itself, no schema returns. -/
theorem AcyclicReferences.neverReturns (h : AcyclicReferences document) (schema : Schema) :
    NeverReturns document (ExpandedInside document) schema :=
  fun reference target _ hlookup => h reference target hlookup

/-- What a type is made of is expanded. -/
theorem expandedInside_of_typedInside (h : TypedInside schema inner) :
    ExpandedInside document schema inner := by
  have hreference : schema.reference = none := by cases h <;> assumption
  exact ⟨by rw [resolved?, hreference, Option.bind_none], contains_of_typedInside h⟩

/-- Schemas that refer to schemas of lower rank alone have no references that lead back to
themselves. -/
theorem acyclicReferences_of_ranked {document : Document} (rank : String → Nat)
    (hranked : ∀ entry ∈ document.schemas, RefersBelow rank (rank entry.1) entry.2) :
    AcyclicReferences (some document) := by
  intro reference target hlookup hagain
  obtain ⟨name, hname, hentry⟩ := exists_entry_of_lookup? hlookup
  have hrank : rank name < rank name :=
    rank_lt_of_reaches (fun entry hmem _ => hranked entry hmem) (fun _ _ h => h.2) hagain
      (Nat.le_refl _) (hranked _ hentry) hname
  exact Nat.lt_irrefl _ hrank

/-- What a schema resolves to, by its reference. -/
theorem exists_reference_of_resolved (h : schema.resolved? document = some target) :
    ∃ reference, schema.reference = some reference ∧ lookup? document reference = some target :=
  Option.bind_eq_some_iff.1 h

/-- A schema whose reference leads to none has no replacement. -/
theorem replacementWithin_of_unresolved (hresolved : schema.resolved? document = none)
    (fuel : Nat) : schema.reference.bind (replacementWithin document fuel) = none := by
  cases hreference : schema.reference with
  | none => rfl
  | some reference =>
      have hlookup : lookup? document reference = none := by
        simpa [resolved?, hreference] using hresolved
      cases fuel with
      | zero => rfl
      | succ fuel => simp [replacementWithin, hlookup]

/-- On an open way to where a reference leads to, it gives way to that schema, expanded. -/
theorem replace_eq_expanded_target (hroom : Room document fuel opened)
    (hreference : schema.reference = some reference)
    (hlookup : lookup? document reference = some target) (hclosed : reference ∉ opened)
    (hbelow : ∀ other ∈ reference :: opened,
      ¬Reaches document (ExpandedInside document) target other)
    (htarget : ∀ fuel opened, Room document fuel opened →
      (∀ other ∈ opened, ¬Reaches document (ExpandedInside document) target other) →
      replace (replacementWithin document fuel) target = expanded document target) :
    replace (replacementWithin document fuel) schema = expanded document target := by
  obtain ⟨rest, rfl, hrest⟩ := hroom.exists_opened hlookup hclosed
  apply replace_of_replacement
  rw [hreference, Option.bind_some, replacementWithin, hlookup, Option.map_some,
    htarget rest _ hrest hbelow]

/-- However many references have been replaced around a schema, it is replaced by its
expansion. -/
theorem replace_eq_expanded (hreturns : NeverReturns document (ExpandedInside document) schema) :
    ∀ fuel opened, Room document fuel opened →
      (∀ other ∈ opened, ¬Reaches document (ExpandedInside document) schema other) →
      replace (replacementWithin document fuel) schema = expanded document schema := by
  refine followInduction (fun _ _ h => h.2) ?_ hreturns
  intro schema hreturns hinside htarget fuel opened hroom hopened
  cases hresolved : schema.resolved? document with
  | none =>
      rw [expanded, replace_of_no_replacement (replacementWithin_of_unresolved hresolved fuel),
        replace_of_no_replacement (replacementWithin_of_unresolved hresolved _)]
      apply mapInside_congr
      intro inner hcontains
      exact hinside inner ⟨hresolved, hcontains⟩ fuel opened hroom fun other hmem hreaches =>
        hopened other hmem (.inside ⟨hresolved, hcontains⟩ hreaches)
  | some target =>
      obtain ⟨reference, hreference, hlookup⟩ := exists_reference_of_resolved hresolved
      have hexpanded := htarget reference target hreference hlookup
      obtain ⟨hclosed, hbelow⟩ := not_reaches_opened hreturns hopened hreference hlookup
      obtain ⟨houter, hfirst⟩ :=
        not_reaches_opened hreturns (List.forall_mem_nil _) hreference hlookup
      rw [expanded, replace_eq_expanded_target hroom hreference hlookup hclosed hbelow hexpanded,
        replace_eq_expanded_target (room_outerFuel document) hreference hlookup houter hfirst
          hexpanded]

/-- A reference that leads to a schema is expanded to that schema, expanded. -/
theorem expanded_of_resolved (h : AcyclicReferences document)
    (hresolved : schema.resolved? document = some target) :
    expanded document schema = expanded document target := by
  obtain ⟨reference, hreference, hlookup⟩ := exists_reference_of_resolved hresolved
  obtain ⟨hclosed, hbelow⟩ := not_reaches_opened (h.neverReturns schema) (List.forall_mem_nil _)
    hreference hlookup
  exact replace_eq_expanded_target (room_outerFuel document) hreference hlookup hclosed hbelow
    (replace_eq_expanded (h.neverReturns target))

/-- Any other schema is expanded inside. -/
theorem expanded_of_unresolved (hresolved : schema.resolved? document = none) :
    expanded document schema = schema.mapInside (expanded document) :=
  replace_of_no_replacement (replacementWithin_of_unresolved hresolved _)

/-! ## Types of expanded schemas -/

/-- A reference has the type of the schema that it leads to. -/
theorem toType_of_resolved (hreturns : NeverReturns document TypedInside schema)
    (hresolved : schema.resolved? document = some target) :
    schema.toType document policy = target.toType document policy := by
  obtain ⟨reference, hreference, hlookup⟩ := exists_reference_of_resolved hresolved
  rw [toType_eq_convert, convert_of_reference hreference,
    followsFreely_innerType hreturns reference (.itself hreference), hlookup, Option.map_some,
    Option.getD_some, toType_eq_convert]

/-- Expanding a schema keeps its type; the induction follows the references that are
expanded. -/
theorem toType_expanded (h : AcyclicReferences document) (schema : Schema) :
    (expanded document schema).toType document policy = schema.toType document policy := by
  refine followInduction (fun _ _ h => h.2) ?_ (h.neverReturns schema)
  intro schema hreturns hinside htarget
  cases hresolved : schema.resolved? document with
  | some target =>
      obtain ⟨reference, hreference, hlookup⟩ := exists_reference_of_resolved hresolved
      rw [expanded_of_resolved h hresolved, htarget reference target hreference hlookup,
        toType_of_resolved (hreturns.anti fun _ _ => expandedInside_of_typedInside) hresolved]
  | none =>
      rw [expanded_of_unresolved hresolved, toType_eq_convert, toType_eq_convert]
      cases hreference : schema.reference with
      | none =>
          apply convert_mapInside hreference
          intro inner hcontains
          rw [← toType_eq_convert, ← toType_eq_convert]
          exact hinside inner ⟨hresolved, hcontains⟩
      | some reference =>
          have hkept : (schema.mapInside (expanded document)).reference = some reference :=
            hreference
          rw [convert_of_reference hkept, convert_of_reference hreference]

/-! ## Result types of expanded schemas -/

/-- An expanded schema is no reference that leads to a schema. -/
theorem resolved?_expanded (h : AcyclicReferences document) (schema : Schema) :
    (expanded document schema).resolved? document = none := by
  refine followInduction (fun _ _ h => h.2) ?_ (h.neverReturns schema)
  intro schema _ _ htarget
  cases hresolved : schema.resolved? document with
  | some target =>
      obtain ⟨reference, hreference, hlookup⟩ := exists_reference_of_resolved hresolved
      rw [expanded_of_resolved h hresolved, htarget reference target hreference hlookup]
  | none =>
      rw [expanded_of_unresolved hresolved]
      exact hresolved

/-- What a schema stands for is the schema that its reference leads to, else itself. -/
theorem getD_target? : (schema.target? document).getD schema =
    (schema.resolved? document).getD schema := by
  cases hreference : schema.reference with
  | none => rw [target?_of_reference_eq_none hreference, resolved?, hreference]; rfl
  | some reference => rw [target?_of_reference hreference, resolved?, hreference]; rfl

/-- The shape that another operation describes, as it is looked for in a reply: in the schema
that the reply refers to directly, else in the items of that schema. -/
def seenShape? (document : Option Document) (schema : Schema) : Option DynamicShape :=
  ((schema.resolved? document).getD schema).shapeReference?

/-- A result type that is pending on a shape, if there is one, and else follows from a type. -/
def pendingOn (shape : Option DynamicShape) (type : ValueType) : ReturnType :=
  match shape with
  | some shape => .pending (.dynamic shape)
  | none => if type.isSpecified then .resolved type else .pending .sample

/-- The result type of a reply is pending on the shape that is seen, else follows from its
type. -/
theorem returnType_eq_pendingOn (schema : Schema) :
    returnType document policy (some schema) =
      pendingOn (schema.seenShape? document) (schema.toType document policy) := by
  rw [seenShape?, ← getD_target?]
  rfl

/-- A result type that follows from a type is not pending on a shape. -/
theorem pendingOn_none_ne (type : ValueType) (shape : DynamicShape) :
    pendingOn none type ≠ .pending (.dynamic shape) := by
  intro heq
  rw [pendingOn] at heq
  split at heq <;> cases heq

/-- The result type tells which shape it is pending on. -/
theorem pendingOn_eq_iff {first second : Option DynamicShape} {type : ValueType} :
    pendingOn first type = pendingOn second type ↔ first = second := by
  constructor
  · intro heq
    cases first with
    | none =>
        cases second with
        | none => rfl
        | some shape => exact absurd heq (pendingOn_none_ne type shape)
    | some shape =>
        cases second with
        | none => exact absurd heq.symm (pendingOn_none_ne type shape)
        | some other =>
            cases heq
            rfl
  · intro heq
    rw [heq]

/-- A shape is seen where it stands if neither the schema that a reply refers to directly nor,
should that one have no shape of its own, its items are references that lead further. -/
def SeenInPlace (document : Option Document) (schema : Schema) : Prop :=
  ((schema.resolved? document).getD schema).resolved? document = none ∧
    (((schema.resolved? document).getD schema).dynamic? = none →
      ∀ item, ((schema.resolved? document).getD schema).items = some item →
        item.resolved? document = none)

/-- Expanding a schema that is written in place keeps its own shape. -/
theorem dynamic?_expanded (hresolved : schema.resolved? document = none) :
    (expanded document schema).dynamic? = schema.dynamic? := by
  rw [expanded_of_unresolved hresolved]
  rfl

/-- A shape that is seen where it stands is the shape of the expanded schema. -/
theorem shapeReference?_expanded (h : AcyclicReferences document)
    (hplace : schema.SeenInPlace document) :
    (expanded document schema).shapeReference? = schema.seenShape? document := by
  have htarget : expanded document schema =
      expanded document ((schema.resolved? document).getD schema) := by
    cases hresolved : schema.resolved? document with
    | none => rw [Option.getD_none]
    | some target => rw [Option.getD_some, expanded_of_resolved h hresolved]
  obtain ⟨hfirst, hitems⟩ := hplace
  rw [htarget, seenShape?, shapeReference?, shapeReference?, dynamic?_expanded hfirst]
  cases hdynamic : ((schema.resolved? document).getD schema).dynamic? with
  | some shape => rfl
  | none =>
      rw [expanded_of_unresolved hfirst, mapInside]
      cases hitem : ((schema.resolved? document).getD schema).items with
      | none => rfl
      | some item =>
          have hinner := dynamic?_expanded (hitems hdynamic item hitem)
          simpa using hinner

/-- Where no reference leads back to itself, a schema has the type of the schema without
references.  The result types are the same exactly if the shape that is seen is the one that
stands in the expanded schema, as it is where no second reference hides it. -/
theorem returnType_expanded_iff (h : AcyclicReferences document) (policy : NumberPolicy)
    (schema : Schema) :
    (expanded document schema).toType document policy = schema.toType document policy ∧
      (returnType document policy (some (expanded document schema)) =
          returnType document policy (some schema) ↔
        (expanded document schema).shapeReference? = schema.seenShape? document) ∧
      (schema.SeenInPlace document →
        returnType document policy (some (expanded document schema)) =
          returnType document policy (some schema)) := by
  have hseen : (expanded document schema).seenShape? document =
      (expanded document schema).shapeReference? := by
    rw [seenShape?, resolved?_expanded h, Option.getD_none]
  have hiff : returnType document policy (some (expanded document schema)) =
        returnType document policy (some schema) ↔
      (expanded document schema).shapeReference? = schema.seenShape? document := by
    rw [returnType_eq_pendingOn, returnType_eq_pendingOn, hseen, toType_expanded h,
      pendingOn_eq_iff]
  exact ⟨toType_expanded h schema, hiff, fun hplace => hiff.2 (shapeReference?_expanded h hplace)⟩

/-! ## Hidden shapes -/

/-- The shape of rows that an operation describes. -/
def rowShape : DynamicShape :=
  ⟨"GetSchema", [], none⟩

/-- A description of rows of which another operation describes the shape, and of another name
for them. -/
def rowsDocument : Document where
  version := .swagger2
  title := none
  basePath := ""
  schemas :=
    [("Alias", { reference := some "#/definitions/Row" }),
      ("Row", { properties := [("name", ofType "string")], dynamicSchema := some rowShape })]
  operations := []

/-- The references between rows do not lead back. -/
theorem acyclicReferences_rowsDocument : AcyclicReferences (some rowsDocument) :=
  acyclicReferences_of_ranked (fun name => if name = "Row" then 0 else 1) (by decide)

/-- A reply that refers to the rows directly is pending on their shape, as the rows are. -/
theorem returnType_rows :
    AcyclicReferences (some rowsDocument) ∧
      returnType (some rowsDocument) .binary (some { reference := some "#/definitions/Row" }) =
        .pending (.dynamic rowShape) ∧
      returnType (some rowsDocument) .binary
          (some (expanded (some rowsDocument) { reference := some "#/definitions/Row" })) =
        returnType (some rowsDocument) .binary (some { reference := some "#/definitions/Row" }) := by
  refine ⟨acyclicReferences_rowsDocument, rfl, ?_⟩
  refine (returnType_expanded_iff acyclicReferences_rowsDocument .binary _).2.2 ⟨rfl, ?_⟩
  intro _ item hitem
  cases hitem

/-- A reply that refers to the rows under their other name, or that has them as its items,
has the type of the rows, though the schema without references is pending on their shape. -/
theorem returnType_rows_hidden :
    AcyclicReferences (some rowsDocument) ∧
      ∀ schema ∈ [({ reference := some "#/definitions/Alias" } : Schema),
          { typeKeyword := some (.single "array")
            items := some { reference := some "#/definitions/Row" } }],
        (∃ type, returnType (some rowsDocument) .binary (some schema) = .resolved type) ∧
          returnType (some rowsDocument) .binary (some (expanded (some rowsDocument) schema)) =
            .pending (.dynamic rowShape) ∧
          returnType (some rowsDocument) .binary (some (expanded (some rowsDocument) schema)) ≠
            returnType (some rowsDocument) .binary (some schema) := by
  refine ⟨acyclicReferences_rowsDocument, ?_⟩
  intro schema hschema
  have hpending : (∃ type, returnType (some rowsDocument) .binary (some schema) = .resolved type) ∧
      returnType (some rowsDocument) .binary (some (expanded (some rowsDocument) schema)) =
        .pending (.dynamic rowShape) := by
    simp only [List.mem_cons, List.not_mem_nil, or_false] at hschema
    rcases hschema with rfl | rfl
    · exact ⟨⟨_, rfl⟩, rfl⟩
    · exact ⟨⟨_, rfl⟩, rfl⟩
  obtain ⟨⟨type, htype⟩, hexpanded⟩ := hpending
  refine ⟨⟨type, htype⟩, hexpanded, ?_⟩
  rw [hexpanded, htype]
  intro heq
  cases heq

end ApiBinding.Schema
