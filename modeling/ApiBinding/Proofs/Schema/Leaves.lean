import ApiBinding.Proofs.Schema.Recursion

/-!
# Schemas composed of parts

A schema that is composed of parts is a record, however the parts are composed in turn.  What
counts is its leaves, read from left to right: the parts that have no parts, those of the parts
that do, and after the parts of a schema the keywords of its own.  References are followed on
the way as long as they are not open.  A field has the type that the last leaf gives to it, and
leaves that are no records count for nothing.  So only the leaves decide, not how they are
grouped.

Main results:

- Theorem `fieldType?_eq_leaves`: the fields of a schema are those of its leaves.
- Theorem `typeBeside_eq_record_leaves`: the type of a schema that is composed of parts.
- Theorem `type_of_mem_leaves`: a leaf has its own type if no reference is met again.
- Theorem `mergesLeaves_of_isComposed`: grouping the leaves makes no difference.
-/

namespace ApiBinding.Schema

/-- A schema is composed of parts.  A reference is not, whatever is written beside it. -/
structure IsComposed (schema : Schema) : Prop where
  reference : schema.reference = none
  parts : schema.parts ≠ []

variable {document : Option Document} {policy : NumberPolicy} {visit leaf : Visit}
  {opened : List String} {name reference : String} {schema other part target : Schema}

/-! ## Leaves -/

/-- A part is smaller than the schema. -/
theorem sizeOf_part_lt (h : part ∈ schema.parts) : sizeOf part < sizeOf schema := by
  obtain ⟨_, _, _, _, _, _, parts, _, _, _, _, _⟩ := schema
  have hpart : sizeOf part < sizeOf parts := List.sizeOf_lt_of_mem h
  rw [mk.sizeOf_spec]
  omega

/-- The leaves of a schema beside open references: those of its parts in their order, and then
the keywords of its own.  A reference that is not open has the leaves of the schema that it
leads to, and any other schema is a leaf. -/
def leaves (document : Option Document) (opened : List String) (schema : Schema) : List Visit :=
  match schema.reference with
  | some reference =>
    if _ : reference ∈ opened then [⟨opened, schema⟩]
    else
      match _ : lookup? document reference with
      | none => [⟨opened, schema⟩]
      | some target => leaves document (reference :: opened) target
  | none =>
    if schema.parts.isEmpty then [⟨opened, schema⟩]
    else
      (schema.parts.attach.flatMap fun part => leaves document opened part.1) ++
        [⟨opened, schema.ownKeywords⟩]
termination_by ((unopened document opened).length, sizeOf schema)
decreasing_by
  · exact Prod.Lex.left _ _ (length_unopened_lt ‹_› ‹_›)
  · exact Prod.Lex.right _ (sizeOf_part_lt part.2)

/-- A schema that is composed of parts has their leaves and one of its own. -/
theorem leaves_of_isComposed (h : schema.IsComposed) :
    leaves document opened schema =
      schema.parts.flatMap (leaves document opened) ++ [⟨opened, schema.ownKeywords⟩] := by
  rw [leaves, h.reference]
  simp [h.parts]

/-- A reference that is not open has the leaves of the schema that it leads to. -/
theorem leaves_of_followed (hreference : schema.reference = some reference)
    (hclosed : reference ∉ opened) (hlookup : lookup? document reference = some target) :
    leaves document opened schema = leaves document (reference :: opened) target := by
  rw [leaves, hreference]
  dsimp only
  rw [dif_neg hclosed]
  split
  next hnone => rw [hlookup] at hnone; cases hnone
  next found hfound => rw [Option.some.inj (hlookup.symm.trans hfound)]

/-- A schema without reference and parts is a leaf. -/
theorem leaves_of_keywords (hreference : schema.reference = none) (hparts : schema.parts = []) :
    leaves document opened schema = [⟨opened, schema⟩] := by
  rw [leaves, hreference]
  simp [hparts]

/-- A reference that is open or leads to no schema is a leaf. -/
theorem leaves_of_cut (hreference : schema.reference = some reference)
    (hcut : reference ∈ opened ∨ lookup? document reference = none) :
    leaves document opened schema = [⟨opened, schema⟩] := by
  rw [leaves, hreference]
  dsimp only
  split
  · rfl
  · next hclosed =>
      split
      · rfl
      · next hfound => simp [hclosed, hfound] at hcut

/-- The leaves of a schema by its kind: it is one itself, it is a reference that is followed, or
it is composed of parts. -/
theorem leaves_cases (document : Option Document) (opened : List String) (schema : Schema) :
    leaves document opened schema = [⟨opened, schema⟩] ∨
      (∃ reference target, schema.reference = some reference ∧ reference ∉ opened ∧
        lookup? document reference = some target) ∨ schema.IsComposed := by
  cases hreference : schema.reference with
  | none =>
      by_cases hparts : schema.parts = []
      · exact Or.inl (leaves_of_keywords hreference hparts)
      · exact Or.inr (Or.inr ⟨hreference, hparts⟩)
  | some reference =>
      by_cases hopen : reference ∈ opened
      · exact Or.inl (leaves_of_cut hreference (Or.inl hopen))
      · cases hlookup : lookup? document reference with
        | none => exact Or.inl (leaves_of_cut hreference (Or.inr hlookup))
        | some target => exact Or.inr (Or.inl ⟨reference, target, rfl, hopen, hlookup⟩)

/-! ## Fields of leaves -/

/-- The fields of the type that a schema has where it is visited; none if it is no record. -/
def Visit.fields (document : Option Document) (policy : NumberPolicy) (visit : Visit) :
    List (String × ValueType) :=
  (typeBeside document policy visit.opened visit.schema).fields?.getD []

/-- Whether a schema is a record where it is visited. -/
def Visit.isRecord (document : Option Document) (policy : NumberPolicy) (visit : Visit) : Bool :=
  (typeBeside document policy visit.opened visit.schema).fields?.isSome

/-- The type that a visit gives to a field. -/
def Visit.fieldType? (document : Option Document) (policy : NumberPolicy) (name : String)
    (visit : Visit) : Option ValueType :=
  Entries.find? name (Entries.ofList (visit.fields document policy))

/-- What is no record has no fields. -/
theorem Visit.fields_of_isRecord_eq_false (h : visit.isRecord document policy = false) :
    visit.fields document policy = [] := by
  rw [Visit.isRecord, Option.isSome_eq_false_iff, Option.isNone_iff_eq_none] at h
  rw [Visit.fields, h, Option.getD_none]

/-- What is no record adds no fields. -/
theorem flatMap_fields_filter (visits : List Visit) :
    (visits.filter (Visit.isRecord document policy)).flatMap (Visit.fields document policy) =
      visits.flatMap (Visit.fields document policy) := by
  induction visits with
  | nil => rfl
  | cons visit rest ih =>
      rw [List.filter_cons, List.flatMap_cons, ← ih]
      cases hrecord : visit.isRecord document policy with
      | true => rfl
      | false => rw [Visit.fields_of_isRecord_eq_false hrecord, List.nil_append]; rfl

/-- A schema that is composed of parts is a record of the fields of the parts and of its own,
in this order. -/
theorem typeBeside_of_isComposed (h : schema.IsComposed) :
    typeBeside document policy opened schema =
      .record (Entries.ofList
        (schema.parts.flatMap (fun part => Visit.fields document policy ⟨opened, part⟩) ++
          Visit.fields document policy ⟨opened, schema.ownKeywords⟩)) := by
  rw [typeBeside, convert_composed h.reference h.parts, List.map_append, List.flatMap_append,
    List.map_singleton, List.flatMap_singleton, List.flatMap_map]
  rfl

/-- The fields of a schema that is composed of parts. -/
theorem fields_of_isComposed (h : schema.IsComposed) :
    Visit.fields document policy ⟨opened, schema⟩ =
      Entries.ofList
        (schema.parts.flatMap (fun part => Visit.fields document policy ⟨opened, part⟩) ++
          Visit.fields document policy ⟨opened, schema.ownKeywords⟩) := by
  rw [Visit.fields, typeBeside_of_isComposed h]
  rfl

/-- The fields of a schema are those of its leaves; the induction is along the run. -/
theorem fieldType?_eq_leaves (document : Option Document) (policy : NumberPolicy)
    (name : String) (visit : Visit) :
    visit.fieldType? document policy name =
      Entries.find? name (Entries.ofList
        ((leaves document visit.opened visit.schema).flatMap (Visit.fields document policy))) := by
  induction visit using nextInduction document with
  | step visit ih =>
      obtain ⟨opened, schema⟩ := visit
      rcases leaves_cases document opened schema with
        hleaf | ⟨reference, target, hreference, hclosed, hlookup⟩ | hcomposed
      · rw [hleaf, List.flatMap_singleton, Visit.fieldType?]
      · have htarget := ih _ (.followed hreference hclosed hlookup)
        rw [leaves_of_followed hreference hclosed hlookup, ← htarget, Visit.fieldType?,
          Visit.fieldType?, Visit.fields, Visit.fields,
          typeBeside_of_followed hreference hclosed hlookup]
      · have hparts : ∀ part ∈ schema.parts,
            Entries.find? name (Entries.ofList (Visit.fields document policy ⟨opened, part⟩)) =
              Entries.find? name (Entries.ofList
                ((leaves document opened part).flatMap (Visit.fields document policy))) :=
          fun part hpart => ih ⟨opened, part⟩ (.inside (.part hcomposed.reference hpart))
        rw [Visit.fieldType?, fields_of_isComposed hcomposed,
          Entries.ofList_eq_self (Entries.sorted_ofList _), leaves_of_isComposed hcomposed,
          List.flatMap_append, List.flatMap_assoc, List.flatMap_singleton,
          Entries.find?_ofList_append, Entries.find?_ofList_append, Entries.find?_ofList_flatMap,
          Entries.find?_ofList_flatMap, List.filterMap_congr hparts]

/-- A schema that is composed of parts is a record of the fields of its leaves. -/
theorem typeBeside_eq_record_leaves (h : schema.IsComposed) :
    typeBeside document policy opened schema =
      .record (Entries.ofList
        ((leaves document opened schema).flatMap (Visit.fields document policy))) := by
  rw [typeBeside_of_isComposed h, ← fields_of_isComposed h]
  congr 1
  have hsorted : Entries.Sorted (Visit.fields document policy ⟨opened, schema⟩) := by
    rw [fields_of_isComposed h]
    exact Entries.sorted_ofList _
  refine Entries.eq_of_find?_eq hsorted (Entries.sorted_ofList _) fun name => ?_
  rw [← fieldType?_eq_leaves document policy name ⟨opened, schema⟩, Visit.fieldType?,
    Entries.ofList_eq_self hsorted]

/-- A schema that is composed of parts is a record in which each field has the type that the
last leaf gives to it. -/
theorem exists_fields_of_isComposed (h : schema.IsComposed) :
    ∃ fields, typeBeside document policy opened schema = .record fields ∧
      Entries.Sorted fields ∧ ∀ name, Entries.find? name fields =
        ((leaves document opened schema).filterMap
          (Visit.fieldType? document policy name)).getLast? :=
  ⟨_, typeBeside_eq_record_leaves h, Entries.sorted_ofList _,
    fun name => Entries.find?_ofList_flatMap name (Visit.fields document policy) _⟩

/-! ## Grouping leaves -/

/-- The leaves that are records. -/
def recordLeaves (document : Option Document) (policy : NumberPolicy) (schema : Schema) :
    List Visit :=
  (leaves document [] schema).filter (Visit.isRecord document policy)

/-- The type of a schema that is composed of parts depends on the leaves that are records
alone. -/
theorem toType_eq_record_recordLeaves (h : schema.IsComposed) :
    schema.toType document policy =
      .record (Entries.ofList
        ((recordLeaves document policy schema).flatMap (Visit.fields document policy))) := by
  rw [← typeBeside_nil, typeBeside_eq_record_leaves h, recordLeaves, flatMap_fields_filter]

/-- A schema with the parts of one of its parts in the place of that part has the same
leaves. -/
theorem leaves_unnested {before after : List Schema} {inner : Schema} (h : schema.IsComposed)
    (hparts : schema.parts = before ++ inner :: after) (hinner : inner.IsComposed) :
    leaves document opened
        { schema with parts := before ++ (inner.parts ++ inner.ownKeywords :: after) } =
      leaves document opened schema := by
  have hflat : IsComposed
      { schema with parts := before ++ (inner.parts ++ inner.ownKeywords :: after) } :=
    ⟨h.reference, by simp⟩
  have hown : leaves document opened inner.ownKeywords = [⟨opened, inner.ownKeywords⟩] :=
    leaves_of_keywords hinner.reference rfl
  rw [leaves_of_isComposed hflat, leaves_of_isComposed h, hparts]
  simp only [List.flatMap_append, List.flatMap_cons, leaves_of_isComposed hinner, hown,
    List.append_assoc]
  rfl

/-! ## Leaves without references that return -/

/-- No reference that is open at a visit, or opened inside, is met again while it is open. -/
structure Visit.IsFree (document : Option Document) (visit : Visit) : Prop where
  room : Room document (outerFuel document) visit.opened
  returns : NeverReturns document TypedInside visit.schema
  closed : ∀ reference ∈ visit.opened, ¬Reaches document TypedInside visit.schema reference

/-- What is free stays free on the way. -/
theorem Visit.IsFree.next {next : Visit} (h : visit.IsFree document)
    (hnext : Next document visit next) : next.IsFree document := by
  refine ⟨hnext.room h.room, ?_, ?_⟩
  · cases hnext with
    | inside hinside => exact h.returns.of_inside hinside
    | followed hreference _ hlookup => exact h.returns.of_target hreference hlookup
  · cases hnext with
    | inside hinside =>
        exact fun other hmem hreaches => h.closed other hmem (.inside hinside hreaches)
    | followed hreference _ hlookup =>
        exact (not_reaches_opened h.returns h.closed hreference hlookup).2

/-- What is met from the keywords of a schema is met from the schema. -/
theorem reaches_of_ownKeywords (hreference : schema.reference = none)
    (h : Reaches document TypedInside schema.ownKeywords reference) :
    Reaches document TypedInside schema reference := by
  cases h with
  | itself hother => exact absurd (hreference.symm.trans hother) (by simp)
  | target hother => exact absurd (hreference.symm.trans hother) (by simp)
  | inside hinside hreaches =>
      cases hinside with
      | property _ htype hmem => exact .inside (.property hreference htype hmem) hreaches
      | item _ htype hitem => exact .inside (.item hreference htype hitem) hreaches
      | part _ hmem => exact absurd hmem List.not_mem_nil

/-- The keywords of a schema that is free are free. -/
theorem Visit.IsFree.ownKeywords (h : Visit.IsFree document ⟨opened, schema⟩)
    (hreference : schema.reference = none) :
    Visit.IsFree document ⟨opened, schema.ownKeywords⟩ where
  room := h.room
  returns other found hreaches := h.returns other found (reaches_of_ownKeywords hreference hreaches)
  closed other hmem hreaches := h.closed other hmem (reaches_of_ownKeywords hreference hreaches)

/-- What is free has its own type. -/
theorem Visit.IsFree.typeBeside_eq_toType (h : visit.IsFree document) :
    typeBeside document policy visit.opened visit.schema =
      visit.schema.toType document policy :=
  convert_innerType_eq_toType h.returns _ _ h.room h.closed

/-- The leaves of what is free are free; the induction is along the run. -/
theorem Visit.IsFree.leaves (h : visit.IsFree document) :
    ∀ leaf ∈ leaves document visit.opened visit.schema, leaf.IsFree document := by
  induction visit using nextInduction document with
  | step visit ih =>
      obtain ⟨opened, schema⟩ := visit
      rcases leaves_cases document opened schema with
        hleaf | ⟨reference, target, hreference, hclosed, hlookup⟩ | hcomposed
      · rw [hleaf]
        exact List.forall_mem_singleton.2 h
      · have hnext : Next document ⟨opened, schema⟩ ⟨reference :: opened, target⟩ :=
          .followed hreference hclosed hlookup
        rw [leaves_of_followed hreference hclosed hlookup]
        exact ih _ hnext (h.next hnext)
      · rw [leaves_of_isComposed hcomposed, List.forall_mem_append, List.forall_mem_singleton]
        refine ⟨fun leaf hleaf => ?_, h.ownKeywords hcomposed.reference⟩
        obtain ⟨part, hpart, hmem⟩ := List.mem_flatMap.1 hleaf
        have hnext : Next document ⟨opened, schema⟩ ⟨opened, part⟩ :=
          .inside (.part hcomposed.reference hpart)
        exact ih _ hnext (h.next hnext) leaf hmem

/-- The leaves of a schema that never returns have their own types. -/
theorem type_of_mem_leaves (hreturns : NeverReturns document TypedInside schema)
    (hleaf : leaf ∈ leaves document [] schema) :
    typeBeside document policy leaf.opened leaf.schema = leaf.schema.toType document policy := by
  have hfree : Visit.IsFree document ⟨[], schema⟩ :=
    ⟨room_outerFuel document, hreturns, List.forall_mem_nil _⟩
  exact (hfree.leaves leaf hleaf).typeBeside_eq_toType

/-- The leaves of a schema that never returns give the fields of their own types. -/
theorem flatMap_fields_recordLeaves (hreturns : NeverReturns document TypedInside schema) :
    (recordLeaves document policy schema).flatMap (Visit.fields document policy) =
      ((recordLeaves document policy schema).map Visit.schema).flatMap fun leaf =>
        (leaf.toType document policy).fields?.getD [] := by
  rw [List.flatMap_map]
  refine List.flatMap_congr fun leaf hleaf => ?_
  rw [Visit.fields, type_of_mem_leaves hreturns (List.mem_of_mem_filter hleaf)]

/-! ## Merging leaves -/

/-- A schema that is composed of parts is typed by its leaves, however they are grouped. -/
structure MergesLeaves (document : Option Document) (policy : NumberPolicy) (schema : Schema) :
    Prop where
  /-- Each field has the type that the last leaf gives to it. -/
  merged : ∃ fields, schema.toType document policy = .record fields ∧ Entries.Sorted fields ∧
    ∀ name, Entries.find? name fields =
      ((leaves document [] schema).filterMap (Visit.fieldType? document policy name)).getLast?
  /-- A part that is composed of parts can give way to these and its own keywords. -/
  unnested : ∀ before inner after, schema.parts = before ++ inner :: after → inner.IsComposed →
    toType document policy
        { schema with parts := before ++ (inner.parts ++ inner.ownKeywords :: after) } =
      schema.toType document policy
  /-- Any schema with the same leaves, those that are no records apart, has the same type. -/
  regrouped : ∀ other : Schema, other.IsComposed →
    recordLeaves document policy other = recordLeaves document policy schema →
      other.toType document policy = schema.toType document policy
  /-- Where no reference is met again while it is open, the leaves may be found through other
  references. -/
  regroupedFreely : ∀ other : Schema, other.IsComposed →
    NeverReturns document TypedInside other → NeverReturns document TypedInside schema →
      (recordLeaves document policy other).map Visit.schema =
        (recordLeaves document policy schema).map Visit.schema →
      other.toType document policy = schema.toType document policy

/-- A schema that is composed of parts, nested to any depth, is typed by its leaves. -/
theorem mergesLeaves_of_isComposed (document : Option Document) (policy : NumberPolicy)
    (h : schema.IsComposed) : MergesLeaves document policy schema where
  merged := by
    rw [← typeBeside_nil]
    exact exists_fields_of_isComposed h
  unnested before inner after hparts hinner := by
    have hflat : IsComposed
        { schema with parts := before ++ (inner.parts ++ inner.ownKeywords :: after) } :=
      ⟨h.reference, by simp⟩
    rw [← typeBeside_nil, ← typeBeside_nil, typeBeside_eq_record_leaves hflat,
      typeBeside_eq_record_leaves h, leaves_unnested h hparts hinner]
  regrouped other hother hleaves := by
    rw [toType_eq_record_recordLeaves hother, toType_eq_record_recordLeaves h, hleaves]
  regroupedFreely other hother hotherReturns hreturns hleaves := by
    rw [toType_eq_record_recordLeaves hother, toType_eq_record_recordLeaves h,
      flatMap_fields_recordLeaves hotherReturns, flatMap_fields_recordLeaves hreturns, hleaves]

/-- Entries with an identifier and a name. -/
def entrySchema : Schema where
  properties := [("id", ofType "integer"), ("name", ofType "string")]

/-- Marks, which are entries with another kind of name. -/
def markSchema : Schema where
  parts := [{ reference := some "#/components/schemas/Entry" }]
  properties := [("name", ofType "boolean")]

/-- A part with an identifier, nested in one with a tag. -/
def taggedPart : Schema where
  parts := [{ properties := [("id", ofType "string")] }]
  properties := [("tag", ofType "boolean")]

/-- A description of entries and marks. -/
def cardDocument : Document where
  version := .openApi3
  title := none
  basePath := ""
  schemas := [("Entry", entrySchema), ("Mark", markSchema)]
  operations := []

/-- A mark with a tag of its own, and with a part that is no record. -/
def cardSchema : Schema where
  parts := [{ reference := some "#/components/schemas/Mark" }, ofType "string", taggedPart]
  properties := [("tag", ofType "string")]

/-- A card is composed of parts. -/
theorem isComposed_cardSchema : cardSchema.IsComposed :=
  ⟨rfl, by simp [cardSchema]⟩

/-- What a card is composed of, from left to right. -/
def cardLeaves : List Schema :=
  [entrySchema, markSchema.ownKeywords, ofType "string",
    { properties := [("id", ofType "string")] }, taggedPart.ownKeywords, cardSchema.ownKeywords]

/-- The leaves of a card stand in the order of its parts. -/
theorem leaves_cardSchema :
    (leaves (some cardDocument) [] cardSchema).map Visit.schema = cardLeaves := by
  have hentry : leaves (some cardDocument) ["#/components/schemas/Mark"]
        { reference := some "#/components/schemas/Entry" } =
      [⟨["#/components/schemas/Entry", "#/components/schemas/Mark"], entrySchema⟩] :=
    (leaves_of_followed rfl (by decide) rfl).trans (leaves_of_keywords rfl rfl)
  have hmark : leaves (some cardDocument) [] { reference := some "#/components/schemas/Mark" } =
      [⟨["#/components/schemas/Entry", "#/components/schemas/Mark"], entrySchema⟩,
        ⟨["#/components/schemas/Mark"], markSchema.ownKeywords⟩] := by
    have hlookup : lookup? (some cardDocument) "#/components/schemas/Mark" = some markSchema := rfl
    rw [leaves_of_followed rfl List.not_mem_nil hlookup,
      leaves_of_isComposed ⟨rfl, by simp [markSchema]⟩]
    simp only [markSchema, List.flatMap_singleton, hentry, List.singleton_append]
  have htext : leaves (some cardDocument) [] (ofType "string") = [⟨[], ofType "string"⟩] :=
    leaves_of_keywords rfl rfl
  have htagged : leaves (some cardDocument) [] taggedPart =
      [⟨[], { properties := [("id", ofType "string")] }⟩, ⟨[], taggedPart.ownKeywords⟩] := by
    rw [leaves_of_isComposed ⟨rfl, by simp [taggedPart]⟩]
    simp only [taggedPart, List.flatMap_singleton, leaves_of_keywords, List.singleton_append]
  rw [leaves_of_isComposed isComposed_cardSchema]
  simp only [cardSchema, List.flatMap_cons, List.flatMap_nil, hmark, htext, htagged]
  rfl

/-- A card takes its identifier from the nested part, its name from the mark and its tag from
itself. -/
theorem mergesLeaves_cardSchema :
    cardSchema.IsComposed ∧
      (leaves (some cardDocument) [] cardSchema).map Visit.schema = cardLeaves ∧
      MergesLeaves (some cardDocument) .binary cardSchema ∧
      cardSchema.toType (some cardDocument) .binary =
        .record [("id", .text), ("name", .boolean), ("tag", .text)] :=
  ⟨isComposed_cardSchema, leaves_cardSchema,
    mergesLeaves_of_isComposed _ _ isComposed_cardSchema, rfl⟩

/-! ## References with parts beside them -/

/-- A description of remarks, each of which is declared as a text and as composed of parts. -/
def remarkDescription : Json :=
  .obj
    [("swagger", .str "2.0"), ("basePath", .str "/v1"),
      ("definitions", .obj [("Text", .obj [("type", .str "string")])]),
      ("paths", .obj [("/remark", .obj [("get", .obj
        [("operationId", .str "GetRemark"),
          ("responses", .obj [("200", .obj
            [("schema", .obj
              [("$ref", .str "#/definitions/Text"),
                ("allOf", .arr [.obj
                  [("properties", .obj [("title", .obj [("type", .str "string")])])]])])])])])])])]

/-- The reply that is a remark. -/
def remarkReply : Schema where
  reference := some "#/definitions/Text"
  parts := [{ properties := [("title", ofType "string")] }]

/-- The operation that gets a remark. -/
def remarkOperation : Operation := replyOperation "GetRemark" "/remark" (some remarkReply)

/-- The remarks as they are read. -/
def remarkDocument : Document where
  version := .swagger2
  title := none
  basePath := "/v1"
  schemas := [("Text", ofType "string")]
  operations := [remarkOperation]

/-- A reference has the type of the schema that it leads to, whatever parts are written beside
it. -/
theorem remarkReply_not_record :
    remarkDocument.IsParsed ∧ remarkOperation ∈ remarkDocument.operations ∧
      remarkOperation.response = some remarkReply ∧ remarkReply.parts ≠ [] ∧
      remarkReply.toType (some remarkDocument) .binary = .text ∧
      ¬∀ schema : Schema, schema.parts ≠ [] →
        ∃ fields, schema.toType (some remarkDocument) .binary = .record fields := by
  have hparts : remarkReply.parts ≠ [] := by simp [remarkReply]
  have htext : remarkReply.toType (some remarkDocument) .binary = .text := rfl
  refine ⟨⟨remarkDescription, rfl⟩, List.mem_cons_self, rfl, hparts, htext, fun hall => ?_⟩
  obtain ⟨fields, hfields⟩ := hall remarkReply hparts
  rw [htext] at hfields
  cases hfields

end ApiBinding.Schema
