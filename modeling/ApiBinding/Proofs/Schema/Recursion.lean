import ApiBinding.Proofs.Document.WellFormed
import ApiBinding.Proofs.Schema.ReferenceStack
import Mathlib.Logic.Relation

/-!
# Schemas inside their own expansion

A run of typing visits schemas, each beside the references that are open there.  A reference
is untyped while it is open, and what counts is how it is written.  A schema has two
references.  So while a schema is typed by one of them, it is entered once more by the other
one; then both are open, and every reference to the schema that is met further inside is
untyped.

Main results:

- Theorem `nextInduction`: induction along the visits of a run.
- Theorem `ComesTo.room`: every reference that is open was opened once and leads to a schema.
- Theorem `yields_iff_of_followed`: a reference that is not open yields what its schema does.
- Theorem `length_openedTo_le`: a schema is typed at most twice inside itself.
- Theorem `guardedByText_of_comesTo`: what a reference to a schema yields while that schema is
  typed.
-/

namespace ApiBinding.Schema

/-! ## Visits -/

/-- A visit of a run of typing: a schema, and the references that are open there. -/
structure Visit where
  opened : List String
  schema : Schema

/-- The visits that a visit leads to directly. -/
inductive Next (document : Option Document) : Visit → Visit → Prop where
  /-- The schemas that a type is made of are visited beside the same references. -/
  | inside {opened : List String} {schema inner : Schema} (hinside : TypedInside schema inner) :
      Next document ⟨opened, schema⟩ ⟨opened, inner⟩
  /-- A reference that is not open is opened, and the schema that it leads to is visited. -/
  | followed {opened : List String} {schema target : Schema} {reference : String}
      (hreference : schema.reference = some reference) (hclosed : reference ∉ opened)
      (hlookup : lookup? document reference = some target) :
      Next document ⟨opened, schema⟩ ⟨reference :: opened, target⟩

/-- The visits of a run that starts with a visit. -/
def ComesTo (document : Option Document) : Visit → Visit → Prop :=
  Relation.ReflTransGen (Next document)

/-- What a visit yields: the type that a run gives to its schema beside the references that
are open, and that leaves these. -/
def Yields (document : Option Document) (policy : NumberPolicy) (visit : Visit)
    (type : ValueType) : Prop :=
  TypesInTurn document policy visit.opened [visit.schema] [type] visit.opened

/-- A visit is to a reference to the schema of a name. -/
def Visit.RefersTo (visit : Visit) (name : String) : Prop :=
  ∃ reference, visit.schema.reference = some reference ∧
    Document.schemaName? reference = some name

/-- The open references to the schema of a name. -/
def Visit.openedTo (visit : Visit) (name : String) : List String :=
  visit.opened.filter fun reference => Document.schemaName? reference = some name

variable {document : Option Document} {policy : NumberPolicy} {visit next later : Visit}
  {opened : List String} {name reference : String} {schema target : Schema} {type : ValueType}

/-- What holds of a visit whenever it holds of the visits that it leads to directly holds of
every visit, for every run comes to an end.  The induction is on the references that may still
be opened, and inside on the schema. -/
@[elab_as_elim]
theorem nextInduction (document : Option Document) {motive : Visit → Prop}
    (step : ∀ visit, (∀ next, Next document visit next → motive next) → motive visit)
    (visit : Visit) : motive visit := by
  obtain ⟨opened, schema⟩ := visit
  induction hsize : (unopened document opened).length using Nat.strongRecOn
    generalizing opened schema with
  | ind size hless =>
      subst hsize
      induction schema using insideInduction with
      | inside schema hproperties hitems hparts =>
          refine step ⟨opened, schema⟩ ?_
          rintro next (hinside | ⟨_, hclosed, hlookup⟩)
          · cases contains_of_typedInside hinside with
            | property h => exact hproperties _ h
            | item h => exact hitems _ h
            | part h => exact hparts _ h
          · exact hless _ (length_unopened_lt hlookup hclosed) _ _ rfl

/-! ## What is open -/

/-- A step keeps what holds of the open references: each was opened once and leads to a
schema. -/
theorem Next.room (h : Next document visit next)
    (hroom : Room document (outerFuel document) visit.opened) :
    Room document (outerFuel document) next.opened := by
  cases h with
  | inside _ => exact hroom
  | followed hreference hclosed hlookup =>
      refine ⟨List.nodup_cons.2 ⟨hclosed, hroom.nodup⟩, ?_, Nat.le_add_right _ _⟩
      rw [List.forall_mem_cons]
      exact ⟨Option.isSome_of_eq_some hlookup, hroom.resolves⟩

/-- Wherever a run comes to, each open reference was opened once and leads to a schema. -/
theorem ComesTo.room (h : ComesTo document visit later)
    (hroom : Room document (outerFuel document) visit.opened) :
    Room document (outerFuel document) later.opened := by
  induction h with
  | refl => exact hroom
  | tail _ hnext ih => exact hnext.room ih

/-- A step closes no reference. -/
theorem Next.opened_subset (h : Next document visit next) : visit.opened ⊆ next.opened := by
  cases h with
  | inside _ => exact List.Subset.refl _
  | followed _ _ _ => exact List.subset_cons_self _ _

/-- Inside a visit its open references stay open. -/
theorem ComesTo.opened_subset (h : ComesTo document visit later) :
    visit.opened ⊆ later.opened := by
  induction h with
  | refl => exact List.Subset.refl _
  | tail _ hnext ih => exact List.Subset.trans ih hnext.opened_subset

/-! ## Two references for a schema -/

/-- Of three references to one schema two are the same. -/
theorem eq_or_eq_of_schemaName? {first second third : String}
    (hfirst : Document.schemaName? first = some name)
    (hsecond : Document.schemaName? second = some name)
    (hthird : Document.schemaName? third = some name) (hne : first ≠ second) :
    third = first ∨ third = second := by
  rcases Document.eq_append_of_schemaName? hfirst with rfl | rfl <;>
    rcases Document.eq_append_of_schemaName? hsecond with rfl | rfl <;>
      rcases Document.eq_append_of_schemaName? hthird with rfl | rfl <;> simp_all

/-- No more than two references to a schema are open at once. -/
theorem length_openedTo_le (hnodup : visit.opened.Nodup) (name : String) :
    (visit.openedTo name).length ≤ 2 := by
  have hsubset : visit.openedTo name ⊆
      ["#/definitions/" ++ name, "#/components/schemas/" ++ name] := by
    intro reference hreference
    have hname : Document.schemaName? reference = some name := by
      simpa using (List.mem_filter.1 hreference).2
    rcases Document.eq_append_of_schemaName? hname with rfl | rfl <;> simp
  exact (List.subperm_of_subset (hnodup.filter _) hsubset).length_le

/-! ## What references yield -/

/-- A visit yields one type. -/
theorem yields_iff : Yields document policy visit type ↔
    type = typeBeside document policy visit.opened visit.schema := by
  rw [Yields, typesInTurn_iff, List.map_singleton, List.singleton_inj]
  exact and_iff_left rfl

/-- A reference that is open yields nothing. -/
theorem yields_untyped_of_mem (hreference : visit.schema.reference = some reference)
    (hopen : reference ∈ visit.opened) : Yields document policy visit .untyped :=
  .again hreference hopen .done

/-- A reference that is not open yields what the schema does that it leads to. -/
theorem yields_iff_of_followed (hreference : visit.schema.reference = some reference)
    (hclosed : reference ∉ visit.opened) (hlookup : lookup? document reference = some target) :
    Yields document policy visit type ↔
      Yields document policy ⟨reference :: visit.opened, target⟩ type := by
  rw [yields_iff, yields_iff, typeBeside_of_followed hreference hclosed hlookup]

/-- Where two references to a schema are open, every reference to it yields nothing. -/
theorem yields_untyped_of_refersTo {first second : String} (hfirst : first ∈ visit.opened)
    (hsecond : second ∈ visit.opened) (hne : first ≠ second)
    (hfirstName : Document.schemaName? first = some name)
    (hsecondName : Document.schemaName? second = some name) (hrefers : visit.RefersTo name) :
    Yields document policy visit .untyped := by
  obtain ⟨reference, hreference, hname⟩ := hrefers
  rcases eq_or_eq_of_schemaName? hfirstName hsecondName hname hne with rfl | rfl
  · exact yields_untyped_of_mem hreference hfirst
  · exact yields_untyped_of_mem hreference hsecond

/-! ## The guard -/

/-- What a reference to a schema yields while that schema is typed. -/
structure GuardedByText (document : Option Document) (policy : NumberPolicy) (visit : Visit)
    (reference name : String) : Prop where
  /-- The reference by which the schema was entered yields nothing. -/
  again : reference ∈ visit.opened → Yields document policy visit .untyped
  /-- The other reference yields what its schema does, inside which every reference to the
  schema yields nothing. -/
  other : reference ∉ visit.opened → ∃ target, lookup? document reference = some target ∧
    (∀ type, Yields document policy visit type ↔
      Yields document policy ⟨reference :: visit.opened, target⟩ type) ∧
    ∀ later, ComesTo document ⟨reference :: visit.opened, target⟩ later →
      later.RefersTo name → Yields document policy later .untyped
  /-- The schema is typed once, or once more inside itself. -/
  atMostTwice : (visit.openedTo name).length ≤ 2

/-- While a schema is typed, the reference by which it was entered yields nothing, and the
other one is followed once. -/
theorem guardedByText_of_comesTo (hcomes : ComesTo document ⟨[], schema⟩ visit)
    (hreference : visit.schema.reference = some reference)
    (hname : Document.schemaName? reference = some name) (hopen : visit.openedTo name ≠ []) :
    GuardedByText document policy visit reference name where
  again hmem := yields_untyped_of_mem hreference hmem
  other hclosed := by
    obtain ⟨first, hfirst⟩ := List.exists_mem_of_ne_nil _ hopen
    obtain ⟨hmem, hfirstName⟩ := List.mem_filter.1 hfirst
    replace hfirstName : Document.schemaName? first = some name := by simpa using hfirstName
    have hresolves := (hcomes.room (room_outerFuel document)).resolves first hmem
    -- both references lead to the schema of the name
    obtain ⟨target, htarget⟩ := Option.isSome_iff_exists.1 hresolves
    have hlookup : lookup? document reference = some target := by
      cases document with
      | none => cases htarget
      | some document =>
          simp only [lookup?, Document.resolve?, Option.bind_some, hfirstName] at htarget
          simp only [lookup?, Document.resolve?, Option.bind_some, hname, htarget]
    refine ⟨target, hlookup, fun _ => yields_iff_of_followed hreference hclosed hlookup, ?_⟩
    intro later hlater hrefers
    have hkept := hlater.opened_subset
    exact yields_untyped_of_refersTo (hkept List.mem_cons_self)
      (hkept (List.mem_cons_of_mem _ hmem)) (fun heq => hclosed (heq ▸ hmem)) hname hfirstName
      hrefers
  atMostTwice := length_openedTo_le (hcomes.room (room_outerFuel document)).nodup name

/-! ## Nodes that refer to nodes -/

/-- No schema is expanded inside its own expansion: while it is typed, every reference to it
yields nothing. -/
def NeverInside (document : Option Document) (policy : NumberPolicy) (schema : Schema) : Prop :=
  ∀ visit name, ComesTo document ⟨[], schema⟩ visit → visit.openedTo name ≠ [] →
    visit.RefersTo name → Yields document policy visit .untyped

/-- An operation that takes nothing. -/
def replyOperation (name path : String) (reply : Option Schema) : Operation where
  name := name
  method := .get
  path := path
  summary := none
  description := none
  deprecated := false
  parameters := []
  body := none
  response := reply

/-- A description of nodes with a link to the next one, which uses both references. -/
def chainDescription : Json :=
  .obj
    [("swagger", .str "2.0"), ("basePath", .str "/v1"),
      ("definitions", .obj
        [("Node", .obj [("properties", .obj
          [("next", .obj [("$ref", .str "#/components/schemas/Node")])])])]),
      ("paths", .obj [("/node", .obj [("get", .obj
        [("operationId", .str "GetNode"),
          ("responses", .obj [("200", .obj
            [("schema", .obj [("$ref", .str "#/definitions/Node")])])])])])])]

/-- The reply that is a node. -/
def nodeReply : Schema where
  reference := some "#/definitions/Node"

/-- The link of a node to the next one. -/
def nextLink : Schema where
  reference := some "#/components/schemas/Node"

/-- The operation that gets a node. -/
def nodeOperation : Operation := replyOperation "GetNode" "/node" (some nodeReply)

/-- The nodes as they are read. -/
def chainDocument : Document where
  version := .swagger2
  title := none
  basePath := "/v1"
  schemas := [("Node", { properties := [("next", nextLink)] })]
  operations := [nodeOperation]

/-- The description of the nodes is read as the nodes. -/
theorem isParsed_chainDocument : chainDocument.IsParsed :=
  ⟨chainDescription, rfl⟩

/-- Typing the reply comes to the link inside the node. -/
theorem comesTo_nextLink :
    ComesTo (some chainDocument) ⟨[], nodeReply⟩ ⟨["#/definitions/Node"], nextLink⟩ := by
  have hlink : TypedInside { properties := [("next", nextLink)] } ("next", nextLink).2 :=
    .property rfl (by decide) List.mem_cons_self
  exact .tail (.single (.followed rfl List.not_mem_nil rfl)) (.inside hlink)

/-- The link of a node yields the node, and inside that it yields nothing. -/
theorem guardedByText_nextLink :
    ComesTo (some chainDocument) ⟨[], nodeReply⟩ ⟨["#/definitions/Node"], nextLink⟩ ∧
      nextLink.reference = some "#/components/schemas/Node" ∧
      Document.schemaName? "#/components/schemas/Node" = some "Node" ∧
      Visit.openedTo ⟨["#/definitions/Node"], nextLink⟩ "Node" ≠ [] ∧
      GuardedByText (some chainDocument) .binary ⟨["#/definitions/Node"], nextLink⟩
        "#/components/schemas/Node" "Node" :=
  ⟨comesTo_nextLink, rfl, rfl, by decide,
    guardedByText_of_comesTo comesTo_nextLink rfl rfl (by decide)⟩

/-- A node whose link is written in the other way is expanded inside itself. -/
theorem node_inside_node :
    chainDocument.IsParsed ∧ nodeOperation ∈ chainDocument.operations ∧
      nodeOperation.response = some nodeReply ∧
      nodeReply.toType (some chainDocument) .binary =
        .record [("next", .record [("next", .untyped)])] ∧
      ¬NeverInside (some chainDocument) .binary nodeReply := by
  refine ⟨isParsed_chainDocument, List.mem_cons_self, rfl, rfl, fun hnever => ?_⟩
  have huntyped := yields_iff.1 (hnever _ "Node" comesTo_nextLink (by decide) ⟨_, rfl, rfl⟩)
  have hrecord : typeBeside (some chainDocument) .binary ["#/definitions/Node"] nextLink =
      .record [("next", .untyped)] := rfl
  rw [hrecord] at huntyped
  cases huntyped

end ApiBinding.Schema
