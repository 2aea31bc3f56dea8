import ApiBinding.Document.Reader
import ApiBinding.Proofs.Schema.WellFormed
import ApiBinding.Schema.Typing

/-!
# Well-formed descriptions

What the reader guarantees of every description, whatever text it came from: schemas
are well-formed wherever they stand, a parameter in the path is required, no default is
null, and no two operations have one name.

Main results:

- Theorem `Document.wellFormed_of_isParsed`: every description that is read is
  well-formed.
- Theorem `Document.nodup_names_of_isParsed`: its operations have different names.
- Theorems `Document.isParsed_of_ofJsonText`, `Document.isParsed_of_ofYamlText` and
  `Document.isParsed_of_ofText`: the texts of descriptions are read through JSON values.
- Theorem `Document.WellFormed.target`: the schema that a body stands for is well-formed.
-/

namespace ApiBinding

/-- What reading guarantees of a parameter. -/
structure Parameter.WellFormed (parameter : Parameter) : Prop where
  schema : parameter.schema.WellFormed
  default_ne_null : parameter.default ≠ some .null
  required_of_path : parameter.location = .path → parameter.required = true

/-- What reading guarantees of an operation. -/
structure Operation.WellFormed (operation : Operation) : Prop where
  parameters : ∀ parameter ∈ operation.parameters, parameter.WellFormed
  body : ∀ body, operation.body = some body → body.schema.WellFormed

/-- What reading guarantees of a description. -/
structure Document.WellFormed (document : Document) : Prop where
  schemas : ∀ entry ∈ document.schemas, entry.2.WellFormed
  operations : ∀ operation ∈ document.operations, operation.WellFormed

/-- A description that was read from some JSON value. -/
def Document.IsParsed (document : Document) : Prop :=
  ∃ json, Document.ofJson json = .ok document

/-! ## Declared parameters -/

/-- What reading guarantees of a declared parameter. -/
structure ParameterDeclaration.WellFormed (declaration : ParameterDeclaration) : Prop where
  schema : ∀ schema, declaration.schema = some schema → schema.WellFormed
  items : ∀ item, declaration.items = some item → item.WellFormed
  default_ne_null : declaration.default ≠ some .null

namespace ParameterDeclaration

variable {declaration : ParameterDeclaration}

/-- Every declared parameter that is read is well-formed. -/
theorem wellFormed_of_ofJson? (json : Json) (declaration : ParameterDeclaration)
    (h : ofJson? json = some declaration) : declaration.WellFormed := by
  rw [ofJson?] at h
  obtain ⟨fields, _, h⟩ := Option.bind_eq_some_iff.1 h
  obtain ⟨_, _, h⟩ := Option.bind_eq_some_iff.1 h
  obtain ⟨_, _, h⟩ := Option.bind_eq_some_iff.1 h
  obtain ⟨_, _, h⟩ := Option.bind_eq_some_iff.1 h
  obtain ⟨_, _, h⟩ := Option.bind_eq_some_iff.1 h
  obtain ⟨schema, hschema, h⟩ := Option.bind_eq_some_iff.1 h
  obtain ⟨_, _, h⟩ := Option.bind_eq_some_iff.1 h
  obtain ⟨_, _, h⟩ := Option.bind_eq_some_iff.1 h
  obtain ⟨items, hitems, h⟩ := Option.bind_eq_some_iff.1 h
  obtain ⟨default, hdefault, h⟩ := Option.bind_eq_some_iff.1 h
  obtain ⟨_, _, h⟩ := Option.bind_eq_some_iff.1 h
  obtain ⟨_, _, h⟩ := Option.bind_eq_some_iff.1 h
  obtain rfl := Option.some.inj h
  exact
    { schema := Fields.forall_of_optional? Schema.wellFormed_of_ofJson? hschema
      items := Fields.forall_of_optional? Schema.wellFormed_of_ofJson? hitems
      default_ne_null := Fields.optional?_ne_null hdefault }

/-- The full schema of a declaration is well-formed, given or spread. -/
theorem WellFormed.fullSchema (h : declaration.WellFormed) :
    declaration.fullSchema.WellFormed := by
  unfold ParameterDeclaration.fullSchema
  cases hschema : declaration.schema with
  | none => exact Schema.wellFormed_ofType _ _ h.items
  | some schema => exact h.schema schema hschema

/-- A declaration gives a well-formed parameter for every location. -/
theorem WellFormed.toParameter (h : declaration.WellFormed) (location : ParameterLocation) :
    (declaration.toParameter location).WellFormed where
  schema := h.fullSchema
  default_ne_null := by
    have hown := h.default_ne_null
    have hschema := h.fullSchema.default_ne_null
    simp only [ParameterDeclaration.toParameter]
    cases hdefault : declaration.default with
    | none => simpa using hschema
    | some json => simpa [hdefault] using hown
  required_of_path hpath := by
    simp only [ParameterDeclaration.toParameter] at hpath ⊢
    simp [hpath]

end ParameterDeclaration

namespace Document

variable {declarations : List ParameterDeclaration}
  {shared : List (String × ParameterDeclaration)}

/-- Following the references of declarations leads to well-formed declarations. -/
theorem wellFormed_of_follow (hshared : ∀ entry ∈ shared, entry.2.WellFormed)
    {declaration followed : ParameterDeclaration} (h : declaration.WellFormed)
    (hfollow : follow shared declaration = .ok followed) : followed.WellFormed := by
  unfold follow at hfollow
  split at hfollow
  · exact Except.ok.inj hfollow ▸ h
  · split at hfollow
    next target hfind =>
      exact Except.ok.inj hfollow ▸ hshared _ (Entries.mem_of_find? hfind)
    next => simp at hfollow

/-- Declarations that take the place of others were given. -/
theorem mem_overrideAll {given : List ParameterDeclaration} {declaration : ParameterDeclaration}
    (h : declaration ∈ given.foldl override declarations) :
    declaration ∈ declarations ∨ declaration ∈ given := by
  induction given generalizing declarations with
  | nil => exact Or.inl h
  | cons first rest ih =>
      rcases ih h with hmem | hmem
      · simp only [override, List.mem_append, List.mem_filter, List.mem_singleton] at hmem
        rcases hmem with hmem | rfl
        · exact Or.inl hmem.1
        · exact Or.inr List.mem_cons_self
      · exact Or.inr (List.mem_cons_of_mem _ hmem)

/-- The declarations of an operation are well-formed when those written are. -/
theorem wellFormed_of_mergedDeclarations (hshared : ∀ entry ∈ shared, entry.2.WellFormed)
    (hgiven : ∀ declaration ∈ declarations, declaration.WellFormed)
    {merged : List ParameterDeclaration}
    (h : mergedDeclarations shared declarations = .ok merged) :
    ∀ declaration ∈ merged, declaration.WellFormed := by
  obtain ⟨followed, hfollowed, hmerged⟩ := Traversal.bind_eq_ok_iff.1 h
  obtain rfl := Except.ok.inj hmerged
  intro declaration hdeclaration
  rcases mem_overrideAll hdeclaration with hnil | hmem
  · simp at hnil
  · obtain ⟨written, hwritten, hfollow⟩ :=
      Traversal.exists_of_mem_right (Traversal.mapM_eq_ok_iff.1 hfollowed) hmem
    exact wellFormed_of_follow hshared (hgiven written hwritten) hfollow

/-! ## Bodies -/

/-- The schema of a media type is well-formed. -/
theorem wellFormed_of_mediaSchema? {media : Json} {schema : Schema}
    (h : mediaSchema? media = some schema) : schema.WellFormed := by
  simp only [mediaSchema?, Option.bind_eq_bind, Option.bind_eq_some_iff] at h
  obtain ⟨fields, _, found, hfound, rfl⟩ := h
  exact Fields.forall_of_optional? Schema.wellFormed_of_ofJson? hfound schema rfl

/-- The schema that is chosen among media types is well-formed. -/
theorem wellFormed_of_contentSchema? {content : List (String × Json)} {schema : Schema}
    (h : contentSchema? content = some schema) : schema.WellFormed := by
  rcases Option.or_eq_some_iff.1 h with hjson | ⟨_, hfirst⟩
  · obtain ⟨media, _, hmedia⟩ := Option.bind_eq_some_iff.1 hjson
    exact wellFormed_of_mediaSchema? hmedia
  · obtain ⟨media, _, hmedia⟩ := List.exists_of_findSome?_eq_some hfirst
    exact wellFormed_of_mediaSchema? hmedia

/-- The body that an operation declares has a well-formed schema. -/
theorem wellFormed_of_requestBody?
    (hgiven : ∀ declaration ∈ declarations, declaration.WellFormed)
    {declared : Option BodyDeclaration} {body : RequestBody}
    (h : requestBody? declarations declared = some body) : body.schema.WellFormed := by
  rcases Option.or_eq_some_iff.1 h with hcontent | ⟨_, hlast⟩
  · obtain ⟨_, _, hbody⟩ := Option.bind_eq_some_iff.1 hcontent
    obtain ⟨schema, hschema, rfl⟩ := Option.map_eq_some_iff.1 hbody
    exact wellFormed_of_contentSchema? hschema
  · obtain ⟨declaration, hmem, hbody⟩ := List.mem_filterMap.1 (List.mem_of_getLast? hlast)
    unfold bodyParameter? at hbody
    split at hbody
    · obtain rfl := Option.some.inj hbody
      cases hschema : declaration.schema with
      | none => simpa [hschema] using Schema.wellFormed_empty
      | some schema => simpa [hschema] using (hgiven declaration hmem).schema schema hschema
    · simp at hbody

/-! ## Operations -/

/-- Every operation that is read is well-formed. -/
theorem wellFormed_of_readOperation (hshared : ∀ entry ∈ shared, entry.2.WellFormed)
    {common : List ParameterDeclaration}
    (hcommon : ∀ declaration ∈ common, declaration.WellFormed) {version : DescriptionVersion}
    {path : String} {entry : HttpMethod × Json} {operation : Operation}
    (h : readOperation version shared path common entry = .ok operation) :
    operation.WellFormed := by
  unfold readOperation at h
  split at h
  · simp at h
  · rename_i declared hdeclared
    obtain ⟨merged, hmerged, hoperation⟩ := Traversal.bind_eq_ok_iff.1 h
    obtain rfl := Except.ok.inj hoperation
    simp only [OperationDeclaration.ofJson?, Option.bind_eq_bind, Option.bind_eq_some_iff,
      Option.pure_def, Option.some.injEq] at hdeclared
    obtain ⟨_, _, _, _, _, _, _, _, _, _, own, hown, _, _, _, _, rfl⟩ := hdeclared
    have hgiven : ∀ declaration ∈ common ++ own, declaration.WellFormed := by
      intro declaration hmem
      rcases List.mem_append.1 hmem with hmem | hmem
      · exact hcommon declaration hmem
      · rcases Fields.defaulted?_cases hown with rfl | ⟨_, hlist⟩
        · simp at hmem
        · exact Json.forall_of_list? ParameterDeclaration.wellFormed_of_ofJson? hlist
            declaration hmem
    have hall := wellFormed_of_mergedDeclarations hshared hgiven hmerged
    refine ⟨?_, fun body hbody => wellFormed_of_requestBody? hall hbody⟩
    intro parameter hparameter
    obtain ⟨declaration, hmem, hdeclaration⟩ := List.mem_filterMap.1 hparameter
    obtain ⟨location, _, rfl⟩ := Option.map_eq_some_iff.1 hdeclaration
    exact (hall declaration hmem).toParameter location

/-- The parameters that a path item declares for all its operations are well-formed. -/
theorem wellFormed_of_pathItem {json : Json} {item : PathItem}
    (h : PathItem.ofJson? json = some item) :
    ∀ declaration ∈ item.parameters, declaration.WellFormed := by
  simp only [PathItem.ofJson?, Option.bind_eq_bind, Option.bind_eq_some_iff] at h
  obtain ⟨members, _, h⟩ := h
  split at h
  · obtain rfl := Option.some.inj h
    simp
  · obtain ⟨common, hcommon, hitem⟩ := Option.bind_eq_some_iff.1 h
    obtain rfl := Option.some.inj hitem
    exact Json.forall_of_list? ParameterDeclaration.wellFormed_of_ofJson? hcommon

/-- Every operation of a path is well-formed. -/
theorem wellFormed_of_readPath (hshared : ∀ entry ∈ shared, entry.2.WellFormed)
    {version : DescriptionVersion} {entry : String × Json} {operations : List Operation}
    (h : readPath version shared entry = .ok operations) :
    ∀ operation ∈ operations, operation.WellFormed := by
  unfold readPath at h
  split at h
  · simp at h
  · rename_i item hitem
    intro operation hoperation
    obtain ⟨_, _, hread⟩ :=
      Traversal.exists_of_mem_right (Traversal.mapM_eq_ok_iff.1 h) hoperation
    exact wellFormed_of_readOperation hshared (wellFormed_of_pathItem hitem) hread

/-! ## Descriptions -/

/-- Shared declarations are well-formed in either of their two places. -/
theorem wellFormed_of_insertAll {α : Type} {P : α → Prop} {first added : List (String × α)}
    (hfirst : ∀ entry ∈ first, P entry.2) (hadded : ∀ entry ∈ added, P entry.2) :
    ∀ entry ∈ Entries.insertAll first added, P entry.2 := by
  intro entry hentry
  rcases Entries.mem_insertAll hentry with hmem | hmem
  · exact hfirst entry hmem
  · exact hadded entry hmem

/-- What stands in a field of shared declarations satisfies what all of them do. -/
theorem forall_of_shared {α : Type} {P : α → Prop} {read : Json → Option α}
    (hread : ∀ json value, read json = some value → P value) {fields : Fields} {name : String}
    {entries : List (String × α)}
    (h : fields.defaulted? name [] (Json.sorted? read) = some entries) :
    ∀ entry ∈ entries, P entry.2 := by
  rcases Fields.defaulted?_cases h with rfl | ⟨_, hsorted⟩
  · simp
  · exact Json.forall_of_sorted? hread hsorted

/-- The shared components of a description are well-formed. -/
theorem wellFormed_of_components? (json : Json)
    (components : List (String × Schema) × List (String × ParameterDeclaration))
    (h : DocumentDeclaration.components? json = some components) :
    (∀ entry ∈ components.1, entry.2.WellFormed) ∧
      ∀ entry ∈ components.2, entry.2.WellFormed := by
  simp only [DocumentDeclaration.components?, Option.bind_eq_bind, Option.bind_eq_some_iff,
    Option.pure_def, Option.some.injEq] at h
  obtain ⟨_, _, schemas, hschemas, parameters, hparameters, rfl⟩ := h
  exact ⟨forall_of_shared Schema.wellFormed_of_ofJson? hschemas,
    forall_of_shared ParameterDeclaration.wellFormed_of_ofJson? hparameters⟩

/-- The shared declarations of a description are well-formed. -/
theorem wellFormed_of_declaration {json : Json} {declared : DocumentDeclaration}
    (h : DocumentDeclaration.ofJson? json = some declared) :
    (∀ entry ∈ declared.schemas, entry.2.WellFormed) ∧
      ∀ entry ∈ declared.parameters, entry.2.WellFormed := by
  rw [DocumentDeclaration.ofJson?] at h
  obtain ⟨fields, _, h⟩ := Option.bind_eq_some_iff.1 h
  obtain ⟨_, _, h⟩ := Option.bind_eq_some_iff.1 h
  obtain ⟨_, _, h⟩ := Option.bind_eq_some_iff.1 h
  obtain ⟨_, _, h⟩ := Option.bind_eq_some_iff.1 h
  obtain ⟨_, _, h⟩ := Option.bind_eq_some_iff.1 h
  obtain ⟨_, _, h⟩ := Option.bind_eq_some_iff.1 h
  obtain ⟨_, _, h⟩ := Option.bind_eq_some_iff.1 h
  obtain ⟨schemas, hschemas, h⟩ := Option.bind_eq_some_iff.1 h
  obtain ⟨parameters, hparameters, h⟩ := Option.bind_eq_some_iff.1 h
  obtain ⟨components, hcomponents, h⟩ := Option.bind_eq_some_iff.1 h
  obtain rfl := Option.some.inj h
  have hown := forall_of_shared Schema.wellFormed_of_ofJson? hschemas
  have hdeclared := forall_of_shared ParameterDeclaration.wellFormed_of_ofJson? hparameters
  have hadded := Fields.forall_of_optional? wellFormed_of_components? hcomponents
  cases components with
  | none =>
      exact ⟨wellFormed_of_insertAll hown (by simp), wellFormed_of_insertAll hdeclared (by simp)⟩
  | some added =>
      obtain ⟨hschema, hparameter⟩ := hadded added rfl
      exact ⟨wellFormed_of_insertAll hown hschema, wellFormed_of_insertAll hdeclared hparameter⟩

/-- A description that is read from a declaration is well-formed. -/
theorem wellFormed_of_ofDeclaration {declared : DocumentDeclaration} {document : Document}
    (hschemas : ∀ entry ∈ declared.schemas, entry.2.WellFormed)
    (hparameters : ∀ entry ∈ declared.parameters, entry.2.WellFormed)
    (h : ofDeclaration declared = .ok document) : document.WellFormed := by
  obtain ⟨version, _, h⟩ := Traversal.bind_eq_ok_iff.1 h
  obtain ⟨operations, hoperations, h⟩ := Traversal.bind_eq_ok_iff.1 h
  dsimp only at h
  split at h
  · simp at h
  · obtain rfl := Except.ok.inj h
    refine ⟨hschemas, ?_⟩
    intro operation hoperation
    obtain ⟨group, hgroup, hmem⟩ := List.mem_flatten.1 hoperation
    obtain ⟨_, _, hread⟩ :=
      Traversal.exists_of_mem_right (Traversal.mapM_eq_ok_iff.1 hoperations) hgroup
    exact wellFormed_of_readPath hparameters hread operation hmem

/-- Every description that is read is well-formed. -/
theorem wellFormed_of_isParsed {document : Document} (h : document.IsParsed) :
    document.WellFormed := by
  obtain ⟨json, h⟩ := h
  unfold ofJson at h
  split at h
  · simp at h
  · rename_i declared hdeclared
    obtain ⟨hschemas, hparameters⟩ := wellFormed_of_declaration hdeclared
    exact wellFormed_of_ofDeclaration hschemas hparameters h

/-- Where no name is found again, all names are different, and from those seen before. -/
theorem nodup_of_firstRepeated? {seen names : List String}
    (h : firstRepeated? seen names = none) : names.Nodup ∧ ∀ name ∈ names, name ∉ seen := by
  induction names generalizing seen with
  | nil => simp
  | cons name rest ih =>
      unfold firstRepeated? at h
      split at h
      · cases h
      · rename_i hnew
        obtain ⟨hrest, hunseen⟩ := ih h
        refine ⟨List.nodup_cons.2 ⟨fun hmem => ?_, hrest⟩, ?_⟩
        · exact hunseen name hmem List.mem_cons_self
        · rw [List.forall_mem_cons]
          exact ⟨by simpa using hnew,
            fun other hother hseen => hunseen other hother (List.mem_cons_of_mem _ hseen)⟩

/-- The operations of a description that is read have different names. -/
theorem nodup_names_of_isParsed {document : Document} (h : document.IsParsed) :
    (document.operations.map Operation.name).Nodup := by
  obtain ⟨json, h⟩ := h
  unfold ofJson at h
  split at h
  · cases h
  · obtain ⟨version, _, h⟩ := Traversal.bind_eq_ok_iff.1 h
    obtain ⟨operations, _, h⟩ := Traversal.bind_eq_ok_iff.1 h
    dsimp only at h
    split at h
    · cases h
    · rename_i hnames
      obtain rfl := Except.ok.inj h
      exact (nodup_of_firstRepeated? hnames).1

/-- The schema that a well-formed schema stands for in a description is well-formed. -/
theorem WellFormed.target {document : Document} (h : document.WellFormed) {schema : Schema}
    (hschema : schema.WellFormed) :
    ((schema.target? (some document)).getD schema).WellFormed := by
  unfold Schema.target?
  split
  · exact hschema
  · rename_i reference _
    rw [Option.bind_some]
    cases hresolve : document.resolve? reference with
    | none => exact hschema
    | some target =>
        obtain ⟨_, _, hfind⟩ := Option.bind_eq_some_iff.1 hresolve
        exact h.schemas _ (Entries.mem_of_find? hfind)

/-! ## Texts -/

/-- A description in a JSON text is read from a JSON value. -/
theorem isParsed_of_ofJsonText {text : String} {document : Document}
    (h : ofJsonText text = .ok document) : document.IsParsed := by
  unfold ofJsonText at h
  split at h
  · exact ⟨_, h⟩
  · simp at h

/-- A description in a YAML text is read from a JSON value. -/
theorem isParsed_of_ofYamlText {text : String} {document : Document}
    (h : ofYamlText text = .ok document) : document.IsParsed := by
  unfold ofYamlText at h
  split at h
  · exact ⟨_, h⟩
  · simp at h

/-- A description in a text of either form is read from a JSON value. -/
theorem isParsed_of_ofText {text : String} {document : Document}
    (h : ofText text = .ok document) : document.IsParsed := by
  unfold ofText at h
  split at h
  · exact isParsed_of_ofJsonText h
  · exact isParsed_of_ofYamlText h

end Document

end ApiBinding
