import ApiBinding.Error
import ApiBinding.Proofs.Document.DerivedNames

/-!
# Merging of parameters

An operation has the parameters of its path before its own ones.  Each of them is a
declaration or a reference to a shared one, and a later declaration takes the place of the
earlier ones for the same input, that is of the same name and location.  What is left holds
the last declaration of every input, in the order of these last declarations: those with the
location of a parameter become the parameters of the operation, and one with the location of
a body becomes its body, unless a declared body has a schema.

References are followed before anything is merged.  So a description is refused for one that
leads nowhere, even if a later declaration takes the place of what it should have led to.

Main results:

- Theorem `lastOfEach_override`: what a further declaration does to merged ones.
- Theorem `lastOfEach_overrideAll`: merging keeps the last declaration of every input.
- Theorem `readsMerged_of_readOperation`: the parameters and the body of an operation are those
  of its merged declarations.
- Theorem `pairwise_parameters_of_isParsed`: the parameters of an operation differ in name or
  location.
- Theorem `mergesParameters_of_form`: what becomes of the parameters of a description.
-/

namespace ApiBinding

/-- The input that a declaration is for: its name and its location. -/
def ParameterDeclaration.input (declaration : ParameterDeclaration) :
    Option String × Option String :=
  (declaration.name, declaration.location)

namespace Document

variable {declarations followed merged : List ParameterDeclaration}
  {added : ParameterDeclaration}

/-! ## The last declaration of every input -/

/-- The declaration at a place is the last one for its input. -/
def IsLastAt (declarations : List ParameterDeclaration) (place : Nat) : Prop :=
  ∃ declaration, declarations[place]? = some declaration ∧
    ∀ later other, place < later → declarations[later]? = some other →
      other.input ≠ declaration.input

/-- Some declarations are the last ones for their inputs among others, in their order. -/
def LastOfEach (declarations merged : List ParameterDeclaration) : Prop :=
  ∃ places : List Nat, places.Pairwise (· < ·) ∧
    (∀ place, place ∈ places ↔ IsLastAt declarations place) ∧
    merged.map some = places.map fun place => declarations[place]?

/-- A place with a last declaration is one of the list. -/
theorem IsLastAt.lt_length {place : Nat} (h : IsLastAt declarations place) :
    place < declarations.length := by
  obtain ⟨declaration, hplace, _⟩ := h
  exact (List.getElem?_eq_some_iff.1 hplace).1

/-- A further declaration is the last one for its input, and a declaration before it stays the
last one if it is for another input. -/
theorem isLastAt_append_singleton {place : Nat} :
    IsLastAt (declarations ++ [added]) place ↔
      place = declarations.length ∨
        IsLastAt declarations place ∧ declarations[place]?.map (·.input) ≠ some added.input := by
  have hlast : (declarations ++ [added])[declarations.length]? = some added := by simp
  constructor
  · rintro ⟨declaration, hplace, hlater⟩
    have hlength := (List.getElem?_eq_some_iff.1 hplace).1
    rw [List.length_append, List.length_singleton] at hlength
    rcases Nat.lt_succ_iff_lt_or_eq.1 hlength with hlt | rfl
    · rw [List.getElem?_append_left hlt] at hplace
      refine Or.inr ⟨⟨declaration, hplace, fun later other hbefore hother => ?_⟩, ?_⟩
      · have hinside := (List.getElem?_eq_some_iff.1 hother).1
        exact hlater later other hbefore (by rwa [List.getElem?_append_left hinside])
      · rw [hplace, Option.map_some, ne_eq, Option.some.injEq]
        exact (hlater _ added hlt hlast).symm
    · exact Or.inl rfl
  · rintro (rfl | ⟨⟨declaration, hplace, hlater⟩, hother⟩)
    · refine ⟨added, hlast, fun later other hbefore hfound => ?_⟩
      have hlength := (List.getElem?_eq_some_iff.1 hfound).1
      rw [List.length_append, List.length_singleton] at hlength
      omega
    · have hlt := (List.getElem?_eq_some_iff.1 hplace).1
      refine ⟨declaration, by rwa [List.getElem?_append_left hlt], fun later other hbefore hfound => ?_⟩
      have hlength := (List.getElem?_eq_some_iff.1 hfound).1
      rw [List.length_append, List.length_singleton] at hlength
      rcases Nat.lt_succ_iff_lt_or_eq.1 hlength with hinside | rfl
      · rw [List.getElem?_append_left hinside] at hfound
        exact hlater later other hbefore hfound
      · rw [hlast] at hfound
        obtain rfl := Option.some.inj hfound
        rw [hplace, Option.map_some, ne_eq, Option.some.injEq] at hother
        exact fun heq => hother heq.symm

/-- Merging one more declaration keeps the last declaration of every input. -/
theorem lastOfEach_override (h : LastOfEach declarations merged) (added : ParameterDeclaration) :
    LastOfEach (declarations ++ [added]) (override merged added) := by
  obtain ⟨places, hordered, hplaces, hmerged⟩ := h
  have hinside : ∀ place ∈ places, place < declarations.length :=
    fun place hplace => ((hplaces place).1 hplace).lt_length
  let stays : Option ParameterDeclaration → Bool :=
    fun found => decide (found.map (·.input) ≠ some added.input)
  refine ⟨places.filter (fun place => stays declarations[place]?) ++ [declarations.length],
    ?_, fun place => ?_, ?_⟩
  · refine List.pairwise_append.2 ⟨hordered.filter _, List.pairwise_singleton _ _, ?_⟩
    intro place hplace last hlast
    rw [List.mem_singleton.1 hlast]
    exact hinside place (List.mem_of_mem_filter hplace)
  · rw [isLastAt_append_singleton, List.mem_append, List.mem_filter, List.mem_singleton, hplaces]
    simp only [stays, decide_eq_true_eq]
    exact or_comm
  · have hkept : merged.filter (fun declaration => stays (some declaration)) =
        merged.filter fun declaration =>
          !(declaration.name == added.name && declaration.location == added.location) := by
      refine List.filter_congr fun declaration _ => ?_
      rw [Bool.eq_iff_iff]
      simp [stays, ParameterDeclaration.input]
    have hold : (merged.filter fun declaration => stays (some declaration)).map some =
        (places.filter fun place => stays declarations[place]?).map
          fun place => declarations[place]? := by
      have hfilter := congrArg (List.filter stays) hmerged
      rwa [List.filter_map, List.filter_map] at hfilter
    have hfound : (places.filter fun place => stays declarations[place]?).map
          (fun place => (declarations ++ [added])[place]?) =
        (places.filter fun place => stays declarations[place]?).map
          fun place => declarations[place]? := by
      refine List.map_congr_left fun place hplace => ?_
      exact List.getElem?_append_left (hinside place (List.mem_of_mem_filter hplace))
    rw [override, ← hkept, List.map_append, List.map_append, hold, hfound]
    simp

/-- Merging declarations keeps the last one of every input, in the order of these. -/
theorem lastOfEach_overrideAll (declarations : List ParameterDeclaration) :
    LastOfEach declarations (overrideAll declarations) := by
  induction declarations using List.reverseRecOn with
  | nil =>
      refine ⟨[], List.Pairwise.nil, fun place => ?_, rfl⟩
      simp [IsLastAt]
  | append_singleton rest added ih =>
      rw [overrideAll, List.foldl_append]
      exact lastOfEach_override ih added

/-- The last declarations of all inputs are for different inputs. -/
theorem LastOfEach.nodup (h : LastOfEach declarations merged) :
    (merged.map ParameterDeclaration.input).Nodup := by
  obtain ⟨places, hordered, hplaces, hmerged⟩ := h
  have hinputs : merged.map (some ∘ ParameterDeclaration.input) =
      places.map fun place => declarations[place]?.map ParameterDeclaration.input := by
    have hmap := congrArg (List.map (Option.map ParameterDeclaration.input)) hmerged
    rwa [List.map_map, List.map_map] at hmap
  have hapart : (places.map fun place =>
      declarations[place]?.map ParameterDeclaration.input).Nodup := by
    rw [List.Nodup, List.pairwise_map]
    refine hordered.imp_of_mem fun {place later} hplace hlater hbefore => ?_
    obtain ⟨declaration, hfound, hlast⟩ := (hplaces place).1 hplace
    obtain ⟨other, hother, _⟩ := (hplaces later).1 hlater
    rw [hfound, hother, Option.map_some, Option.map_some, ne_eq, Option.some.injEq]
    exact (hlast later other hbefore hother).symm
  rw [← hinputs, ← List.map_map] at hapart
  exact hapart.of_map _

/-! ## References -/

variable {shared : List (String × ParameterDeclaration)} {written target : ParameterDeclaration}

/-- What a written declaration stands for: itself, or the shared declaration that it refers
to, as it is written there. -/
def StandsFor (shared : List (String × ParameterDeclaration))
    (written target : ParameterDeclaration) : Prop :=
  match written.reference with
  | none => target = written
  | some reference => Entries.find? (sharedName reference) shared = some target

/-- Following a declaration leads to what it stands for. -/
theorem follow_eq_ok_iff : follow shared written = .ok target ↔ StandsFor shared written target := by
  unfold follow StandsFor
  cases written.reference with
  | none => simpa using eq_comm
  | some reference =>
      dsimp only
      cases Entries.find? (sharedName reference) shared <;> simp

/-- A reference leads somewhere exactly if its declaration stands for something. -/
theorem resolves_iff : Resolves shared written ↔ ∃ target, StandsFor shared written target := by
  unfold Resolves StandsFor
  cases written.reference with
  | none => simp
  | some reference => simp

/-- A reference that leads nowhere is the fault of following it. -/
theorem exists_follow_eq_error (h : ¬Resolves shared written) :
    ∃ reference, written.reference = some reference ∧
      Entries.find? (sharedName reference) shared = none ∧
      follow shared written = .error (.unresolvedParameter reference) := by
  unfold Resolves at h
  push Not at h
  obtain ⟨reference, hreference, hnone⟩ := h
  have hfind : Entries.find? (sharedName reference) shared = none :=
    Option.eq_none_iff_forall_ne_some.2 hnone
  refine ⟨reference, hreference, hfind, ?_⟩
  unfold follow
  simp only [hreference, hfind]

/-! ## Parameters and bodies -/

/-- Whether some media type of a body has a schema. -/
def HasSchema (body : BodyDeclaration) : Prop :=
  ∃ media ∈ body.content, ∃ schema, mediaSchema? media.2 = some schema

/-- The parameters and the body of an operation are those of merged declarations. -/
structure HoldsInputs (merged : List ParameterDeclaration) (declared : Option BodyDeclaration)
    (operation : Operation) : Prop where
  /-- The declarations in the path, the query and the headers, one by one. -/
  parameters : List.Forall₂
    (fun declaration parameter =>
      declaration.location.bind ParameterLocation.ofText? = some parameter.location ∧
        parameter = declaration.toParameter parameter.location)
    (merged.filter fun declaration =>
      declaration.location ∈ [some "path", some "query", some "header"]) operation.parameters
  /-- A declared body counts if it has a schema. -/
  declaredBody : ∀ body, declared = some body → HasSchema body →
    ∃ media ∈ body.content, ∃ schema, mediaSchema? media.2 = some schema ∧
      operation.body = some ⟨body.name.getD "body", body.required, schema⟩
  /-- Otherwise the last declaration of a body does, if there is one. -/
  bodyParameter : (∀ body, declared = some body → ¬HasSchema body) →
    operation.body =
      (merged.filter fun declaration => declaration.location = some "body").getLast?.map
        fun declaration =>
          ⟨declaration.name.getD "", declaration.required, declaration.schema.getD {}⟩

/-- The location of a parameter is one of three words. -/
theorem isSome_ofText?_iff (location : Option String) :
    (location.bind ParameterLocation.ofText?).isSome = true ↔
      location ∈ [some "path", some "query", some "header"] := by
  cases location with
  | none => simp
  | some word =>
      rw [Option.bind_some, ParameterLocation.ofText?]
      by_cases hpath : word = "path"
      · simp [hpath]
      · by_cases hquery : word = "query"
        · simp [hquery]
        · by_cases hheader : word = "header" <;> simp [hpath, hquery, hheader]

/-- The parameters of declarations are those with the location of one. -/
theorem forall₂_parameter? (merged : List ParameterDeclaration) :
    List.Forall₂
      (fun declaration parameter =>
        declaration.location.bind ParameterLocation.ofText? = some parameter.location ∧
          parameter = declaration.toParameter parameter.location)
      (merged.filter fun declaration =>
        declaration.location ∈ [some "path", some "query", some "header"])
      (merged.filterMap parameter?) := by
  induction merged with
  | nil => exact .nil
  | cons declaration rest ih =>
      have hlocation := isSome_ofText?_iff declaration.location
      cases hword : declaration.location.bind ParameterLocation.ofText? with
      | none =>
          rw [hword, Option.isSome_none] at hlocation
          have hout : declaration.location ∉ [some "path", some "query", some "header"] :=
            fun hmem => by simpa using hlocation.2 hmem
          rw [List.filter_cons_of_neg (by simpa using hout), List.filterMap_cons_none]
          · exact ih
          · rw [parameter?, hword, Option.map_none]
      | some location =>
          rw [hword, Option.isSome_some] at hlocation
          have hin : declaration.location ∈ [some "path", some "query", some "header"] :=
            hlocation.1 rfl
          rw [List.filter_cons_of_pos (by simpa using hin), List.filterMap_cons_some
            (b := declaration.toParameter location)]
          · exact .cons ⟨hword, rfl⟩ ih
          · rw [parameter?, hword, Option.map_some]

/-- A location is written in one way. -/
theorem location_eq_of_ofText?_eq {first second : Option String} {location : ParameterLocation}
    (hfirst : first.bind ParameterLocation.ofText? = some location)
    (hsecond : second.bind ParameterLocation.ofText? = some location) : first = second := by
  obtain ⟨word, rfl, hword⟩ := Option.bind_eq_some_iff.1 hfirst
  obtain ⟨other, rfl, hother⟩ := Option.bind_eq_some_iff.1 hsecond
  unfold ParameterLocation.ofText? at hword hother
  cases location <;> split_ifs at hword hother <;> simp_all

/-- Parameters of declarations for different inputs differ in name or location, unless they have
no name. -/
theorem HoldsInputs.pairwise {declared : Option BodyDeclaration} {operation : Operation}
    (h : HoldsInputs merged declared operation)
    (hapart : (merged.map ParameterDeclaration.input).Nodup) :
    operation.parameters.Pairwise fun first second =>
      first.name = second.name → first.location = second.location → first.name = "" := by
  have hkept := (List.pairwise_map.1 hapart).filter fun declaration =>
    decide (declaration.location ∈ [some "path", some "query", some "header"])
  have hparameters := h.parameters
  generalize merged.filter (fun declaration =>
    decide (declaration.location ∈ [some "path", some "query", some "header"])) = declarations
    at hkept hparameters
  generalize operation.parameters = parameters at hparameters ⊢
  induction hparameters with
  | nil => exact .nil
  | @cons declaration parameter _ rest hfirst hrest ih =>
      obtain ⟨hother, htail⟩ := List.pairwise_cons.1 hkept
      refine .cons (fun later hlater hname hlocation => ?_) (ih htail)
      obtain ⟨second, hsecond, hlast⟩ := Traversal.exists_of_mem_right hrest hlater
      by_contra hnamed
      refine hother second hsecond (Prod.ext ?_ ?_)
      · -- a name that is not empty is a written one
        have hwritten : ∀ {found : Option String}, found.getD "" = parameter.name →
            found = some parameter.name := by
          intro found hfound
          cases found with
          | none => exact absurd hfound.symm hnamed
          | some name => exact congrArg some hfound
        have hown : declaration.name.getD "" = parameter.name :=
          (congrArg Parameter.name hfirst.2).symm
        have hsame : second.name.getD "" = parameter.name :=
          (congrArg Parameter.name hlast.2).symm.trans hname.symm
        exact (hwritten hown).trans (hwritten hsame).symm
      · exact location_eq_of_ofText?_eq hfirst.1 (hlocation ▸ hlast.1)

/-- Media types have a schema exactly if one of them is chosen, and it is that of one of them. -/
theorem exists_media_of_contentSchema? {content : List (String × Json)} {schema : Schema}
    (h : contentSchema? content = some schema) :
    ∃ media ∈ content, mediaSchema? media.2 = some schema := by
  rcases Option.or_eq_some_iff.1 h with hjson | ⟨_, hfirst⟩
  · obtain ⟨media, hfind, hmedia⟩ := Option.bind_eq_some_iff.1 hjson
    exact ⟨_, Entries.mem_of_find? hfind, hmedia⟩
  · exact List.exists_of_findSome?_eq_some hfirst

/-- A schema of some media type makes one to be chosen. -/
theorem contentSchema?_eq_none_iff {body : BodyDeclaration} :
    contentSchema? body.content = none ↔ ¬HasSchema body := by
  constructor
  · intro hnone ⟨media, hmedia, schema, hschema⟩
    have hfirst := (Option.or_eq_none_iff.1 hnone).2
    rw [List.findSome?_eq_none_iff.1 hfirst media hmedia] at hschema
    cases hschema
  · intro hnone
    rw [Option.eq_none_iff_forall_ne_some]
    intro schema hschema
    obtain ⟨media, hmedia, hfound⟩ := exists_media_of_contentSchema? hschema
    exact hnone ⟨media, hmedia, schema, hfound⟩

/-- The bodies of declarations are those with the location of one. -/
theorem filterMap_bodyParameter? (merged : List ParameterDeclaration) :
    merged.filterMap bodyParameter? =
      (merged.filter fun declaration => declaration.location = some "body").map
        fun declaration =>
          ⟨declaration.name.getD "", declaration.required, declaration.schema.getD {}⟩ := by
  rw [← List.filterMap_eq_map, List.filterMap_filter]
  refine List.filterMap_congr fun declaration _ => ?_
  simp [bodyParameter?]

/-- An operation with the parameters and the body of merged declarations holds them. -/
theorem holdsInputs {declared : Option BodyDeclaration} {operation : Operation}
    (hparameters : operation.parameters = merged.filterMap parameter?)
    (hbody : operation.body = requestBody? merged declared) :
    HoldsInputs merged declared operation where
  parameters := hparameters ▸ forall₂_parameter? merged
  declaredBody body hdeclared hschema := by
    obtain ⟨schema, hchosen⟩ : ∃ schema, contentSchema? body.content = some schema :=
      Option.ne_none_iff_exists'.1 fun hnone => contentSchema?_eq_none_iff.1 hnone hschema
    obtain ⟨media, hmedia, hfound⟩ := exists_media_of_contentSchema? hchosen
    refine ⟨media, hmedia, schema, hfound, ?_⟩
    rw [hbody, requestBody?, hdeclared, Option.bind_some, hchosen]
    rfl
  bodyParameter hnone := by
    rw [hbody, requestBody?, filterMap_bodyParameter?, List.getLast?_map]
    cases declared with
    | none => rfl
    | some body =>
        rw [Option.bind_some, contentSchema?_eq_none_iff.2 (hnone body rfl)]
        rfl

/-! ## Operations -/

/-- An operation is read from the declarations of its path and its own ones: each is followed,
they are merged, and what is left is taken apart by location. -/
def ReadsMerged (shared : List (String × ParameterDeclaration))
    (common : List ParameterDeclaration) (declared : OperationDeclaration)
    (operation : Operation) : Prop :=
  ∃ followed merged,
    List.Forall₂ (StandsFor shared) (common ++ declared.parameters) followed ∧
      LastOfEach followed merged ∧ (merged.map ParameterDeclaration.input).Nodup ∧
      HoldsInputs merged declared.body operation

variable {version : DescriptionVersion} {path : String} {common : List ParameterDeclaration}
  {entry : HttpMethod × Json} {declared : OperationDeclaration}

/-- The parameters and the body of an operation that is read are those of its declarations,
followed and merged. -/
theorem readsMerged_of_readOperation {operation : Operation}
    (hform : OperationDeclaration.ofJson? entry.2 = some declared)
    (h : readOperation version shared path common entry = .ok operation) :
    ReadsMerged shared common declared operation := by
  unfold readOperation at h
  rw [hform] at h
  obtain ⟨merged, hmerged, hoperation⟩ := Traversal.bind_eq_ok_iff.1 h
  obtain ⟨followed, hfollowed, hall⟩ := Traversal.bind_eq_ok_iff.1 hmerged
  obtain rfl := Except.ok.inj hall
  obtain rfl := Except.ok.inj hoperation
  have hlast := lastOfEach_overrideAll followed
  refine ⟨followed, _, ?_, hlast, hlast.nodup, holdsInputs rfl rfl⟩
  exact (Traversal.mapM_eq_ok_iff.1 hfollowed).imp fun _ _ => follow_eq_ok_iff.1

/-- An operation with a reference that leads nowhere is refused for such a reference. -/
theorem exists_unresolved_of_readOperation
    (hform : OperationDeclaration.ofJson? entry.2 = some declared)
    (h : ∃ written ∈ common ++ declared.parameters, ¬Resolves shared written) :
    ∃ written ∈ common ++ declared.parameters, ∃ reference,
      written.reference = some reference ∧ Entries.find? (sharedName reference) shared = none ∧
        readOperation version shared path common entry =
          .error (.unresolvedParameter reference) := by
  obtain ⟨written, hwritten, hleads⟩ := h
  obtain ⟨_, _, _, hfault⟩ := exists_follow_eq_error hleads
  obtain ⟨first, hfirst, fault, herror, hall⟩ :=
    Traversal.exists_mapM_eq_error ⟨written, hwritten, _, hfault⟩
  have hnowhere : ¬Resolves shared first := fun hresolves => by
    obtain ⟨target, htarget⟩ := resolves_iff.1 hresolves
    rw [follow_eq_ok_iff.2 htarget] at herror
    cases herror
  obtain ⟨reference, hreference, hnone, hsame⟩ := exists_follow_eq_error hnowhere
  obtain rfl := Except.error.inj (hsame.symm.trans herror)
  refine ⟨first, hfirst, reference, hreference, hnone, ?_⟩
  unfold readOperation mergedDeclarations
  rw [hform]
  dsimp only
  rw [hall]
  rfl

/-! ## Descriptions -/

/-- A declared operation, with the parameters that its path declares for all methods. -/
structure PathOperation where
  path : String
  method : HttpMethod
  common : List ParameterDeclaration
  declared : OperationDeclaration

/-- The operations that a path declares; what cannot be read declares none. -/
def pathOperations (path : String × Json) : List PathOperation :=
  match PathItem.ofJson? path.2 with
  | none => []
  | some item => item.methods.filterMap fun entry =>
      (OperationDeclaration.ofJson? entry.2).map fun declared =>
        ⟨path.1, entry.1, item.parameters, declared⟩

/-- The operations that a description declares, in their order. -/
def declaredOperations (json : Json) : List PathOperation :=
  ((writtenPaths json).filter fun path => ¬"x-".toList <+: path.1.toList).flatMap pathOperations

/-- An operation is read from a declared one, with its parameters merged. -/
structure PathOperation.ReadsAs (shared : List (String × ParameterDeclaration))
    (declared : PathOperation) (operation : Operation) : Prop where
  path : operation.path = declared.path
  method : operation.method = declared.method
  merged : ReadsMerged shared declared.common declared.declared operation

/-- The operations of a path are read from those that it declares. -/
theorem readsAs_of_readPath {entry : String × Json} {operations : List Operation}
    (h : readPath version shared entry = .ok operations) :
    List.Forall₂ (PathOperation.ReadsAs shared) (pathOperations entry) operations := by
  unfold readPath at h
  split at h
  · cases h
  · rename_i item hitem
    rw [pathOperations, hitem]
    dsimp only
    rw [Traversal.mapM_eq_ok_iff] at h
    generalize item.methods = methods at h
    induction h with
    | nil => exact .nil
    | @cons method operation methods operations hfirst _ ih =>
        cases hform : OperationDeclaration.ofJson? method.2 with
        | none =>
            rw [readOperation, hform] at hfirst
            cases hfirst
        | some declared =>
            rw [List.filterMap_cons, hform, Option.map_some]
            have hwritten := readAs_of_readOperation hfirst
            exact .cons ⟨hwritten.path, hwritten.method, readsMerged_of_readOperation hform hfirst⟩ ih

/-- The operations of a description that is read are those that it declares. -/
theorem readsAs_of_ofJson {json : Json} {form : DocumentDeclaration} {document : Document}
    (hform : DocumentDeclaration.ofJson? json = some form) (h : ofJson json = .ok document) :
    List.Forall₂ (PathOperation.ReadsAs form.parameters) (declaredOperations json)
      document.operations := by
  rw [ofJson, hform] at h
  obtain ⟨version, _, h⟩ := Traversal.bind_eq_ok_iff.1 h
  obtain ⟨groups, hgroups, h⟩ := Traversal.bind_eq_ok_iff.1 h
  dsimp only at h
  split at h
  · cases h
  · obtain rfl := Except.ok.inj h
    rw [filter_paths hform] at hgroups
    have hread := (Traversal.mapM_eq_ok_iff.1 hgroups).imp fun _ _ => readsAs_of_readPath
    rw [declaredOperations, List.flatMap_def]
    exact List.rel_flatten (List.forall₂_map_left_iff.2 hread)

/-- The parameters of an operation of a description that was read differ in name or location,
unless they have no name. -/
theorem pairwise_parameters_of_isParsed {document : Document} {operation : Operation}
    (hparsed : document.IsParsed) (hoperation : operation ∈ document.operations) :
    operation.parameters.Pairwise fun first second =>
      first.name = second.name → first.location = second.location → first.name = "" := by
  obtain ⟨json, hread⟩ := hparsed
  obtain ⟨form, hform⟩ : ∃ form, DocumentDeclaration.ofJson? json = some form := by
    cases hform : DocumentDeclaration.ofJson? json with
    | none =>
        rw [ofJson, hform] at hread
        cases hread
    | some form => exact ⟨form, rfl⟩
  obtain ⟨_, _, hreads⟩ := Traversal.exists_of_mem_right (readsAs_of_ofJson hform hread) hoperation
  obtain ⟨_, _, _, _, hapart, hholds⟩ := hreads.merged
  exact hholds.pairwise hapart

/-- What becomes of the parameters of a description. -/
structure MergesParameters (json : Json) (form : DocumentDeclaration) : Prop where
  /-- An operation whose references lead somewhere is read from its merged declarations. -/
  resolved : ∀ version path common entry declared,
    OperationDeclaration.ofJson? entry.2 = some declared →
      (∀ written ∈ common ++ declared.parameters, Resolves form.parameters written) →
        ∃ operation, readOperation version form.parameters path common entry = .ok operation ∧
          ReadsMerged form.parameters common declared operation
  /-- One with a reference that leads nowhere is refused for such a reference. -/
  unresolved : ∀ version path common entry declared,
    OperationDeclaration.ofJson? entry.2 = some declared →
      (∃ written ∈ common ++ declared.parameters, ¬Resolves form.parameters written) →
        ∃ written ∈ common ++ declared.parameters, ∃ reference,
          written.reference = some reference ∧
            Entries.find? (sharedName reference) form.parameters = none ∧
            readOperation version form.parameters path common entry =
              .error (.unresolvedParameter reference)
  /-- The operations of a description that is read are all read so. -/
  operations : ∀ document, ofJson json = .ok document →
    List.Forall₂ (PathOperation.ReadsAs form.parameters) (declaredOperations json)
      document.operations
  /-- A description with a reference that leads nowhere is refused as an invalid argument. -/
  refused : ∀ declared ∈ declaredOperations json,
    (∃ written ∈ declared.common ++ declared.declared.parameters,
      ¬Resolves form.parameters written) →
        ∃ fault, ofJson json = .error fault ∧
          (ConnectorError.document fault).kind = .invalidArgument

/-- A description that lists items by pages: a path has a header and the page size by
reference, and its only operation declares the page size again. -/
def pagesDescription (reference : String) : Json :=
  .obj
    [("swagger", .str "2.0"),
      ("parameters", .obj [("size", .obj
        [("name", .str "size"), ("in", .str "query"), ("type", .str "integer")])]),
      ("paths", .obj [("/items", .obj
        [("parameters", .arr
            [.obj [("$ref", .str reference)], .obj [("name", .str "tenant"), ("in", .str "header")]]),
          ("get", .obj [("operationId", .str "List"),
            ("parameters", .arr [.obj
              [("name", .str "size"), ("in", .str "query"), ("required", .bool true)]])])])])]

/-- A size that is not shared is not passed over, although its place would be taken. -/
example : ofJson (pagesDescription "#/parameters/count") =
    .error (.unresolvedParameter "#/parameters/count") := by rfl

end Document

end ApiBinding
