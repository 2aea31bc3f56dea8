import ApiBinding.Proofs.Document.WellFormed

/-!
# Written operations

A description writes an operation as a method of a path.  Paths and methods have an order,
and reading keeps it: every method of every path becomes one operation, and nothing else
does, neither what stands beside the methods of a path nor what an extension holds.

Main results:

- Theorem `paths_of_declaration`: which paths are read from a description.
- Theorem `readAs_of_readPath`: the methods of a path are read one by one.
- Theorem `readAs_of_ofJson`: the operations of a description are its written methods.
-/

namespace ApiBinding

/-- A method of a path as a description writes it. -/
structure WrittenMethod where
  path : String
  method : HttpMethod
  /-- What stands under the method. -/
  operation : Json

/-- An operation as it is read from a written method.  It has the name that is declared for
it, or else one that is made of the method and the path. -/
structure WrittenMethod.ReadAs (written : WrittenMethod) (operation : Operation) : Prop where
  path : operation.path = written.path
  method : operation.method = written.method
  name : ∃ declared, OperationDeclaration.ofJson? written.operation = some declared ∧
    operation.name = declared.name.getD (Document.derivedName written.method written.path)

namespace Document

/-- The paths that a description writes, with what stands under them. -/
def writtenPaths : Json → List (String × Json)
  | .obj members => ((Entries.find? "paths" members).bind Json.members?).getD []
  -- in a description that is written as an array the paths are its sixth item
  | .arr items => (items[5]?.bind Json.members?).getD []
  | _ => []

/-- The methods that stand under a path, each with what stands under it. -/
def pathMethods (path : String × Json) : List WrittenMethod :=
  (path.2.members?.getD []).filterMap fun member =>
    (HttpMethod.ofKey? member.1).map fun method => ⟨path.1, method, member.2⟩

/-- The methods of all paths that a description writes, in order; extensions are no paths. -/
def writtenMethods (json : Json) : List WrittenMethod :=
  ((writtenPaths json).filter fun path => ¬"x-".toList <+: path.1.toList).flatMap pathMethods

/-! ## Paths -/

/-- The sixth field of a record that is written as an array. -/
theorem find?_zip_paths (items : List Json) :
    Entries.find? "paths" (["swagger", "openapi", "info", "basePath", "servers", "paths",
      "definitions", "parameters", "components"].zip items) = items[5]? := by
  rcases items with _ | ⟨_, _ | ⟨_, _ | ⟨_, _ | ⟨_, _ | ⟨_, _ | ⟨_, _⟩⟩⟩⟩⟩⟩ <;>
    simp [Entries.find?]

/-- The paths of a declaration are those that are written. -/
theorem paths_of_declaration {json : Json} {declared : DocumentDeclaration}
    (h : DocumentDeclaration.ofJson? json = some declared) :
    declared.paths = writtenPaths json := by
  rw [DocumentDeclaration.ofJson?] at h
  obtain ⟨fields, hfields, h⟩ := Option.bind_eq_some_iff.1 h
  obtain ⟨_, _, h⟩ := Option.bind_eq_some_iff.1 h
  obtain ⟨_, _, h⟩ := Option.bind_eq_some_iff.1 h
  obtain ⟨_, _, h⟩ := Option.bind_eq_some_iff.1 h
  obtain ⟨_, _, h⟩ := Option.bind_eq_some_iff.1 h
  obtain ⟨_, _, h⟩ := Option.bind_eq_some_iff.1 h
  obtain ⟨paths, hpaths, h⟩ := Option.bind_eq_some_iff.1 h
  obtain ⟨_, _, h⟩ := Option.bind_eq_some_iff.1 h
  obtain ⟨_, _, h⟩ := Option.bind_eq_some_iff.1 h
  obtain ⟨_, _, h⟩ := Option.bind_eq_some_iff.1 h
  obtain rfl := Option.some.inj h
  have hread := Fields.eq_of_defaulted? hpaths
  show paths = writtenPaths json
  cases json with
  | obj members =>
      obtain rfl := Option.some.inj hfields
      exact hread
  | arr items =>
      simp only [Fields.ofJson?, Option.ite_none_right_eq_some, Option.some.injEq] at hfields
      obtain ⟨_, rfl⟩ := hfields
      rw [hread, find?_zip_paths]
      rfl
  | _ => cases hfields

/-- What starts like an extension is one. -/
theorem isExtension_eq (path : String) :
    isExtension path = decide ("x-".toList <+: path.toList) := by
  rw [Bool.eq_iff_iff, decide_eq_true_eq, isExtension, List.isPrefixOf_iff_prefix]

/-! ## Operations -/

variable {version : DescriptionVersion} {shared : List (String × ParameterDeclaration)}

/-- A written method is read as an operation of its path. -/
theorem readAs_of_readOperation {path : String} {common : List ParameterDeclaration}
    {entry : HttpMethod × Json} {operation : Operation}
    (h : readOperation version shared path common entry = .ok operation) :
    WrittenMethod.ReadAs ⟨path, entry.1, entry.2⟩ operation := by
  unfold readOperation at h
  split at h
  · cases h
  · rename_i declared hdeclared
    obtain ⟨declarations, _, hoperation⟩ := Traversal.bind_eq_ok_iff.1 h
    obtain rfl := Except.ok.inj hoperation
    exact ⟨rfl, rfl, declared, hdeclared, rfl⟩

/-- The methods of a path item are those that stand under its path. -/
theorem pathMethods_eq {path : String × Json} {item : PathItem}
    (h : PathItem.ofJson? path.2 = some item) :
    pathMethods path = item.methods.map fun entry => ⟨path.1, entry.1, entry.2⟩ := by
  simp only [PathItem.ofJson?, Option.bind_eq_bind, Option.bind_eq_some_iff] at h
  obtain ⟨members, hmembers, h⟩ := h
  have hmethods : item.methods = members.filterMap fun member =>
      (HttpMethod.ofKey? member.1).map fun method => (method, member.2) := by
    split at h
    · obtain rfl := Option.some.inj h
      rfl
    · obtain ⟨common, _, hitem⟩ := Option.bind_eq_some_iff.1 h
      obtain rfl := Option.some.inj hitem
      rfl
  rw [pathMethods, hmembers, Option.getD_some, hmethods, List.map_filterMap]
  refine List.filterMap_congr fun member _ => ?_
  cases HttpMethod.ofKey? member.1 <;> rfl

/-- The methods of a path are read one by one, in their order. -/
theorem readAs_of_readPath {path : String × Json} {operations : List Operation}
    (h : readPath version shared path = .ok operations) :
    List.Forall₂ WrittenMethod.ReadAs (pathMethods path) operations := by
  unfold readPath at h
  split at h
  · cases h
  · rename_i item hitem
    rw [pathMethods_eq hitem, List.forall₂_map_left_iff]
    refine (Traversal.mapM_eq_ok_iff.1 h).imp fun entry operation hread => ?_
    exact readAs_of_readOperation hread

/-- The paths that are read are those that are written, without extensions. -/
theorem filter_paths {json : Json} {declared : DocumentDeclaration}
    (h : DocumentDeclaration.ofJson? json = some declared) :
    (declared.paths.filter fun entry => !isExtension entry.1) =
      (writtenPaths json).filter fun path => ¬"x-".toList <+: path.1.toList := by
  rw [paths_of_declaration h]
  refine List.filter_congr fun path _ => ?_
  rw [isExtension_eq, decide_not]

/-- The methods of several paths are read path by path and method by method. -/
theorem readAs_of_readPaths {paths : List (String × Json)} {groups : List (List Operation)}
    (h : paths.mapM (readPath version shared) = .ok groups) :
    List.Forall₂ WrittenMethod.ReadAs (paths.flatMap pathMethods) groups.flatten := by
  have hread := (Traversal.mapM_eq_ok_iff.1 h).imp fun _ _ => readAs_of_readPath
  rw [List.flatMap_def]
  exact List.rel_flatten (List.forall₂_map_left_iff.2 hread)

/-- The operations of a description that is read are its written methods, path by path and
method by method. -/
theorem readAs_of_ofJson {json : Json} {document : Document} (h : ofJson json = .ok document) :
    List.Forall₂ WrittenMethod.ReadAs (writtenMethods json) document.operations := by
  unfold ofJson at h
  split at h
  · cases h
  · rename_i declared hdeclared
    obtain ⟨version, _, h⟩ := Traversal.bind_eq_ok_iff.1 h
    obtain ⟨groups, hgroups, h⟩ := Traversal.bind_eq_ok_iff.1 h
    dsimp only at h
    split at h
    · cases h
    · obtain rfl := Except.ok.inj h
      rw [filter_paths hdeclared] at hgroups
      exact readAs_of_readPaths hgroups

end Document

end ApiBinding
