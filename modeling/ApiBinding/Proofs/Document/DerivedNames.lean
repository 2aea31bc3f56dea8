import ApiBinding.Proofs.Document.Operations

/-!
# Derived names

An operation that declares no name is named after its method and its path.  Of the path
the name keeps letters and digits alone: braces and empty segments are dropped, and every
other character, slashes included, is shown as the same one.  Different methods may
therefore get one name, and a description with such methods is refused.

Main results:

- Theorem `derivedName_eq_iff`: which methods of paths get the same name.
- Theorem `exists_read_of_isUnnamed`: what a description without names is read as, if its
  names do not clash.
- Theorem `readUnlessClash_of_isUnnamed`: it is read exactly if no two of its methods clash.
- Theorem `groupPaths_refused`: two paths that get one name.
-/

namespace ApiBinding

namespace Document

/-! ## Names of methods and paths -/

/-- What a name shows of a path: its segments, each after a slash and without braces. -/
def spelledPath (path : String) : List Char :=
  (Text.slashParts path.toList).flatMap fun segment =>
    '/' :: segment.filter fun c => c ≠ '\x7b' ∧ c ≠ '\x7d'

/-- How a name shows a character: a letter or digit as it is, and any other one as a line. -/
def shownChar (c : Char) : Char :=
  if Text.isAlphanumeric c then c else '_'

/-- Two characters that a name does not tell apart. -/
def LooksAlike (first second : Char) : Prop :=
  first = second ∨ Text.isAlphanumeric first = false ∧ Text.isAlphanumeric second = false

/-- The line that stands for other characters is no letter and no digit. -/
theorem isAlphanumeric_line : Text.isAlphanumeric '_' = false := by decide +kernel

/-- A slash is shown as a line. -/
theorem shownChar_slash : shownChar '/' = '_' := by
  rw [shownChar, if_neg (by simp [Text.isAlphanumeric_slash])]

/-- A derived name is the method and what is shown of the path. -/
theorem derivedName_eq (method : HttpMethod) (path : String) :
    derivedName method path =
      String.ofList (method.key.toList ++ (spelledPath path).map shownChar) := by
  have hshown : (spelledPath path).map shownChar =
      (Text.slashParts path.toList).flatMap fun segment =>
        '_' :: (segment.filter fun c => c ≠ '\x7b' ∧ c ≠ '\x7d').map shownChar := by
    rw [spelledPath, List.map_flatMap]
    simp only [List.map_cons, shownChar_slash]
  rw [hshown]
  rfl

/-- Characters are shown alike exactly if they are the same or neither letters nor digits. -/
theorem shownChar_eq_iff {first second : Char} :
    shownChar first = shownChar second ↔ LooksAlike first second := by
  unfold shownChar LooksAlike
  cases hfirst : Text.isAlphanumeric first <;> cases hsecond : Text.isAlphanumeric second
  · simp
  · -- a letter is not shown as a line
    have hother : '_' ≠ second := fun h => by
      rw [← h, isAlphanumeric_line] at hsecond
      cases hsecond
    have hne : first ≠ second := fun h => by
      rw [h, hsecond] at hfirst
      cases hfirst
    simp [hother, hne]
  · have hother : ¬first = '_' := fun h => by
      rw [h, isAlphanumeric_line] at hfirst
      cases hfirst
    have hne : first ≠ second := fun h => by
      rw [h, hsecond] at hfirst
      cases hfirst
    simp [hother, hne]
  · simp

/-- Texts are shown alike exactly if they are of one length and look alike throughout. -/
theorem map_shownChar_eq_iff {first second : List Char} :
    first.map shownChar = second.map shownChar ↔ List.Forall₂ LooksAlike first second := by
  rw [← List.forall₂_eq_eq_eq, List.forall₂_map_left_iff, List.forall₂_map_right_iff]
  constructor
  · exact fun h => h.imp fun _ _ => shownChar_eq_iff.1
  · exact fun h => h.imp fun _ _ => shownChar_eq_iff.2

/-- The key of a method has no line in it. -/
theorem takeWhile_key (method : HttpMethod) (path : String) :
    (method.key.toList ++ (spelledPath path).map shownChar).takeWhile (· ≠ '_') =
      method.key.toList := by
  have hkey : ∀ c ∈ method.key.toList, decide (c ≠ '_') = true := by
    cases method <;> simp [HttpMethod.key]
  rw [List.takeWhile_append_of_pos hkey]
  -- what is shown of a path starts with a line
  unfold spelledPath
  cases Text.slashParts path.toList with
  | nil => simp
  | cons segment rest => simp [shownChar_slash]

/-- Methods have different keys. -/
theorem key_injective {first second : HttpMethod} (h : first.key = second.key) :
    first = second := by
  have hfirst := HttpMethod.ofKey?_key first
  rw [h, HttpMethod.ofKey?_key] at hfirst
  exact (Option.some.inj hfirst).symm

/-- The same name is derived for methods that are the same and have paths that look alike. -/
theorem derivedName_eq_iff {method other : HttpMethod} {path second : String} :
    derivedName method path = derivedName other second ↔
      method = other ∧ List.Forall₂ LooksAlike (spelledPath path) (spelledPath second) := by
  rw [derivedName_eq, derivedName_eq, ← map_shownChar_eq_iff]
  constructor
  · intro h
    have hlists := congrArg String.toList h
    rw [String.toList_ofList, String.toList_ofList] at hlists
    have hkeys := congrArg (List.takeWhile (· ≠ '_')) hlists
    rw [takeWhile_key, takeWhile_key] at hkeys
    rw [hkeys] at hlists
    exact ⟨key_injective (String.toList_injective hkeys), List.append_cancel_left hlists⟩
  · rintro ⟨rfl, hpath⟩
    rw [hpath]

end Document

/-! ## Descriptions without names -/

/-- Where a method is written: its path and the method itself. -/
def WrittenMethod.place (written : WrittenMethod) : String × HttpMethod :=
  (written.path, written.method)

/-- The name of a written method that declares none. -/
def WrittenMethod.derivedName (written : WrittenMethod) : String :=
  Document.derivedName written.method written.path

/-- Two written methods get one name: they are the same method, and their paths look alike. -/
structure WrittenMethod.Clash (first second : WrittenMethod) : Prop where
  method : first.method = second.method
  path : List.Forall₂ Document.LooksAlike (Document.spelledPath first.path)
    (Document.spelledPath second.path)

/-- Written methods clash exactly if the same name is derived for them. -/
theorem WrittenMethod.clash_iff_derivedName {first second : WrittenMethod} :
    first.Clash second ↔ first.derivedName = second.derivedName := by
  rw [derivedName, derivedName, Document.derivedName_eq_iff]
  exact ⟨fun h => ⟨h.method, h.path⟩, fun h => ⟨h.1, h.2⟩⟩

namespace Document

/-- A reference to a shared parameter, if there is one, leads to it. -/
def Resolves (shared : List (String × ParameterDeclaration)) (declaration : ParameterDeclaration) :
    Prop :=
  ∀ reference, declaration.reference = some reference →
    ∃ target, Entries.find? (sharedName reference) shared = some target

/-- A description of either version in which everything can be read and no operation
declares a name. -/
structure IsUnnamed (json : Json) (declared : DocumentDeclaration) : Prop where
  form : DocumentDeclaration.ofJson? json = some declared
  version : ∃ version,
    readVersion (declared.swagger.map versionText) (declared.openApi.map versionText) = .ok version
  /-- Every path has a well-formed item, and the references of its parameters lead somewhere. -/
  paths : ∀ path ∈ writtenPaths json, ¬"x-".toList <+: path.1.toList →
    ∃ item, PathItem.ofJson? path.2 = some item ∧
      ∀ declaration ∈ item.parameters, Resolves declared.parameters declaration
  /-- Every method has a well-formed operation without a name. -/
  operations : ∀ written ∈ writtenMethods json,
    ∃ operation, OperationDeclaration.ofJson? written.operation = some operation ∧
      operation.name = none ∧
      ∀ declaration ∈ operation.parameters, Resolves declared.parameters declaration
  /-- No method is written twice for one path. -/
  places : ((writtenMethods json).map WrittenMethod.place).Nodup

variable {json : Json} {declared : DocumentDeclaration} {version : DescriptionVersion}
  {shared : List (String × ParameterDeclaration)}

/-- Declarations whose references lead somewhere can be merged. -/
theorem exists_mergedDeclarations {declarations : List ParameterDeclaration}
    (h : ∀ declaration ∈ declarations, Resolves shared declaration) :
    ∃ merged, mergedDeclarations shared declarations = .ok merged := by
  have hfollow : ∀ declaration ∈ declarations, ∃ target, follow shared declaration = .ok target := by
    intro declaration hdeclaration
    unfold follow
    cases hreference : declaration.reference with
    | none => exact ⟨declaration, rfl⟩
    | some reference =>
        obtain ⟨target, htarget⟩ := h declaration hdeclaration reference hreference
        exact ⟨target, by simp only [htarget]⟩
  obtain ⟨followed, hfollowed⟩ := Traversal.exists_mapM_eq_ok hfollow
  exact ⟨overrideAll followed, Traversal.bind_eq_ok_iff.2 ⟨followed, hfollowed, rfl⟩⟩

/-- A well-formed operation whose references lead somewhere is read. -/
theorem exists_readOperation {path : String} {common : List ParameterDeclaration}
    {entry : HttpMethod × Json} {operation : OperationDeclaration}
    (hread : OperationDeclaration.ofJson? entry.2 = some operation)
    (hcommon : ∀ declaration ∈ common, Resolves shared declaration)
    (hown : ∀ declaration ∈ operation.parameters, Resolves shared declaration) :
    ∃ result, readOperation version shared path common entry = .ok result := by
  obtain ⟨merged, hmerged⟩ := exists_mergedDeclarations (List.forall_mem_append.2 ⟨hcommon, hown⟩)
  unfold readOperation
  rw [hread]
  exact ⟨_, Traversal.bind_eq_ok_iff.2 ⟨merged, hmerged, rfl⟩⟩

/-- Every path of a description without names is read. -/
theorem exists_readPath (h : IsUnnamed json declared) {path : String × Json}
    (hpath : path ∈ writtenPaths json) (hplain : ¬"x-".toList <+: path.1.toList) :
    ∃ operations, readPath version declared.parameters path = .ok operations := by
  obtain ⟨item, hitem, hcommon⟩ := h.paths path hpath hplain
  unfold readPath
  rw [hitem]
  apply Traversal.exists_mapM_eq_ok
  intro entry hentry
  have hwritten : ⟨path.1, entry.1, entry.2⟩ ∈ writtenMethods json := by
    refine List.mem_flatMap.2 ⟨path, List.mem_filter.2 ⟨hpath, by simpa using hplain⟩, ?_⟩
    rw [pathMethods_eq hitem]
    exact List.mem_map_of_mem (f := fun entry : HttpMethod × Json =>
      (⟨path.1, entry.1, entry.2⟩ : WrittenMethod)) hentry
  obtain ⟨operation, hread, _, hown⟩ := h.operations _ hwritten
  exact exists_readOperation hread hcommon hown

/-- The operations of a description without names have the names that are derived for its
methods. -/
theorem names_of_readAs (h : IsUnnamed json declared) {operations : List Operation}
    (hread : List.Forall₂ WrittenMethod.ReadAs (writtenMethods json) operations) :
    operations.map Operation.name = (writtenMethods json).map WrittenMethod.derivedName := by
  have hnames : ∀ written ∈ writtenMethods json, ∀ operation, written.ReadAs operation →
      operation.name = written.derivedName := by
    intro written hwritten operation hreadAs
    obtain ⟨found, hfound, hnone, _⟩ := h.operations written hwritten
    obtain ⟨other, hother, hname⟩ := hreadAs.name
    obtain rfl := Option.some.inj (hfound.symm.trans hother)
    rw [hname, hnone]
    rfl
  generalize writtenMethods json = methods at hread hnames
  induction hread with
  | nil => rfl
  | cons hfirst _ ih =>
      obtain ⟨hname, hrest⟩ := List.forall_mem_cons.1 hnames
      rw [List.map_cons, List.map_cons, hname _ hfirst, ih hrest]

/-- A description without names is read as its written methods, unless a name that is
derived for them is found again. -/
theorem exists_read_of_isUnnamed (h : IsUnnamed json declared) :
    ∃ document : Document,
      List.Forall₂ WrittenMethod.ReadAs (writtenMethods json) document.operations ∧
        ofJson json =
          match firstRepeated? [] ((writtenMethods json).map WrittenMethod.derivedName) with
          | some name => .error (.repeatedOperation name)
          | none => .ok document := by
  obtain ⟨version, hversion⟩ := h.version
  have hpaths : ∀ path ∈ (writtenPaths json).filter fun path => ¬"x-".toList <+: path.1.toList,
      ∃ operations, readPath version declared.parameters path = .ok operations := by
    intro path hpath
    obtain ⟨hmem, hplain⟩ := List.mem_filter.1 hpath
    exact exists_readPath h hmem (by simpa using hplain)
  obtain ⟨groups, hgroups⟩ := Traversal.exists_mapM_eq_ok hpaths
  have hread := readAs_of_readPaths hgroups
  refine ⟨⟨version, declared.title, readBasePath version declared, declared.schemas,
    groups.flatten⟩, hread, ?_⟩
  rw [← names_of_readAs h hread, ofJson, h.form]
  dsimp only
  rw [ofDeclaration, hversion, filter_paths h.form]
  dsimp only [bind, Except.bind]
  rw [hgroups]
  rfl

/-! ## Names that are found again -/

/-- A name that is found again stands after itself, or was seen before. -/
theorem exists_of_firstRepeated? {seen names : List String} {name : String}
    (h : firstRepeated? seen names = some name) :
    ∃ before after, names = before ++ name :: after ∧ (name ∈ before ∨ name ∈ seen) := by
  induction names generalizing seen with
  | nil => cases h
  | cons first rest ih =>
      unfold firstRepeated? at h
      split at h
      · rename_i hseen
        obtain rfl := Option.some.inj h
        exact ⟨[], rest, rfl, Or.inr (by simpa using hseen)⟩
      · obtain ⟨before, after, rfl, hfound⟩ := ih h
        refine ⟨first :: before, after, rfl, ?_⟩
        rcases hfound with hbefore | hseen
        · exact Or.inl (List.mem_cons_of_mem _ hbefore)
        · rcases List.mem_cons.1 hseen with rfl | hseen
          · exact Or.inl List.mem_cons_self
          · exact Or.inr hseen

/-- A name that is derived for two written methods makes them clash, and they are written at
different places. -/
theorem exists_clash_of_firstRepeated? {methods : List WrittenMethod}
    (hplaces : (methods.map WrittenMethod.place).Nodup) {name : String}
    (h : firstRepeated? [] (methods.map WrittenMethod.derivedName) = some name) :
    ∃ first ∈ methods, ∃ second ∈ methods, first.place ≠ second.place ∧ first.Clash second ∧
      name = first.derivedName := by
  obtain ⟨before, after, hnames, hfound⟩ := exists_of_firstRepeated? h
  have hbefore : name ∈ before := hfound.resolve_right List.not_mem_nil
  obtain ⟨earlier, later, rfl, rfl, hlater⟩ := List.map_eq_append_iff.1 hnames
  obtain ⟨second, rest, rfl, hsecond, _⟩ := List.map_eq_cons_iff.1 hlater
  obtain ⟨first, hfirst, hname⟩ := List.mem_map.1 hbefore
  refine ⟨first, List.mem_append_left _ hfirst, second,
    List.mem_append_right _ List.mem_cons_self, ?_, ?_, hname.symm⟩
  · intro heq
    rw [List.map_append, List.nodup_append] at hplaces
    exact hplaces.2.2 _ (List.mem_map_of_mem hfirst) _
      (List.mem_map_of_mem List.mem_cons_self) heq
  · exact WrittenMethod.clash_iff_derivedName.2 (hname.trans hsecond.symm)

/-- What becomes of a description whose operations declare no names. -/
structure ReadUnlessClash (json : Json) : Prop where
  /-- It is read exactly if no two methods clash that are written at different places. -/
  read_iff : (∃ document, ofJson json = .ok document) ↔
    ∀ first ∈ writtenMethods json, ∀ second ∈ writtenMethods json,
      first.Clash second → first.place = second.place
  /-- There is one operation for each written method, with the name that is derived for it. -/
  operations : ∀ document, ofJson json = .ok document →
    List.Forall₂ WrittenMethod.ReadAs (writtenMethods json) document.operations ∧
      document.operations.map Operation.name =
        (writtenMethods json).map WrittenMethod.derivedName
  names : ∀ document, ofJson json = .ok document →
    (document.operations.map Operation.name).Nodup
  /-- If it is not read, then because of the name of two methods that clash. -/
  refused : (∀ document, ofJson json ≠ .ok document) →
    ∃ first ∈ writtenMethods json, ∃ second ∈ writtenMethods json,
      first.place ≠ second.place ∧ first.Clash second ∧
        ofJson json = .error (.repeatedOperation first.derivedName)

/-- A description in which no operation declares a name is read exactly if no two of its
methods clash, and then as one operation for each of them, all with different names. -/
theorem readUnlessClash_of_isUnnamed (h : IsUnnamed json declared) : ReadUnlessClash json := by
  obtain ⟨document, hread, hresult⟩ := exists_read_of_isUnnamed h
  refine ⟨?_, fun other hother => ?_, fun other hother => nodup_names_of_isParsed ⟨json, hother⟩, ?_⟩
  · constructor
    · rintro ⟨other, hother⟩ first hfirst second hsecond hclash
      have hnames := names_of_readAs h (readAs_of_ofJson hother)
      have hnodup := nodup_names_of_isParsed ⟨json, hother⟩
      rw [hnames] at hnodup
      have heq := List.inj_on_of_nodup_map hnodup hfirst hsecond
        (WrittenMethod.clash_iff_derivedName.1 hclash)
      rw [heq]
    · intro hapart
      cases hfound : firstRepeated? [] ((writtenMethods json).map WrittenMethod.derivedName) with
      | none => exact ⟨document, by rw [hresult, hfound]⟩
      | some name =>
          obtain ⟨first, hfirst, second, hsecond, hne, hclash, _⟩ :=
            exists_clash_of_firstRepeated? h.places hfound
          exact absurd (hapart first hfirst second hsecond hclash) hne
  · have hoperations := readAs_of_ofJson hother
    exact ⟨hoperations, names_of_readAs h hoperations⟩
  · intro hrefused
    cases hfound : firstRepeated? [] ((writtenMethods json).map WrittenMethod.derivedName) with
    | none =>
        rw [hfound] at hresult
        exact absurd hresult (hrefused document)
    | some name =>
        obtain ⟨first, hfirst, second, hsecond, hne, hclash, rfl⟩ :=
          exists_clash_of_firstRepeated? h.places hfound
        rw [hfound] at hresult
        exact ⟨first, hfirst, second, hsecond, hne, hclash, hresult⟩

/-! ## Groups of users -/

/-- The parameter that descriptions of users share. -/
def userParameter : Json :=
  .obj [("name", .str "id"), ("in", .str "path"), ("type", .str "string")]

/-- The paths of users and their groups, with a method for each. -/
def groupPaths (method : HttpMethod) : List (String × Json) :=
  [("/users/\x7bid\x7d", .obj
      [("parameters", .arr [.obj [("$ref", .str "#/parameters/id")]]), ("get", .obj [])]),
    ("/user-groups", .obj [("get", .obj [])]),
    ("/user/groups", .obj [(method.key, .obj [])])]

/-- A description of users and their groups without any name of an operation. -/
def groupDescription (method : HttpMethod) : Json :=
  .obj
    [("swagger", .str "2.0"), ("parameters", .obj [("id", userParameter)]),
      ("paths", .obj (groupPaths method))]

/-- The description of users and their groups as it is declared. -/
def groupDeclaration (method : HttpMethod) : DocumentDeclaration where
  swagger := some (.str "2.0")
  openApi := none
  title := none
  basePath := none
  servers := []
  paths := groupPaths method
  schemas := []
  parameters := [("id", ⟨none, some "id", some "path", false, none, some "string", none, none, none,
    none, none⟩)]

/-- The methods of users and their groups. -/
theorem writtenMethods_groups (method : HttpMethod) :
    writtenMethods (groupDescription method) =
      [⟨"/users/\x7bid\x7d", .get, .obj []⟩, ⟨"/user-groups", .get, .obj []⟩,
        ⟨"/user/groups", method, .obj []⟩] := by
  cases method <;> rfl

/-- Whatever the method of the last path is, the description only lacks names. -/
theorem isUnnamed_groups (method : HttpMethod) :
    IsUnnamed (groupDescription method) (groupDeclaration method) where
  form := rfl
  version := ⟨.swagger2, rfl⟩
  paths := by
    have hshared : ∀ declaration ∈ [(⟨some "#/parameters/id", none, none, false, none, none, none,
        none, none, none, none⟩ : ParameterDeclaration)],
        Resolves (groupDeclaration method).parameters declaration := by
      refine List.forall_mem_singleton.2 fun reference hreference => ?_
      obtain rfl := Option.some.inj hreference
      exact ⟨_, rfl⟩
    have hlast : PathItem.ofJson? (.obj [(method.key, .obj [])]) =
        some ⟨[], [(method, .obj [])]⟩ := by cases method <;> rfl
    show ∀ path ∈ groupPaths method, _
    refine List.forall_mem_cons.2 ⟨fun _ => ⟨_, rfl, hshared⟩, ?_⟩
    refine List.forall_mem_cons.2 ⟨fun _ => ⟨_, rfl, List.forall_mem_nil _⟩, ?_⟩
    exact List.forall_mem_singleton.2 fun _ => ⟨_, hlast, List.forall_mem_nil _⟩
  operations := by
    rw [writtenMethods_groups]
    intro written hwritten
    have hempty : written.operation = .obj [] := by
      simp only [List.mem_cons, List.not_mem_nil, or_false] at hwritten
      rcases hwritten with rfl | rfl | rfl <;> rfl
    rw [hempty]
    exact ⟨_, rfl, rfl, List.forall_mem_nil _⟩
  places := by
    rw [writtenMethods_groups]
    cases method <;> decide

/-- The names that are derived for users and their groups. -/
theorem derivedNames_groups (method : HttpMethod) :
    (writtenMethods (groupDescription method)).map WrittenMethod.derivedName =
      ["get_users_id", "get_user_groups", method.key ++ "_user_groups"] := by
  rw [writtenMethods_groups]
  cases method <;> decide +kernel

/-- Groups are read where the methods of the two paths are different. -/
theorem readUnlessClash_groups :
    IsUnnamed (groupDescription .post) (groupDeclaration .post) ∧
      ReadUnlessClash (groupDescription .post) ∧
      ∃ document, ofJson (groupDescription .post) = .ok document ∧
        document.operations.map Operation.name =
          ["get_users_id", "get_user_groups", "post_user_groups"] := by
  have hunnamed := isUnnamed_groups .post
  have hread := readUnlessClash_of_isUnnamed hunnamed
  have hnames : ((writtenMethods (groupDescription .post)).map WrittenMethod.derivedName).Nodup := by
    rw [derivedNames_groups]
    decide
  have hapart : ∀ first ∈ writtenMethods (groupDescription .post),
      ∀ second ∈ writtenMethods (groupDescription .post),
        first.Clash second → first.place = second.place := by
    intro first hfirst second hsecond hclash
    have heq := List.inj_on_of_nodup_map hnames hfirst hsecond
      (WrittenMethod.clash_iff_derivedName.1 hclash)
    rw [heq]
  obtain ⟨document, hdocument⟩ := hread.read_iff.2 hapart
  refine ⟨hunnamed, hread, document, hdocument, ?_⟩
  rw [(hread.operations document hdocument).2, derivedNames_groups]
  rfl

/-- Where they are the same, the two paths get one name and the description is refused. -/
theorem groupPaths_refused :
    IsUnnamed (groupDescription .get) (groupDeclaration .get) ∧
      ofJson (groupDescription .get) = .error (.repeatedOperation "get_user_groups") := by
  obtain ⟨document, _, hresult⟩ := exists_read_of_isUnnamed (isUnnamed_groups .get)
  rw [derivedNames_groups] at hresult
  exact ⟨isUnnamed_groups .get, hresult⟩

end Document

end ApiBinding
