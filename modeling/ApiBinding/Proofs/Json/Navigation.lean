import ApiBinding.Proofs.Entries.Order
import ApiBinding.Proofs.Text.Paths
import ApiBinding.Resolution

/-!
# Paths through documents

A path leads from a document to one of its values by the names between its slashes.  Where no
object has two names that only differ in their case, every name leads to one member at most,
and it does not matter that a name is first looked up as it is written.  Then paths that are
written alike lead to the same value, and only those do so in every document.

Main results:

- Theorem `memberAnyCase?_eq_some_iff`: what is found for one name.
- Theorem `navigate?_eq_some_iff`: what is found at the end of a path.
- Theorem `writtenAlike_iff_navigate?_eq`: paths are written alike just if they lead to the
  same value in every document.
- Theorem `followsPaths`: how paths are followed in a document.
- Theorem `toOption_describedType_of_writtenAlike`: shapes described by way of paths that are
  written alike have the same type.
-/

namespace ApiBinding

namespace Json

open Text (equalAnyCase equalAnyCase_iff lowerCase WrittenAlike)

/-- No object has two names that only differ in their case. -/
inductive NamesApart : Json → Prop where
  | null : NamesApart .null
  | bool (b : Bool) : NamesApart (.bool b)
  | num (n : JsonNumber) : NamesApart (.num n)
  | str (s : String) : NamesApart (.str s)
  | arr {items : List Json} (h : ∀ item ∈ items, NamesApart item) : NamesApart (.arr items)
  | obj {members : List (String × Json)}
    (hnames : (members.map fun member => lowerCase member.1).Nodup)
    (h : ∀ member ∈ members, NamesApart member.2) : NamesApart (.obj members)

/-- The names of a path: what stands between its slashes, where it is not empty. -/
def pathNames (path : String) : List String :=
  (Text.slashParts path.toList).map String.ofList

/-- Names lead to a value, one after the other, each to a member with that name in any case. -/
inductive LeadsTo : Json → List String → Json → Prop where
  | here (json : Json) : LeadsTo json [] json
  | member {members : List (String × Json)} {member : String × Json} {name : String}
      {names : List String} {target : Json} (hmember : member ∈ members)
      (hname : equalAnyCase member.1 name = true) (h : LeadsTo member.2 names target) :
      LeadsTo (.obj members) (name :: names) target

variable {json value target : Json} {members : List (String × Json)} {name : String}
  {names others : List String} {first second : String}

/-- An object with a single member has its names apart if its value has. -/
theorem NamesApart.single (name : String) (h : value.NamesApart) :
    (Json.obj [(name, value)]).NamesApart :=
  .obj (List.nodup_singleton _) (List.forall_mem_singleton.2 h)

/-! ## Members -/

/-- What is found for a name is a member with that name in any case. -/
theorem exists_of_memberAnyCase? (h : (obj members).memberAnyCase? name = some value) :
    ∃ member ∈ members, equalAnyCase member.1 name = true ∧ member.2 = value := by
  rcases Option.or_eq_some_iff.1 h with hfind | ⟨-, hfind⟩
  · exact ⟨(name, value), Entries.mem_of_find? hfind, equalAnyCase_iff.2 rfl, rfl⟩
  · obtain ⟨member, hfound, rfl⟩ := Option.map_eq_some_iff.1 hfind
    have hname := List.find?_some hfound
    exact ⟨member, List.mem_of_find?_eq_some hfound, hname, rfl⟩

/-- A name that a member has in some case is found. -/
theorem isSome_memberAnyCase? {member : String × Json} (hmember : member ∈ members)
    (hname : equalAnyCase member.1 name = true) :
    ((obj members).memberAnyCase? name).isSome = true := by
  have hfind : (members.find? fun member => equalAnyCase member.1 name).isSome = true :=
    List.find?_isSome.2 ⟨member, hmember, hname⟩
  rw [memberAnyCase?, members?, Option.bind_some, Option.isSome_or, Option.isSome_map, hfind,
    Bool.or_true]

/-- Where names differ in more than their case, a name finds the one member that has it in
some case. -/
theorem memberAnyCase?_eq_some_iff
    (hnames : (members.map fun member => lowerCase member.1).Nodup) :
    (obj members).memberAnyCase? name = some value ↔
      ∃ member ∈ members, equalAnyCase member.1 name = true ∧ member.2 = value := by
  refine ⟨exists_of_memberAnyCase?, ?_⟩
  rintro ⟨member, hmember, hname, rfl⟩
  obtain ⟨found, hfound⟩ := Option.isSome_iff_exists.1 (isSome_memberAnyCase? hmember hname)
  obtain ⟨other, hother, hsame, rfl⟩ := exists_of_memberAnyCase? hfound
  have hcase : lowerCase other.1 = lowerCase member.1 :=
    (equalAnyCase_iff.1 hsame).trans (equalAnyCase_iff.1 hname).symm
  obtain rfl := List.inj_on_of_nodup_map hnames hother hmember hcase
  exact hfound

/-! ## Paths -/

/-- A path is followed name by name. -/
theorem navigate?_eq (json : Json) (path : String) :
    json.navigate? path = (pathNames path).foldlM memberAnyCase? json := by
  rw [navigate?, pathNames, List.foldlM_map]

/-- Names are followed to the value that they lead to; the induction is on the names, and
every member that is entered has its names apart, too. -/
theorem foldlM_memberAnyCase?_eq_some_iff (h : json.NamesApart) :
    names.foldlM memberAnyCase? json = some target ↔ json.LeadsTo names target := by
  induction names generalizing json with
  | nil =>
      rw [List.foldlM_nil, Option.pure_def, Option.some.injEq]
      constructor
      · rintro rfl
        exact .here json
      · rintro ⟨⟩
        rfl
  | cons name names ih =>
      rw [List.foldlM_cons, Option.bind_eq_bind, Option.bind_eq_some_iff]
      cases h with
      | obj hnames hmembers =>
          simp only [memberAnyCase?_eq_some_iff hnames]
          constructor
          · rintro ⟨_, ⟨member, hmember, hname, rfl⟩, hrest⟩
            exact .member hmember hname ((ih (hmembers member hmember)).1 hrest)
          · rintro (_ | ⟨hmember, hname, hrest⟩)
            exact ⟨_, ⟨_, hmember, hname, rfl⟩, (ih (hmembers _ hmember)).2 hrest⟩
      | _ =>
          -- only an object has members
          constructor
          · rintro ⟨_, ⟨⟩, _⟩
          · rintro ⟨⟩

/-- At the end of a path stands the value that its names lead to. -/
theorem navigate?_eq_some_iff (h : json.NamesApart) {path : String} :
    json.navigate? path = some target ↔ json.LeadsTo (pathNames path) target := by
  rw [navigate?_eq, foldlM_memberAnyCase?_eq_some_iff h]

/-- A path that goes on behind a slash is followed on from where the first part of it ends. -/
theorem navigate?_append (json : Json) (first second : String) :
    json.navigate? (first ++ "/" ++ second) =
      (json.navigate? first).bind fun node => node.navigate? second := by
  have hnames : pathNames (first ++ "/" ++ second) = pathNames first ++ pathNames second := by
    have htext : (first ++ "/" ++ second).toList = first.toList ++ '/' :: second.toList := by
      simp
    rw [pathNames, htext, Text.slashParts_append, List.map_append]
    rfl
  rw [navigate?_eq, hnames, List.foldlM_append, Option.bind_eq_bind, ← navigate?_eq]
  simp only [navigate?_eq]

/-! ## Paths that lead to the same values -/

/-- Names lead wherever other ones lead that only differ in their case. -/
theorem LeadsTo.of_names (h : json.LeadsTo names target)
    (hnames : names.map lowerCase = others.map lowerCase) : json.LeadsTo others target := by
  induction h generalizing others with
  | here json =>
      obtain rfl := List.map_eq_nil_iff.1 hnames.symm
      exact .here json
  | member hmember hname _ ih =>
      obtain ⟨other, rest, rfl, hother, hrest⟩ := List.map_eq_cons_iff.1 hnames.symm
      refine .member hmember ?_ (ih hrest.symm)
      rw [equalAnyCase_iff, equalAnyCase_iff.1 hname, hother]

/-- Paths are written alike just if their names only differ in their case. -/
theorem writtenAlike_iff_pathNames :
    WrittenAlike first.toList second.toList ↔
      (pathNames first).map lowerCase = (pathNames second).map lowerCase := by
  have hlower : ∀ path, (pathNames path).map lowerCase =
      ((Text.slashParts path.toList).map Text.lowered).map String.ofList := by
    intro path
    simp [pathNames, lowerCase, Function.comp_def]
  have hinjective : Function.Injective String.ofList := fun _ _ => String.ofList_inj.1
  rw [Text.writtenAlike_iff, hlower, hlower, (List.map_injective_iff.2 hinjective).eq_iff]

/-- Paths that are written alike lead to the same value. -/
theorem navigate?_eq_of_writtenAlike (h : json.NamesApart)
    (hpaths : WrittenAlike first.toList second.toList) :
    json.navigate? first = json.navigate? second := by
  have hnames := writtenAlike_iff_pathNames.1 hpaths
  refine Option.ext fun target => ?_
  rw [navigate?_eq_some_iff h, navigate?_eq_some_iff h]
  exact ⟨fun hleads => hleads.of_names hnames, fun hleads => hleads.of_names hnames.symm⟩

/-- The document with a single value, null, behind the given names. -/
def nested (names : List String) : Json :=
  names.foldr (fun name inner => obj [(name, inner)]) null

/-- A nested document has its names apart. -/
theorem namesApart_nested (names : List String) : (nested names).NamesApart := by
  induction names with
  | nil => exact .null
  | cons name names ih => exact ih.single name

/-- The names of a nested document lead to its value. -/
theorem leadsTo_nested (names : List String) : (nested names).LeadsTo names null := by
  induction names with
  | nil => exact .here null
  | cons name names ih => exact .member List.mem_cons_self (equalAnyCase_iff.2 rfl) ih

/-- No other names lead there. -/
theorem map_lowerCase_eq_of_leadsTo_nested (h : (nested names).LeadsTo others null) :
    names.map lowerCase = others.map lowerCase := by
  induction names generalizing others with
  | nil =>
      cases h
      rfl
  | cons name names ih =>
      rw [nested, List.foldr_cons] at h
      cases h with
      | member hmember hname hrest =>
          obtain rfl := List.mem_singleton.1 hmember
          rw [List.map_cons, List.map_cons, equalAnyCase_iff.1 hname, ih hrest]

/-- Paths are written alike just if they lead to the same value in every document. -/
theorem writtenAlike_iff_navigate?_eq :
    WrittenAlike first.toList second.toList ↔
      ∀ json : Json, json.NamesApart → json.navigate? first = json.navigate? second := by
  refine ⟨fun hpaths json h => navigate?_eq_of_writtenAlike h hpaths, fun hsame => ?_⟩
  -- the document that has nothing but the value at the end of the first path
  have hapart := namesApart_nested (pathNames first)
  have hfirst := (navigate?_eq_some_iff hapart).2 (leadsTo_nested (pathNames first))
  rw [hsame _ hapart, navigate?_eq_some_iff hapart] at hfirst
  exact writtenAlike_iff_pathNames.2 (map_lowerCase_eq_of_leadsTo_nested hfirst)

/-! ## Following paths -/

/-- How paths are followed in a document. -/
structure FollowsPaths (json : Json) : Prop where
  /-- A value is found just if the names of the path lead to it. -/
  found_iff (path : String) (target : Json) :
    json.navigate? path = some target ↔ json.LeadsTo (pathNames path) target
  /-- Paths that are written alike lead to the same value. -/
  alike (first second : String) (h : WrittenAlike first.toList second.toList) :
    json.navigate? first = json.navigate? second
  /-- Two paths that a slash joins are followed one after the other. -/
  joined (first second : String) :
    json.navigate? (first ++ "/" ++ second) =
      (json.navigate? first).bind fun node => node.navigate? second

/-- Where no object has two names that only differ in their case, paths are followed by their
names in any case. -/
theorem followsPaths (h : json.NamesApart) : FollowsPaths json where
  found_iff _ _ := navigate?_eq_some_iff h
  alike _ _ := navigate?_eq_of_writtenAlike h
  joined := navigate?_append json

/-- A reply that holds a schema. -/
def shelfReply : Json :=
  .obj [("count", .null), ("Schema", .obj [("Items", .obj [("type", .str "object")])])]

/-- A schema is found in the reply under a path in other letters and with other slashes. -/
theorem followsPaths_shelfReply :
    shelfReply.NamesApart ∧ FollowsPaths shelfReply ∧
      WrittenAlike "/schema//ITEMS/".toList "Schema/Items".toList ∧
      shelfReply.navigate? "/schema//ITEMS/" = some (.obj [("type", .str "object")]) ∧
      shelfReply.navigate? "schema/missing" = none := by
  have hschema : (obj [("Items", .obj [("type", .str "object")])]).NamesApart :=
    ((NamesApart.str "object").single "type").single "Items"
  have hreply : shelfReply.NamesApart :=
    .obj (by decide) (List.forall_mem_cons.2 ⟨.null, List.forall_mem_singleton.2 hschema⟩)
  exact ⟨hreply, followsPaths hreply, Text.writtenAlike_iff.2 (by decide), rfl, rfl⟩

end Json

/-! ## Described shapes -/

namespace Exchange

/-- Shapes that are described by way of paths written alike have the same type, if any. -/
theorem toOption_describedType_of_writtenAlike {function target : ConnectorFunction}
    {shape : DynamicShape} {body : Json} {first second : String} (hbody : body.NamesApart)
    (hpaths : Text.WrittenAlike first.toList second.toList) :
    (describedType function target { shape with valuePath := some first } body).toOption =
      (describedType function target { shape with valuePath := some second } body).toOption := by
  have hsame := Json.navigate?_eq_of_writtenAlike hbody hpaths
  unfold describedType
  dsimp only
  rw [hsame]
  cases body.navigate? second <;> rfl

end Exchange

end ApiBinding
