import ApiBinding.Proofs.Entries.Order
import ApiBinding.Proofs.Schema.Typing
import Mathlib.Data.List.Perm.Subperm

/-!
# Open references

A reference is followed only while it is not open, and the number of references that may
still be opened is bounded.  The bound never matters: only references that lead to a
schema are opened, each at most once, and a description has two of them for each of its
schemas.

Main results:

- Theorem `mem_references_of_resolve`: a reference that leads to a schema is one of the
  two spellings of its name.
- Theorem `Room.innerType_of_not_mem`: a reference that is not open and leads to a schema
  has the type of that schema, however many references are open.
- Theorem `exists_toType_eq_convert_target`: a schema has the type of the schema that it
  stands for.
-/

namespace ApiBinding

namespace Document

variable {document : Document} {reference : String}

/-- The references that lead to schemas of a description, two for each of them. -/
def references (document : Document) : List String :=
  (Entries.names document.schemas).map ("#/definitions/" ++ ·) ++
    (Entries.names document.schemas).map ("#/components/schemas/" ++ ·)

/-- A description has two references for each schema. -/
theorem length_references (document : Document) :
    document.references.length = 2 * document.schemas.length := by
  simp [references, Entries.names, Nat.two_mul]

/-- A text with a beginning is the beginning and what is left without it. -/
theorem eq_append_of_stripStart? {start text : String} {rest : List Char}
    (h : stripStart? start.toList text.toList = some rest) :
    text = start ++ String.ofList rest := by
  apply String.toList_injective
  rw [String.toList_append, String.toList_ofList]
  unfold stripStart? at h
  split at h
  next hstart =>
    obtain ⟨tail, htail⟩ := List.isPrefixOf_iff_prefix.1 hstart
    rw [← htail, List.drop_left] at h
    rw [← htail, Option.some.inj h]
  next => cases h

/-- A reference to a schema is its name after one of the two beginnings. -/
theorem eq_append_of_schemaName? {name : String} (h : schemaName? reference = some name) :
    reference = "#/definitions/" ++ name ∨ reference = "#/components/schemas/" ++ name := by
  obtain ⟨rest, hrest, rfl⟩ := Option.map_eq_some_iff.1 h
  rcases Option.or_eq_some_iff.1 hrest with hdefinition | ⟨_, hcomponent⟩
  · exact Or.inl (eq_append_of_stripStart? hdefinition)
  · exact Or.inr (eq_append_of_stripStart? hcomponent)

/-- A reference that leads to a schema is one of those of the description. -/
theorem mem_references_of_resolve {target : Schema}
    (h : document.resolve? reference = some target) : reference ∈ document.references := by
  obtain ⟨name, hname, hfind⟩ := Option.bind_eq_some_iff.1 h
  have hmem : name ∈ Entries.names document.schemas :=
    List.mem_map_of_mem (Entries.mem_of_find? hfind)
  rw [references, List.mem_append, List.mem_map, List.mem_map]
  rcases eq_append_of_schemaName? hname with rfl | rfl
  · exact Or.inl ⟨name, hmem, rfl⟩
  · exact Or.inr ⟨name, hmem, rfl⟩

end Document

namespace Schema

/-- The schema that a reference leads to; none without a description. -/
def lookup? (document : Option Document) (reference : String) : Option Schema :=
  document.bind fun document => document.resolve? reference

variable {document : Option Document} {policy : NumberPolicy} {fuel : Nat}
  {opened : List String} {reference : String} {schema target : Schema}

/-- A schema that is no reference stands for itself. -/
theorem target?_of_reference_eq_none (hreference : schema.reference = none) :
    schema.target? document = some schema := by
  rw [target?, hreference]

/-- A reference stands for the schema that it leads to. -/
theorem target?_of_reference (hreference : schema.reference = some reference) :
    schema.target? document = lookup? document reference := by
  rw [target?, hreference, lookup?]

/-- An open reference is untyped. -/
theorem innerType_of_mem (hopen : reference ∈ opened) :
    innerType document policy fuel opened reference = .untyped := by
  rcases innerType_cases document policy fuel opened reference with
    huntyped | ⟨_, _, _, _, hclosed⟩
  · exact huntyped
  · exact absurd hopen hclosed

/-- A reference that leads to no schema is untyped. -/
theorem innerType_of_lookup?_eq_none (hresolve : lookup? document reference = none) :
    innerType document policy fuel opened reference = .untyped := by
  rcases innerType_cases document policy fuel opened reference with
    huntyped | ⟨_, _, htarget, _, _⟩
  · exact huntyped
  · exact absurd (hresolve.symm.trans htarget) (by simp)

/-- What holds of the open references wherever a schema is typed: each was opened once
and leads to a schema, and opening it took one from the fuel that there was at first. -/
structure Room (document : Option Document) (fuel : Nat) (opened : List String) : Prop where
  nodup : opened.Nodup
  resolves : ∀ reference ∈ opened, (lookup? document reference).isSome = true
  enough : outerFuel document ≤ fuel + opened.length

/-- At first no reference is open. -/
theorem room_outerFuel (document : Option Document) : Room document (outerFuel document) [] where
  nodup := List.nodup_nil
  resolves := by simp
  enough := by simp

namespace Room

/-- There are no more open references than references that lead to schemas. -/
theorem length_le {document : Document} (h : Room (some document) fuel opened) :
    opened.length ≤ 2 * document.schemas.length := by
  have hsubset : opened ⊆ document.references := by
    intro reference hreference
    obtain ⟨target, htarget⟩ := Option.isSome_iff_exists.1 (h.resolves reference hreference)
    exact Document.mem_references_of_resolve htarget
  calc
    opened.length ≤ document.references.length :=
      (List.subperm_of_subset h.nodup hsubset).length_le
    _ = 2 * document.schemas.length := document.length_references

/-- Opening a reference that leads to a schema is always possible. -/
theorem exists_opened (h : Room document fuel opened)
    (hresolve : lookup? document reference = some target) (hopen : reference ∉ opened) :
    ∃ rest, fuel = rest + 1 ∧ Room document rest (reference :: opened) := by
  cases document with
  | none => cases hresolve
  | some document =>
      have hlength := h.length_le
      have henough : 2 * document.schemas.length + 1 ≤ fuel + opened.length := h.enough
      obtain ⟨rest, rfl⟩ : ∃ rest, fuel = rest + 1 := ⟨fuel - 1, by omega⟩
      refine ⟨rest, rfl, List.nodup_cons.2 ⟨hopen, h.nodup⟩, ?_, ?_⟩
      · rw [List.forall_mem_cons]
        exact ⟨Option.isSome_of_eq_some hresolve, h.resolves⟩
      · refine Nat.le_trans h.enough ?_
        rw [List.length_cons]
        omega

/-- A reference that is not open and leads to a schema has the type of that schema. -/
theorem innerType_of_not_mem (policy : NumberPolicy) (h : Room document fuel opened)
    (hresolve : lookup? document reference = some target) (hopen : reference ∉ opened) :
    ∃ rest < fuel, Room document rest (reference :: opened) ∧
      innerType document policy fuel opened reference =
        convert policy (innerType document policy rest (reference :: opened)) target := by
  obtain ⟨rest, rfl, hroom⟩ := h.exists_opened hresolve hopen
  exact ⟨rest, Nat.lt_succ_self rest, hroom, innerType_of_resolve hresolve hopen⟩

end Room

/-- The type of a schema is that of the schema it stands for, as references are typed
there. -/
theorem exists_toType_eq_convert_target (document : Option Document) (policy : NumberPolicy)
    (schema : Schema) :
    ∃ follow, schema.toType document policy =
      convert policy follow ((schema.target? document).getD schema) := by
  rw [toType_eq_convert]
  cases hreference : schema.reference with
  | none =>
      rw [target?_of_reference_eq_none hreference]
      exact ⟨_, rfl⟩
  | some reference =>
      rw [target?_of_reference hreference]
      cases hlookup : lookup? document reference with
      | none => exact ⟨_, rfl⟩
      | some target =>
          obtain ⟨rest, _, _, htype⟩ := (room_outerFuel document).innerType_of_not_mem
            policy hlookup List.not_mem_nil
          exact ⟨_, by rw [convert_of_reference hreference, htype, Option.getD_some]⟩

end Schema

end ApiBinding
