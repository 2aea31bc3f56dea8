import Mathlib.Data.List.Forall2

/-!
# Traversals that may fail

A list is traversed by a function that may fail, and the traversal answers exactly
when the function answers on every element.  The answers are described element by
element, so that a property of one answer becomes a property of all of them.

Main results:

- Theorems `mapM_eq_ok_iff` and `mapM_eq_some_iff`: a traversal answers with the
  answers on the elements, in their order.
- Theorems `exists_mapM_eq_ok` and `exists_mapM_eq_error`: a traversal that may go on
  everywhere answers, and one that may not fails where the function does.
- Theorems `exists_of_mapM_eq_error` and `exists_of_forM_eq_error`: a fault is that of some
  element.
- Theorem `forM_eq_ok_iff`: a check of all elements passes if every check passes.
- Theorems `exists_of_mem_right` and `exists_getElem?_right`: every answer is that on some
  element, and every element has its answer at its own place.
-/

namespace ApiBinding.Traversal

variable {α β ε : Type}

/-- A bind of checks passes exactly when both checks pass. -/
theorem bind_eq_ok_iff {first : Except ε α} {next : α → Except ε β} {result : β} :
    (first >>= next) = .ok result ↔ ∃ value, first = .ok value ∧ next value = .ok result := by
  cases first with
  | error fault => simp [bind, Except.bind]
  | ok value => simp [bind, Except.bind]

/-- A traversal succeeds with exactly the answers on the elements. -/
theorem mapM_eq_ok_iff {f : α → Except ε β} {xs : List α} {ys : List β} :
    xs.mapM f = .ok ys ↔ List.Forall₂ (fun x y => f x = .ok y) xs ys := by
  induction xs generalizing ys with
  | nil =>
      rw [List.mapM_nil, List.forall₂_nil_left_iff]
      exact ⟨fun h => (Except.ok.inj h).symm, fun h => by rw [h]; rfl⟩
  | cons x xs ih =>
      rw [List.mapM_cons, bind_eq_ok_iff, List.forall₂_cons_left_iff]
      constructor
      · rintro ⟨y, hy, hrest⟩
        obtain ⟨rest, hrest, hys⟩ := bind_eq_ok_iff.1 hrest
        exact ⟨y, rest, hy, ih.1 hrest, (Except.ok.inj hys).symm⟩
      · rintro ⟨y, rest, hy, hrest, rfl⟩
        exact ⟨y, hy, bind_eq_ok_iff.2 ⟨rest, ih.2 hrest, rfl⟩⟩

/-- If every element has an answer, then a list of answers can be chosen. -/
theorem exists_forall₂ {R : α → β → Prop} {xs : List α} (h : ∀ x ∈ xs, ∃ y, R x y) :
    ∃ ys, List.Forall₂ R xs ys := by
  induction xs with
  | nil => exact ⟨[], .nil⟩
  | cons x xs ih =>
      obtain ⟨hfirst, hrest⟩ := List.forall_mem_cons.1 h
      obtain ⟨y, hy⟩ := hfirst
      obtain ⟨ys, hys⟩ := ih hrest
      exact ⟨y :: ys, .cons hy hys⟩

/-- A traversal succeeds if the function does on every element. -/
theorem exists_mapM_eq_ok {f : α → Except ε β} {xs : List α} (h : ∀ x ∈ xs, ∃ y, f x = .ok y) :
    ∃ ys, xs.mapM f = .ok ys := by
  obtain ⟨ys, hys⟩ := exists_forall₂ h
  exact ⟨ys, mapM_eq_ok_iff.2 hys⟩

/-- A traversal fails as the function does on some element, if it does on any. -/
theorem exists_mapM_eq_error {f : α → Except ε β} {xs : List α}
    (h : ∃ x ∈ xs, ∃ fault, f x = .error fault) :
    ∃ x ∈ xs, ∃ fault, f x = .error fault ∧ xs.mapM f = .error fault := by
  induction xs with
  | nil =>
      obtain ⟨x, hx, _⟩ := h
      cases hx
  | cons x xs ih =>
      rw [List.mapM_cons]
      cases hfirst : f x with
      | error fault => exact ⟨x, List.mem_cons_self, fault, hfirst, rfl⟩
      | ok y =>
          have hrest : ∃ other ∈ xs, ∃ fault, f other = .error fault := by
            obtain ⟨other, hother, fault, hfault⟩ := h
            rcases List.mem_cons.1 hother with rfl | hother
            · rw [hfirst] at hfault
              cases hfault
            · exact ⟨other, hother, fault, hfault⟩
          obtain ⟨other, hother, fault, hfault, hmap⟩ := ih hrest
          exact ⟨other, List.mem_cons_of_mem _ hother, fault, hfault, by rw [hmap]; rfl⟩

/-- A traversal that fails does so as the function on some element. -/
theorem exists_of_mapM_eq_error {f : α → Except ε β} {xs : List α} {fault : ε}
    (h : xs.mapM f = .error fault) : ∃ x ∈ xs, f x = .error fault := by
  induction xs with
  | nil => cases h
  | cons x xs ih =>
      rw [List.mapM_cons] at h
      cases hfirst : f x with
      | error other =>
          rw [hfirst] at h
          obtain rfl := Except.error.inj h
          exact ⟨x, List.mem_cons_self, hfirst⟩
      | ok y =>
          have hrest : xs.mapM f = .error fault := by
            rw [hfirst] at h
            cases hvalues : xs.mapM f with
            | error other =>
                rw [hvalues] at h
                exact congrArg Except.error (Except.error.inj h)
            | ok ys =>
                rw [hvalues] at h
                cases h
          obtain ⟨other, hother, hfault⟩ := ih hrest
          exact ⟨other, List.mem_cons_of_mem _ hother, hfault⟩

/-- A reading of a list answers with exactly the readings of the elements. -/
theorem mapM_eq_some_iff {f : α → Option β} {xs : List α} {ys : List β} :
    xs.mapM f = some ys ↔ List.Forall₂ (fun x y => f x = some y) xs ys := by
  induction xs generalizing ys with
  | nil =>
      rw [List.mapM_nil, List.forall₂_nil_left_iff]
      exact ⟨fun h => (Option.some.inj h).symm, fun h => by rw [h]; rfl⟩
  | cons x xs ih =>
      rw [List.mapM_cons, List.forall₂_cons_left_iff]
      simp only [Option.bind_eq_bind, Option.bind_eq_some_iff, ih]
      constructor
      · rintro ⟨y, hy, rest, hrest, hys⟩
        exact ⟨y, rest, hy, hrest, (Option.some.inj hys).symm⟩
      · rintro ⟨y, rest, hy, hrest, rfl⟩
        exact ⟨y, hy, rest, hrest, rfl⟩

/-- Checking all elements passes exactly when every single check passes. -/
theorem forM_eq_ok_iff {f : α → Except ε Unit} {xs : List α} :
    xs.forM f = .ok () ↔ ∀ x ∈ xs, f x = .ok () := by
  induction xs with
  | nil => simp [pure, Except.pure]
  | cons x xs ih =>
      rw [List.forM_eq_forM, List.forM_cons, bind_eq_ok_iff, List.forall_mem_cons, ← ih,
        List.forM_eq_forM]
      constructor
      · rintro ⟨_, hx, hxs⟩
        exact ⟨hx, hxs⟩
      · rintro ⟨hx, hxs⟩
        exact ⟨(), hx, hxs⟩

/-- Checks that do not all pass fail as one of them does. -/
theorem exists_of_forM_eq_error {f : α → Except ε Unit} {xs : List α} {fault : ε}
    (h : xs.forM f = .error fault) : ∃ x ∈ xs, f x = .error fault := by
  induction xs with
  | nil => cases h
  | cons x xs ih =>
      rw [List.forM_eq_forM, List.forM_cons] at h
      cases hfirst : f x with
      | error other =>
          rw [hfirst] at h
          obtain rfl := Except.error.inj h
          exact ⟨x, List.mem_cons_self, hfirst⟩
      | ok _ =>
          rw [hfirst] at h
          obtain ⟨y, hy, hfault⟩ := ih h
          exact ⟨y, List.mem_cons_of_mem _ hy, hfault⟩

/-- Every answer of a successful relation stems from an element. -/
theorem exists_of_mem_right {R : α → β → Prop} {xs : List α} {ys : List β}
    (h : List.Forall₂ R xs ys) {y : β} (hy : y ∈ ys) : ∃ x ∈ xs, R x y := by
  induction h with
  | nil => simp at hy
  | cons hxy _ ih =>
      rcases List.mem_cons.1 hy with rfl | hy
      · exact ⟨_, List.mem_cons_self, hxy⟩
      · obtain ⟨x, hx, hR⟩ := ih hy
        exact ⟨x, List.mem_cons_of_mem _ hx, hR⟩

/-- An element has its answer at its own place. -/
theorem exists_getElem?_right {R : α → β → Prop} {xs : List α} {ys : List β}
    (h : List.Forall₂ R xs ys) {index : Nat} {x : α} (hx : xs[index]? = some x) :
    ∃ y, ys[index]? = some y ∧ R x y := by
  obtain ⟨hindex, rfl⟩ := List.getElem?_eq_some_iff.1 hx
  have hbound : index < ys.length := h.length_eq ▸ hindex
  exact ⟨ys[index], List.getElem?_eq_getElem hbound, h.get hindex hbound⟩

end ApiBinding.Traversal
