import ApiBinding.Proofs.Function.PathIntegrity
import ApiBinding.Proofs.Text.Form

/-!
# Fidelity of queries

A request has a query if some query input of the call has a value.  The query begins at the
first question mark, since neither the base path nor the template nor a value leaves one in
the path, and it reads as the names and texts of these inputs, in the order of the slots.
No character of a name or of a text is taken for one of the signs between them.

Main results:

- Theorem `textsAt_query`: the pairs that are sent belong to the query slots with a value.
- Theorem `pathText_eq` and `queryText_eq`: what stands before and behind the first question
  mark.
- Theorem `carriesQuery_of_buildRequest`: the query of every request that is accepted.
-/

namespace ApiBinding

namespace Request

/-- What stands before the first question mark of a request. -/
def pathText (request : Request) : List Char :=
  request.pathAndQuery.toList.takeWhile fun c => c ≠ '?'

/-- What stands behind the first question mark of a request. -/
def queryText (request : Request) : List Char :=
  (request.pathAndQuery.toList.dropWhile fun c => c ≠ '?').drop 1

/-- The pairs that the query of a request reads as. -/
def queryPairs (request : Request) : List (String × String) :=
  Text.readForm request.queryText

end Request

namespace ConnectorFunction

variable {function : ConnectorFunction} {arguments : List Value}

/-- A slot sends a pair of the query if it is one of the query and has a value. -/
def sendsPair (arguments : List Value) (slot : Slot) : Bool :=
  slot.placement == .query && !(slotValue arguments slot.source).isNull

/-- The slots that send a pair of the query in a call. -/
def querySlots (function : ConnectorFunction) (arguments : List Value) : List Slot :=
  function.slots.filter (sendsPair arguments)

/-- A pair has the name of a slot and the text of its value. -/
def HasPair (arguments : List Value) (slot : Slot) (pair : String × String) : Prop :=
  slot.name = pair.1 ∧ (slotValue arguments slot.source).text? = some pair.2

/-! ## Pairs -/

/-- A slot of the query that has a value sends a pair, and no other slot does. -/
theorem textAt?_query {slot : Slot} (hsendable : (slot.delivery arguments).Sendable) :
    if sendsPair arguments slot then
      ∃ pair, (slot.delivery arguments).textAt? .query = some pair ∧ HasPair arguments slot pair
    else (slot.delivery arguments).textAt? .query = none := by
  obtain ⟨name, placement, source⟩ := slot
  by_cases hsends : placement = .query ∧ (slotValue arguments source).isNull = false
  · obtain ⟨rfl, hgiven⟩ := hsends
    obtain ⟨text, htext⟩ := Option.isSome_iff_exists.1 (hsendable.2 rfl)
    have hvalue : (slotValue arguments source).text? = some text := htext
    have hpair : sendsPair arguments ⟨name, .query, source⟩ = true := by
      simp [sendsPair, hgiven]
    rw [if_pos hpair]
    exact ⟨(name, text), by simp [Delivery.textAt?, Slot.delivery, hgiven, hvalue], rfl, hvalue⟩
  · have hnone : ¬sendsPair arguments ⟨name, placement, source⟩ = true := by
      simpa [sendsPair] using hsends
    rw [if_neg hnone]
    exact if_neg hsends

/-- The pairs that are sent belong to the query slots with a value, in their order. -/
theorem textsAt_query
    (hsendable : ∀ delivery ∈ function.deliveries arguments, delivery.Sendable) :
    List.Forall₂ (HasPair arguments) (function.querySlots arguments)
      (Delivery.textsAt .query (function.deliveries arguments)) := by
  unfold querySlots Delivery.textsAt
  rw [deliveries, List.forall_mem_map] at hsendable
  rw [deliveries]
  generalize function.slots = slots at hsendable ⊢
  induction slots with
  | nil => exact .nil
  | cons slot rest ih =>
      obtain ⟨hslot, hrest⟩ := List.forall_mem_cons.1 hsendable
      have hpair := textAt?_query hslot
      split at hpair
      · rename_i hsends
        obtain ⟨pair, htext, hhas⟩ := hpair
        rw [List.filter_cons_of_pos hsends, List.map_cons, List.filterMap_cons_some htext]
        exact .cons hhas (ih hrest)
      · rename_i hsends
        rw [List.filter_cons_of_neg hsends, List.map_cons, List.filterMap_cons_none hpair]
        exact ih hrest

/-! ## The path and the query -/

/-- What a request writes behind its path. -/
def queryPart (pairs : List (String × String)) : List Char :=
  if pairs.isEmpty then [] else '?' :: Text.formText pairs

/-- A request is its path, then its query. -/
theorem pathAndQuery_eq_append {request : Request}
    (hbuild : function.buildRequest arguments = .ok request) :
    request.pathAndQuery.toList =
      Uri.pathText ((function.filledSegments arguments).foldl Uri.push []) ++
        queryPart (Delivery.textsAt .query (function.deliveries arguments)) :=
  pathAndQuery_eq hbuild

/-- No character of a path is a question mark. -/
theorem forall_mem_pathText (segments : List (List Char)) :
    ∀ c ∈ Uri.pathText (segments.foldl Uri.push []), decide (c ≠ '?') = true := by
  intro c hc
  exact decide_eq_true (Uri.ne_of_mem_pathText hc).1

/-- Before the first question mark stands the path of the filled segments. -/
theorem pathText_eq {request : Request}
    (hbuild : function.buildRequest arguments = .ok request) :
    request.pathText = Uri.pathText ((function.filledSegments arguments).foldl Uri.push []) := by
  rw [Request.pathText, pathAndQuery_eq_append hbuild,
    List.takeWhile_append_of_pos (forall_mem_pathText _)]
  cases Delivery.textsAt .query (function.deliveries arguments) with
  | nil => simp [queryPart]
  | cons pair rest => simp [queryPart]

/-- Behind it stands the form of the pairs that are sent. -/
theorem queryText_eq {request : Request}
    (hbuild : function.buildRequest arguments = .ok request) :
    request.queryText =
      Text.formText (Delivery.textsAt .query (function.deliveries arguments)) := by
  rw [Request.queryText, pathAndQuery_eq_append hbuild,
    List.dropWhile_append_of_pos (forall_mem_pathText _)]
  cases Delivery.textsAt .query (function.deliveries arguments) with
  | nil => rfl
  | cons pair rest => simp [queryPart]

/-- A request carries the query of its call. -/
structure CarriesQuery (function : ConnectorFunction) (arguments : List Value)
    (request : Request) : Prop where
  /-- A question mark is there if some query slot has a value. -/
  marked_iff : '?' ∈ request.pathAndQuery.toList ↔
    ∃ slot ∈ function.slots, slot.placement = .query ∧
      (slotValue arguments slot.source).isNull = false
  /-- The path alone stands before the first one, and it leaves neither a question mark nor a
  number sign of the base path, of the template or of a value. -/
  path : request.pathText = Uri.pathText ((function.filledSegments arguments).foldl Uri.push [])
  path_clean : ∀ c ∈ Uri.pathText ((function.filledSegments arguments).foldl Uri.push []),
    c ≠ '?' ∧ c ≠ '#'
  /-- Nor does the query. -/
  query_clean : ∀ c ∈ request.queryText, c ≠ '?' ∧ c ≠ '#'
  /-- The query reads as the names and texts of the query slots with a value, in order. -/
  pairs : List.Forall₂ (HasPair arguments) (function.querySlots arguments) request.queryPairs

/-- Every request that is accepted carries the query of its call. -/
theorem carriesQuery_of_buildRequest {request : Request}
    (hbuild : function.buildRequest arguments = .ok request) :
    CarriesQuery function arguments request := by
  obtain ⟨_, hsendable, _⟩ := buildRequest_eq_ok_iff.1 hbuild
  have hpairs := textsAt_query hsendable
  have hquery := queryText_eq hbuild
  refine ⟨?_, pathText_eq hbuild, fun _ => Uri.ne_of_mem_pathText, ?_, ?_⟩
  · have hslots : (∃ slot ∈ function.slots, slot.placement = .query ∧
        (slotValue arguments slot.source).isNull = false) ↔
          function.querySlots arguments ≠ [] := by
      simp [querySlots, sendsPair]
    have hempty : function.querySlots arguments = [] ↔
        Delivery.textsAt .query (function.deliveries arguments) = [] := by
      rw [← List.length_eq_zero_iff, ← List.length_eq_zero_iff, hpairs.length_eq]
    rw [hslots, pathAndQuery_eq_append hbuild, List.mem_append]
    constructor
    · rintro (hpath | hmark) hnone
      · exact (Uri.ne_of_mem_pathText hpath).1 rfl
      · rw [hempty.1 hnone] at hmark
        cases hmark
    · intro hsome
      right
      have hsent : (Delivery.textsAt .query (function.deliveries arguments)).isEmpty = false := by
        simpa using fun hnone => hsome (hempty.2 hnone)
      simp [queryPart, hsent]
  · intro c hc
    rw [hquery] at hc
    exact Text.ne_of_mem_formText hc
  · rw [Request.queryPairs, hquery, Text.readForm_formText]
    exact hpairs

end ConnectorFunction

namespace Binder

/-! ## A search -/

/-- A search whose inputs have signs of addresses in their names, below a base path that has
some as well. -/
def searchOperation : Operation where
  name := "Search"
  method := .get
  path := "/in#/\x7bplace\x7d?"
  summary := none
  description := none
  deprecated := false
  parameters :=
    [storeParameter "q&a" .query, storeParameter "100 %" .query, storeParameter "x=y" .query,
      storeParameter "skip" .query, { storeParameter "place" .path with required := true }]
  body := none
  response := none

/-- A connector of the search. -/
def searchBinder : Binder where
  document := { storeDocument with basePath := "/v?1", operations := [searchOperation] }
  settings := { namespaceName := "Shop" }
  globals := []

/-- Whatever a search asks for is read back, in the order of the inputs; an empty text is a
value, and an input that is null is not there. -/
theorem carriesQuery_search : ∃ request : Request,
    request =
        { method := .get
          pathAndQuery := "/v%3F1/in%23/a%3Fb%23%3F?q%26a=1%2B1%3D2+%26+%C3%BC&100+%25=&x%3Dy=%231"
          headers := []
          body := none } ∧
      (searchBinder.describe searchOperation).buildRequest
        [.str "a?b#", .str "1+1=2 & ü", .str "", .str "#1", .null] = .ok request ∧
      ConnectorFunction.CarriesQuery (searchBinder.describe searchOperation)
        [.str "a?b#", .str "1+1=2 & ü", .str "", .str "#1", .null] request ∧
      request.queryPairs = [("q&a", "1+1=2 & ü"), ("100 %", ""), ("x=y", "#1")] := by
  refine ⟨_, rfl, rfl, ConnectorFunction.carriesQuery_of_buildRequest rfl, ?_⟩
  decide +kernel

end Binder

end ApiBinding
