import ApiBinding.Function.Request
import ApiBinding.Proofs.Traversal

/-!
# Calls that are accepted

When a call is accepted, and what its request is made of.  In a call every slot
becomes a delivery: a named value on its way to a place.  A request is accepted when
the arguments pass and every delivery can be sent, and it is made of the deliveries
that are not null, each at its place.

Main results:

- Theorem `checkArguments_eq_ok_iff`: the number of arguments fits, a required
  parameter has a value, and every argument is acceptable for its parameter.
- Theorem `contribution_eq_ok_iff`: a slot contributes what its delivery sends.
- Theorem `buildRequest_eq_ok_iff`: a request is exactly what the deliveries send.
-/

namespace ApiBinding

/-! ## Deliveries -/

/-- Whether an input of a place travels as text. -/
def Placement.isText : Placement → Bool
  | path | query | header => true
  | body | bodyProperty => false

/-- A named value on its way to a place of a request. -/
structure Delivery where
  name : String
  placement : Placement
  value : Value

namespace Delivery

/-- A delivery can be sent if a value in the path is not null and a value that travels
as text has one. -/
def Sendable (delivery : Delivery) : Prop :=
  (delivery.placement = .path → delivery.value.isNull = false) ∧
    (delivery.placement.isText = true → delivery.value.text?.isSome = true)

/-- The text that a delivery sends to a place; null sends nothing. -/
def textAt? (place : Placement) (delivery : Delivery) : Option (String × String) :=
  if delivery.placement = place ∧ delivery.value.isNull = false then
    delivery.value.text?.map fun text => (delivery.name, text)
  else none

/-- The JSON that a delivery sends to a place; null sends nothing. -/
def jsonAt? (place : Placement) (delivery : Delivery) : Option (String × Json) :=
  if delivery.placement = place ∧ delivery.value.isNull = false then
    some (delivery.name, delivery.value.toJson)
  else none

/-- The named texts that deliveries send to a place, in their order. -/
def textsAt (place : Placement) (deliveries : List Delivery) : List (String × String) :=
  deliveries.filterMap (textAt? place)

/-- The named JSON values that deliveries send to a place, in their order. -/
def jsonsAt (place : Placement) (deliveries : List Delivery) : List (String × Json) :=
  deliveries.filterMap (jsonAt? place)

/-- What a delivery that can be sent contributes. -/
def contribution (delivery : Delivery) : Contribution :=
  if delivery.value.isNull then .nothing
  else
    match delivery.placement with
    | .path => .pathValue delivery.name (delivery.value.text?.getD "")
    | .query => .queryPair delivery.name (delivery.value.text?.getD "")
    | .header => .header delivery.name (delivery.value.text?.getD "")
    | .body => .wholeBody delivery.value.toJson
    | .bodyProperty => .bodyProperty delivery.name delivery.value.toJson

end Delivery

/-- What a slot delivers in a call. -/
def Slot.delivery (arguments : List Value) (slot : Slot) : Delivery :=
  ⟨slot.name, slot.placement, ConnectorFunction.slotValue arguments slot.source⟩

namespace ConnectorFunction

variable {function : ConnectorFunction} {arguments : List Value}

/-- What the slots of a function deliver in a call, in their order. -/
def deliveries (function : ConnectorFunction) (arguments : List Value) : List Delivery :=
  function.slots.map (Slot.delivery arguments)

/-- The request that deliveries make up. -/
def requestOf (function : ConnectorFunction) (deliveries : List Delivery) : Request where
  method := function.method
  pathAndQuery := requestPath function.basePath function.path
    (Delivery.textsAt .path deliveries) (Delivery.textsAt .query deliveries)
  headers := Delivery.textsAt .header deliveries
  body :=
    match (Delivery.jsonsAt .body deliveries).getLast? with
    | some whole => some whole.2
    | none =>
      if deliveries.any fun delivery => delivery.placement == .bodyProperty then
        some (.obj (Entries.merge (Delivery.jsonsAt .bodyProperty deliveries)))
      else none

/-! ## Arguments -/

/-- An argument passes if a required parameter gets a value and the type accepts it. -/
theorem checkArgument_eq_ok_iff {parameter : FunctionParameter} {value : Value} :
    function.checkArgument (parameter, value) = .ok () ↔
      (parameter.required = true → value.isNull = false) ∧
        parameter.type.accepts value = true := by
  unfold checkArgument
  by_cases hblank : (parameter.required && value.isNull) = true
  · simp only [Bool.and_eq_true] at hblank
    simp [hblank]
  · have hgiven : parameter.required = true → value.isNull = false := by
      intro hrequired
      simpa [hrequired] using hblank
    by_cases haccepts : parameter.type.accepts value = true
    · simpa [hblank, haccepts] using hgiven
    · simp [hblank, haccepts]

/-- Arguments pass if their number fits and every single one passes. -/
theorem checkArguments_eq_ok_iff :
    function.checkArguments arguments = .ok () ↔
      (function.requiredCount ≤ arguments.length ∧
        arguments.length ≤ function.parameters.length) ∧
        ∀ pair ∈ function.parameters.zip arguments,
          (pair.1.required = true → pair.2.isNull = false) ∧
            pair.1.type.accepts pair.2 = true := by
  unfold checkArguments
  by_cases hcount : arguments.length < function.requiredCount ∨
      function.parameters.length < arguments.length
  · have hrefused : ¬(function.requiredCount ≤ arguments.length ∧
        arguments.length ≤ function.parameters.length) := by omega
    simp [hcount, hrefused]
  · have hfits : function.requiredCount ≤ arguments.length ∧
        arguments.length ≤ function.parameters.length := by omega
    simp only [hcount, hfits, if_false, Bool.or_eq_true, decide_eq_true_eq, true_and,
      and_self]
    rw [Traversal.forM_eq_ok_iff]
    exact forall₂_congr fun pair _ => checkArgument_eq_ok_iff

/-! ## Contributions -/

/-- The text of an input is there exactly when its value has one. -/
theorem inputText_map_eq_ok_iff {name : String} {value : Value} {make : String → Contribution}
    {result : Contribution} :
    (function.inputText name value).map make = .ok result ↔
      value.text?.isSome = true ∧ result = make (value.text?.getD "") := by
  unfold inputText
  cases value.text? with
  | none => simp [Except.map]
  | some text => simpa [Except.map] using eq_comm

/-- A slot contributes if its delivery can be sent, and then what the delivery sends. -/
theorem contribution_eq_ok_iff {slot : Slot} {result : Contribution} :
    function.contribution arguments slot = .ok result ↔
      (slot.delivery arguments).Sendable ∧ result = (slot.delivery arguments).contribution := by
  obtain ⟨name, placement, source⟩ := slot
  simp only [ConnectorFunction.contribution, Slot.delivery, Delivery.Sendable,
    Delivery.contribution]
  by_cases hnull : (slotValue arguments source).isNull = true
  · have htext : (slotValue arguments source).text?.isSome = true := by
      cases hvalue : slotValue arguments source <;> simp_all [Value.isNull, Value.text?]
    cases placement with
    | path => simp [hnull]
    | query | header | body | bodyProperty => simpa [hnull, htext] using eq_comm
  · cases placement with
    | path | query | header => simp [hnull, inputText_map_eq_ok_iff, Placement.isText]
    | body | bodyProperty => simpa [hnull, Placement.isText] using eq_comm

/-- The contributions of all slots are there exactly when every delivery can be sent. -/
theorem contributions_eq_ok_iff {contributions : List Contribution} :
    function.slots.mapM (function.contribution arguments) = .ok contributions ↔
      (∀ delivery ∈ function.deliveries arguments, delivery.Sendable) ∧
        contributions = (function.deliveries arguments).map Delivery.contribution := by
  rw [Traversal.mapM_eq_ok_iff]
  simp only [contribution_eq_ok_iff, deliveries, List.forall_mem_map, List.map_map]
  generalize function.slots = slots
  induction slots generalizing contributions with
  | nil => simp
  | cons slot slots ih =>
      rw [List.forall₂_cons_left_iff, List.forall_mem_cons, List.map_cons]
      constructor
      · rintro ⟨_, rest, ⟨hslot, rfl⟩, hrest, rfl⟩
        obtain ⟨hslots, rfl⟩ := ih.1 hrest
        exact ⟨⟨hslot, hslots⟩, rfl⟩
      · rintro ⟨⟨hslot, hslots⟩, rfl⟩
        exact ⟨_, _, ⟨hslot, rfl⟩, ih.2 ⟨hslots, rfl⟩, rfl⟩

/-! ## Requests -/

/-- A part that every contribution takes from its delivery, all of them take. -/
theorem filterMap_contribution_eq {α : Type} {deliveries : List Delivery}
    {view : Contribution → Option α} {sent : Delivery → Option α}
    (hview : ∀ delivery : Delivery, delivery.Sendable → view delivery.contribution = sent delivery)
    (hsendable : ∀ delivery ∈ deliveries, delivery.Sendable) :
    (deliveries.map Delivery.contribution).filterMap view = deliveries.filterMap sent := by
  rw [List.filterMap_map]
  exact List.filterMap_congr fun delivery hmem => hview delivery (hsendable delivery hmem)

/-- The parts of a contribution are what its delivery sends to each place. -/
theorem views_contribution (delivery : Delivery) (h : delivery.Sendable) :
    delivery.contribution.pathValue? = delivery.textAt? .path ∧
      delivery.contribution.queryPair? = delivery.textAt? .query ∧
      delivery.contribution.header? = delivery.textAt? .header ∧
      delivery.contribution.wholeBody? = (delivery.jsonAt? .body).map Prod.snd ∧
      delivery.contribution.bodyProperty? = delivery.jsonAt? .bodyProperty := by
  obtain ⟨name, placement, value⟩ := delivery
  obtain ⟨_, htext⟩ := h
  by_cases hnull : value.isNull = true
  · simp [Delivery.contribution, Delivery.textAt?, Delivery.jsonAt?, hnull,
      Contribution.pathValue?, Contribution.queryPair?, Contribution.header?,
      Contribution.wholeBody?, Contribution.bodyProperty?]
  · cases placement with
    | path | query | header =>
        obtain ⟨text, htext⟩ := Option.isSome_iff_exists.1 (htext rfl)
        dsimp only at htext
        simp [Delivery.contribution, Delivery.textAt?, Delivery.jsonAt?, hnull, htext,
          Contribution.pathValue?, Contribution.queryPair?, Contribution.header?,
          Contribution.wholeBody?, Contribution.bodyProperty?]
    | body | bodyProperty =>
        simp [Delivery.contribution, Delivery.textAt?, Delivery.jsonAt?, hnull,
          Contribution.pathValue?, Contribution.queryPair?, Contribution.header?,
          Contribution.wholeBody?, Contribution.bodyProperty?]

/-- The request assembled from what the deliveries contribute is made of what they send. -/
theorem assemble_contributions
    (hsendable : ∀ delivery ∈ function.deliveries arguments, delivery.Sendable) :
    function.assemble ((function.deliveries arguments).map Delivery.contribution) =
      function.requestOf (function.deliveries arguments) := by
  have hpath := filterMap_contribution_eq (fun d h => (views_contribution d h).1) hsendable
  have hquery := filterMap_contribution_eq (fun d h => (views_contribution d h).2.1) hsendable
  have hheader := filterMap_contribution_eq (fun d h => (views_contribution d h).2.2.1) hsendable
  have hwhole := filterMap_contribution_eq (fun d h => (views_contribution d h).2.2.2.1) hsendable
  have hproperty :=
    filterMap_contribution_eq (fun d h => (views_contribution d h).2.2.2.2) hsendable
  have hany : function.hasBodyProperties =
      (function.deliveries arguments).any fun d => d.placement == .bodyProperty := by
    rw [hasBodyProperties, deliveries, List.any_map]
    rfl
  rw [← List.map_filterMap, ← Delivery.jsonsAt] at hwhole
  rw [assemble, requestOf, requestBody, hpath, hquery, hheader, hproperty, hwhole, hany,
    List.getLast?_map]
  cases (Delivery.jsonsAt .body (function.deliveries arguments)).getLast? <;> rfl

/-- A call gives a request exactly when its arguments pass and every delivery can be
sent, and the request is the one that the deliveries make up. -/
theorem buildRequest_eq_ok_iff {request : Request} :
    function.buildRequest arguments = .ok request ↔
      function.checkArguments arguments = .ok () ∧
        (∀ delivery ∈ function.deliveries arguments, delivery.Sendable) ∧
        request = function.requestOf (function.deliveries arguments) := by
  unfold buildRequest
  rw [Traversal.bind_eq_ok_iff]
  constructor
  · rintro ⟨_, hcheck, hbuild⟩
    obtain ⟨contributions, hcontributions, hrequest⟩ := Traversal.bind_eq_ok_iff.1 hbuild
    obtain ⟨hsendable, rfl⟩ := contributions_eq_ok_iff.1 hcontributions
    refine ⟨hcheck, hsendable, ?_⟩
    rw [← assemble_contributions hsendable]
    exact (Except.ok.inj hrequest).symm
  · rintro ⟨hcheck, hsendable, rfl⟩
    refine ⟨(), hcheck, Traversal.bind_eq_ok_iff.2
      ⟨_, contributions_eq_ok_iff.2 ⟨hsendable, rfl⟩, ?_⟩⟩
    rw [← assemble_contributions hsendable]
    rfl

end ConnectorFunction

end ApiBinding
