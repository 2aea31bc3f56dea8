import ApiBinding.Proofs.Document.ParameterMerging
import ApiBinding.Proofs.Function.Placeholders
import ApiBinding.Proofs.Function.QueryFidelity

/-!
# Texts in requests

The inputs of the path, the query and the headers travel as texts.  A text of the query or of a
header is read back from the request under its name.  A text of the path has no name there: it
stands where the template has the placeholder of its name, and nowhere if the template has none.
The segment that it is put into is read back if it is written as it is and no segment behind it
leads back over it.

Of several inputs of one name and place only the first one's text is put in for a placeholder.
The parameters of a description that was read are apart in name or location, unless they have
no name.

Main results:

- Theorem `mem_textsAt_iff`: the texts that travel at a place stem from the inputs there.
- Theorem `isOnly_of_named`: a parameter with a name shares it with no other of its location.
- Theorem `queryPairs_eq`: the texts of the query are read back.
- Theorem `standsInPath_of_find?`: where a text stands in the path of a request.
-/

namespace ApiBinding

namespace Binder

variable {binder : Binder} {operation : Operation} {arguments : List Value} {request : Request}

/-- No other input of an operation has the name and the place of an input. -/
def IsAlone (binder : Binder) (operation : Operation) (input : DeclaredInput) : Prop :=
  ∀ other ∈ binder.declaredInputs operation, other.placement = input.placement →
    other.parameter.name = input.parameter.name → other = input

/-- An input is the only one of an operation with its name and its place. -/
def IsOnly (binder : Binder) (operation : Operation) (input : DeclaredInput) : Prop :=
  (binder.declaredInputs operation).filter (fun other =>
    other.placement == input.placement && other.parameter.name == input.parameter.name) = [input]

/-- The placeholder of a name stands in the template of a path, with segments in front of its own
and behind it, and in its own segment with what stands before and after it.  A brace that is
open before it hides it, and so does one that its name closes. -/
structure PlaceholderIn (template name : String) (front : List (List Char))
    (before after : List Char) (back : List (List Char)) : Prop where
  segments : Text.slashParts template.toList =
    front ++ (before ++ (placeholder name ++ after)) :: back
  closed : ¬EndsOpen before
  name_closed : '\x7d' ∉ name.toList

/-- A text stands in the path of a request wherever the template has the placeholder of a name.
The segment is filled with it, and is read back from the request unless it is empty, is not
written as it is or is followed by one that climbs. -/
def StandsInPath (binder : Binder) (operation : Operation) (arguments : List Value)
    (request : Request) (name text : String) : Prop :=
  let values := Delivery.textsAt .path (binder.inputDeliveries operation arguments)
  ∀ front before after back, PlaceholderIn operation.path name front before after back →
    let filled := fillSegment values before ++ (text.toList ++ fillSegment values after)
    fillSegment values (before ++ (placeholder name ++ after)) = filled ∧
      (Uri.IsPlain filled → filled ≠ [] →
        (∀ segment ∈ back, ¬Uri.Climbs (fillSegment values segment)) →
          Text.utf8Bytes filled ∈ request.pathPieces)

/-- A request holds the text of a parameter at its location.  Several parameters of the path can
have no name; their texts are not told apart. -/
def HoldsText (binder : Binder) (operation : Operation) (arguments : List Value)
    (request : Request) (parameter : Parameter) (text : String) : Prop :=
  match parameter.location with
  | .path => (parameter.name = "" → IsOnly binder operation (binder.ofParameter parameter)) →
      StandsInPath binder operation arguments request parameter.name text
  | .query => (parameter.name, text) ∈ request.queryPairs
  | .header => (parameter.name, text) ∈ request.headers

/-! ## What travels at a place -/

/-- The text of a filling that is not null is sent to its place. -/
theorem mem_textsAt {filling : Filling} {text : String}
    (hfilling : filling ∈ binder.fillings operation arguments)
    (hnull : filling.value.isNull = false) (htext : filling.value.text? = some text) :
    (filling.input.parameter.name, text) ∈ Delivery.textsAt filling.input.placement
      (binder.inputDeliveries operation arguments) := by
  refine List.mem_filterMap.2 ⟨filling.delivery, List.mem_map_of_mem hfilling, ?_⟩
  simp [Delivery.textAt?, Filling.delivery, hnull, htext]

/-- A text travels at a place if it is that of a filling which is not null. -/
theorem mem_textsAt_iff {place : Placement} {name text : String} :
    (name, text) ∈ Delivery.textsAt place (binder.inputDeliveries operation arguments) ↔
      ∃ filling ∈ binder.fillings operation arguments,
        filling.input.placement = place ∧ filling.input.parameter.name = name ∧
          filling.value.isNull = false ∧ filling.value.text? = some text := by
  constructor
  · intro hmem
    obtain ⟨delivery, hdelivery, hsent⟩ := List.mem_filterMap.1 hmem
    obtain ⟨filling, hfilling, rfl⟩ := List.mem_map.1 hdelivery
    unfold Delivery.textAt? at hsent
    split at hsent
    next hplace =>
      obtain ⟨found, hfound, heq⟩ := Option.map_eq_some_iff.1 hsent
      obtain ⟨rfl, rfl⟩ := Prod.mk.inj heq
      exact ⟨filling, hfilling, hplace.1, rfl, hplace.2, hfound⟩
    next => simp at hsent
  · rintro ⟨filling, hfilling, rfl, rfl, hnull, htext⟩
    exact mem_textsAt hfilling hnull htext

/-! ## Only inputs -/

/-- If no two elements of a list are of a kind, then one that is of it is the only one. -/
theorem filter_eq_singleton {α : Type} {kind : α → Bool} {xs : List α}
    (hapart : xs.Pairwise fun first second => kind first = true → kind second = false)
    {x : α} (hx : x ∈ xs) (hkind : kind x = true) : xs.filter kind = [x] := by
  induction xs with
  | nil => cases hx
  | cons first rest ih =>
      obtain ⟨hfirst, hrest⟩ := List.pairwise_cons.1 hapart
      rcases List.mem_cons.1 hx with rfl | hmem
      · rw [List.filter_cons_of_pos hkind, List.filter_eq_nil_iff.2]
        intro second hsecond
        simp [hfirst second hsecond hkind]
      · have hother : ¬kind first = true := fun h => by
          rw [hfirst x hmem h] at hkind
          cases hkind
        rw [List.filter_cons_of_neg hother, ih hrest hmem]

/-- A location has a place of its own. -/
theorem placement_injective {first second : ParameterLocation}
    (h : first.placement = second.placement) : first = second := by
  cases first <;> cases second <;> simp_all [ParameterLocation.placement]

/-- The place of a location is none of the body. -/
theorem isParameter_placement (location : ParameterLocation) :
    location.placement.isParameter = true := by
  cases location <;> rfl

/-- A parameter with a name shares it with no other of its location. -/
theorem isOnly_of_named (hparsed : binder.document.IsParsed)
    (hoperation : operation ∈ binder.document.operations) {parameter : Parameter}
    (hparameter : parameter ∈ operation.parameters) (hnamed : parameter.name ≠ "") :
    IsOnly binder operation (binder.ofParameter parameter) := by
  have hbody : ((operation.body.map binder.bodyInputs).getD []).filter (fun other =>
      other.placement == (binder.ofParameter parameter).placement &&
        other.parameter.name == (binder.ofParameter parameter).parameter.name) = [] := by
    rw [List.filter_eq_nil_iff]
    intro other hother hsame
    simp only [ofParameter, Bool.and_eq_true, beq_iff_eq] at hsame
    cases hdeclared : operation.body with
    | none => simp [hdeclared] at hother
    | some body =>
        rw [hdeclared, Option.map_some, Option.getD_some] at hother
        have hbody := isParameter_of_mem_bodyInputs hother
        rw [hsame.1, isParameter_placement] at hbody
        cases hbody
  have hapart := Document.pairwise_parameters_of_isParsed hparsed hoperation
  rw [IsOnly, declaredInputs, List.filter_append, hbody, List.append_nil, List.filter_map,
    filter_eq_singleton ?_ hparameter (by simp)]
  · rfl
  · refine hapart.imp fun {first second} h hfirst => ?_
    by_contra hsecond
    rw [Bool.not_eq_false] at hsecond
    simp only [Function.comp_apply, ofParameter, Bool.and_eq_true, beq_iff_eq] at hfirst hsecond
    refine hnamed (hfirst.2.symm.trans (h (hfirst.2.trans hsecond.2.symm) ?_))
    exact placement_injective (hfirst.1.trans hsecond.1.symm)

/-- So does an input at a place of parameters. -/
theorem isOnly_of_isParameter (hparsed : binder.document.IsParsed)
    (hoperation : operation ∈ binder.document.operations) {input : DeclaredInput}
    (hinput : input ∈ binder.declaredInputs operation)
    (hplace : input.placement.isParameter = true)
    (hnameless : input.parameter.name = "" → IsOnly binder operation input) :
    IsOnly binder operation input := by
  by_cases hnamed : input.parameter.name = ""
  · exact hnameless hnamed
  · obtain ⟨parameter, hparameter, rfl⟩ := exists_parameter_of_isParameter hinput hplace
    exact isOnly_of_named hparsed hoperation hparameter hnamed

/-- The only input of its name and place stands alone there. -/
theorem IsOnly.isAlone {input : DeclaredInput} (h : IsOnly binder operation input) :
    IsAlone binder operation input := by
  intro other hother hplace hname
  have hmem : other ∈ (binder.declaredInputs operation).filter (fun other =>
      other.placement == input.placement &&
        other.parameter.name == input.parameter.name) :=
    List.mem_filter.2 ⟨hother, by simp [hplace, hname]⟩
  rw [h] at hmem
  exact List.mem_singleton.1 hmem

/-- At most one input is filled of a kind that only one declared input is of. -/
theorem filling_eq_of_kind {kind : DeclaredInput → Bool} {input : DeclaredInput}
    (honly : (binder.declaredInputs operation).filter kind = [input]) {first second : Filling}
    (hfirst : first ∈ binder.fillings operation arguments)
    (hsecond : second ∈ binder.fillings operation arguments)
    (hkind : kind first.input = true) (hother : kind second.input = true) : first = second := by
  have hperm := (perm_fillings binder operation arguments).filter kind
  rw [List.filter_comm, honly, List.filter_map] at hperm
  have hlength := Nat.le_trans (Nat.le_of_eq hperm.length_eq) (List.length_filter_le _ _)
  rw [List.length_map, List.length_singleton] at hlength
  have hmem : ∀ filling ∈ binder.fillings operation arguments, kind filling.input = true →
      filling ∈ (binder.fillings operation arguments).filter (kind ∘ Filling.input) :=
    fun filling hfilling h => List.mem_filter.2 ⟨hfilling, h⟩
  have hpos := List.length_pos_of_mem (hmem first hfirst hkind)
  obtain ⟨only, honly⟩ := List.length_eq_one_iff.1 (Nat.le_antisymm hlength hpos)
  have heq := hmem first hfirst hkind
  have hsame := hmem second hsecond hother
  rw [honly, List.mem_singleton] at heq hsame
  rw [heq, hsame]

/-- A text that is the only one of its name is found under it. -/
theorem find?_textsAt {place : Placement} {name text : String}
    (hsent : (name, text) ∈ Delivery.textsAt place (binder.inputDeliveries operation arguments))
    (honly : ∀ other, (name, other) ∈
      Delivery.textsAt place (binder.inputDeliveries operation arguments) → other = text) :
    Entries.find? name (Delivery.textsAt place (binder.inputDeliveries operation arguments)) =
      some text := by
  obtain ⟨found, hfound⟩ := Option.isSome_iff_exists.1
    (Entries.isSome_find?_iff.2 (List.mem_map_of_mem (f := Prod.fst) hsent))
  rw [hfound, honly found (Entries.mem_of_find? hfound)]

/-- The text of the only input of its name and place is found there. -/
theorem find?_textsAt_of_isOnly {filling : Filling} {text : String}
    (hfilling : filling ∈ binder.fillings operation arguments)
    (honly : IsOnly binder operation filling.input) (hnull : filling.value.isNull = false)
    (htext : filling.value.text? = some text) :
    Entries.find? filling.input.parameter.name (Delivery.textsAt filling.input.placement
      (binder.inputDeliveries operation arguments)) = some text := by
  refine find?_textsAt (mem_textsAt hfilling hnull htext) fun other hother => ?_
  obtain ⟨second, hsecond, hplace, hname, -, hfound⟩ := mem_textsAt_iff.1 hother
  obtain rfl : filling = second :=
    filling_eq_of_kind honly hfilling hsecond (by simp) (by simp [hplace, hname])
  exact Option.some.inj (hfound.symm.trans htext)

/-! ## What is read back -/

/-- The texts of the query are read back from the request. -/
theorem queryPairs_eq (hbuild : (binder.describe operation).buildRequest arguments = .ok request) :
    request.queryPairs =
      Delivery.textsAt .query (binder.inputDeliveries operation arguments) := by
  rw [Request.queryPairs, ConnectorFunction.queryText_eq hbuild, Text.readForm_formText,
    deliveries_describe]

/-- The text that is found under a name stands in the path of the request. -/
theorem standsInPath_of_find? {name text : String}
    (hbuild : (binder.describe operation).buildRequest arguments = .ok request)
    (hvalue : Entries.find? name
      (Delivery.textsAt .path (binder.inputDeliveries operation arguments)) = some text) :
    StandsInPath binder operation arguments request name text := by
  unfold StandsInPath
  intro values front before after back hplaceholder filled
  have hfilled : fillSegment values (before ++ (placeholder name ++ after)) = filled :=
    fillSegment_placeholder hvalue hplaceholder.name_closed hplaceholder.closed after
  refine ⟨hfilled, fun hplain hsome hback => ?_⟩
  have hsegments : (binder.describe operation).filledSegments arguments =
      (Text.slashParts binder.document.basePath.toList ++ front.map (fillSegment values)) ++
        filled :: back.map (fillSegment values) := by
    have htemplate : (binder.describe operation).path = operation.path := rfl
    have hbase : (binder.describe operation).basePath = binder.document.basePath := rfl
    rw [ConnectorFunction.filledSegments, htemplate, hbase, hplaceholder.segments,
      deliveries_describe, List.map_append, List.map_cons, hfilled, List.append_assoc]
  rw [Request.pathPieces, ConnectorFunction.pathAndQuery_eq hbuild, hsegments]
  refine Uri.mem_readPieces hplain hsome ?_ (ConnectorFunction.query_head _)
  intro later hlater
  obtain ⟨segment, hsegment, rfl⟩ := List.mem_map.1 hlater
  exact hback segment hsegment

/-- The texts of the headers are those of the request. -/
theorem headers_eq (hbuild : (binder.describe operation).buildRequest arguments = .ok request) :
    request.headers = Delivery.textsAt .header (binder.inputDeliveries operation arguments) := by
  obtain ⟨_, _, rfl⟩ := buildRequest_describe_eq_ok_iff.1 hbuild
  rfl

/-- The text of an input of the path stands there. -/
theorem standsInPath_of_filling (hparsed : binder.document.IsParsed)
    (hoperation : operation ∈ binder.document.operations)
    (hbuild : (binder.describe operation).buildRequest arguments = .ok request)
    {filling : Filling} (hfilling : filling ∈ binder.fillings operation arguments)
    (hplace : filling.input.placement = .path) (hnull : filling.value.isNull = false)
    (hnameless : filling.input.parameter.name = "" → IsOnly binder operation filling.input)
    {text : String} (htext : filling.value.text? = some text) :
    StandsInPath binder operation arguments request filling.input.parameter.name text := by
  have hinput := input_of_mem_fillings hfilling
  have honly : IsOnly binder operation filling.input :=
    isOnly_of_isParameter hparsed hoperation hinput.1 (by rw [hplace]; rfl) hnameless
  have hvalue := find?_textsAt_of_isOnly hfilling honly hnull htext
  rw [hplace] at hvalue
  exact standsInPath_of_find? hbuild hvalue

/-- A request holds the text of every parameter that is filled with a value that has one. -/
theorem holdsText_of_filling (hparsed : binder.document.IsParsed)
    (hoperation : operation ∈ binder.document.operations)
    (hbuild : (binder.describe operation).buildRequest arguments = .ok request)
    {parameter : Parameter} {value : Value}
    (hfilling : ⟨binder.ofParameter parameter, value⟩ ∈ binder.fillings operation arguments)
    (hnull : value.isNull = false) {text : String} (htext : value.text? = some text) :
    HoldsText binder operation arguments request parameter text := by
  have hplace : (binder.ofParameter parameter).placement = parameter.location.placement := rfl
  have hsent := mem_textsAt hfilling hnull htext
  unfold HoldsText
  cases hlocation : parameter.location with
  | path =>
      rw [hlocation] at hplace
      exact fun hnameless => standsInPath_of_filling hparsed hoperation hbuild hfilling hplace
        hnull hnameless htext
  | query =>
      rw [hplace, hlocation] at hsent
      exact queryPairs_eq hbuild ▸ hsent
  | header =>
      rw [hplace, hlocation] at hsent
      exact headers_eq hbuild ▸ hsent

end Binder

end ApiBinding
