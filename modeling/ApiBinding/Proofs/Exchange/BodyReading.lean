import ApiBinding.Proofs.Exchange.Resolution
import ApiBinding.Proofs.Json.Reading
import ApiBinding.Proofs.Text.Utf8

/-!
# Two readers of a body

The body of a reply is read in two places: where a call converts it to a value, and where the
type of a function is learned from it.  Either reader takes it for blank, for JSON or for
neither.  The converting one decodes the body leniently and goes by the blanks of Unicode; the
learning one decodes it strictly and goes by the blanks of byte streams.  So what the learning
reader makes of a body the converting one makes of it, too, and the other way round this holds
except for two kinds of bodies.

Main results:

- Theorem `ofReply_eq`: a value is converted as the body is read.
- Theorem `run_fetchJson`: JSON is fetched as the body is read for learning.
- Theorem `readings_body`: where the two readers agree.
- Theorem `verticalTab_brokenText_refused`: two replies that are converted and not learned from.
-/

namespace ApiBinding

/-- What a body is taken for. -/
inductive BodyReading where
  | blank
  | parsed (json : Json)
  | other

namespace BodyReading

/-- How a body is read to be converted. -/
def converting (body : List UInt8) : BodyReading :=
  if (Text.utf8DecodeLenient body).all Text.isBlank then .blank
  else
    match Json.parse? (Text.utf8DecodeLenient body) with
    | some json => .parsed json
    | none => .other

/-- How a body is read to learn from it. -/
def learning (body : List UInt8) : BodyReading :=
  if body.all Text.isAsciiBlank then .blank
  else
    match (Text.utf8Decode? body).bind Json.parse? with
    | some json => .parsed json
    | none => .other

/-- The value of a body: null for a blank one, and its text for one that is not JSON. -/
def value (conversion : Conversion) (type : Option ValueType) (maxRows : Nat)
    (body : List UInt8) : BodyReading → Value
  | blank => .null
  | parsed json => Conversion.capRows maxRows (conversion.ofJson type json)
  | other => .str (String.ofList (Text.utf8DecodeLenient body))

/-- What is learned from a body: null from a blank one, and nothing from one that is not JSON. -/
def fetched (function : ConnectorFunction) : BodyReading → Except ConnectorError Json
  | blank => .ok .null
  | parsed json => .ok json
  | other => .error (.schema (.notJson function.qualifiedName))

variable {body : List UInt8}

/-! ## The readers of the program -/

/-- A reply is converted as its body is read. -/
theorem ofReply_eq (conversion : Conversion) (type : Option ValueType) (maxRows : Nat)
    (body : List UInt8) :
    conversion.ofReply type maxRows body =
      value conversion type maxRows body (converting body) := by
  unfold Conversion.ofReply converting
  dsimp only
  split
  next => rfl
  next =>
    cases Json.parse? (Text.utf8DecodeLenient body) with
    | none => rfl
    | some json => rfl

/-- JSON is fetched as the body of the reply is read to learn from it. -/
theorem run_fetchJson {ι σ : Type} (transport : Transport ι σ) (function : ConnectorFunction)
    (context : Context ι) (arguments : List Value) (state : ExchangeState ι σ) :
    (Exchange.fetchJson transport function context arguments).run state =
      let sent := (Exchange.send transport function context arguments).run state
      (sent.1.bind fun response => fetched function (learning response.body), sent.2) := by
  rw [Exchange.fetchJson, Exchange.run_bind]
  rcases (Exchange.send transport function context arguments).run state with ⟨result, after⟩
  cases result with
  | error error => rfl
  | ok response =>
      simp only [Except.bind, learning]
      split
      next => rfl
      next =>
        cases (Text.utf8Decode? response.body).bind Json.parse? with
        | none => rfl
        | some json => rfl

/-! ## Where they agree -/

/-- Bytes below the highest bit are characters of their own. -/
theorem utf8DecodeLenient_of_ascii (h : ∀ b ∈ body, b.toNat < 0x80) :
    Text.utf8DecodeLenient body = body.map fun b => Char.ofNat b.toNat := by
  rw [Text.utf8DecodeLenient, Text.utf8Pieces]
  induction body with
  | nil => rfl
  | cons b body ih =>
      have htail := ih fun c hc => h c (List.mem_cons_of_mem _ hc)
      rw [Text.utf8Run_single (h b List.mem_cons_self), List.map_cons, htail]
      rfl

/-- A blank of byte streams is a small byte, and a blank of Unicode. -/
theorem blank_of_isAsciiBlank {b : UInt8} (h : Text.isAsciiBlank b = true) :
    b.toNat < 0x80 ∧ Text.isBlank (Char.ofNat b.toNat) = true := by
  simp only [Text.isAsciiBlank, Bool.or_eq_true, beq_iff_eq] at h
  rcases h with (((rfl | rfl) | rfl) | rfl) | rfl <;> decide

/-- What is blank for bytes is blank for characters. -/
theorem all_isBlank_of_ascii (h : body.all Text.isAsciiBlank = true) :
    (Text.utf8DecodeLenient body).all Text.isBlank = true := by
  rw [List.all_eq_true] at h
  rw [utf8DecodeLenient_of_ascii fun b hb => (blank_of_isAsciiBlank (h b hb)).1, List.all_map,
    List.all_eq_true]
  exact fun b hb => (blank_of_isAsciiBlank (h b hb)).2

/-- A body is converted to null if its text is blank. -/
theorem converting_eq_blank_iff :
    converting body = .blank ↔ (Text.utf8DecodeLenient body).all Text.isBlank = true := by
  unfold converting
  split
  next hblank => simp [hblank]
  next hblank =>
    refine iff_of_false ?_ hblank
    split <;> simp

/-- A body is converted as JSON if its text is JSON. -/
theorem converting_eq_parsed_iff {json : Json} :
    converting body = .parsed json ↔ Json.parse? (Text.utf8DecodeLenient body) = some json := by
  unfold converting
  split
  next hblank => simp [Json.parse?_eq_none_of_blank hblank]
  next =>
    cases Json.parse? (Text.utf8DecodeLenient body) with
    | none => simp
    | some found => simp

/-- Null is learned from a body if its bytes are blank. -/
theorem learning_eq_blank_iff : learning body = .blank ↔ body.all Text.isAsciiBlank = true := by
  unfold learning
  split
  next hblank => simp [hblank]
  next hblank =>
    refine iff_of_false ?_ hblank
    split <;> simp

/-- JSON is learned from a body if it has no broken characters and its text is JSON. -/
theorem learning_eq_parsed_iff {json : Json} :
    learning body = .parsed json ↔
      (Text.utf8Decode? body).isSome = true ∧
        Json.parse? (Text.utf8DecodeLenient body) = some json := by
  unfold learning
  split
  next hblank => simp [Json.parse?_eq_none_of_blank (all_isBlank_of_ascii hblank)]
  next =>
    cases htext : Text.utf8Decode? body with
    | none => simp
    | some text =>
        rw [Text.utf8DecodeLenient_of_utf8Decode? htext, Option.bind_some]
        cases Json.parse? text with
        | none => simp
        | some found => simp

/-- Readings are the same if they take the same bodies for blank and for the same JSON. -/
theorem eq_of_iff {first second : BodyReading} (hblank : first = .blank ↔ second = .blank)
    (hparsed : ∀ json, first = .parsed json ↔ second = .parsed json) : first = second := by
  cases first with
  | blank => exact (hblank.1 rfl).symm
  | parsed json => exact ((hparsed json).1 rfl).symm
  | other =>
      cases second with
      | blank => exact hblank.2 rfl
      | parsed json => exact (hparsed json).2 rfl
      | other => rfl

/-- A body that is read alike: if its text is blank, then for bytes, too, and if its text is
JSON, then without broken characters. -/
structure IsPlain (body : List UInt8) : Prop where
  blank : (Text.utf8DecodeLenient body).all Text.isBlank = true →
    body.all Text.isAsciiBlank = true
  unbroken : (Json.parse? (Text.utf8DecodeLenient body)).isSome = true →
    (Text.utf8Decode? body).isSome = true

/-- A body is read alike if and only if it is plain. -/
theorem learning_eq_converting_iff : learning body = converting body ↔ IsPlain body := by
  constructor
  · intro hsame
    refine ⟨fun hblank => ?_, fun hparse => ?_⟩
    · exact learning_eq_blank_iff.1 (hsame.trans (converting_eq_blank_iff.2 hblank))
    · obtain ⟨json, hjson⟩ := Option.isSome_iff_exists.1 hparse
      exact (learning_eq_parsed_iff.1 (hsame.trans (converting_eq_parsed_iff.2 hjson))).1
  · intro hplain
    refine eq_of_iff ?_ fun json => ?_
    · rw [learning_eq_blank_iff, converting_eq_blank_iff]
      exact ⟨all_isBlank_of_ascii, hplain.blank⟩
    · rw [learning_eq_parsed_iff, converting_eq_parsed_iff]
      exact ⟨And.right, fun hjson => ⟨hplain.unbroken (Option.isSome_of_eq_some hjson), hjson⟩⟩

/-! ## The two readings of a body -/

/-- What calls and learning make of a body. -/
structure Readings (body : List UInt8) : Prop where
  /-- A call that gets the body has the value of the converting reading. -/
  converted : ∀ {ι σ : Type} (transport : Transport ι σ) (function : ConnectorFunction)
    (context : Context ι) (arguments : List Value) (state after : ExchangeState ι σ)
    (status : Nat),
    (Exchange.send transport function context arguments).run state = (.ok ⟨status, body⟩, after) →
      (Exchange.invoke transport function context arguments).run state =
        (.ok (value (Exchange.conversion function context) function.returnType.type?
          function.settings.maxRows body (converting body)), after)
  /-- What is fetched from the body is that of the learning reading. -/
  fetched : ∀ {ι σ : Type} (transport : Transport ι σ) (function : ConnectorFunction)
    (context : Context ι) (arguments : List Value) (state after : ExchangeState ι σ)
    (status : Nat),
    (Exchange.send transport function context arguments).run state = (.ok ⟨status, body⟩, after) →
      (Exchange.fetchJson transport function context arguments).run state =
        (fetched function (learning body), after)
  /-- What is learned to be blank is converted to null. -/
  blank : learning body = .blank → converting body = .blank
  /-- The JSON that is learned from is converted. -/
  parsed : ∀ json, learning body = .parsed json → converting body = .parsed json
  /-- A body that is converted as text is not learned from. -/
  other : converting body = .other → learning body = .other
  /-- The two agree on the plain bodies alone. -/
  agree_iff : learning body = converting body ↔ IsPlain body

/-- What is learned from a body is converted alike, and the other way round exactly if the body
is plain. -/
theorem readings_body (body : List UInt8) : Readings body where
  converted transport function context arguments state after status hsend := by
    rw [Exchange.run_invoke, hsend]
    exact congrArg (fun value => (Except.ok value, after)) (ofReply_eq _ _ _ body)
  fetched transport function context arguments state after status hsend := by
    rw [run_fetchJson, hsend]
    rfl
  blank h := converting_eq_blank_iff.2 (all_isBlank_of_ascii (learning_eq_blank_iff.1 h))
  parsed json h := converting_eq_parsed_iff.2 (learning_eq_parsed_iff.1 h).2
  other h := by
    cases hlearning : learning body with
    | blank =>
        have hblank := all_isBlank_of_ascii (learning_eq_blank_iff.1 hlearning)
        rw [converting_eq_blank_iff.2 hblank] at h
        cases h
    | parsed json =>
        rw [converting_eq_parsed_iff.2 (learning_eq_parsed_iff.1 hlearning).2] at h
        cases h
    | other => rfl
  agree_iff := learning_eq_converting_iff

/-! ## Replies that are not learned from -/

/-- An invoker that always replies with a body. -/
def replying (body : List UInt8) : Transport Unit Unit where
  perform _ _ _ := (.ready ⟨200, body⟩, false, ())

/-- A function whose type is learned from a sample. -/
def sampled : ConnectorFunction where
  settings := { namespaceName := "N" }
  globals := []
  name := "GetItem"
  description := none
  deprecated := false
  parameters := []
  returnType := .pending .sample
  method := .get
  basePath := "/v1"
  path := "/items"
  slots := []

/-- What a call of the function gives when the reply has a body. -/
def called (body : List UInt8) : Except ConnectorError Value :=
  ((Exchange.invoke (replying body) sampled (.temporary ()) []).run ⟨false, [], ()⟩).1

/-- What type is learned for the function when the reply has a body. -/
def learned (body : List UInt8) : Except ConnectorError ValueType :=
  ((Exchange.resolveReturnType (replying body) sampled [] (.temporary ())).run ⟨false, [], ()⟩).1

/-- A vertical tab is converted to null, and a broken character in a text to the replacement
character, and yet no type is learned from either. -/
theorem verticalTab_brokenText_refused :
    called [0x0B] = .ok .null ∧
      learned [0x0B] = .error (.schema (.notJson "N.GetItem")) ∧
      called [0x22, 0xFF, 0x22] = .ok (.str "\uFFFD") ∧
      learned [0x22, 0xFF, 0x22] = .error (.schema (.notJson "N.GetItem")) :=
  ⟨rfl, rfl, rfl, rfl⟩

end BodyReading

end ApiBinding
