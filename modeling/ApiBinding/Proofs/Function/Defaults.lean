import ApiBinding.Proofs.Function.HiddenInputs
import ApiBinding.Proofs.Value.Literals

/-!
# Defaults of properties

A property of a flattened body that is internal, has a default and no value given at
binding time is sent in every request, with the JSON form of its default.  With binary
numbers that form is like the default as it was written exactly if the items of every array
in the default are objects or null: a text or a number in an array is sent as an object.

Main results:

- Theorem `bodyMember?_of_filling`: what is filled in for a property of the body is sent.
- Theorem `bodyMember?_of_internal`: what is sent under the name of an internal property.
- Theorem `literalsSent_of_isParsed`: literals, and so the defaults that are sent, keep their
  form exactly if the items of their arrays are objects or null.
- Theorem `tags_not_alike`: a default that is an array of texts is sent as an array of objects.
-/

namespace ApiBinding

/-- What stands under a name in the body of a request. -/
def Request.bodyMember? (request : Request) (name : String) : Option Json :=
  request.body.bind fun body => body.member? name

namespace Binder

variable {binder : Binder} {operation : Operation} {arguments : List Value}

/-! ## What is sent -/

/-- A default is sent under a name, and it is like the default as it was written exactly if
the items of every array in it are objects or null. -/
structure DefaultSent (binder : Binder) (request : Request) (name : String) (default : Json) :
    Prop where
  sent : request.bodyMember? name = some (binder.defaultValue default).toJson
  alike_iff : binder.settings.policy = .binary → default.Regular →
    ((binder.defaultValue default).toJson.Alike default ↔ default.Tabular)

/-- Literals keep their form if the items of their arrays are objects or null, and so do the
defaults of internal properties that have no value given at binding time. -/
structure LiteralsSent (binder : Binder) (operation : Operation) : Prop where
  literals : ∀ json : Json, json.Regular →
    ((Conversion.literal .binary json).toJson.Alike json ↔ json.Tabular)
  defaults : ∀ arguments request,
    (binder.describe operation).buildRequest arguments = .ok request →
      ∀ body, operation.body = some body →
        ∀ property ∈ (binder.bodySchema body).properties, property.2.isInternal = true →
          Entries.find? property.1 binder.globals = none →
            ∀ json, property.2.default = some json → DefaultSent binder request property.1 json

/-- A body with a property is flattened. -/
theorem isFlattened_of_mem {body : RequestBody} {property : String × Schema}
    (hproperty : property ∈ (binder.bodySchema body).properties) :
    binder.isFlattened body = true := by
  unfold isFlattened
  cases hproperties : (binder.bodySchema body).properties with
  | nil => exact absurd (hproperties ▸ hproperty) List.not_mem_nil
  | cons first rest => rfl

/-- The hidden value of an internal property without a value given at binding time is that
of its default. -/
theorem hiddenValue?_ofProperty (body : RequestBody) {property : String × Schema}
    (hinternal : property.2.isInternal = true)
    (hfree : Entries.find? property.1 binder.globals = none) {json : Json}
    (hdefault : property.2.default = some json) :
    binder.hiddenValue? (binder.ofProperty body property) = some (binder.defaultValue json) := by
  rw [hiddenValue?_eq]
  simp [boundValue?, presetValue?, ofProperty, hinternal, hfree, hdefault]

/-- A property of the body that is filled with a value other than null is a member of the
body of every request. -/
theorem bodyMember?_of_filling (hparsed : binder.document.IsParsed)
    (hoperation : operation ∈ binder.document.operations) {request : Request}
    (hbuild : (binder.describe operation).buildRequest arguments = .ok request)
    {filling : Filling} (hfilling : filling ∈ binder.fillings operation arguments)
    (hplace : filling.input.placement = .bodyProperty) (hnull : filling.value.isNull = false) :
    request.bodyMember? filling.input.parameter.name = some filling.value.toJson := by
  have hdeclared := input_of_mem_fillings hfilling
  obtain ⟨body, hbody, hflat, _⟩ := exists_property_of_placement hdeclared.1 hplace
  have hsorted := sorted_properties_bodySchema hparsed hoperation hbody
  have hnodup := nodup_names_jsonsAt arguments hbody hflat hsorted
  have hsent : request.body = some (.obj (Delivery.jsonsAt .bodyProperty
      (binder.inputDeliveries operation arguments))) := by
    rw [(routed_of_buildRequest hparsed hoperation hbuild).body, sentBody, hbody]
    simp only [hflat, if_true]
  have hentry := mem_jsonsAt hfilling hnull
  rw [hplace] at hentry
  rw [Request.bodyMember?, hsent, Option.bind_some]
  exact (Entries.find?_eq_some_iff hnodup).2 hentry

/-- The value of a default of a declared input is not null. -/
theorem isNull_defaultValue (hparsed : binder.document.IsParsed)
    (hoperation : operation ∈ binder.document.operations) {input : DeclaredInput}
    (hinput : input ∈ binder.declaredInputs operation) {json : Json}
    (hdefault : input.default = some json) : (binder.defaultValue json).isNull = false := by
  refine Conversion.isNull_ofJson ?_
  rintro rfl
  exact default_ne_null hparsed hoperation input hinput hdefault

/-- Under the name of an internal property every request has the form of its default. -/
theorem bodyMember?_of_internal (hparsed : binder.document.IsParsed)
    (hoperation : operation ∈ binder.document.operations) {request : Request}
    (hbuild : (binder.describe operation).buildRequest arguments = .ok request)
    {body : RequestBody} (hbody : operation.body = some body) {property : String × Schema}
    (hproperty : property ∈ (binder.bodySchema body).properties)
    (hinternal : property.2.isInternal = true)
    (hfree : Entries.find? property.1 binder.globals = none) {json : Json}
    (hdefault : property.2.default = some json) :
    request.bodyMember? property.1 = some (binder.defaultValue json).toJson := by
  have hinput := ofProperty_mem_declaredInputs hbody (isFlattened_of_mem hproperty) hproperty
  have hhidden := hiddenValue?_ofProperty body hinternal hfree hdefault
  have hfilling := filling_of_hidden arguments hinput hhidden
  have hnull := isNull_defaultValue hparsed hoperation hinput hdefault
  exact bodyMember?_of_filling hparsed hoperation hbuild hfilling rfl hnull

/-- Whatever is read as a literal, or sent as the default of an internal property, has the
form in which it was written exactly if the items of its arrays are objects or null. -/
theorem literalsSent_of_isParsed (hparsed : binder.document.IsParsed)
    (hoperation : operation ∈ binder.document.operations) : LiteralsSent binder operation where
  literals _ hregular := Conversion.alike_toJson_literal_iff hregular
  defaults _ _ hbuild _ hbody _ hproperty hinternal hfree json hdefault :=
    { sent := bodyMember?_of_internal hparsed hoperation hbuild hbody hproperty hinternal hfree
        hdefault
      alike_iff := fun hpolicy hregular => by
        rw [defaultValue, hpolicy]
        exact Conversion.alike_toJson_literal_iff hregular }

/-! ## Notes with tags -/

/-- A text as the item of an array. -/
def newTags : Json := .arr [.str "new"]

/-- A label as the item of an array. -/
def newLabels : Json := .arr [.obj [("name", .str "new")]]

/-- A description with a single operation, which writes a note under labels and tags that
callers do not see. -/
def taggedDescription : Json :=
  .obj
    [("swagger", .str "2.0"), ("basePath", .str "/v1"),
      ("paths", .obj [("/notes", .obj [("post", .obj
        [("operationId", .str "PutNote"),
          ("parameters", .arr
            [.obj [("name", .str "note"), ("in", .str "body"), ("required", .bool true),
              ("schema", .obj
                [("properties", .obj
                  [("labels", .obj [("type", .str "array"), ("default", newLabels),
                      ("x-ms-visibility", .str "internal")]),
                    ("tags", .obj [("type", .str "array"), ("default", newTags),
                      ("x-ms-visibility", .str "internal")]),
                    ("text", .obj [("type", .str "string")])])])]])])])])]

/-- An array that callers do not see, with a default. -/
def internalArray (default : Json) : Schema :=
  { Schema.ofType "array" with default := some default, visibility := some "internal" }

/-- A note with its labels and tags. -/
def taggedNote : RequestBody where
  name := "note"
  required := true
  schema :=
    { properties :=
        [("labels", internalArray newLabels), ("tags", internalArray newTags),
          ("text", .ofType "string")] }

/-- The operation that writes a note. -/
def taggedOperation : Operation where
  name := "PutNote"
  method := .post
  path := "/notes"
  summary := none
  description := none
  deprecated := false
  parameters := []
  body := some taggedNote
  response := none

/-- A connector of notes with binary numbers. -/
def taggedBinder : Binder where
  document :=
    { version := .swagger2
      title := none
      basePath := "/v1"
      schemas := []
      operations := [taggedOperation] }
  settings := { namespaceName := "N", policy := .binary }
  globals := []

/-- The request that writes the text of a note. -/
def taggedRequest : Request where
  method := .post
  pathAndQuery := "/v1/notes"
  headers := []
  body := some (.obj
    [("labels", newLabels), ("tags", .arr [.obj [("Value", .str "new")]]), ("text", .str "x")])

/-- The labels are sent as they were written. -/
theorem literalsSent_taggedNote :
    taggedBinder.document.IsParsed ∧ taggedOperation ∈ taggedBinder.document.operations ∧
      (taggedBinder.describe taggedOperation).buildRequest [.str "x"] = .ok taggedRequest ∧
      taggedRequest.bodyMember? "labels" = some newLabels ∧
      (taggedBinder.defaultValue newLabels).toJson.Alike newLabels := by
  have hparsed : taggedBinder.document.IsParsed := ⟨taggedDescription, rfl⟩
  have hsent := (literalsSent_of_isParsed hparsed List.mem_cons_self).defaults [.str "x"]
    taggedRequest rfl taggedNote rfl ("labels", internalArray newLabels) List.mem_cons_self rfl
    rfl newLabels rfl
  have hregular : newLabels.Regular := by
    refine .arr (List.forall_mem_singleton.2 (.obj ?_ (List.forall_mem_singleton.2 (.str "new"))))
    decide
  have htabular : newLabels.Tabular := by
    refine .arr (List.forall_mem_singleton.2 ?_) (List.forall_mem_singleton.2 (.obj ?_))
    · exact fun hsingle => hsingle.2 _ rfl
    · exact List.forall_mem_singleton.2 (.str "new")
  exact ⟨hparsed, List.mem_cons_self, rfl, hsent.sent, (hsent.alike_iff rfl hregular).2 htabular⟩

/-- The tags are sent as an array of objects, which is not how they were written. -/
theorem tags_not_alike :
    taggedBinder.document.IsParsed ∧ taggedOperation ∈ taggedBinder.document.operations ∧
      (taggedBinder.describe taggedOperation).buildRequest [.str "x"] = .ok taggedRequest ∧
      newTags.Regular ∧
      taggedRequest.bodyMember? "tags" = some (Conversion.literal .binary newTags).toJson ∧
      ¬(Conversion.literal .binary newTags).toJson.Alike newTags := by
  have hregular : newTags.Regular := .arr (List.forall_mem_singleton.2 (.str "new"))
  refine ⟨⟨taggedDescription, rfl⟩, List.mem_cons_self, rfl, hregular, rfl, ?_⟩
  rw [Conversion.alike_toJson_literal_iff hregular]
  rintro (_ | _ | _ | _ | ⟨hrows, _⟩)
  exact hrows (.str "new") List.mem_cons_self ⟨by simp, by simp⟩

end Binder

end ApiBinding
