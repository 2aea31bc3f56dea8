import ApiBinding.Function.CallCheck
import ApiBinding.Proofs.Function.Routing
import ApiBinding.Proofs.Value.Landing

/-!
# Calls that pass the static check

A call site is checked by the types of its arguments, a call by their values.  Values of
types that pass are acceptable, however deep records and tables are nested, because
whatever a type may be passed for accepts the values of that type.  What the types cannot
tell is whether a value is null, so a required argument that is null is the only reason
left to refuse the arguments of a call.

Main results:

- Theorem `accepts_of_acceptsType`: what a type can be passed for accepts its values.
- Theorem `anyError_checkCall_eq_false_iff`: when a call site shows no error.
- Theorem `checkArguments_of_checkCall`: how the arguments of a call fare whose call site
  shows no error.
-/

namespace ApiBinding

/-! ## Values of a type -/

/-- A value has a type.  Null has every type, and nothing else is untyped; the fields of a
record are among those of its type, and the rows of a table are null or records. -/
inductive Value.HasType : Value → ValueType → Prop where
  | null {type : ValueType} : HasType .null type
  | bool {b : Bool} : HasType (.bool b) .boolean
  | num {x : Binary64} {type : ValueType} (htype : type = .number ∨ type = .decimal) :
      HasType (.num x) type
  | dec {d : Decimal} {type : ValueType} (htype : type = .number ∨ type = .decimal) :
      HasType (.dec d) type
  | str {text : String} : HasType (.str text) .text
  | dateTime {moment : Moment} : HasType (.dateTime moment) .dateTime
  | record {fields : List (String × Value)} {types : List (String × ValueType)}
      (hnamed : ∀ field ∈ fields, field.1 ∈ Entries.names types)
      (hfields : ∀ field ∈ fields, ∀ type, Entries.find? field.1 types = some type →
        HasType field.2 type) :
      HasType (.record fields) (.record types)
  | list {rows : List Value} {columns : List (String × ValueType)}
      (hrows : ∀ row ∈ rows, HasType row (.record columns)) :
      HasType (.list rows) (.table columns)

namespace ValueType

variable {expected : ValueType}

/-- Fields can be passed if each can where a field of its name is expected. -/
theorem acceptsFields_iff {fields provided : List (String × ValueType)} :
    acceptsFields fields provided = true ↔
      ∀ field ∈ provided, ∀ type, Entries.find? field.1 fields = some type →
        type.acceptsType field.2 = true := by
  induction provided with
  | nil => simp [acceptsFields]
  | cons field rest ih =>
      rw [acceptsFields, Bool.and_eq_true, ih, List.forall_mem_cons]
      cases hfind : Entries.find? field.1 fields with
      | none => simp
      | some type => simp

/-- A record can be passed where nothing is known, or for a record of fields that take
its own. -/
theorem acceptsType_record {types : List (String × ValueType)}
    (h : expected.acceptsType (.record types) = true) :
    expected = .untyped ∨
      ∃ fields, expected = .record fields ∧ acceptsFields fields types = true := by
  cases expected with
  | untyped => exact Or.inl rfl
  | record fields => exact Or.inr ⟨fields, rfl, by simpa [acceptsType] using h⟩
  | _ => simp [acceptsType] at h

/-- A table can be passed where nothing is known, or for a table whose rows take its
own. -/
theorem acceptsType_table {columns : List (String × ValueType)}
    (h : expected.acceptsType (.table columns) = true) :
    expected = .untyped ∨
      ∃ more, expected = .table more ∧ (record more).acceptsType (.record columns) = true := by
  cases expected with
  | untyped => exact Or.inl rfl
  | table more => exact Or.inr ⟨more, rfl, by simpa [acceptsType] using h⟩
  | _ => simp [acceptsType] at h

/-- What a type can be passed for accepts the values of that type. -/
theorem accepts_of_acceptsType {value : Value} {type : ValueType} (hvalue : value.HasType type)
    (hpass : expected.acceptsType type = true) : expected.accepts value = true := by
  -- the induction follows the typing, which reaches every field and row
  induction hvalue generalizing expected with
  | null => rfl
  | bool | str | dateTime => cases expected <;> simp_all [acceptsType, accepts]
  | num htype | dec htype =>
      rcases htype with rfl | rfl <;> cases expected <;> simp_all [acceptsType, accepts]
  | @record values types hnamed _ ih =>
      rcases acceptsType_record hpass with rfl | ⟨fields, rfl, hfields⟩
      · exact accepts_untyped _
      · rw [accepts]
        refine acceptsValues_iff.2 fun value hvalue type htype => ?_
        obtain ⟨own, hfind⟩ :=
          Option.isSome_iff_exists.1 (Entries.isSome_find?_iff.2 (hnamed value hvalue))
        have hown := acceptsFields_iff.1 hfields _ (Entries.mem_of_find? hfind) type htype
        exact ih value hvalue own hfind hown
  | @list rows columns _ ih =>
      rcases acceptsType_table hpass with rfl | ⟨more, rfl, hrows⟩
      · exact accepts_untyped _
      · rw [accepts, acceptsRows_iff]
        exact fun row hrow => ih row hrow hrows

end ValueType

/-! ## Call sites -/

namespace Signature

variable {signature : Signature} {call : SyntaxNode} {arguments : List TypedArgument}

/-- The number of arguments is right if it lies between that of the required parameters and
that of all. -/
theorem anyError_checkCount (call : SyntaxNode) {given : Nat} :
    Diagnostic.anyError (signature.checkCount call given) = false ↔
      FunctionParameter.countRequired signature.parameters ≤ given ∧
        given ≤ signature.parameters.length := by
  unfold checkCount
  by_cases hwrong : given < FunctionParameter.countRequired signature.parameters ∨
      signature.parameters.length < given
  · have hrefused : ¬(FunctionParameter.countRequired signature.parameters ≤ given ∧
        given ≤ signature.parameters.length) := by omega
    simp [hwrong, hrefused, Diagnostic.anyError, Diagnostic.isError, Diagnostic.atNode]
  · have hright : FunctionParameter.countRequired signature.parameters ≤ given ∧
        given ≤ signature.parameters.length := by omega
    simp [hwrong, hright, Diagnostic.anyError]

/-- Every problem of the type of an argument is an error. -/
theorem anyError_checkType {pairs : List (FunctionParameter × TypedArgument)} :
    Diagnostic.anyError (pairs.filterMap checkType) = false ↔
      ∀ pair ∈ pairs, pair.1.type.acceptsType pair.2.type = true := by
  induction pairs with
  | nil => simp [Diagnostic.anyError]
  | cons pair rest ih =>
      rw [List.forall_mem_cons, ← ih]
      by_cases haccepts : pair.1.type.acceptsType pair.2.type = true
      · simp [checkType, haccepts]
      · simp [checkType, haccepts, Diagnostic.anyError, Diagnostic.isError, Diagnostic.atNode]

/-- A call site shows no error exactly if the number of its arguments is right and each can
be passed for its parameter.  A pending result is no error. -/
theorem anyError_checkCall_eq_false_iff :
    Diagnostic.anyError (signature.checkCall call arguments) = false ↔
      (FunctionParameter.countRequired signature.parameters ≤ arguments.length ∧
        arguments.length ≤ signature.parameters.length) ∧
        ∀ pair ∈ signature.parameters.zip arguments,
          pair.1.type.acceptsType pair.2.type = true := by
  have hpending : Diagnostic.anyError (if signature.returnType.isPending then
      [.atNode call .warning Message.pendingReturnType [signature.qualifiedName]] else []) =
        false := by
    split <;> rfl
  rw [← anyError_checkCount call, ← anyError_checkType]
  simp only [checkCall, Diagnostic.anyError, List.any_append, Bool.or_eq_false_iff] at hpending ⊢
  exact and_iff_left hpending

end Signature

namespace ConnectorFunction

variable {function : ConnectorFunction} {call : SyntaxNode} {arguments : List TypedArgument}
  {values : List Value}

/-- The first required parameter that a call gives null. -/
def firstBlank? (function : ConnectorFunction) (values : List Value) : Option FunctionParameter :=
  ((function.parameters.zip values).find? fun pair => pair.1.required && pair.2.isNull).map
    Prod.fst

/-- Arguments that are acceptable for their parameters pass up to the first required one
that is null. -/
theorem forM_checkArgument {pairs : List (FunctionParameter × Value)}
    (h : ∀ pair ∈ pairs, pair.1.type.accepts pair.2 = true) :
    pairs.forM function.checkArgument =
      ((pairs.find? fun pair => pair.1.required && pair.2.isNull).map Prod.fst).elim (.ok ())
        fun parameter => .error (.blankArgument function.qualifiedName parameter.name) := by
  induction pairs with
  | nil => rfl
  | cons pair rest ih =>
      obtain ⟨hpair, hrest⟩ := List.forall_mem_cons.1 h
      rw [List.forM_eq_forM] at ih ⊢
      rw [List.forM_cons]
      by_cases hblank : (pair.1.required && pair.2.isNull) = true
      · simp [checkArgument, hblank, bind, Except.bind]
      · simp [checkArgument, hblank, hpair, bind, Except.bind, ih hrest]

/-- What a call passes for a parameter has a type that its call site passes. -/
theorem exists_argument_of_mem_zip {parameters : List FunctionParameter}
    (htyped : List.Forall₂ (fun value argument => Value.HasType value argument.type) values
      arguments) {pair : FunctionParameter × Value} (hpair : pair ∈ parameters.zip values) :
    ∃ argument : TypedArgument,
      (pair.1, argument) ∈ parameters.zip arguments ∧ pair.2.HasType argument.type := by
  induction htyped generalizing parameters with
  | nil => simp at hpair
  | @cons value argument values arguments hvalue _ ih =>
      cases parameters with
      | nil => simp at hpair
      | cons parameter rest =>
          rw [List.zip_cons_cons, List.mem_cons] at hpair
          rcases hpair with rfl | hpair
          · exact ⟨argument, List.mem_cons_self, hvalue⟩
          · obtain ⟨later, hlater, htype⟩ := ih hpair
            exact ⟨later, List.mem_cons_of_mem _ hlater, htype⟩

/-- If a call site shows no error, a call with values of the types of its arguments passes,
or a required argument is null and the call is refused because of the first such. -/
theorem checkArguments_of_checkCall
    (htyped : List.Forall₂ (fun value argument => Value.HasType value argument.type) values
      arguments)
    (hcheck : Diagnostic.anyError (function.signature.checkCall call arguments) = false) :
    function.checkArguments values =
      (function.firstBlank? values).elim (.ok ()) fun parameter =>
        .error (.blankArgument function.qualifiedName parameter.name) := by
  obtain ⟨hcount, hpass⟩ := Signature.anyError_checkCall_eq_false_iff.1 hcheck
  rw [← htyped.length_eq] at hcount
  have haccepts : ∀ pair ∈ function.parameters.zip values,
      pair.1.type.accepts pair.2 = true := by
    intro pair hpair
    obtain ⟨argument, hargument, htype⟩ := exists_argument_of_mem_zip htyped hpair
    exact ValueType.accepts_of_acceptsType htype (hpass _ hargument)
  have hfits : ¬(values.length < function.requiredCount ∨
      function.parameters.length < values.length) := by
    have hleast : function.requiredCount ≤ values.length := hcount.1
    have hmost : values.length ≤ function.parameters.length := hcount.2
    omega
  unfold checkArguments
  simp only [Bool.or_eq_true, decide_eq_true_eq, hfits, if_false]
  exact forM_checkArgument haccepts

end ConnectorFunction

namespace Binder

/-- An operation of the store that takes a table of sizes and of the times they were
taken at, and may take a note. -/
def resizeOperation : Operation where
  name := "Resize"
  method := .post
  path := "/sizes"
  summary := none
  description := none
  deprecated := false
  parameters := [storeParameter "note" .query]
  body := some
    { name := "sizes"
      required := true
      schema :=
        { Schema.ofType "array" with
          items := some
            { properties :=
                [("at", { Schema.ofType "string" with format := some "date-time" }),
                  ("size", .ofType "number")] } } }
  response := none

/-- A place in a call of the operation. -/
def resizeNode : SyntaxNode where
  token := ⟨"Shop.Resize", ⟨0, 11, 0⟩⟩
  shown := "Shop.Resize"
  extent := none

/-- The types of the arguments of the call: a table with a column that the operation does
not have, and nothing for the note. -/
def resizeArguments : List TypedArgument :=
  [⟨resizeNode, .table [("at", .text), ("size", .decimal), ("unit", .text)]⟩,
    ⟨resizeNode, .blank⟩]

/-- The values of the arguments of the call. -/
def resizeValues : List Value :=
  [.list [.record [("at", .str "2024-01-02"), ("size", .dec Decimal.zero)], .null], .null]

/-- Inside the rows of a table texts may stand for times and decimals for numbers, and a
row may be null. -/
theorem checkArguments_resize :
    List.Forall₂ (fun value argument => Value.HasType value argument.type) resizeValues
        resizeArguments ∧
      Diagnostic.anyError ((storeBinder.describe resizeOperation).signature.checkCall resizeNode
        resizeArguments) = false ∧
      (storeBinder.describe resizeOperation).checkArguments resizeValues = .ok () := by
  have hrow : Value.HasType (.record [("at", .str "2024-01-02"), ("size", .dec Decimal.zero)])
      (.record [("at", .text), ("size", .decimal), ("unit", .text)]) := by
    refine .record (by simp [Entries.names]) ?_
    simp only [List.mem_cons, List.not_mem_nil, or_false, forall_eq_or_imp, forall_eq]
    constructor
    · rintro type ⟨⟩
      exact .str
    · rintro type ⟨⟩
      exact .dec (Or.inr rfl)
  have htyped : List.Forall₂ (fun value argument => Value.HasType value argument.type)
      resizeValues resizeArguments := by
    refine .cons (.list ?_) (.cons .null .nil)
    simpa using ⟨hrow, .null⟩
  have hcheck : Diagnostic.anyError ((storeBinder.describe resizeOperation).signature.checkCall
      resizeNode resizeArguments) = false := rfl
  exact ⟨htyped, hcheck, ConnectorFunction.checkArguments_of_checkCall htyped hcheck⟩

end Binder

end ApiBinding
