import ApiBinding.Function.Basic
import ApiBinding.Proofs.Moment.Instants
import ApiBinding.Proofs.Value.Descent

/-!
# Time zones of replies

A reply is converted in the time zone of its context, and the zone only decides how moments
are shown.  Converted in two zones, a reply gives two values of one shape: they have the same
fields and rows and the same leaves, apart from moments, and these are of the same instants.

Main results:

- Theorem `sameInstants_ofText`: a text is a moment in both zones or in neither.
- Theorem `sameInstants_ofJson`: two conversions of JSON differ in how moments are shown.
- Theorem `sameInstants_ofReply`: so do two conversions of a reply.
-/

namespace ApiBinding

/-- Two values are the same but for their moments, which are the same instants, shown in the
first zone by the first value and in the second zone by the second one. -/
inductive Value.SameInstants (first second : Int) : Value → Value → Prop where
  | null : SameInstants first second .null .null
  | bool (b : Bool) : SameInstants first second (.bool b) (.bool b)
  | num (x : Binary64) : SameInstants first second (.num x) (.num x)
  | dec (d : Decimal) : SameInstants first second (.dec d) (.dec d)
  | str (s : String) : SameInstants first second (.str s) (.str s)
  | dateTime (seconds : Int) (nanoseconds : Nat) :
      SameInstants first second (.dateTime ⟨seconds, nanoseconds, first⟩)
        (.dateTime ⟨seconds, nanoseconds, second⟩)
  /-- Both records have the same names in the same order. -/
  | record {fields others : List (String × Value)}
      (hnames : Entries.names fields = Entries.names others)
      (h : ∀ pair ∈ fields.zip others, SameInstants first second pair.1.2 pair.2.2) :
      SameInstants first second (.record fields) (.record others)
  | list {rows others : List Value} (hlength : rows.length = others.length)
      (h : ∀ pair ∈ rows.zip others, SameInstants first second pair.1 pair.2) :
      SameInstants first second (.list rows) (.list others)

namespace Conversion

open Value (SameInstants)

variable {first second : Int}

/-! ## Parts -/

/-- Numbers have no zone. -/
theorem sameInstants_numberAs (policy : NumberPolicy) (n : JsonNumber) :
    SameInstants first second (numberAs policy n) (numberAs policy n) := by
  rcases numberAs_cases policy n with ⟨x, hx⟩ | ⟨d, hd⟩
  · rw [hx]
    exact .num x
  · rw [hd]
    exact .dec d

/-- A text is a moment in both zones or in neither. -/
theorem sameInstants_ofText (policy : NumberPolicy) (type : Option ValueType) (text : String) :
    SameInstants first second ((⟨policy, first⟩ : Conversion).ofText type text)
      ((⟨policy, second⟩ : Conversion).ofText type text) := by
  have halike := Moment.readAlike first second text
  unfold ofText
  split
  · cases hfirst : Moment.ofText? first text with
    | some moment =>
        obtain ⟨seconds, nanoseconds, offset⟩ := moment
        obtain rfl : offset = first := halike.shown first _ hfirst
        rw [(halike.instant_iff seconds nanoseconds).1 hfirst]
        exact .dateTime seconds nanoseconds
    | none =>
        have hsecond : Moment.ofText? second text = none := by
          rw [Option.eq_none_iff_forall_ne_some]
          rintro ⟨seconds, nanoseconds, offset⟩ hsome
          obtain rfl : offset = second := halike.shown second _ hsome
          rw [(halike.instant_iff seconds nanoseconds).2 hsome] at hfirst
          cases hfirst
        rw [hsecond]
        exact .str text
  · exact .str text

/-- Rows are alike if the values of their items are. -/
theorem sameInstants_asRow (item : Json) {value other : Value}
    (h : SameInstants first second value other) :
    SameInstants first second (asRow item value) (asRow item other) := by
  have hsingle : SameInstants first second (.record [(("Value" : String), value)])
      (.record [("Value", other)]) :=
    .record rfl (List.forall_mem_singleton.2 h)
  cases item with
  | null => exact h
  | obj members => exact h
  | _ => exact hsingle

/-- Two changes of the same elements stand beside each other element by element. -/
theorem forall_mem_zip_map {α β γ : Type} {xs : List α} {f : α → β} {g : α → γ}
    {P : β × γ → Prop} (h : ∀ x ∈ xs, P (f x, g x)) :
    ∀ pair ∈ (xs.map f).zip (xs.map g), P pair := by
  rw [List.zip_map']
  exact List.forall_mem_map.2 h

/-! ## Replies -/

/-- Converted in two zones, JSON gives the same value but for how moments are shown. -/
theorem sameInstants_ofJson (policy : NumberPolicy) (type : Option ValueType) (json : Json) :
    SameInstants first second ((⟨policy, first⟩ : Conversion).ofJson type json)
      ((⟨policy, second⟩ : Conversion).ofJson type json) := by
  induction type, json using descentInduction with
  | null type => simpa only [ofJson] using .null
  | bool type b => simpa only [ofJson] using .bool b
  | num type n => simpa only [ofJson, policyFor] using sameInstants_numberAs _ n
  | str type s => simpa only [ofJson] using sameInstants_ofText policy type s
  | arr type items ih =>
      rw [ofJson_items, ofJson_items]
      refine .list (by simp) (forall_mem_zip_map fun item hitem => ?_)
      exact sameInstants_asRow item (ih item hitem)
  | rows columns members items hfind ih => rwa [ofJson_wrapped hfind, ofJson_wrapped hfind]
  | record type members hrecord ih =>
      rw [ofJson_members hrecord, ofJson_members hrecord]
      refine .record (by simp [Entries.names, Function.comp_def]) (forall_mem_zip_map ?_)
      exact ih

/-- Leaving rows out of both values keeps them alike. -/
theorem sameInstants_capRows {value other : Value} (h : SameInstants first second value other)
    (maxRows : Nat) :
    SameInstants first second (capRows maxRows value) (capRows maxRows other) := by
  cases h with
  | @list rows others hlength h =>
      refine .list (by simp [hlength]) fun pair hpair => h pair ?_
      rw [List.zip, ← List.take_zipWith] at hpair
      exact List.mem_of_mem_take hpair
  | null => exact .null
  | bool b => exact .bool b
  | num x => exact .num x
  | dec d => exact .dec d
  | str s => exact .str s
  | dateTime seconds nanoseconds => exact .dateTime seconds nanoseconds
  | record hnames h => exact .record hnames h

/-- Converted in two zones, a reply gives the same value but for its moments, which are the
same instants, each shown in its zone.  Which texts are moments, and of which instants, does
not depend on the zone. -/
theorem sameInstants_ofReply (settings : BindingSettings) (returnType : ReturnType)
    (body : List UInt8) (first second : Int) :
    SameInstants first second
        ((⟨settings.policy, first⟩ : Conversion).ofReply returnType.type? settings.maxRows body)
        ((⟨settings.policy, second⟩ : Conversion).ofReply returnType.type? settings.maxRows body) ∧
      ∀ text, Moment.ReadAlike first second text := by
  refine ⟨?_, Moment.readAlike first second⟩
  unfold ofReply
  dsimp only
  split
  · exact .null
  · split
    · exact .str _
    · exact sameInstants_capRows (sameInstants_ofJson settings.policy returnType.type? _) _

end Conversion

end ApiBinding
