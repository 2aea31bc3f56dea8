import ApiBinding.Moment.Reader

/-!
# The instants of texts

A text is read as a moment in three forms.  One has an offset of its own; the other two name
a day, with a time or without, and are taken for the zone without offset.  The zone in which
the moment is shown comes last and changes neither which texts are moments nor their instants.

Main results:

- Theorem `exists_time_of_ofText?`: a text without an offset is the instant at which clocks in
  the zone without offset show it.
- Theorem `readAlike`: how the readings of a text in two zones go together.
-/

namespace ApiBinding.Moment

/-- A text without an offset names a time of a day: the start of the day if it is a date
alone. -/
inductive NamesTime (text : String) : CalendarDay → Nat → Nat → Prop where
  | dateTime {day : CalendarDay} {second nanoseconds : Nat} {afterDay time : List Char}
      (hday : readDate? false text.toList = some (day, afterDay))
      (hmark : readChar? 'T' afterDay = some time)
      (htime : readTime? false time = some ((second, nanoseconds), [])) :
      NamesTime text day second nanoseconds
  | date {day : CalendarDay} (hday : readDate? false text.toList = some (day, [])) :
      NamesTime text day 0 0

/-- How a text is read in two zones. -/
structure ReadAlike (first second : Int) (text : String) : Prop where
  /-- It is a moment in one zone exactly if it is the same instant in the other one. -/
  instant_iff : ∀ seconds nanoseconds,
    ofText? first text = some ⟨seconds, nanoseconds, first⟩ ↔
      ofText? second text = some ⟨seconds, nanoseconds, second⟩
  /-- The moment is shown in the zone. -/
  shown : ∀ zone moment, ofText? zone text = some moment → moment.offset = zone
  /-- A text without an offset is a time in the zone without offset. -/
  unzoned : ofStrict? text.toList = none → ∀ zone moment, ofText? zone text = some moment →
    ∃ day second nanoseconds, NamesTime text day second nanoseconds ∧
      moment = ⟨day.number * 86400 + second, nanoseconds, zone⟩

variable {text : String} {zone : Int} {moment : Moment}

/-! ## Forms without an offset -/

/-- A time of a day in the zone without offset is the instant of the same numbers. -/
theorem eq_of_ofLocal? {day : CalendarDay} {second nanoseconds : Nat}
    (h : ofLocal? day second nanoseconds 0 = some moment) :
    moment = ⟨day.number * 86400 + second, nanoseconds, 0⟩ := by
  obtain ⟨hseconds, hnanoseconds, hoffset⟩ := ofLocal?_zone h
  rw [hoffset, Int.add_zero] at hseconds
  rw [← hseconds, ← hnanoseconds, ← hoffset]

/-- A date with a time is that time in the zone without offset. -/
theorem exists_time_of_ofDateTime? (h : ofDateTime? text.toList = some moment) :
    ∃ day second nanoseconds, NamesTime text day second nanoseconds ∧
      moment = ⟨day.number * 86400 + second, nanoseconds, 0⟩ := by
  simp only [ofDateTime?, Option.bind_eq_bind, Option.bind_eq_some_iff] at h
  obtain ⟨⟨day, afterDay⟩, hday, time, hmark, ⟨⟨second, nanoseconds⟩, rest⟩, htime, hlocal⟩ := h
  obtain ⟨hrest, hlocal⟩ := Option.ite_none_right_eq_some.1 hlocal
  obtain rfl := List.isEmpty_iff.1 hrest
  exact ⟨day, second, nanoseconds, .dateTime hday hmark htime, eq_of_ofLocal? hlocal⟩

/-- A date alone is the start of the day in the zone without offset. -/
theorem exists_time_of_ofDate? (h : ofDate? text.toList = some moment) :
    ∃ day second nanoseconds, NamesTime text day second nanoseconds ∧
      moment = ⟨day.number * 86400 + second, nanoseconds, 0⟩ := by
  simp only [ofDate?, Option.bind_eq_bind, Option.bind_eq_some_iff] at h
  obtain ⟨⟨day, rest⟩, hday, hlocal⟩ := h
  obtain ⟨hrest, hlocal⟩ := Option.ite_none_right_eq_some.1 hlocal
  obtain rfl := List.isEmpty_iff.1 hrest
  exact ⟨day, 0, 0, .date hday, eq_of_ofLocal? hlocal⟩

/-! ## Zones -/

/-- A text is a moment in a zone if one of its forms is, whatever zone that one is shown in. -/
theorem ofText?_eq_some_iff :
    ofText? zone text = some moment ↔ moment.offset = zone ∧
      ∃ offset, ((ofStrict? text.toList).or (ofDateTime? text.toList)).or (ofDate? text.toList) =
        some (moment.inZone offset) := by
  simp only [ofText?, Option.map_eq_some_iff]
  constructor
  · rintro ⟨written, hwritten, rfl⟩
    exact ⟨rfl, written.offset, hwritten⟩
  · rintro ⟨rfl, offset, hwritten⟩
    exact ⟨_, hwritten, rfl⟩

/-- A text without an offset is the instant at which clocks in the zone without offset show
it. -/
theorem exists_time_of_ofText? (hunzoned : ofStrict? text.toList = none)
    (h : ofText? zone text = some moment) :
    ∃ day second nanoseconds, NamesTime text day second nanoseconds ∧
      moment = ⟨day.number * 86400 + second, nanoseconds, zone⟩ := by
  obtain ⟨rfl, offset, hwritten⟩ := ofText?_eq_some_iff.1 h
  have hnamed : ∃ day second nanoseconds, NamesTime text day second nanoseconds ∧
      moment.inZone offset = ⟨day.number * 86400 + second, nanoseconds, 0⟩ := by
    rw [hunzoned, Option.none_or] at hwritten
    rcases Option.or_eq_some_iff.1 hwritten with hform | ⟨_, hform⟩
    · exact exists_time_of_ofDateTime? hform
    · exact exists_time_of_ofDate? hform
  obtain ⟨day, second, nanoseconds, hnames, hinstant⟩ := hnamed
  refine ⟨day, second, nanoseconds, hnames, ?_⟩
  cases moment
  cases hinstant
  rfl

/-- A text is read alike in any two zones. -/
theorem readAlike (first second : Int) (text : String) : ReadAlike first second text where
  instant_iff seconds nanoseconds := by
    simp only [ofText?_eq_some_iff, inZone, true_and]
  shown zone moment h := (ofText?_eq_some_iff.1 h).1
  unzoned hunzoned zone moment h := exists_time_of_ofText? hunzoned h

/-- Five hours west of the zone without offset the same instant is shown. -/
example : ofText? 0 "2024-01-02T03:04:05" = some ⟨1704164645, 0, 0⟩ ∧
    ofText? (-18000) "2024-01-02T03:04:05" = some ⟨1704164645, 0, -18000⟩ := by decide

end ApiBinding.Moment
