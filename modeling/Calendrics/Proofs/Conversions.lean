import Calendrics.Proofs.Orders

/-!
# Converting between chronologies

A conversion takes the number of a day out of one chronology and looks its date up in another. The
number is all that is carried over, and it is carried over whole: a conversion can be refused,
because the chronologies support different days, but it cannot lose anything.

* `exists_convertTo_iff` — a date converts exactly if the other chronology supports its day;
* `epochDay_of_convertAlong` — **every chain of conversions keeps the day number**;
* `convertTo_of_convertAlong` — hence a chain ends where the direct conversion does;
* `compare?_of_convertTo` — conversions keep the order;
* `conversions_lossless` — all of this together.
-/

namespace Calendrics.Date

variable {a b a' b' d d' : Date} {c : Chronology} {path : List Chronology}

/-- The date reached by converting to one chronology after another. -/
def convertAlong (d : Date) (path : List Chronology) : Except CalendarError Date :=
  path.foldlM convertTo d

/-! ## One conversion -/

/-- **What a conversion does**: it ends at the date of the other chronology with the same
number. -/
theorem convertTo_eq_ok_iff :
    d.convertTo c = .ok d' ↔ d'.chronology = c ∧ d'.epochDay = d.epochDay :=
  ofEpochDay_eq_ok_iff

/-- A date converts exactly if the other chronology supports its day. -/
theorem exists_convertTo_iff :
    (∃ d', d.convertTo c = .ok d') ↔ d.epochDay ∈ c.validRange .epochDay :=
  exists_ofEpochDay_iff

/-- The weekday depends on the day number alone. -/
theorem dayOfWeek_of_convertTo (h : d.convertTo c = .ok d') : d'.dayOfWeek = d.dayOfWeek := by
  rw [dayOfWeek, dayOfWeek, (convertTo_eq_ok_iff.mp h).2]

/-- **Conversions keep the order.** -/
theorem compare?_of_convertTo (hc : a.chronology = b.chronology) (ha : a.convertTo c = .ok a')
    (hb : b.convertTo c = .ok b') : a'.compare? b' = a.compare? b := by
  obtain ⟨hac, hae⟩ := convertTo_eq_ok_iff.mp ha
  obtain ⟨hbc, hbe⟩ := convertTo_eq_ok_iff.mp hb
  rw [isKey_epochDay.compare?_eq (hac.trans hbc.symm), isKey_epochDay.compare?_eq hc, hae, hbe]

/-! ## Chains of conversions -/

theorem convertAlong_nil (d : Date) : d.convertAlong [] = .ok d := rfl

/-- A chain begins with its first conversion. -/
theorem convertAlong_cons (d : Date) (c : Chronology) (path : List Chronology) :
    d.convertAlong (c :: path) = d.convertTo c >>= fun next => next.convertAlong path :=
  List.foldlM_cons

/-- A chain ends with its last conversion. -/
theorem convertAlong_concat (d : Date) (path : List Chronology) (c : Chronology) :
    d.convertAlong (path ++ [c]) = d.convertAlong path >>= fun last => last.convertTo c := by
  rw [convertAlong, List.foldlM_append]
  change (d.convertAlong path >>= fun last => last.convertAlong [c]) = _
  simp only [convertAlong_cons, convertAlong_nil]
  cases d.convertAlong path with
  | error e => rfl
  | ok last =>
    change last.convertTo c >>= .ok = last.convertTo c
    cases last.convertTo c <;> rfl

/-- **Every chain keeps the day number**, since every conversion in it does. -/
theorem epochDay_of_convertAlong (h : d.convertAlong path = .ok d') :
    d'.epochDay = d.epochDay := by
  induction path generalizing d with
  | nil =>
    rw [convertAlong_nil] at h
    obtain rfl := Except.ok.inj h
    rfl
  | cons c path ih =>
    rw [convertAlong_cons] at h
    obtain ⟨next, hnext, htail⟩ := Outcome.bind_eq_ok_iff.mp h
    rw [ih htail]
    exact (convertTo_eq_ok_iff.mp hnext).2

/-- A chain succeeds exactly if every chronology on it supports the day. -/
theorem exists_convertAlong_iff :
    (∃ d', d.convertAlong path = .ok d') ↔ ∀ c ∈ path, d.epochDay ∈ c.validRange .epochDay := by
  induction path generalizing d with
  | nil => exact ⟨fun _ c hc => absurd hc List.not_mem_nil, fun _ => ⟨d, rfl⟩⟩
  | cons c path ih =>
    rw [List.forall_mem_cons, ← exists_convertTo_iff]
    simp only [convertAlong_cons, Outcome.bind_eq_ok_iff]
    refine ⟨?_, ?_⟩
    · rintro ⟨d', next, hnext, htail⟩
      have hrest := ih.mp ⟨d', htail⟩
      rw [(convertTo_eq_ok_iff.mp hnext).2] at hrest
      exact ⟨⟨next, hnext⟩, hrest⟩
    · rintro ⟨⟨next, hnext⟩, hrest⟩
      rw [← (convertTo_eq_ok_iff.mp hnext).2] at hrest
      obtain ⟨d', htail⟩ := ih.mpr hrest
      exact ⟨d', next, hnext, htail⟩

/-- **A chain ends where the direct conversion to its last chronology does.** -/
theorem convertTo_of_convertAlong (h : d.convertAlong (path ++ [c]) = .ok d') :
    d.convertTo c = .ok d' := by
  have hnumber := epochDay_of_convertAlong h
  rw [convertAlong_concat] at h
  obtain ⟨last, -, hlast⟩ := Outcome.bind_eq_ok_iff.mp h
  exact convertTo_eq_ok_iff.mpr ⟨(convertTo_eq_ok_iff.mp hlast).1, hnumber⟩

/-- A chain that comes back to the chronology of the date comes back to the date. -/
theorem eq_of_convertAlong (h : d.convertAlong (path ++ [d.chronology]) = .ok d') : d' = d := by
  obtain ⟨hc, hnumber⟩ := convertTo_eq_ok_iff.mp (convertTo_of_convertAlong h)
  exact epochDay_inj hc hnumber

/-- **Conversions lose nothing.** A date converts exactly if the other chronology supports its day,
and along a chain exactly if all chronologies on it do. The day number and the weekday are kept;
a chain ends where the direct conversion does, so back in its own chronology the date is itself
again; and two dates of one chronology are in the same order after a conversion as before. -/
theorem conversions_lossless (d : Date) :
    (∀ c, (∃ d', d.convertTo c = .ok d') ↔ d.epochDay ∈ c.validRange .epochDay) ∧
    (∀ path, (∃ d', d.convertAlong path = .ok d') ↔
      ∀ c ∈ path, d.epochDay ∈ c.validRange .epochDay) ∧
    (∀ c d', d.convertTo c = .ok d' →
      d'.chronology = c ∧ d'.epochDay = d.epochDay ∧ d'.dayOfWeek = d.dayOfWeek) ∧
    (∀ path c d', d.convertAlong (path ++ [c]) = .ok d' → d.convertTo c = .ok d') ∧
    (∀ path d', d.convertAlong (path ++ [d.chronology]) = .ok d' → d' = d) ∧
    (∀ b c d' b', d.chronology = b.chronology → d.convertTo c = .ok d' →
      b.convertTo c = .ok b' → d'.compare? b' = d.compare? b) := by
  refine ⟨fun c => exists_convertTo_iff, fun path => exists_convertAlong_iff, ?_, ?_, ?_, ?_⟩
  · intro c d' h
    obtain ⟨hc, hnumber⟩ := convertTo_eq_ok_iff.mp h
    exact ⟨hc, hnumber, dayOfWeek_of_convertTo h⟩
  · intro path c d' h
    exact convertTo_of_convertAlong h
  · intro path d' h
    exact eq_of_convertAlong h
  · intro b c d' b' hc hd hb
    exact compare?_of_convertTo hc hd hb

/-- From a Gregorian leap day through the 360-day and the Julian calendar to the 365-day calendar
and back; with the day after it, which stays the later one; and the last supported Gregorian day,
which the 360-day calendar does not have. -/
theorem conversions_lossless_leapDay :
    convertTo ⟨⟨2024, 2, 29⟩, .iso, by decide⟩ .noLeap =
        .ok ⟨⟨2024, 3, 14⟩, .noLeap, by decide⟩ ∧
      dayOfWeek ⟨⟨2024, 3, 14⟩, .noLeap, by decide⟩ =
        dayOfWeek ⟨⟨2024, 2, 29⟩, .iso, by decide⟩ ∧
      (∃ d', convertAlong ⟨⟨2024, 2, 29⟩, .iso, by decide⟩
          ([.uniform30, .julian, .noLeap] ++ [.iso]) = .ok d' ∧
        d' = ⟨⟨2024, 2, 29⟩, .iso, by decide⟩) ∧
      compare? ⟨⟨2024, 3, 14⟩, .noLeap, by decide⟩ ⟨⟨2024, 3, 15⟩, .noLeap, by decide⟩ =
        compare? ⟨⟨2024, 2, 29⟩, .iso, by decide⟩ ⟨⟨2024, 3, 1⟩, .iso, by decide⟩ ∧
      ¬∃ d', convertTo ⟨⟨999999999, 12, 31⟩, .iso, by decide⟩ .uniform30 = .ok d' := by
  obtain ⟨-, hall, hkept, hchain, hback, horder⟩ :=
    conversions_lossless ⟨⟨2024, 2, 29⟩, .iso, by decide⟩
  have hdirect := hchain [.uniform30, .julian] .noLeap ⟨⟨2024, 3, 14⟩, .noLeap, by decide⟩ rfl
  obtain ⟨d', hd'⟩ := (hall ([.uniform30, .julian, .noLeap] ++ [.iso])).mpr (by decide)
  refine ⟨hdirect, (hkept _ _ hdirect).2.2, ⟨d', hd', hback _ d' hd'⟩,
    horder _ .noLeap _ _ rfl rfl rfl, ?_⟩
  rw [(conversions_lossless ⟨⟨999999999, 12, 31⟩, .iso, by decide⟩).1]
  decide

end Calendrics.Date
