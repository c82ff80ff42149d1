import Calendrics.Proofs.Edits

/-!
# How edits fail

An edit fails for one of two reasons: the value is not in the range of the field, or the day that
the edit leads to is in a year that is not supported. The first is refused as a value of the field.
The second is told in two ways. Fields that count days or weeks move the date, and a move that
leaves the supported years is an overflow; the other fields ask for a year, which is refused as a
value of the year.

Moves by eras are edits of the era, so they refuse the year as well, where every other move that
leaves the supported years overflows. It happens in one year only: the era before year one has a
year more than the other, so the first supported year alone has no counterpart in the other era.

* `failures_of_set` — **when an edit fails, and with which error**;
* `not_all_refusals` — an edit can overflow;
* `outcomes_of_plus_eras` — **what a move by eras comes to**;
* `not_overflow_of_eras` — a move by eras that leaves the supported years does not overflow.
-/

namespace Calendrics

/-- An edit of the field moves the date by days. -/
def Field.MovesByDays (f : Field) : Prop :=
  ∃ k, f.editKind = .days k

namespace Date

variable {d : Date} {f : Field} {t u : YearMonthDay} {n v : Int}

/-! ## Edits -/

/-- The edit leads to a day of a year that is not supported. -/
def EditLeaves (d : Date) (f : Field) (v : Int) : Prop :=
  ∃ t, d.IsEdit f v t ∧ t.year ∉ yearRange

/-- Days that cannot be moved to are an overflow. -/
theorem beyond_of_movesByDays (hf : f.MovesByDays) (year : Int) :
    f.editKind.beyond year = .arithmeticOverflow := by
  obtain ⟨k, hk⟩ := hf
  rw [hk, EditKind.beyond]

/-- Years that cannot be asked for are refused. -/
theorem beyond_of_not_movesByDays (hf : ¬f.MovesByDays) (year : Int) :
    f.editKind.beyond year = yearRange.refusal .year year := by
  cases hk : f.editKind with
  | days k => exact absurd ⟨k, hk⟩ hf
  | inMonth => rfl
  | toMonth kept => rfl

/-- An edit that leads to a year that is not supported fails. -/
theorem set_of_leaves (hv : v ∈ d.chronology.validRange f) (ht : d.IsEdit f v t)
    (hy : t.year ∉ yearRange) : d.set f v = .error (f.editKind.beyond t.year) := by
  rw [set_of_isEdit hv ht, ofDay_of_not_mem hy]

/-- **When an edit fails.** -/
theorem exists_set_error_iff :
    (∃ e, d.set f v = .error e) ↔ v ∉ d.chronology.validRange f ∨ d.EditLeaves f v := by
  refine ⟨?_, ?_⟩
  · rintro ⟨e, he⟩
    by_cases hv : v ∈ d.chronology.validRange f
    · obtain ⟨t, ht⟩ := exists_isEdit hv
      refine .inr ⟨t, ht, fun hy => ?_⟩
      rw [set_of_isEdit hv ht, ofDay_of_mem ht.1 hy] at he
      cases he
    · exact .inl hv
  · intro h
    by_cases hv : v ∈ d.chronology.validRange f
    · obtain ⟨t, ht, hy⟩ := h.resolve_left (not_not_intro hv)
      exact ⟨_, set_of_leaves hv ht hy⟩
    · exact ⟨_, set_of_not_mem hv⟩

/-- **How edits fail.** An edit fails exactly if the value is not in the range of the field or the
edit leads to a year that is not supported. The value is refused with the field and its range. A
value in the range leads to one day; if the year of that day is not supported, the edit overflows
for a field that moves the date by days, and for the others the year is refused. -/
theorem failures_of_set (d : Date) (f : Field) (v : Int) :
    ((∃ e, d.set f v = .error e) ↔ v ∉ d.chronology.validRange f ∨ d.EditLeaves f v) ∧
    (v ∉ d.chronology.validRange f →
      d.set f v = .error (.invalidFieldValue f v (d.chronology.validRange f).min
        (d.chronology.validRange f).max)) ∧
    (v ∈ d.chronology.validRange f →
      (∃! t, d.IsEdit f v t) ∧ ∀ t, d.IsEdit f v t → t.year ∉ yearRange →
        (f.MovesByDays → d.set f v = .error .arithmeticOverflow) ∧
        (¬f.MovesByDays →
          d.set f v = .error (.invalidFieldValue .year t.year minYear maxYear))) := by
  refine ⟨exists_set_error_iff, set_of_not_mem, fun hv => ⟨existsUnique_isEdit hv, ?_⟩⟩
  intro t ht hy
  have hset := set_of_leaves hv ht hy
  refine ⟨fun hf => ?_, fun hf => ?_⟩
  · rw [hset, beyond_of_movesByDays hf]
  · rw [hset, beyond_of_not_movesByDays hf]
    rfl

/-- At the ends of the supported years: the last day is a Friday, and the Sunday after it is an
overflow; the first day has no day of the common era with the same year of its era; and no date has
an eighth day of the week. -/
theorem failures_of_set_at_ends :
    (7 ∈ Chronology.iso.validRange .dayOfWeek ∧
      IsEdit ⟨⟨999999999, 12, 31⟩, .iso, by decide⟩ .dayOfWeek 7 ⟨1000000000, 1, 2⟩ ∧
      set ⟨⟨999999999, 12, 31⟩, .iso, by decide⟩ .dayOfWeek 7 = .error .arithmeticOverflow) ∧
    (1 ∈ Chronology.iso.validRange .era ∧
      IsEdit ⟨⟨-999999999, 1, 1⟩, .iso, by decide⟩ .era 1 ⟨1000000000, 1, 1⟩ ∧
      set ⟨⟨-999999999, 1, 1⟩, .iso, by decide⟩ .era 1 =
        .error (.invalidFieldValue .year 1000000000 (-999999999) 999999999)) ∧
    8 ∉ Chronology.iso.validRange .dayOfWeek ∧
      set ⟨⟨1970, 1, 1⟩, .iso, by decide⟩ .dayOfWeek 8 =
        .error (.invalidFieldValue .dayOfWeek 8 1 7) := by
  have hweek : IsEdit ⟨⟨999999999, 12, 31⟩, .iso, by decide⟩ .dayOfWeek 7 ⟨1000000000, 1, 2⟩ :=
    (isEdit_iff_of_days rfl).mpr ⟨⟨by decide, by decide, by decide, by decide⟩, by decide⟩
  have hera : IsEdit ⟨⟨-999999999, 1, 1⟩, .iso, by decide⟩ .era 1 ⟨1000000000, 1, 1⟩ :=
    (isEdit_iff_of_toMonth rfl).mpr
      ⟨⟨by decide, by decide, by decide, by decide⟩, by decide, by decide, by decide⟩
  obtain ⟨-, -, hlast⟩ := failures_of_set ⟨⟨999999999, 12, 31⟩, .iso, by decide⟩ .dayOfWeek 7
  obtain ⟨-, -, hfirst⟩ := failures_of_set ⟨⟨-999999999, 1, 1⟩, .iso, by decide⟩ .era 1
  obtain ⟨-, heighth, -⟩ := failures_of_set ⟨⟨1970, 1, 1⟩, .iso, by decide⟩ .dayOfWeek 8
  have hnot : ¬Field.MovesByDays .era := by
    rintro ⟨k, hk⟩
    cases hk
  exact ⟨⟨by decide, hweek, ((hlast (by decide)).2 _ hweek (by decide)).1 ⟨1, rfl⟩⟩,
    ⟨by decide, hera, ((hfirst (by decide)).2 _ hera (by decide)).2 hnot⟩,
    by decide, heighth (by decide)⟩

/-- **An edit can fail without naming a field**: it is not so that whenever an edit fails, a value
is refused. -/
theorem not_all_refusals :
    ¬∀ (d : Date) (f : Field) (v : Int) (e : CalendarError), d.set f v = .error e →
      ∃ field value min max, e = .invalidFieldValue field value min max := by
  intro hall
  have hoverflow : set ⟨⟨999999999, 12, 31⟩, .iso, by decide⟩ .dayOfWeek 7 =
      .error .arithmeticOverflow := by rfl
  obtain ⟨field, value, min, max, h⟩ := hall _ _ _ _ hoverflow
  cases h

/-! ## Moves by eras -/

/-- **The counterpart of a date in the other era**: the day with the same year of that era, the
same month, and the same day or, if the month is too short, its last. -/
structure IsMirror (d : Date) (t : YearMonthDay) : Prop where
  /-- it is a day of the calendar -/
  isDay : d.chronology.IsDay t
  /-- its year is in the other era -/
  era_ne : Era.ofYear t.year ≠ d.era
  /-- the year has the same number there -/
  yearOfEra_eq : Era.yearOfEra t.year = d.yearOfEra
  /-- the month is the same -/
  month_eq : t.month = d.month
  /-- the day is kept as far as the month has it -/
  day_eq : t.day = min d.day (d.chronology.lengthOfMonth t.year t.month)

/-- The number of the year of the counterpart. -/
theorem IsMirror.year_eq (h : d.IsMirror t) : t.year = 1 - d.year := by
  apply Era.year_mirror _ h.yearOfEra_eq
  intro hera
  exact h.era_ne (Era.value_inj hera)

/-- **Only the first supported year has no supported counterpart.** -/
theorem IsMirror.year_mem_iff (h : d.IsMirror t) : t.year ∈ yearRange ↔ d.year ≠ minYear := by
  obtain ⟨h₁, h₂⟩ := d.year_mem_yearRange
  rw [h.year_eq, mem_yearRange]
  simp only [yearRange, minYear, maxYear] at h₁ h₂ ⊢
  omega

/-- An edit to the other era leads to the counterpart. -/
theorem isEdit_era_iff (hv : v ∈ Era.valueRange) (hne : v ≠ d.era.value) :
    d.IsEdit .era v t ↔ d.IsMirror t := by
  obtain ⟨e, rfl⟩ := Era.exists_value_eq hv
  have hother : Era.ofYear t.year = e ↔ Era.ofYear t.year ≠ d.era :=
    Era.eq_iff_ne (fun he => hne (congrArg Era.value he))
  rw [isEdit_iff_of_toMonth rfl]
  refine ⟨?_, ?_⟩
  · rintro ⟨hday, hread, hkept, hplace⟩
    exact ⟨hday, hother.mp (Era.value_inj hread), hkept .yearOfEra (by simp),
      hkept .monthOfYear (by simp), hplace⟩
  · rintro ⟨hday, hera, hyear, hmonth, hplace⟩
    refine ⟨hday, congrArg Era.value (hother.mpr hera), ?_, hplace⟩
    simp only [List.forall_mem_cons]
    exact ⟨hyear, hmonth, List.forall_mem_nil _⟩

/-- A move by eras whose sum fits in 64 bits is an edit of the era. -/
theorem plus_eras_eq_set (hsum : d.era.value + n ∈ Amount.range) :
    d.plus n .eras = d.set .era (d.era.value + n) := by
  rw [plus, plusLogged, Amount.add, Amount.ofInt_of_mem hsum, Logged.lift_ok_bind, set]

/-- The numbers of eras fit in 64 bits. -/
theorem mem_range_of_mem_eras (hv : v ∈ Era.valueRange) : v ∈ Amount.range := by
  obtain ⟨h₀, h₁⟩ : 0 ≤ v ∧ v ≤ 1 := hv
  rw [Amount.mem_range]
  omega

/-- A move by no eras is the date itself. -/
theorem plus_no_eras (d : Date) : d.plus 0 .eras = .ok d := by
  have hera : d.era.value ∈ Era.valueRange := d.get_mem_validRange .era
  have hsum : d.era.value + 0 ∈ Amount.range := by
    rw [Int.add_zero]
    exact mem_range_of_mem_eras hera
  rw [plus_eras_eq_set hsum, Int.add_zero]
  exact set_eq_ok_iff.mpr ⟨hera, rfl, d.isEdit_get_self .era⟩

/-- **What a move by eras comes to.** By no eras it is the date itself. To the other era it is the
counterpart of the date; only the first supported year has no supported counterpart, and then the
year after the last supported one is refused. An era that there is not is refused as an era, or is
an overflow if its number does not fit in 64 bits. -/
theorem outcomes_of_plus_eras (d : Date) (n : Int) :
    (n = 0 → d.plus n .eras = .ok d) ∧
    (n ≠ 0 → d.era.value + n ∈ Era.valueRange →
      (∃! t, d.IsMirror t) ∧ ∀ t, d.IsMirror t →
        (d.year ≠ minYear → ∃ h, d.plus n .eras = .ok ⟨t, d.chronology, h⟩) ∧
        (d.year = minYear → t.year ∉ yearRange ∧
          d.plus n .eras = .error (.invalidFieldValue .year (maxYear + 1) minYear maxYear))) ∧
    (d.era.value + n ∉ Era.valueRange → d.era.value + n ∈ Amount.range →
      d.plus n .eras = .error (.invalidFieldValue .era (d.era.value + n) 0 1)) ∧
    (d.era.value + n ∉ Amount.range → d.plus n .eras = .error .arithmeticOverflow) := by
  refine ⟨?_, ?_, ?_, ?_⟩
  · rintro rfl
    exact d.plus_no_eras
  · intro hn hv
    have hne : d.era.value + n ≠ d.era.value := by omega
    obtain ⟨t, ht, hunique⟩ := existsUnique_isEdit (d := d) (f := .era) hv
    simp only [isEdit_era_iff hv hne] at ht hunique
    refine ⟨⟨t, ht, hunique⟩, fun u hu => ?_⟩
    have hset := set_of_isEdit (d := d) (f := .era) hv ((isEdit_era_iff hv hne).mpr hu)
    rw [plus_eras_eq_set (mem_range_of_mem_eras hv), hset]
    refine ⟨fun hy => ?_, fun hy => ?_⟩
    · have hsupported := hu.year_mem_iff.mpr hy
      exact ⟨hu.isDay.isDate hsupported, ofDay_of_mem hu.isDay hsupported⟩
    · have hbeyond := mt hu.year_mem_iff.mp (not_not_intro hy)
      have hyear : u.year = maxYear + 1 := by
        rw [hu.year_eq, hy]
        rfl
      refine ⟨hbeyond, ?_⟩
      rw [ofDay_of_not_mem hbeyond, hyear]
      rfl
  · intro hv hsum
    rw [plus_eras_eq_set hsum]
    exact set_of_not_mem hv
  · intro hsum
    rw [plus, plusLogged, Amount.add, Amount.ofInt_of_not_mem hsum, Logged.lift_error_bind,
      Logged.result_ofExcept]

/-- From 29 February of year 5 of the earlier era, a leap year, one era later is 28 February of year
5 of the common era; two eras later there is no era; and the number of an era and the largest amount
have no sum in 64 bits. -/
theorem outcomes_of_plus_eras_leap_day :
    ((1 : Int) ≠ 0 ∧ 0 + 1 ∈ Era.valueRange ∧
      IsMirror ⟨⟨-4, 2, 29⟩, .iso, by decide⟩ ⟨5, 2, 28⟩ ∧
      plus ⟨⟨-4, 2, 29⟩, .iso, by decide⟩ 1 .eras = .ok ⟨⟨5, 2, 28⟩, .iso, by decide⟩) ∧
    (0 + 2 ∉ Era.valueRange ∧ 0 + 2 ∈ Amount.range ∧
      plus ⟨⟨-4, 2, 29⟩, .iso, by decide⟩ 2 .eras = .error (.invalidFieldValue .era 2 0 1)) ∧
    1 + 9223372036854775807 ∉ Amount.range ∧
      plus ⟨⟨5, 2, 28⟩, .iso, by decide⟩ 9223372036854775807 .eras =
        .error .arithmeticOverflow := by
  have hmirror : IsMirror ⟨⟨-4, 2, 29⟩, .iso, by decide⟩ ⟨5, 2, 28⟩ :=
    ⟨⟨by decide, by decide, by decide, by decide⟩, by decide, by decide, by decide, by decide⟩
  obtain ⟨-, hone, -, -⟩ := outcomes_of_plus_eras ⟨⟨-4, 2, 29⟩, .iso, by decide⟩ 1
  obtain ⟨-, -, htwo, -⟩ := outcomes_of_plus_eras ⟨⟨-4, 2, 29⟩, .iso, by decide⟩ 2
  obtain ⟨-, -, -, hlargest⟩ :=
    outcomes_of_plus_eras ⟨⟨5, 2, 28⟩, .iso, by decide⟩ 9223372036854775807
  obtain ⟨_, hback⟩ := ((hone (by decide) (by decide)).2 _ hmirror).1 (by decide)
  exact ⟨⟨by decide, by decide, hmirror, hback⟩,
    ⟨by decide, by decide, htwo (by decide) (by decide)⟩, by decide, hlargest (by decide)⟩

/-- **A move by eras that leaves the supported years need not overflow**: the first supported year
has a counterpart in the other era, one year after the last, and that year is refused. -/
theorem not_overflow_of_eras :
    ¬∀ (d : Date) (n : Int) (t : YearMonthDay), n ≠ 0 → d.era.value + n ∈ Era.valueRange →
      d.IsMirror t → t.year ∉ yearRange → d.plus n .eras = .error .arithmeticOverflow := by
  intro hall
  have hrefused : plus ⟨⟨-999999999, 1, 1⟩, .iso, by decide⟩ 1 .eras =
      .error (.invalidFieldValue .year 1000000000 (-999999999) 999999999) := by rfl
  have hmirror : IsMirror ⟨⟨-999999999, 1, 1⟩, .iso, by decide⟩ ⟨1000000000, 1, 1⟩ :=
    ⟨⟨by decide, by decide, by decide, by decide⟩, by decide, by decide, by decide, by decide⟩
  have hoverflow := hall _ 1 _ (by decide) (by decide) hmirror (by decide)
  rw [hrefused] at hoverflow
  cases hoverflow

end Date

end Calendrics
