import Calendrics.Proofs.BareDate
import Calendrics.Proofs.FieldRanges
import Calendrics.Proofs.Targets

/-!
# Where edits lead

The thirteen fields are edited by different steps, which add, multiply, check years, months and day
numbers, and refuse in their own ways. What an edit should do can be said without them. A field
gives way to a new value in one of three ways (`EditKind`): the date moves by so many days for each
unit of the value, or takes another day of its month, or goes to another month, where the field has
the value and certain other fields read as before. `IsEdit` says which day of the calendar, of
whatever year, an edit leads to in this sense.

* `existsUnique_isEdit` — a value in its range leads to exactly one day;
* `set_of_isEdit` — **an edit gives the date of that day**, or an error if its year is not supported;
* `set_eq_ok_iff` — hence what it is for an edit to succeed;
* `set_get_self` — **setting a field to the value it has changes nothing**.
-/

namespace Calendrics

/-- How a date gives way to a new value of a field. -/
inductive EditKind where
  /-- it moves by so many days for each unit of the value -/
  | days (count : Int)
  /-- it takes another day of its month -/
  | inMonth
  /-- it goes to another month, where the listed fields read as before -/
  | toMonth (kept : List Field)
deriving DecidableEq

/-- The error of an edit that leads to a year which is not supported. -/
def EditKind.beyond (year : Int) : EditKind → CalendarError
  | days _ => .arithmeticOverflow
  | _ => yearRange.refusal .year year

/-- How a date gives way to a new value of a field. -/
def Field.editKind : Field → EditKind
  | dayOfWeek | alignedDayOfWeekInMonth | alignedDayOfWeekInYear | dayOfYear | epochDay => .days 1
  | alignedWeekOfMonth | alignedWeekOfYear => .days 7
  | dayOfMonth => .inMonth
  | monthOfYear => .toMonth [year]
  | prolepticMonth => .toMonth []
  | yearOfEra => .toMonth [era, monthOfYear]
  | year => .toMonth [monthOfYear]
  | era => .toMonth [yearOfEra, monthOfYear]

/-- The value of a field on a day of the calendar, of whatever year. -/
def Chronology.fieldOn (c : Chronology) (t : YearMonthDay) (f : Field) : Int :=
  BareDate.get ⟨t, c⟩ f

/-- On a supported day, fields have the values of the date. -/
@[simp] theorem Date.fieldOn_eq_get (d : Date) (f : Field) :
    d.chronology.fieldOn d.toYearMonthDay f = d.get f := by
  cases f <;> rfl

namespace Date

variable {c : Chronology} {d d' : Date} {f : Field} {t u : YearMonthDay} {kept : List Field}
  {k v day : Int}

/-- Resolving leads to the requested day of the month, or to the last. -/
theorem resolve_of_isDay (ht : c.IsDay t) (hday : 1 ≤ day)
    (hplace : t.day = min day (c.lengthOfMonth t.year t.month)) :
    (resolve c t.year t.month day).result = ofDay c t (yearRange.refusal .year t.year) := by
  by_cases hy : t.year ∈ yearRange
  · rw [ofDay_of_mem ht hy]
    exact resolve_eq_ok_iff.mpr ⟨hday, rfl, rfl, rfl, hplace⟩
  · rw [ofDay_of_not_mem hy, resolve, dif_neg hy]
    rfl

/-! ## The day that an edit leads to -/

/-- **Where an edit has to lead**, in whatever year. Fields that count days or weeks move the date
by days; the day of the month becomes the value, or the last of the month if that is earlier; the
other fields lead to the month in which they have the value and the kept fields read as before, and
there to the same day or, if the month is too short, to its last. -/
def IsEdit (d : Date) (f : Field) (v : Int) (t : YearMonthDay) : Prop :=
  d.chronology.IsDay t ∧
    match f.editKind with
    | .days k => d.chronology.epochDay t = d.epochDay + k * (v - d.get f)
    | .inMonth =>
      t.year = d.year ∧ t.month = d.month ∧
        t.day = min v (d.chronology.lengthOfMonth t.year t.month)
    | .toMonth kept =>
      d.chronology.fieldOn t f = v ∧ (∀ g ∈ kept, d.chronology.fieldOn t g = d.get g) ∧
        t.day = min d.day (d.chronology.lengthOfMonth t.year t.month)

theorem isEdit_iff_of_days (hk : f.editKind = .days k) :
    d.IsEdit f v t ↔
      d.chronology.IsDay t ∧ d.chronology.epochDay t = d.epochDay + k * (v - d.get f) := by
  rw [IsEdit, hk]

theorem isEdit_iff_of_inMonth (hk : f.editKind = .inMonth) :
    d.IsEdit f v t ↔
      d.chronology.IsDay t ∧ t.year = d.year ∧ t.month = d.month ∧
        t.day = min v (d.chronology.lengthOfMonth t.year t.month) := by
  rw [IsEdit, hk]

theorem isEdit_iff_of_toMonth (hk : f.editKind = .toMonth kept) :
    d.IsEdit f v t ↔
      d.chronology.IsDay t ∧ d.chronology.fieldOn t f = v ∧
        (∀ g ∈ kept, d.chronology.fieldOn t g = d.get g) ∧
        t.day = min d.day (d.chronology.lengthOfMonth t.year t.month) := by
  rw [IsEdit, hk]

/-- The value that a field has leads to the date itself. -/
theorem isEdit_get_self (d : Date) (f : Field) : d.IsEdit f (d.get f) d.toYearMonthDay := by
  have hday := d.isDate.isDay
  have hplace : d.day = min d.day (d.chronology.lengthOfMonth d.year d.month) :=
    d.min_day_lengthOfMonth.symm
  cases hk : f.editKind with
  | days k =>
    refine (isEdit_iff_of_days hk).mpr ⟨hday, ?_⟩
    rw [Int.sub_self, Int.mul_zero, Int.add_zero]
    rfl
  | inMonth =>
    refine (isEdit_iff_of_inMonth hk).mpr ⟨hday, rfl, rfl, ?_⟩
    cases f <;> cases hk
    exact hplace
  | toMonth kept =>
    refine (isEdit_iff_of_toMonth hk).mpr ⟨hday, d.fieldOn_eq_get f, ?_, hplace⟩
    intro g _
    exact d.fieldOn_eq_get g

/-! ## There is one such day -/

/-- A month in which the field has the value, and the kept fields read as before, has the day that
the edit leads to. -/
theorem exists_isEdit_in_month (hk : f.editKind = .toMonth kept) (year : Int) {month : Int}
    (hm : month ∈ monthRange) (hread : ∀ day, d.chronology.fieldOn ⟨year, month, day⟩ f = v)
    (hkept : ∀ day, ∀ g ∈ kept, d.chronology.fieldOn ⟨year, month, day⟩ g = d.get g) :
    ∃ t, d.IsEdit f v t :=
  ⟨_, (isEdit_iff_of_toMonth hk).mpr
    ⟨Chronology.isDay_min hm d.isDate.one_le_day, hread _, hkept _, rfl⟩⟩

/-- A value in its range leads to a day. -/
theorem exists_isEdit (hv : v ∈ d.chronology.validRange f) : ∃ t, d.IsEdit f v t := by
  have hm := d.month_mem_monthRange
  cases hk : f.editKind with
  | days k =>
    obtain ⟨t, ht, hnumber⟩ := d.chronology.exists_isDay (d.epochDay + k * (v - d.get f))
    exact ⟨t, (isEdit_iff_of_days hk).mpr ⟨ht, hnumber⟩⟩
  | inMonth =>
    cases f <;> cases hk
    exact ⟨_, (isEdit_iff_of_inMonth rfl).mpr ⟨Chronology.isDay_min hm hv.1, rfl, rfl, rfl⟩⟩
  | toMonth kept =>
    cases f with
    | monthOfYear =>
      refine exists_isEdit_in_month hk d.year hv (fun _ => rfl) ?_
      cases hk
      simp [Chronology.fieldOn, BareDate.get, get]
    | prolepticMonth =>
      refine exists_isEdit_in_month hk (v / monthsPerYear) (Chronology.month_mem v) ?_ ?_
      · intro day
        exact YearMonthDay.monthNumber_inMonth v day
      · cases hk
        simp
    | yearOfEra =>
      refine exists_isEdit_in_month hk (d.era.year v) hm ?_ ?_
      · intro day
        exact d.era.yearOfEra_year hv.1
      · cases hk
        simp [Chronology.fieldOn, BareDate.get, get, d.era.ofYear_year hv.1]
    | year =>
      refine exists_isEdit_in_month hk v hm (fun _ => rfl) ?_
      cases hk
      simp [Chronology.fieldOn, BareDate.get, get]
    | era =>
      obtain ⟨e, rfl⟩ := Era.exists_value_eq hv
      have hcount : 1 ≤ d.yearOfEra := Era.one_le_yearOfEra d.year
      refine exists_isEdit_in_month hk (e.year d.yearOfEra) hm ?_ ?_
      · intro day
        exact congrArg Era.value (e.ofYear_year hcount)
      · cases hk
        simp [Chronology.fieldOn, BareDate.get, get, e.yearOfEra_year hcount]
    | _ => cases hk

/-! ## There is only one -/

/-- An edit that goes to another month asks for one month: two in which the field and the kept
fields read the same are the same. -/
theorem monthNumber_eq_of_reads (hk : f.editKind = .toMonth kept) (c : Chronology)
    (hread : c.fieldOn t f = c.fieldOn u f) (hkept : ∀ g ∈ kept, c.fieldOn t g = c.fieldOn u g) :
    t.monthNumber = u.monthNumber := by
  have hparts : t.year = u.year → t.month = u.month → t.monthNumber = u.monthNumber := by
    intro hy hm
    rw [YearMonthDay.monthNumber, hy, hm, YearMonthDay.monthNumber]
  cases f with
  | prolepticMonth => exact hread
  | monthOfYear =>
    cases hk
    exact hparts (hkept .year (by simp)) hread
  | year =>
    cases hk
    exact hparts hread (hkept .monthOfYear (by simp))
  | yearOfEra =>
    cases hk
    exact hparts (Era.year_unique (hkept .era (by simp)) hread) (hkept .monthOfYear (by simp))
  | era =>
    cases hk
    exact hparts (Era.year_unique hread (hkept .yearOfEra (by simp)))
      (hkept .monthOfYear (by simp))
  | _ => cases hk

/-- An edit leads to no two days. -/
theorem IsEdit.unique (ht : d.IsEdit f v t) (hu : d.IsEdit f v u) : t = u := by
  cases hk : f.editKind with
  | days k =>
    obtain ⟨ht, htn⟩ := (isEdit_iff_of_days hk).mp ht
    obtain ⟨hu, hun⟩ := (isEdit_iff_of_days hk).mp hu
    exact ht.epochDay_inj hu (htn.trans hun.symm)
  | inMonth =>
    obtain ⟨-, hty, htm, htd⟩ := (isEdit_iff_of_inMonth hk).mp ht
    obtain ⟨-, huy, hum, hud⟩ := (isEdit_iff_of_inMonth hk).mp hu
    rw [hty, htm] at htd
    rw [huy, hum] at hud
    exact YearMonthDay.ext (hty.trans huy.symm) (htm.trans hum.symm) (htd.trans hud.symm)
  | toMonth kept =>
    obtain ⟨ht, htv, htk, htd⟩ := (isEdit_iff_of_toMonth hk).mp ht
    obtain ⟨hu, huv, huk, hud⟩ := (isEdit_iff_of_toMonth hk).mp hu
    have hmonth : t.monthNumber = u.monthNumber := by
      apply monthNumber_eq_of_reads hk d.chronology (htv.trans huv.symm)
      intro g hg
      exact (htk g hg).trans (huk g hg).symm
    exact ht.eq_of_month hu hmonth htd hud

/-- **A value in its range leads to exactly one day.** -/
theorem existsUnique_isEdit (hv : v ∈ d.chronology.validRange f) : ∃! t, d.IsEdit f v t := by
  obtain ⟨t, ht⟩ := exists_isEdit hv
  exact ⟨t, ht, fun u hu => hu.unique ht⟩

/-! ## Edits come to that day -/

/-- An edit of a field that counts days or weeks is a day move. -/
theorem edit_of_days (hk : f.editKind = .days k) (hv : v ∈ d.chronology.validRange f) :
    (d.edit f v).result = d.plusDays (k * (v - d.get f)) := by
  cases f with
  | epochDay =>
    cases hk
    -- a number in the range has a date, which is found by its number and by the move alike
    obtain ⟨d', hd'⟩ := exists_ofEpochDay_iff.mpr hv
    obtain ⟨hc, hnumber⟩ := ofEpochDay_eq_ok_iff.mp hd'
    have hmove : d.plusDays (1 * (v - d.epochDay)) = .ok d' := by
      refine plusDays_eq_ok_iff.mpr ⟨hc, ?_⟩
      omega
    exact hd'.trans hmove.symm
  | alignedWeekOfMonth =>
    cases hk
    exact plusWeeks_eq_plusDays d _
  | alignedWeekOfYear =>
    cases hk
    exact plusWeeks_eq_plusDays d _
  | _ =>
    cases hk <;> exact congrArg d.plusDays (Int.one_mul _).symm

/-- An edit that goes to another month comes to the day there. -/
theorem edit_of_toMonth (hk : f.editKind = .toMonth kept) (hv : v ∈ d.chronology.validRange f)
    (ht : d.IsEdit f v t) :
    (d.edit f v).result = ofDay d.chronology t (yearRange.refusal .year t.year) := by
  obtain ⟨hday, hread, hkept, hplace⟩ := (isEdit_iff_of_toMonth hk).mp ht
  have hresolve : ∀ year month, t.year = year → t.month = month →
      (resolve d.chronology year month d.day).result =
        ofDay d.chronology t (yearRange.refusal .year t.year) := by
    rintro _ _ rfl rfl
    exact resolve_of_isDay hday d.isDate.one_le_day hplace
  cases f with
  | monthOfYear =>
    cases hk
    exact hresolve d.year v (hkept .year (by simp)) hread
  | year =>
    cases hk
    exact hresolve v d.month hread (hkept .monthOfYear (by simp))
  | yearOfEra =>
    cases hk
    have hera : Era.ofYear t.year = d.era := Era.value_inj (hkept .era (by simp))
    have hyear : Era.yearOfEra t.year = v := hread
    apply hresolve (d.yearInEra v) d.month ?_ (hkept .monthOfYear (by simp))
    rw [← Era.year_ofYear_yearOfEra t.year, hera, hyear, yearInEra]
  | era =>
    by_cases hera : v = d.era.value
    · -- the era is kept, and so is the date
      obtain rfl : t = d.toYearMonthDay := ht.unique (hera ▸ d.isEdit_get_self .era)
      rw [ofDay_of_mem hday d.year_mem_yearRange, edit, if_pos hera]
      rfl
    · cases hk
      have hother : (Era.ofYear t.year).value ≠ d.era.value := by
        rw [← hread] at hera
        exact hera
      rw [edit, if_neg hera]
      exact hresolve (1 - d.year) d.month (Era.year_mirror hother (hkept .yearOfEra (by simp)))
        (hkept .monthOfYear (by simp))
  | prolepticMonth =>
    -- the range of the field is that of the supported months, so the year is supported
    have hmonth : t.monthNumber = v := hread
    have hsum : t.monthNumber = d.prolepticMonth + (v - d.prolepticMonth) := by omega
    have hy : t.year ∈ yearRange := by
      rw [hday.year_mem_iff_month, hmonth]
      exact hv
    rw [ofDay_of_mem hday hy]
    exact plusMonths_eq_ok_iff.mpr ⟨rfl, hsum, hplace⟩
  | _ => cases hk

/-- **An edit gives the date of the day that it leads to**, or an error if the year of that day is
not supported. -/
theorem set_of_isEdit (hv : v ∈ d.chronology.validRange f) (ht : d.IsEdit f v t) :
    d.set f v = ofDay d.chronology t (f.editKind.beyond t.year) := by
  rw [set, setLogged, if_pos hv]
  cases hk : f.editKind with
  | days k =>
    obtain ⟨hday, hnumber⟩ := (isEdit_iff_of_days hk).mp ht
    rw [edit_of_days hk hv]
    exact plusDays_of_isDay hday hnumber
  | inMonth =>
    obtain ⟨hday, hy, hm, hplace⟩ := (isEdit_iff_of_inMonth hk).mp ht
    cases f <;> cases hk
    have hresolve := resolve_of_isDay hday hv.1 hplace
    rw [hy, hm] at hresolve
    rw [edit, hy]
    exact hresolve
  | toMonth kept => exact edit_of_toMonth hk hv ht

/-- A value outside its range is refused. -/
theorem set_of_not_mem (hv : v ∉ d.chronology.validRange f) :
    d.set f v = .error ((d.chronology.validRange f).refusal f v) := by
  rw [set, setLogged, if_neg hv]
  rfl

/-- **What it is for an edit to succeed**: the value is in its range, and the edit leads to the day
of the date in the same chronology. -/
theorem set_eq_ok_iff :
    d.set f v = .ok d' ↔
      v ∈ d.chronology.validRange f ∧ d'.chronology = d.chronology ∧
        d.IsEdit f v d'.toYearMonthDay := by
  refine ⟨?_, ?_⟩
  · intro h
    by_cases hv : v ∈ d.chronology.validRange f
    · obtain ⟨t, ht⟩ := exists_isEdit hv
      rw [set_of_isEdit hv ht] at h
      by_cases hy : t.year ∈ yearRange
      · rw [ofDay_of_mem ht.1 hy] at h
        obtain rfl := Except.ok.inj h
        exact ⟨hv, rfl, ht⟩
      · rw [ofDay_of_not_mem hy] at h
        cases h
    · rw [set_of_not_mem hv] at h
      cases h
  · rintro ⟨hv, hc, ht⟩
    rw [set_of_isEdit hv ht, ofDay_of_mem ht.1 d'.year_mem_yearRange]
    exact congrArg Except.ok (Date.ext rfl rfl rfl hc.symm)

/-- **Setting a field to the value that it has changes nothing.** The value is in its range, and
the edit gives the date itself. -/
theorem set_get_self (d : Date) (f : Field) :
    d.get f ∈ d.chronology.validRange f ∧ d.set f (d.get f) = .ok d :=
  ⟨d.get_mem_validRange f, set_eq_ok_iff.mpr ⟨d.get_mem_validRange f, rfl, d.isEdit_get_self f⟩⟩

end Date

end Calendrics
