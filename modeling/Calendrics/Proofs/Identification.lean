import Calendrics.Proofs.Succession

/-!
# Fields that identify a date

A date of a chronology is known from its day number. It is also known from certain other fields taken
together, such as the year and the day of the year, because these fix the day number. Fields
*determine* others if dates of one chronology that agree in the former agree in the latter. Such
dependencies chain (`Determines.trans`) and stand side by side (`Determines.append`), so that each
tuple is led back to the day number in steps that concern only a few fields:

* `determines_dayOfMonth`, `determines_dayOfYear` — a group of seven and a place in it determine the
  count that both are read off;
* `determines_year`, `determines_prolepticMonth` — an era and a year of it determine the year, and
  the year and the month of the year determine the month since year zero;
* `determines_epochDay_of_month`, `determines_epochDay_of_year` — a month and a day of it determine
  the day number, and so do a year and a day of it;
* `tuples_identify` — **the tuples that identify a date**.
-/

namespace Calendrics

namespace Date

variable {a b : Date} {f : Field} {fs gs : List Field} {m n : Int}

/-- Two dates agree in each of the fields. -/
def AgreeIn (fs : List Field) (a b : Date) : Prop :=
  ∀ f ∈ fs, a.get f = b.get f

@[simp] theorem agreeIn_nil : AgreeIn [] a b :=
  List.forall_mem_nil _

@[simp] theorem agreeIn_cons : AgreeIn (f :: fs) a b ↔ a.get f = b.get f ∧ AgreeIn fs a b :=
  List.forall_mem_cons

@[simp] theorem agreeIn_append : AgreeIn (fs ++ gs) a b ↔ AgreeIn fs a b ∧ AgreeIn gs a b :=
  List.forall_mem_append

/-- **A group of seven and a place in it determine a count.** -/
theorem eq_of_week_of_place (hweek : numberOfWeek m = numberOfWeek n)
    (hplace : placeInWeek m = placeInWeek n) : m = n := by
  simp only [numberOfWeek, placeInWeek, daysPerWeek] at hweek hplace
  omega

/-- **The day of the year** counts from the first day of the year, which is 1. -/
theorem dayOfYear_eq_sub_newYear (d : Date) :
    d.dayOfYear = 1 + d.epochDay - d.chronology.epochDay (.newYear d.year) := by
  rw [epochDay_eq_newYear_add]
  omega

end Date

namespace Field

variable {fs gs hs fs' gs' : List Field}

/-! ## Dependencies between fields -/

/-- Dates of one chronology that agree in some fields agree in others. -/
def Determines (fs gs : List Field) : Prop :=
  ∀ a b : Date, a.chronology = b.chronology → a.AgreeIn fs b → a.AgreeIn gs b

/-- Dates of one chronology that agree in some fields are equal. -/
def Identifies (fs : List Field) : Prop :=
  ∀ a b : Date, a.chronology = b.chronology → a.AgreeIn fs b → a = b

/-- Fields determine themselves. -/
theorem Determines.refl (fs : List Field) : Determines fs fs :=
  fun _ _ _ h => h

/-- **Dependencies chain.** -/
theorem Determines.trans (h : Determines fs gs) (h' : Determines gs hs) : Determines fs hs :=
  fun a b hc hfs => h' a b hc (h a b hc hfs)

/-- **Dependencies stand side by side.** -/
theorem Determines.append (h : Determines fs gs) (h' : Determines fs' gs') :
    Determines (fs ++ fs') (gs ++ gs') := by
  intro a b hc hagree
  rw [Date.agreeIn_append] at hagree ⊢
  exact ⟨h a b hc hagree.1, h' a b hc hagree.2⟩

/-- **Fields that determine the day number identify a date.** -/
theorem Determines.identifies (h : Determines fs [.epochDay]) : Identifies fs := by
  intro a b hc hagree
  have hnumber := h a b hc hagree
  rw [Date.agreeIn_cons] at hnumber
  exact Date.epochDay_inj hc hnumber.1

/-- The week of the month and the place in it determine the day of the month. -/
theorem determines_dayOfMonth :
    Determines [.alignedWeekOfMonth, .alignedDayOfWeekInMonth] [.dayOfMonth] := by
  intro a b _ h
  simp only [Date.agreeIn_cons, Date.agreeIn_nil, and_true] at h ⊢
  exact Date.eq_of_week_of_place h.1 h.2

/-- The week of the year and the place in it determine the day of the year. -/
theorem determines_dayOfYear :
    Determines [.alignedWeekOfYear, .alignedDayOfWeekInYear] [.dayOfYear] := by
  intro a b _ h
  simp only [Date.agreeIn_cons, Date.agreeIn_nil, and_true] at h ⊢
  exact Date.eq_of_week_of_place h.1 h.2

/-- The era and the year of it determine the year. -/
theorem determines_year : Determines [.era, .yearOfEra] [.year] := by
  intro a b _ h
  simp only [Date.agreeIn_cons, Date.agreeIn_nil, and_true] at h ⊢
  exact Era.year_unique h.1 h.2

/-- The year and the month of the year determine the month since year zero. -/
theorem determines_prolepticMonth : Determines [.year, .monthOfYear] [.prolepticMonth] := by
  intro a b _ h
  simp only [Date.agreeIn_cons, Date.agreeIn_nil, and_true, Date.get, Date.prolepticMonth] at h ⊢
  rw [h.1, h.2]

/-- A month and a day of it determine the day number. -/
theorem determines_epochDay_of_month : Determines [.prolepticMonth, .dayOfMonth] [.epochDay] := by
  intro a b hc h
  simp only [Date.agreeIn_cons, Date.agreeIn_nil, and_true] at h ⊢
  rw [Date.ext_month_day hc h.1 h.2]

/-- A year and a day of it determine the day number. -/
theorem determines_epochDay_of_year : Determines [.year, .dayOfYear] [.epochDay] := by
  intro a b hc h
  simp only [Date.agreeIn_cons, Date.agreeIn_nil, and_true, Date.get] at h ⊢
  rw [Date.epochDay_eq_newYear_add, Date.epochDay_eq_newYear_add, hc, h.1, h.2]

/-! ## Tuples that identify -/

/-- Tuples of fields, each of which is enough to tell the dates of a chronology apart. -/
def identifyingTuples : List (List Field) :=
  [[.epochDay], [.year, .dayOfYear], [.year, .alignedWeekOfYear, .alignedDayOfWeekInYear],
    [.prolepticMonth, .dayOfMonth],
    [.prolepticMonth, .alignedWeekOfMonth, .alignedDayOfWeekInMonth],
    [.era, .yearOfEra, .monthOfYear, .dayOfMonth]]

/-- **Each of these tuples identifies a date.** -/
theorem identifies_of_mem (h : fs ∈ identifyingTuples) : Identifies fs := by
  have hweekOfYear : Determines [.year, .alignedWeekOfYear, .alignedDayOfWeekInYear]
      [.year, .dayOfYear] := (Determines.refl [.year]).append determines_dayOfYear
  have hweekOfMonth : Determines [.prolepticMonth, .alignedWeekOfMonth, .alignedDayOfWeekInMonth]
      [.prolepticMonth, .dayOfMonth] :=
    (Determines.refl [.prolepticMonth]).append determines_dayOfMonth
  have hmonth : Determines [.era, .yearOfEra, .monthOfYear] [.prolepticMonth] :=
    (determines_year.append (.refl [.monthOfYear])).trans determines_prolepticMonth
  have hera : Determines [.era, .yearOfEra, .monthOfYear, .dayOfMonth]
      [.prolepticMonth, .dayOfMonth] := hmonth.append (.refl [.dayOfMonth])
  simp only [identifyingTuples, List.mem_cons, List.not_mem_nil, or_false] at h
  rcases h with rfl | rfl | rfl | rfl | rfl | rfl
  · exact (Determines.refl _).identifies
  · exact determines_epochDay_of_year.identifies
  · exact (hweekOfYear.trans determines_epochDay_of_year).identifies
  · exact determines_epochDay_of_month.identifies
  · exact (hweekOfMonth.trans determines_epochDay_of_month).identifies
  · exact (hera.trans determines_epochDay_of_month).identifies

/-- **Tuples of fields identify dates.** Dates of one chronology are equal if they agree in the day
number, or in the fields of one of the other tuples: a year and a day of it, or a week of it and a
place in the week; a month and a day of it, or a week of it and a place in the week; an era, a year of
it, a month and a day. And the day of the year is the distance from the first day of the year. -/
theorem tuples_identify :
    (∀ fs ∈ identifyingTuples, ∀ a b : Date, a.chronology = b.chronology →
      (∀ f ∈ fs, a.get f = b.get f) → a = b) ∧
    ∀ d : Date, d.get .dayOfYear =
      1 + d.get .epochDay - d.chronology.epochDay ⟨d.year, 1, 1⟩ :=
  ⟨fun _ => identifies_of_mem, Date.dayOfYear_eq_sub_newYear⟩

/-- Day 18627 is in the 53rd week of 2020, at the second place. So is 31 December, the 366th day of
that leap year, and therefore it is that day. -/
theorem tuples_identify_last_week :
    [.year, .alignedWeekOfYear, .alignedDayOfWeekInYear] ∈ identifyingTuples ∧
      (∃ found, Date.ofEpochDay .iso 18627 = .ok found ∧
        (∀ f ∈ [.year, .alignedWeekOfYear, .alignedDayOfWeekInYear],
          found.get f = Date.get ⟨⟨2020, 12, 31⟩, .iso, by decide⟩ f) ∧
        found = ⟨⟨2020, 12, 31⟩, .iso, by decide⟩) ∧
      366 = 1 + 18627 - Chronology.iso.epochDay ⟨2020, 1, 1⟩ := by
  have htuple : [.year, .alignedWeekOfYear, .alignedDayOfWeekInYear] ∈ identifyingTuples := by
    decide
  have hagree : ∀ f ∈ [.year, .alignedWeekOfYear, .alignedDayOfWeekInYear],
      Date.get ⟨Chronology.iso.ofEpochDay 18627, .iso, Chronology.isDate_ofEpochDay (by decide)⟩ f =
        Date.get ⟨⟨2020, 12, 31⟩, .iso, by decide⟩ f := by decide
  obtain ⟨hidentify, hfirst⟩ := tuples_identify
  exact ⟨htuple, ⟨_, dif_pos (by decide), hagree, hidentify _ htuple _ _ rfl hagree⟩,
    hfirst ⟨⟨2020, 12, 31⟩, .iso, by decide⟩⟩

end Field

end Calendrics
