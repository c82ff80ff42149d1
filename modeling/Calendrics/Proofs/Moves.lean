import Calendrics.Date.Move
import Calendrics.Proofs.Bijection
import Calendrics.Proofs.Outcome

/-!
# What the moves do

A move takes several steps, each of which can refuse: it adds in 64 bits, checks the year or the
day number, and builds a date. For a caller only the end counts, and that has a short description
in exact integers:

* `plusDays_eq_ok_iff` — a day move ends at the date whose number is so much larger;
* `plusMonths_eq_ok_iff` — a month move ends in the month whose number is so much larger, on the
  same day or, if the month is too short, on its last;
* `plusYears_eq_plusMonths` — a year move is a move by twelve times as many months, refusals and log
  included, so that
* `plusYears_eq_ok_iff` — it ends in the same month of another year, on a day found in the same way.

In all cases there is a result whenever there is such a date, since the amounts that lead to
supported dates fit in 64 bits. What else a move can come to is short too:

* `plusDays_eq_overflow`, `plusMonths_eq_overflow` — **a move to where no date is supported is an
  overflow**, whichever of its steps notices, and records nothing;
* `records_plusMonths` — a month move records that it moved the day back, or nothing.
-/

namespace Calendrics.Date

variable {d d' : Date}

/-! ## Making a date from computed fields -/

/-- **What resolving means**: the year and the month as given, and the day, which must be
positive, moved back to the end of the month if it is later. -/
theorem resolve_eq_ok_iff {c : Chronology} {year month day : Int} :
    (resolve c year month day).result = .ok d ↔
      1 ≤ day ∧ d.chronology = c ∧ d.year = year ∧ d.month = month ∧
        d.day = min day (c.lengthOfMonth year month) := by
  refine ⟨?_, ?_⟩
  · intro h
    by_cases hy : year ∈ yearRange
    · by_cases hm : month ∈ monthRange
      · by_cases hd : 1 ≤ day
        · rw [resolve, dif_pos hy, dif_pos hm, dif_pos hd] at h
          obtain rfl := Except.ok.inj h
          exact ⟨hd, rfl, rfl, rfl, rfl⟩
        · rw [resolve, dif_pos hy, dif_pos hm, dif_neg hd] at h
          cases h
      · rw [resolve, dif_pos hy, dif_neg hm] at h
        cases h
    · rw [resolve, dif_neg hy] at h
      cases h
  · rintro ⟨hd, rfl, rfl, rfl, hday⟩
    rw [resolve, dif_pos d.year_mem_yearRange, dif_pos d.month_mem_monthRange, dif_pos hd]
    exact congrArg Except.ok (Date.ext rfl rfl hday.symm rfl)

/-- Moving the day into another month means the same. -/
theorem resolveIn_eq_ok_iff {year month : Int} :
    (d.resolveIn year month).result = .ok d' ↔
      d'.chronology = d.chronology ∧ d'.year = year ∧ d'.month = month ∧
        d'.day = min d.day d'.lengthOfMonth := by
  have hresolve : (resolve d.chronology year month d.day).result = .ok d' ↔
      d'.chronology = d.chronology ∧ d'.year = year ∧ d'.month = month ∧
        d'.day = min d.day d'.lengthOfMonth := by
    rw [resolve_eq_ok_iff]
    refine ⟨?_, ?_⟩
    · rintro ⟨-, hc, rfl, rfl, hday⟩
      rw [← hc] at hday
      exact ⟨hc, rfl, rfl, hday⟩
    · rintro ⟨hc, rfl, rfl, hday⟩
      rw [lengthOfMonth, hc] at hday
      exact ⟨d.isDate.one_le_day, hc, rfl, rfl, hday⟩
  by_cases hy : year ∈ yearRange
  · rw [resolveIn, if_pos hy, hresolve]
  · rw [resolveIn, if_neg hy]
    refine ⟨?_, ?_⟩
    · intro h
      cases h
    · rintro ⟨-, rfl, -, -⟩
      exact absurd d'.year_mem_yearRange hy

/-! ## Moves by months -/

/-- A chronology has a date in every month of the supported years, with the day of a given date
as far as the month has it. -/
theorem exists_in_month (d : Date) {m : Int} (h₁ : Chronology.firstMonth ≤ m)
    (h₂ : m ≤ Chronology.lastMonth) :
    ∃ d' : Date, d'.chronology = d.chronology ∧ d'.prolepticMonth = m ∧
      d'.day = min d.day d'.lengthOfMonth := by
  have hmonth := Chronology.month_mem m
  have hyear := Chronology.div_mem_yearRange_iff.mpr ⟨h₁, h₂⟩
  refine ⟨clamp d.chronology (m / monthsPerYear) (m % monthsPerYear + 1) d.day hyear hmonth
    d.isDate.one_le_day, rfl, ?_, rfl⟩
  change m / monthsPerYear * monthsPerYear + (m % monthsPerYear + 1) - 1 = m
  simp only [monthsPerYear]
  omega

/-- Two numbers agree if they agree in the year and the month. -/
theorem prolepticMonth_eq_iff {m : Int} :
    d.prolepticMonth = m ↔ d.year = m / monthsPerYear ∧ d.month = m % monthsPerYear + 1 := by
  refine ⟨?_, ?_⟩
  · rintro rfl
    exact ⟨d.prolepticMonth_div.symm, d.prolepticMonth_mod.symm⟩
  · rintro ⟨hy, hm⟩
    rw [prolepticMonth, hy, hm]
    simp only [monthsPerYear]
    omega

/-- The months of the supported years fit in 64 bits. -/
theorem mem_range_of_div_mem_yearRange {m : Int} (h : m / monthsPerYear ∈ yearRange) :
    m ∈ Amount.range := by
  rw [mem_yearRange] at h
  rw [Amount.mem_range]
  simp only [minYear, maxYear, monthsPerYear] at h
  omega

/-- The months of dates fit in 64 bits. -/
theorem prolepticMonth_mem_range (d : Date) : d.prolepticMonth ∈ Amount.range := by
  refine mem_range_of_div_mem_yearRange ?_
  rw [prolepticMonth_div]
  exact d.year_mem_yearRange

/-- The day of a date needs no moving back in its own month. -/
theorem min_day_lengthOfMonth (d : Date) : min d.day d.lengthOfMonth = d.day :=
  Int.min_eq_left d.isDate.day_le

/-- **What a month move does**: it ends in the month whose number is so much larger, on the same
day of the month or on the last that the month has. -/
theorem plusMonths_eq_ok_iff {n : Int} :
    (d.plusMonths n).result = .ok d' ↔
      d'.chronology = d.chronology ∧ d'.prolepticMonth = d.prolepticMonth + n ∧
        d'.day = min d.day d'.lengthOfMonth := by
  by_cases hn : n = 0
  · rw [plusMonths, if_pos hn, hn, Int.add_zero, Logged.result_pure]
    refine ⟨?_, ?_⟩
    · intro h
      obtain rfl := Except.ok.inj h
      exact ⟨rfl, rfl, d.min_day_lengthOfMonth.symm⟩
    · rintro ⟨hc, hm, hday⟩
      rw [lengthOfMonth_congr hc hm, min_day_lengthOfMonth] at hday
      rw [ext_month_day hc hm hday]
  · rw [plusMonths, if_neg hn, Logged.result_bind, Outcome.bind_eq_ok_iff]
    simp only [Logged.result_lift, Amount.add, Amount.ofInt_eq_ok_iff]
    refine ⟨?_, ?_⟩
    · rintro ⟨m, ⟨-, rfl⟩, h⟩
      obtain ⟨hc, hy, hm, hday⟩ := resolveIn_eq_ok_iff.mp h
      exact ⟨hc, prolepticMonth_eq_iff.mpr ⟨hy, hm⟩, hday⟩
    · rintro ⟨hc, hm, hday⟩
      obtain ⟨hy, hmonth⟩ := prolepticMonth_eq_iff.mp hm
      refine ⟨_, ⟨?_, rfl⟩, resolveIn_eq_ok_iff.mpr ⟨hc, hy, hmonth, hday⟩⟩
      rw [← hm]
      exact d'.prolepticMonth_mem_range

/-- A month move never moves the day forward. -/
theorem day_le_of_plusMonths {n : Int} (h : (d.plusMonths n).result = .ok d') : d'.day ≤ d.day := by
  obtain ⟨-, -, hday⟩ := plusMonths_eq_ok_iff.mp h
  exact hday ▸ Int.min_le_left _ _

/-- A month move to a month of the supported years succeeds. -/
theorem exists_plusMonths (d : Date) {n : Int}
    (h₁ : Chronology.firstMonth ≤ d.prolepticMonth + n)
    (h₂ : d.prolepticMonth + n ≤ Chronology.lastMonth) :
    ∃ d', (d.plusMonths n).result = .ok d' := by
  obtain ⟨d', h⟩ := d.exists_in_month h₁ h₂
  exact ⟨d', plusMonths_eq_ok_iff.mpr h⟩

/-! ## Moves by days -/

/-- The day numbers of the supported years fit in 64 bits. -/
theorem epochDay_mem_range (d : Date) : d.epochDay ∈ Amount.range := by
  have h := d.epochDay_mem_epochDayRange
  have hmin : ∀ c : Chronology, Amount.range.min ≤ c.epochDayRange.min := by
    intro c
    cases c <;> decide
  have hmax : ∀ c : Chronology, c.epochDayRange.max ≤ Amount.range.max := by
    intro c
    cases c <;> decide
  exact ⟨Int.le_trans (hmin _) h.1, Int.le_trans h.2 (hmax _)⟩

/-- **What a day move does**: it ends at the date whose number is so much larger. -/
theorem plusDays_eq_ok_iff {n : Int} :
    d.plusDays n = .ok d' ↔ d'.chronology = d.chronology ∧ d'.epochDay = d.epochDay + n := by
  by_cases hn : n = 0
  · rw [plusDays, if_pos hn, hn, Int.add_zero]
    refine ⟨?_, ?_⟩
    · intro h
      obtain rfl := Except.ok.inj h
      exact ⟨rfl, rfl⟩
    · rintro ⟨hc, he⟩
      rw [epochDay_inj hc he]
  · rw [plusDays, if_neg hn, Outcome.bind_eq_ok_iff]
    simp only [Outcome.mapError_eq_ok_iff, Amount.add, Amount.ofInt_eq_ok_iff,
      ofEpochDay_eq_ok_iff]
    refine ⟨?_, ?_⟩
    · rintro ⟨e, ⟨-, rfl⟩, hc, he⟩
      exact ⟨hc, he⟩
    · rintro ⟨hc, he⟩
      refine ⟨_, ⟨?_, rfl⟩, hc, he⟩
      rw [← he]
      exact d'.epochDay_mem_range

/-- A day move back undoes a day move. -/
theorem plusDays_neg {n : Int} (h : d.plusDays n = .ok d') : d'.plusDays (-n) = .ok d := by
  obtain ⟨hc, he⟩ := plusDays_eq_ok_iff.mp h
  exact plusDays_eq_ok_iff.mpr ⟨hc.symm, by omega⟩

/-! ## Moves to where no date is supported -/

/-- **Days before and after the supported years cannot be moved to.** -/
theorem plusDays_eq_overflow {n : Int} (h : d.epochDay + n ∉ d.chronology.epochDayRange) :
    d.plusDays n = .error .arithmeticOverflow := by
  have hn : n ≠ 0 := by
    rintro rfl
    rw [Int.add_zero] at h
    exact h d.epochDay_mem_epochDayRange
  rw [plusDays, if_neg hn]
  by_cases he : d.epochDay + n ∈ Amount.range
  · rw [Amount.add, Amount.ofInt_of_mem he]
    change (ofEpochDay d.chronology (d.epochDay + n)).mapError _ = _
    rw [ofEpochDay_eq_error_iff.mpr ⟨h, rfl⟩]
    rfl
  · rw [Amount.add, Amount.ofInt_of_not_mem he]
    rfl

/-- A day move to a supported number succeeds. -/
theorem exists_plusDays {n : Int} (h : d.epochDay + n ∈ d.chronology.epochDayRange) :
    ∃ d', d.plusDays n = .ok d' := by
  obtain ⟨d', hd'⟩ := exists_ofEpochDay_iff.mpr h
  exact ⟨d', plusDays_eq_ok_iff.mpr (ofEpochDay_eq_ok_iff.mp hd')⟩

/-- A year that is not supported has no month to move the day into. -/
theorem resolveIn_eq_overflow {year month : Int} (h : year ∉ yearRange) :
    d.resolveIn year month = .ofExcept (.error .arithmeticOverflow) :=
  if_neg h

/-- **Months before and after the supported years cannot be moved to.** -/
theorem plusMonths_eq_overflow {n : Int}
    (h : ¬(Chronology.firstMonth ≤ d.prolepticMonth + n ∧
      d.prolepticMonth + n ≤ Chronology.lastMonth)) :
    d.plusMonths n = .ofExcept (.error .arithmeticOverflow) := by
  have hn : n ≠ 0 := by
    rintro rfl
    rw [Int.add_zero] at h
    exact h ⟨d.firstMonth_le_prolepticMonth, d.prolepticMonth_le_lastMonth⟩
  rw [plusMonths, if_neg hn]
  by_cases hm : d.prolepticMonth + n ∈ Amount.range
  · rw [← Chronology.div_mem_yearRange_iff] at h
    rw [Amount.add, Amount.ofInt_of_mem hm, Logged.lift_ok_bind, resolveIn_eq_overflow h]
  · rw [Amount.add, Amount.ofInt_of_not_mem hm, Logged.lift_error_bind]

/-- Years before and after the supported ones cannot be moved to. -/
theorem plusYears_eq_overflow {n : Int} (h : d.year + n ∉ yearRange) :
    d.plusYears n = .ofExcept (.error .arithmeticOverflow) := by
  have hn : n ≠ 0 := by
    rintro rfl
    rw [Int.add_zero] at h
    exact h d.year_mem_yearRange
  rw [plusYears, if_neg hn]
  by_cases hy : d.year + n ∈ Amount.range
  · rw [Amount.add, Amount.ofInt_of_mem hy, Logged.lift_ok_bind, resolveIn_eq_overflow h]
  · rw [Amount.add, Amount.ofInt_of_not_mem hy, Logged.lift_error_bind]

/-! ## Moves by years -/

/-- The supported years fit in 64 bits. -/
theorem mem_range_of_mem_yearRange {year : Int} (h : year ∈ yearRange) : year ∈ Amount.range := by
  rw [mem_yearRange] at h
  rw [Amount.mem_range]
  simp only [minYear, maxYear] at h
  omega

/-- Twelve times as many months later is as many years later. -/
theorem prolepticMonth_add_div (d : Date) (n : Int) :
    (d.prolepticMonth + monthsPerYear * n) / monthsPerYear = d.year + n := by
  have hdiv := d.prolepticMonth_div
  simp only [monthsPerYear] at *
  omega

/-- Twelve times as many months later is the same month of the year. -/
theorem prolepticMonth_add_mod (d : Date) (n : Int) :
    (d.prolepticMonth + monthsPerYear * n) % monthsPerYear + 1 = d.month := by
  have hmod := d.prolepticMonth_mod
  simp only [monthsPerYear] at *
  omega

/-- **A year move is a month move**, by twelve times as many months. -/
theorem plusYears_eq_plusMonths (d : Date) (n : Int) :
    d.plusYears n = d.plusMonths (monthsPerYear * n) := by
  have hdiv := d.prolepticMonth_add_div n
  by_cases hn : n = 0
  · rw [hn, Int.mul_zero, plusYears, plusMonths, if_pos rfl, if_pos rfl]
  · by_cases hy : d.year + n ∈ yearRange
    · -- neither the sum of the years nor the sum of the months is refused
      have hyears := mem_range_of_mem_yearRange hy
      rw [← hdiv] at hy
      have hmonths := mem_range_of_div_mem_yearRange hy
      have hne : monthsPerYear * n ≠ 0 := Int.mul_ne_zero (by decide) hn
      rw [plusYears, if_neg hn, Amount.add, Amount.ofInt_of_mem hyears, Logged.lift_ok_bind,
        plusMonths, if_neg hne, Amount.add, Amount.ofInt_of_mem hmonths, Logged.lift_ok_bind, hdiv,
        d.prolepticMonth_add_mod n]
    · rw [plusYears_eq_overflow hy, plusMonths_eq_overflow]
      rw [← Chronology.div_mem_yearRange_iff, hdiv]
      exact hy

/-- **What a year move does**: it ends in the same month of the year that is so many years later,
on the same day or on the last that the month has. -/
theorem plusYears_eq_ok_iff {n : Int} :
    (d.plusYears n).result = .ok d' ↔
      d'.chronology = d.chronology ∧ d'.year = d.year + n ∧ d'.month = d.month ∧
        d'.day = min d.day d'.lengthOfMonth := by
  rw [plusYears_eq_plusMonths, plusMonths_eq_ok_iff, prolepticMonth_eq_iff,
    prolepticMonth_add_div, prolepticMonth_add_mod, and_assoc]

/-! ## What a month move records -/

/-- Another day than the requested one is recorded. -/
theorem clampEvents_of_ne {requested : Int} (h : d.day ≠ requested) :
    clampEvents requested d = [.clampedDay d.chronology d.year d.month requested d.day] :=
  if_neg h

/-- Nothing is recorded exactly if the day is the requested one. -/
theorem clampEvents_eq_nil_iff {requested : Int} :
    clampEvents requested d = [] ↔ d.day = requested := by
  by_cases h : d.day = requested
  · rw [clampEvents, if_pos h]
    exact ⟨fun _ => h, fun _ => rfl⟩
  · rw [clampEvents_of_ne h]
    exact ⟨fun h' => (by cases h'), fun h' => absurd h' h⟩

/-- What there is to record of a date that came out of resolving a day: that the day was moved back.
There is nothing to record where no day was resolved. -/
def resolvedEvents (requested : Option Int) (d : Date) : List Event :=
  match requested with
  | some day => clampEvents day d
  | none => []

/-- **A log as it should be**, of a computation that resolves a day, or resolves none. -/
structure Records (x : Logged Date) (requested : Option Int) : Prop where
  /-- of a date, it is recorded that the day was moved back, or nothing -/
  of_ok : ∀ d, x.result = .ok d → x.events = resolvedEvents requested d
  /-- of a failure, nothing is recorded -/
  of_error : ∀ e, x.result = .error e → x.events = []

variable {requested : Option Int}

/-- A computation that records nothing, and resolves no day. -/
theorem records_ofExcept (x : Except CalendarError Date) : Records (.ofExcept x) none where
  of_ok _ _ := rfl
  of_error _ _ := rfl

/-- A failure that records nothing, on the way to resolving a day or not. -/
theorem records_error (e : CalendarError) (requested : Option Int) :
    Records (.ofExcept (.error e)) requested where
  of_ok := by
    intro d h
    cases h
  of_error _ _ := rfl

/-- A date that keeps its day needs no record of it. -/
theorem records_pure (d : Date) : Records (pure d) (some d.day) where
  of_ok := by
    intro d' h
    obtain rfl := Except.ok.inj h
    rw [Logged.events_pure]
    exact (clampEvents_eq_nil_iff.mpr rfl).symm
  of_error _ _ := rfl

/-- Steps that record nothing before it do not disturb the log. -/
theorem records_bind {α : Type} (x : Except CalendarError α) {f : α → Logged Date}
    (hf : ∀ a, Records (f a) requested) : Records (liftM x >>= f) requested := by
  cases x with
  | error e =>
    rw [Logged.lift_error_bind]
    exact records_error e requested
  | ok a =>
    rw [Logged.lift_ok_bind]
    exact hf a

/-- **Resolving records that it moved the day back**, or nothing. -/
theorem records_resolve (c : Chronology) (year month day : Int) :
    Records (resolve c year month day) (some day) := by
  by_cases hy : year ∈ yearRange
  · by_cases hm : month ∈ monthRange
    · by_cases hd : 1 ≤ day
      · rw [resolve, dif_pos hy, dif_pos hm, dif_pos hd]
        refine ⟨?_, ?_⟩
        · intro d h
          obtain rfl := Except.ok.inj h
          rfl
        · intro e h
          cases h
      · rw [resolve, dif_pos hy, dif_pos hm, dif_neg hd]
        exact records_error _ _
    · rw [resolve, dif_pos hy, dif_neg hm]
      exact records_error _ _
  · rw [resolve, dif_neg hy]
    exact records_error _ _

/-- So does moving the day into another month. -/
theorem records_resolveIn (d : Date) (year month : Int) :
    Records (d.resolveIn year month) (some d.day) := by
  by_cases hy : year ∈ yearRange
  · rw [resolveIn, if_pos hy]
    exact records_resolve d.chronology year month d.day
  · rw [resolveIn_eq_overflow hy]
    exact records_error _ _

/-- **A month move records that it moved the day back**, or nothing. -/
theorem records_plusMonths (d : Date) (n : Int) : Records (d.plusMonths n) (some d.day) := by
  by_cases hn : n = 0
  · rw [plusMonths, if_pos hn]
    exact records_pure d
  · rw [plusMonths, if_neg hn]
    exact records_bind _ fun m => records_resolveIn d _ _

/-- What a month move to a date has recorded. -/
theorem events_plusMonths {n : Int} (h : (d.plusMonths n).result = .ok d') :
    (d.plusMonths n).events = clampEvents d.day d' :=
  (records_plusMonths d n).of_ok d' h

end Calendrics.Date
