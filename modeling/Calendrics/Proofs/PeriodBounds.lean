import Calendrics.Proofs.FieldRanges
import Calendrics.Proofs.Runs
import Calendrics.Proofs.WholeMonths

/-!
# How large periods get

A period is not built from parts that a caller chooses: it is the gap between two dates, or another
period turned round. So its parts are small, the months less than a year and the days at most two
months, and the years no more than lie between two supported dates.

* `Period.InReach` — these bounds;
* `inReach_of_periodUntil` — the gap between two dates keeps to them;
* `Calculator.inReach_of_mem_run` — **so does every period of a run**, because a step adds no others.
-/

namespace Calendrics

/-! ## Bounds -/

/-- The parts of a period are as small as those of a gap between dates. -/
structure Period.InReach (p : Period) : Prop where
  /-- the years that lie between two dates -/
  years : -2000000000 ≤ p.years ∧ p.years ≤ 2000000000
  /-- less than a year -/
  months : -11 ≤ p.months ∧ p.months ≤ 11
  /-- at most two months -/
  days : -62 ≤ p.days ∧ p.days ≤ 62

/-- Turning a period round changes no part's size. -/
theorem Period.InReach.negated {p : Period} (h : p.InReach) : p.negated.InReach := by
  obtain ⟨hyears, hmonths, hdays⟩ := h
  refine ⟨?_, ?_, ?_⟩ <;> simp only [Period.negated] <;> omega

/-- The split of a number of months that lie between two dates is in reach. -/
theorem Period.inReach_of_ofMonthsDays {c : Chronology} {months days : Int} {p : Period}
    (h : Period.ofMonthsDays c months days = .ok p)
    (hmonths : -24000000000 ≤ months ∧ months ≤ 24000000000) (hdays : -62 ≤ days ∧ days ≤ 62) :
    p.InReach := by
  obtain rfl := Period.eq_of_ofMonthsDays h
  have hrest₁ := Int.lt_tmod_of_pos months (show (0 : Int) < 12 by decide)
  have hrest₂ := Int.tmod_lt_of_pos months (show (0 : Int) < 12 by decide)
  have hsplit := Int.mul_tdiv_add_tmod months 12
  exact ⟨by dsimp only; omega, by dsimp only; omega, hdays⟩

namespace Date

variable {a b : Date} {p : Period}

/-- **The gap between two dates is in reach.** -/
theorem inReach_of_periodUntil (h : a.periodUntil b = .ok p) : p.InReach := by
  have hc := chronology_eq_of_periodUntil h
  have ha := a.prolepticMonth_bounds
  have hb := b.prolepticMonth_bounds
  have ha₁ := a.isDate.one_le_day
  have ha₂ := a.day_le
  have hb₁ := b.isDate.one_le_day
  have hb₂ := b.day_le
  have hlength := b.chronology.monthLength_bounds b.prolepticMonth
  rw [periodUntil_eq hc, lengthOfMonth_eq] at h
  split at h
  · obtain ⟨moved, hmoved, hp⟩ := Outcome.bind_eq_ok_iff.mp h
    obtain ⟨hmc, hmm, -⟩ := plusMonths_eq_ok_iff.mp hmoved
    have hdays := epochDay_sub_bounds (hmc.trans hc) (by omega : b.prolepticMonth = _)
    exact Period.inReach_of_ofMonthsDays hp (by omega) (by omega)
  · split at h
    · exact Period.inReach_of_ofMonthsDays h (by omega) (by omega)
    · exact Period.inReach_of_ofMonthsDays h (by omega) (by omega)

end Date

/-! ## Runs -/

namespace History

variable {δ : Type} {h : History δ}

theorem periods_addDate (d : Option δ) : (h.addDate d).periods = h.periods := by
  cases d <;> rfl

/-- A period is added at the end. -/
theorem mem_periods_addPeriod {o : Option Period} {p : Period} :
    p ∈ (h.addPeriod o).periods ↔ p ∈ h.periods ∨ o = some p := by
  cases o with
  | none => simp [addPeriod]
  | some q => simp [addPeriod, eq_comm]

end History

namespace Calculator

variable {δ : Type} {A : Calculator δ} {P : Period → Prop}

/-- **A step adds no other periods than gaps and turned ones.** -/
theorem step_periods (hgap : ∀ a b p, A.periodUntil a b = .ok p → P p)
    (hturn : ∀ p, P p → P p.negated) {h : History δ} (hP : ∀ p ∈ h.periods, P p)
    (request : Request) : ∀ p ∈ (A.step h request).periods, P p := by
  intro p hp
  -- the other requests add a date, or nothing
  have hdate : ∀ d : Option δ, p ∈ (h.addDate d).periods → P p := by
    intro d hp
    rw [History.periods_addDate] at hp
    exact hP p hp
  cases request with
  | ofFields c year month day => exact hdate _ hp
  | ofEpochDay c e => exact hdate _ hp
  | read x => exact hdate _ hp
  | convert i c => exact hdate _ hp
  | set i field value => exact hdate _ hp
  | plus i amount unit => exact hdate _ hp
  | minus i amount unit => exact hdate _ hp
  | plusPeriod i j => exact hdate _ hp
  | periodUntil i k =>
    rcases History.mem_periods_addPeriod.mp hp with hp | hp
    · exact hP p hp
    · obtain ⟨a, -, hp⟩ := Option.bind_eq_some_iff.mp hp
      obtain ⟨b, -, hp⟩ := Option.bind_eq_some_iff.mp hp
      cases hgapAB : A.periodUntil a b with
      | error e =>
        rw [hgapAB] at hp
        cases hp
      | ok q =>
        rw [hgapAB] at hp
        obtain rfl := Option.some.inj hp
        exact hgap a b q hgapAB
  | negate j =>
    rcases History.mem_periods_addPeriod.mp hp with hp | hp
    · exact hP p hp
    · obtain ⟨q, hq, rfl⟩ := Option.map_eq_some_iff.mp hp
      exact hturn q (hP q (List.mem_of_getElem? hq))

/-- Hence a run has no others. -/
theorem run_periods (hgap : ∀ a b p, A.periodUntil a b = .ok p → P p)
    (hturn : ∀ p, P p → P p.negated) (requests : List Request) :
    ∀ p ∈ (A.run requests).periods, P p := by
  have hrun : ∀ h : History δ, (∀ p ∈ h.periods, P p) →
      ∀ p ∈ (requests.foldl A.step h).periods, P p := by
    induction requests with
    | nil => exact fun _ hP => hP
    | cons request rest ih => exact fun _ hP => ih _ (step_periods hgap hturn hP request)
  refine hrun ⟨[], []⟩ ?_
  intro p hp
  cases hp

/-- **Every period of a run is in reach.** -/
theorem inReach_of_mem_run {requests : List Request} {p : Period}
    (hp : p ∈ (ofDates.run requests).periods) : p.InReach := by
  have hgap : ∀ a b p, ofDates.periodUntil a b = .ok p → p.InReach := by
    intro a b p h
    exact Date.inReach_of_periodUntil h
  have hturn : ∀ p : Period, p.InReach → p.negated.InReach := by
    intro p h
    exact h.negated
  exact run_periods hgap hturn requests p hp

end Calculator

end Calendrics
