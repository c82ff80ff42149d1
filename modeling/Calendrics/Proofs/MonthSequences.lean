import Mathlib.Data.Int.Order.Basic
import Mathlib.Order.Bounds.Basic
import Calendrics.Proofs.Sequences

/-!
# Month moves one after another

Moves by months, years, decades, centuries and millennia do not add up as moves by days do. A move
to a short month moves the day back, and no later move brings it forward again: a month forward and
a month back from the last of January is not the last of January.

Two things still hold of a whole sequence of such moves. The months add up, and of the day there is
left what the shortest month on the way has room for:

* `Date.Visits`, `Date.visitedLengths` — the dates that a sequence comes by, and the lengths of
  their months;
* `month_and_day_of_moveAlong` — **the months add up, and the day is the least** of the first day
  and the lengths of the months visited;
* `events_moveAlong_eq_nil_iff` — a sequence records nothing exactly if it ends on the day of the
  month that it started from;
* `month_moves_accumulate` — **sequences of months end in one month**, and only those that move no
  day back lead back to where they started.
-/

namespace Calendrics

/-! ## Months of a sequence -/

namespace Move

variable {m : Move}

/-- A move counts in months, or in one of the units made of years. -/
def IsOfMonths (m : Move) : Prop :=
  m.unit ∈ [TimeUnit.months, .years, .decades, .centuries, .millennia]

instance (m : Move) : Decidable m.IsOfMonths :=
  inferInstanceAs (Decidable (_ ∈ [TimeUnit.months, .years, .decades, .centuries, .millennia]))

/-- The months that a move adds, if it counts in months or in a unit made of years. -/
def months (m : Move) : Int :=
  match m.unit.stride with
  | some (.months k) => k * m.signedAmount
  | _ => 0

/-- The months that a sequence of moves adds. -/
def totalMonths (moves : List Move) : Int :=
  (moves.map months).sum

/-- Months and the units made of years are runs of months. -/
theorem IsOfMonths.exists_stride (h : m.IsOfMonths) :
    ∃ k, m.unit.stride = some (.months k) :=
  TimeUnit.exists_months_of_mem h

theorem totalMonths_cons (m : Move) (rest : List Move) :
    totalMonths (m :: rest) = m.months + totalMonths rest :=
  List.sum_cons

end Move

namespace Date

variable {d d' next r : Date} {m : Move} {moves rest : List Move}

/-- **A move by months or years is a month move.** -/
theorem move_of_months (h : m.IsOfMonths) : d.move m = d.plusMonths m.months := by
  obtain ⟨k, hk⟩ := h.exists_stride
  rw [move_eq_plusLogged (TimeUnit.ne_eras_of_stride hk), plusLogged_of_months hk, Move.months, hk]

/-! ## What a sequence comes by -/

/-- A sequence visits a date if its first moves lead there. The date that it starts from is the
first one visited, and where it ends is the last. -/
def Visits (d : Date) (moves : List Move) (r : Date) : Prop :=
  ∃ first, first <+: moves ∧ (d.moveAlong first).result = .ok r

/-- The lengths of the months that a sequence visits. -/
def visitedLengths (d : Date) (moves : List Move) : Set Int :=
  {length | ∃ r, d.Visits moves r ∧ length = r.lengthOfMonth}

/-- A sequence visits the date that it starts from. -/
theorem visits_self (d : Date) (moves : List Move) : d.Visits moves d :=
  ⟨[], List.nil_prefix, moveAlong_nil_eq_ok_iff.mpr rfl⟩

/-- Without moves, only the date itself is visited. -/
theorem visits_nil_iff : d.Visits [] r ↔ r = d := by
  refine ⟨?_, ?_⟩
  · rintro ⟨first, hfirst, hr⟩
    obtain rfl := List.prefix_nil.mp hfirst
    exact moveAlong_nil_eq_ok_iff.mp hr
  · rintro rfl
    exact r.visits_self []

/-- After a first move that succeeds, the dates visited are the one before it and those that the
later moves visit. -/
theorem visits_cons_iff (h : (d.move m).result = .ok next) :
    d.Visits (m :: rest) r ↔ r = d ∨ next.Visits rest r := by
  refine ⟨?_, ?_⟩
  · rintro ⟨first, hfirst, hr⟩
    -- either no move is made yet, or the first one is among those made
    rcases List.prefix_cons_iff.mp hfirst with rfl | ⟨later, rfl, hlater⟩
    · exact .inl (moveAlong_nil_eq_ok_iff.mp hr)
    · obtain ⟨next', hnext', hr⟩ := moveAlong_cons_eq_ok_iff.mp hr
      rw [h] at hnext'
      obtain rfl := Except.ok.inj hnext'
      exact .inr ⟨later, hlater, hr⟩
  · rintro (rfl | ⟨later, hlater, hr⟩)
    · exact r.visits_self _
    · exact ⟨m :: later, List.prefix_cons_inj m |>.mpr hlater,
        moveAlong_cons_eq_ok_iff.mpr ⟨next, h, hr⟩⟩

theorem visitedLengths_nil (d : Date) : d.visitedLengths [] = {d.lengthOfMonth} := by
  ext length
  simp only [visitedLengths, visits_nil_iff, Set.mem_ofPred_eq, exists_eq_left,
    Set.mem_singleton_iff]

theorem visitedLengths_cons (h : (d.move m).result = .ok next) :
    d.visitedLengths (m :: rest) = insert d.lengthOfMonth (next.visitedLengths rest) := by
  ext length
  simp only [visitedLengths, visits_cons_iff h, Set.mem_ofPred_eq, Set.mem_insert_iff, or_and_right,
    exists_or, exists_eq_left]

/-- The month that a sequence starts from is among those visited. -/
theorem lengthOfMonth_mem_visitedLengths (d : Date) (moves : List Move) :
    d.lengthOfMonth ∈ d.visitedLengths moves :=
  ⟨d, d.visits_self moves, rfl⟩

/-! ## The months and the day -/

/-- **Along a sequence the months add up, and the day is the least** of the first day and the
lengths of the months visited. -/
theorem month_and_day_of_moveAlong (hmoves : ∀ m ∈ moves, m.IsOfMonths)
    (h : (d.moveAlong moves).result = .ok d') :
    d'.chronology = d.chronology ∧ d'.prolepticMonth = d.prolepticMonth + Move.totalMonths moves ∧
      ∃ shortest, IsLeast (d.visitedLengths moves) shortest ∧ d'.day = min d.day shortest := by
  induction moves generalizing d with
  | nil =>
    obtain rfl := moveAlong_nil_eq_ok_iff.mp h
    refine ⟨rfl, (Int.add_zero _).symm, d'.lengthOfMonth, ?_, d'.min_day_lengthOfMonth.symm⟩
    rw [visitedLengths_nil]
    exact isLeast_singleton
  | cons m rest ih =>
    obtain ⟨hm, hrest⟩ := List.forall_mem_cons.mp hmoves
    obtain ⟨next, hnext, htail⟩ := moveAlong_cons_eq_ok_iff.mp h
    obtain ⟨hc', hm', shortest, hshortest, hday'⟩ := ih hrest htail
    rw [visitedLengths_cons hnext]
    rw [move_of_months hm] at hnext
    obtain ⟨hc, hmonth, hday⟩ := plusMonths_eq_ok_iff.mp hnext
    refine ⟨hc'.trans hc, ?_, _, hshortest.insert _, ?_⟩
    · rw [hm', hmonth, Move.totalMonths_cons, Int.add_assoc]
    · -- the month reached is one of those that the later moves visit
      have hnextLength := hshortest.2 (next.lengthOfMonth_mem_visitedLengths rest)
      have hown := d.min_day_lengthOfMonth
      omega

/-- A sequence never moves the day forward. -/
theorem day_le_of_moveAlong (hmoves : ∀ m ∈ moves, m.IsOfMonths)
    (h : (d.moveAlong moves).result = .ok d') : d'.day ≤ d.day := by
  obtain ⟨-, -, shortest, -, hday⟩ := month_and_day_of_moveAlong hmoves h
  omega

/-! ## Sequences that move no day back -/

/-- A move records nothing exactly if it keeps the day. -/
theorem events_move_eq_nil_iff (hm : m.IsOfMonths) (h : (d.move m).result = .ok next) :
    (d.move m).events = [] ↔ next.day = d.day := by
  rw [move_of_months hm] at h ⊢
  rw [events_plusMonths h, clampEvents_eq_nil_iff]

/-- **A sequence records nothing exactly if it ends on the day that it started from**: a day once
moved back stays back. -/
theorem events_moveAlong_eq_nil_iff (hmoves : ∀ m ∈ moves, m.IsOfMonths)
    (h : (d.moveAlong moves).result = .ok d') :
    (d.moveAlong moves).events = [] ↔ d'.day = d.day := by
  induction moves generalizing d with
  | nil =>
    obtain rfl := moveAlong_nil_eq_ok_iff.mp h
    exact iff_of_true rfl rfl
  | cons m rest ih =>
    obtain ⟨hm, hrest⟩ := List.forall_mem_cons.mp hmoves
    obtain ⟨next, hnext, htail⟩ := moveAlong_cons_eq_ok_iff.mp h
    have hstep : next.day ≤ d.day := day_le_of_plusMonths (move_of_months hm ▸ hnext)
    have hlater := day_le_of_moveAlong hrest htail
    rw [events_moveAlong_cons hnext, List.append_eq_nil_iff, events_move_eq_nil_iff hm hnext,
      ih hrest htail]
    -- a day that never rises ends where it began only if it falls nowhere
    omega

/-- Then, and only then, all dates visited are on that day. -/
theorem events_moveAlong_eq_nil_iff_visits (hmoves : ∀ m ∈ moves, m.IsOfMonths)
    (h : (d.moveAlong moves).result = .ok d') :
    (d.moveAlong moves).events = [] ↔ ∀ r, d.Visits moves r → r.day = d.day := by
  induction moves generalizing d with
  | nil =>
    refine iff_of_true rfl ?_
    intro r hr
    rw [visits_nil_iff.mp hr]
  | cons m rest ih =>
    obtain ⟨hm, hrest⟩ := List.forall_mem_cons.mp hmoves
    obtain ⟨next, hnext, htail⟩ := moveAlong_cons_eq_ok_iff.mp h
    rw [events_moveAlong_cons hnext, List.append_eq_nil_iff, events_move_eq_nil_iff hm hnext,
      ih hrest htail]
    refine ⟨?_, ?_⟩
    · rintro ⟨hday, hlater⟩ r hr
      rcases (visits_cons_iff hnext).mp hr with rfl | hr
      · rfl
      · exact (hlater r hr).trans hday
    · intro hall
      have hlater : ∀ r, next.Visits rest r → r.day = d.day := fun r hr =>
        hall r ((visits_cons_iff hnext).mpr (.inr hr))
      have hday := hlater next (next.visits_self rest)
      exact ⟨hday, fun r hr => (hlater r hr).trans hday.symm⟩

/-! ## What accumulates -/

/-- **Sequences of months end in one month.** A sequence that succeeds ends so many months later as
its moves add, on the first day or, if that is less, on the last day of the shortest month visited;
so all sequences with one total end in one month. A sequence that ends in the month that it
started from restores the date exactly if it records nothing, and it records nothing exactly if it
moves no day back, so that all dates visited are on one day of the month. -/
theorem month_moves_accumulate (d d' : Date) (moves : List Move)
    (hmoves : ∀ m ∈ moves, m.IsOfMonths) (h : (d.moveAlong moves).result = .ok d') :
    d'.chronology = d.chronology ∧ d'.prolepticMonth = d.prolepticMonth + Move.totalMonths moves ∧
    (∃ shortest, IsLeast (d.visitedLengths moves) shortest ∧ d'.day = min d.day shortest) ∧
    (∀ others d'', (∀ m ∈ others, m.IsOfMonths) →
      Move.totalMonths others = Move.totalMonths moves → (d.moveAlong others).result = .ok d'' →
        d''.year = d'.year ∧ d''.month = d'.month) ∧
    (d'.prolepticMonth = d.prolepticMonth → (d' = d ↔ (d.moveAlong moves).events = [])) ∧
    ((d.moveAlong moves).events = [] ↔ ∀ r, d.Visits moves r → r.day = d.day) := by
  obtain ⟨hc, hmonth, hday⟩ := month_and_day_of_moveAlong hmoves h
  refine ⟨hc, hmonth, hday, ?_, ?_, events_moveAlong_eq_nil_iff_visits hmoves h⟩
  · intro others d'' hothers htotal h'
    obtain ⟨-, hmonth', -⟩ := month_and_day_of_moveAlong hothers h'
    have hsame : d''.prolepticMonth = d'.prolepticMonth := by rw [hmonth', hmonth, htotal]
    rw [← d''.prolepticMonth_div, ← d''.prolepticMonth_mod, ← d'.prolepticMonth_div,
      ← d'.prolepticMonth_mod, hsame]
    exact ⟨rfl, rfl⟩
  · intro hback
    rw [events_moveAlong_eq_nil_iff hmoves h]
    exact ⟨congrArg fun r : Date => r.day, ext_month_day hc hback⟩

/-- From the last of January over February and back: the shortest month visited has 29 days, so the
sequence does not restore the date; a decade forward and 120 months back end in the same month. -/
theorem month_moves_accumulate_february :
    (∀ m ∈ [Move.forward 1 .months, .back 1 .months], m.IsOfMonths) ∧
      (moveAlong ⟨⟨2024, 1, 31⟩, .iso, by decide⟩ [.forward 1 .months, .back 1 .months]).result =
        .ok ⟨⟨2024, 1, 29⟩, .iso, by decide⟩ ∧
      (∃ shortest, IsLeast (visitedLengths ⟨⟨2024, 1, 31⟩, .iso, by decide⟩
        [.forward 1 .months, .back 1 .months]) shortest ∧ 29 = min 31 shortest) ∧
      (∀ d'', (moveAlong ⟨⟨2024, 1, 31⟩, .iso, by decide⟩
        [.forward 1 .decades, .back 120 .months]).result = .ok d'' →
          d''.year = 2024 ∧ d''.month = 1) ∧
      (moveAlong ⟨⟨2024, 1, 31⟩, .iso, by decide⟩ [.forward 1 .months, .back 1 .months]).events ≠
        [] := by
  have hmoves : ∀ m ∈ [Move.forward 1 .months, .back 1 .months], m.IsOfMonths := by decide
  obtain ⟨-, -, hday, hothers, hrestores, -⟩ := month_moves_accumulate
    ⟨⟨2024, 1, 31⟩, .iso, by decide⟩ ⟨⟨2024, 1, 29⟩, .iso, by decide⟩ _ hmoves rfl
  refine ⟨hmoves, rfl, hday, fun d'' => hothers _ d'' (by decide) rfl, fun hnothing => ?_⟩
  have hsame := (hrestores rfl).mpr hnothing
  exact absurd (congrArg (fun r : Date => r.day) hsame) (by decide)

end Date

end Calendrics
