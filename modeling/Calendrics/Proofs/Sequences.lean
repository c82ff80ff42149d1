import Mathlib.Algebra.BigOperators.Group.List.Basic
import Calendrics.Proofs.FieldRanges

/-!
# Moves one after another

A sequence of moves forward and back, in whatever units, leads from a date to a date if each of its
moves succeeds. Every move decodes a date and encodes another, so it is not clear from the code that
two sequences with one total end at one date.

For moves by days and weeks they do. The day number is all that such a move looks at and all that it
changes, so the days of a sequence add up:

* `Move.days` — the days that a move adds, or takes away;
* `epochDay_of_moveAlong` — **along a sequence the days add up**;
* `dayOfWeek_of_plusDays` — the weekday moves on by the days, round and round;
* `day_moves_act` — **sequences of days and weeks act on dates as their totals do**.

What months add up to is another matter, see `Calendrics.Proofs.MonthSequences`.
-/

namespace Calendrics

/-! ## Moves -/

/-- A move of a date. -/
inductive Move where
  /-- forward by an amount of a unit -/
  | forward (amount : Int) (unit : TimeUnit)
  /-- back by an amount of a unit -/
  | back (amount : Int) (unit : TimeUnit)
deriving DecidableEq

namespace Move

variable {m : Move}

/-- The unit that a move counts in. -/
def unit : Move → TimeUnit
  | forward _ unit => unit
  | back _ unit => unit

/-- The amount that a move goes forward by, which is negative if it goes back. -/
def signedAmount : Move → Int
  | forward amount _ => amount
  | back amount _ => -amount

/-- A move counts in days or in weeks. -/
def IsOfDays (m : Move) : Prop :=
  m.unit ∈ [TimeUnit.days, .weeks]

instance (m : Move) : Decidable m.IsOfDays :=
  inferInstanceAs (Decidable (_ ∈ [TimeUnit.days, .weeks]))

/-- The days that a move adds, if it counts in days or in weeks. -/
def days (m : Move) : Int :=
  match m.unit.stride with
  | some (.days k) => k * m.signedAmount
  | _ => 0

/-- The days that a sequence of moves adds. -/
def totalDays (moves : List Move) : Int :=
  (moves.map days).sum

/-- Days and weeks are runs of days. -/
theorem IsOfDays.exists_stride (h : m.IsOfDays) : ∃ k, m.unit.stride = some (.days k) :=
  TimeUnit.exists_days_of_mem h

theorem totalDays_cons (m : Move) (rest : List Move) :
    totalDays (m :: rest) = m.days + totalDays rest :=
  List.sum_cons

/-- The order of the moves does not matter for their days. -/
theorem totalDays_perm {moves others : List Move} (h : others.Perm moves) :
    totalDays others = totalDays moves :=
  (h.map days).sum_eq

end Move

namespace Date

variable {d d' next : Date} {m : Move} {moves rest : List Move} {n : Int}

/-- The date that a move leads to, and the log of it. -/
def move (d : Date) : Move → Logged Date
  | .forward amount unit => d.plusLogged amount unit
  | .back amount unit => d.minusLogged amount unit

/-- The date that a sequence of moves leads to, and the log of all of them. -/
def moveAlong (d : Date) : List Move → Logged Date
  | [] => pure d
  | m :: rest => do (← d.move m).moveAlong rest

/-- A move back is a move forward by the negative amount. -/
theorem move_eq_plusLogged (hu : m.unit ≠ .eras) :
    d.move m = d.plusLogged m.signedAmount m.unit := by
  cases m with
  | forward amount unit => rfl
  | back amount unit => exact minusLogged_eq_plusLogged_neg hu

/-- No moves lead to the date itself. -/
theorem moveAlong_nil_eq_ok_iff : (d.moveAlong []).result = .ok d' ↔ d' = d :=
  ⟨fun h => (Except.ok.inj h).symm, fun h => congrArg Except.ok h.symm⟩

/-- A sequence leads where its later moves lead from where the first has led. -/
theorem moveAlong_cons_eq_ok_iff :
    (d.moveAlong (m :: rest)).result = .ok d' ↔
      ∃ next, (d.move m).result = .ok next ∧ (next.moveAlong rest).result = .ok d' := by
  rw [moveAlong, Logged.result_bind, Outcome.bind_eq_ok_iff]

/-- The log of the later moves comes after that of the first. -/
theorem events_moveAlong_cons (h : (d.move m).result = .ok next) :
    (d.moveAlong (m :: rest)).events = (d.move m).events ++ (next.moveAlong rest).events :=
  Logged.events_bind_of_ok h

/-! ## Days -/

/-- **A move by days or weeks is a day move.** -/
theorem move_of_days (h : m.IsOfDays) : d.move m = .ofExcept (d.plusDays m.days) := by
  obtain ⟨k, hk⟩ := h.exists_stride
  rw [move_eq_plusLogged (TimeUnit.ne_eras_of_stride hk), plusLogged_of_days hk, Move.days, hk]

/-- **Along a sequence the days add up.** -/
theorem epochDay_of_moveAlong (hmoves : ∀ m ∈ moves, m.IsOfDays)
    (h : (d.moveAlong moves).result = .ok d') :
    d'.chronology = d.chronology ∧ d'.epochDay = d.epochDay + Move.totalDays moves := by
  induction moves generalizing d with
  | nil =>
    obtain rfl := moveAlong_nil_eq_ok_iff.mp h
    exact ⟨rfl, (Int.add_zero _).symm⟩
  | cons m rest ih =>
    obtain ⟨hm, hrest⟩ := List.forall_mem_cons.mp hmoves
    obtain ⟨next, hnext, htail⟩ := moveAlong_cons_eq_ok_iff.mp h
    rw [move_of_days hm, Logged.result_ofExcept] at hnext
    obtain ⟨hc, he⟩ := plusDays_eq_ok_iff.mp hnext
    obtain ⟨hc', he'⟩ := ih hrest htail
    refine ⟨hc'.trans hc, ?_⟩
    rw [he', he, Move.totalDays_cons, Int.add_assoc]

/-- The days between two dates of a chronology fit in 64 bits. -/
theorem mem_range_of_epochDay_eq_add (h : d'.epochDay = d.epochDay + n) : n ∈ Amount.range := by
  have hstart := d.epochDay_bounds
  have hend := d'.epochDay_bounds
  rw [Amount.mem_range]
  omega

/-- A move by an amount of days is a day move. -/
theorem plus_days_eq (d : Date) (n : Int) : d.plus n .days = d.plusDays n := by
  rw [plus_of_days rfl, Int.one_mul]

/-- A move back by an amount of days is a day move by the negative amount. -/
theorem minus_days_eq (d : Date) (n : Int) : d.minus n .days = d.plusDays (-n) := by
  rw [minus, minusLogged_eq_plusLogged_neg (by decide), ← plus, plus_days_eq]

/-- A sequence of days and weeks leads where one move by all its days does. -/
theorem plus_days_of_moveAlong (hmoves : ∀ m ∈ moves, m.IsOfDays)
    (h : (d.moveAlong moves).result = .ok d') : d.plus (Move.totalDays moves) .days = .ok d' := by
  rw [plus_days_eq, plusDays_eq_ok_iff]
  exact epochDay_of_moveAlong hmoves h

/-! ## Weekdays -/

/-- **The weekday moves on by the days**, and begins again after the seventh. -/
theorem dayOfWeek_of_plusDays (h : d.plusDays n = .ok d') :
    d'.dayOfWeek = (d.dayOfWeek - 1 + n) % daysPerWeek + 1 := by
  obtain ⟨-, he⟩ := plusDays_eq_ok_iff.mp h
  simp only [dayOfWeek, daysPerWeek, he]
  omega

/-! ## The action -/

/-- **Sequences of days and weeks act on dates as their totals do.** A sequence that succeeds ends
where one move by the total of its days does, which is an amount that can be asked for; so it ends
at the same date in whatever order its moves come, if that succeeds too. Moving by the days between
two dates of one chronology leads from the one to the other. Moving back by as many days undoes a
move, and the weekday moves on by the days of a move, in a cycle from 1 to 7. -/
theorem day_moves_act (d : Date) :
    (∀ moves d', (∀ m ∈ moves, m.IsOfDays) → (d.moveAlong moves).result = .ok d' →
      Move.totalDays moves ∈ Amount.range ∧ d.plus (Move.totalDays moves) .days = .ok d' ∧
        ∀ others d'', others.Perm moves → (d.moveAlong others).result = .ok d'' → d'' = d') ∧
    (∀ finish : Date, d.chronology = finish.chronology →
      ∃ n, d.unitsUntil finish .days = .ok n ∧ d.plus n .days = .ok finish) ∧
    (∀ n d', d.plus n .days = .ok d' → d'.minus n .days = .ok d ∧
      d'.dayOfWeek = (d.dayOfWeek - 1 + n) % 7 + 1 ∧ 1 ≤ d'.dayOfWeek ∧ d'.dayOfWeek ≤ 7) := by
  refine ⟨?_, ?_, ?_⟩
  · intro moves d' hmoves h
    have htotal := plus_days_of_moveAlong hmoves h
    refine ⟨mem_range_of_epochDay_eq_add (epochDay_of_moveAlong hmoves h).2, htotal, ?_⟩
    intro others d'' hperm h'
    -- both sequences end where the one move by their common total does
    have hothers : ∀ m ∈ others, m.IsOfDays := fun m hm => hmoves m (hperm.mem_iff.mp hm)
    have htotal' := plus_days_of_moveAlong hothers h'
    rw [Move.totalDays_perm hperm, htotal] at htotal'
    exact (Except.ok.inj htotal').symm
  · intro finish hc
    refine ⟨d.daysUntil finish, ?_, ?_⟩
    · rw [unitsUntil_of_days hc rfl, Int.tdiv_one]
    · rw [plus_days_eq, plusDays_eq_ok_iff, daysUntil]
      exact ⟨hc.symm, by omega⟩
  · intro n d' h
    rw [plus_days_eq] at h
    obtain ⟨hc, he⟩ := plusDays_eq_ok_iff.mp h
    refine ⟨?_, dayOfWeek_of_plusDays h, d'.dayOfWeek_bounds⟩
    rw [minus_days_eq, plusDays_eq_ok_iff]
    exact ⟨hc.symm, by omega⟩

/-- From Thursday, the first day of 1970, back over a leap day: three weeks forward and 701 days
back end on Wednesday, 21 February 1968, which is day -680, and so do the same moves in the other
order and a single move by 680 days back. -/
theorem day_moves_act_before_1970 :
    (∀ m ∈ [Move.forward 3 .weeks, .back 701 .days], m.IsOfDays) ∧
      (moveAlong ⟨⟨1970, 1, 1⟩, .iso, by decide⟩ [.forward 3 .weeks, .back 701 .days]).result =
        .ok ⟨⟨1968, 2, 21⟩, .iso, by decide⟩ ∧
      Move.totalDays [.forward 3 .weeks, .back 701 .days] = -680 ∧
      plus ⟨⟨1970, 1, 1⟩, .iso, by decide⟩ (-680) .days = .ok ⟨⟨1968, 2, 21⟩, .iso, by decide⟩ ∧
      (∀ d', (moveAlong ⟨⟨1970, 1, 1⟩, .iso, by decide⟩
        [.back 701 .days, .forward 3 .weeks]).result = .ok d' →
          d' = ⟨⟨1968, 2, 21⟩, .iso, by decide⟩) ∧
      (∃ n, unitsUntil ⟨⟨1970, 1, 1⟩, .iso, by decide⟩ ⟨⟨1968, 2, 29⟩, .iso, by decide⟩ .days =
          .ok n ∧
        plus ⟨⟨1970, 1, 1⟩, .iso, by decide⟩ n .days = .ok ⟨⟨1968, 2, 29⟩, .iso, by decide⟩) ∧
      dayOfWeek ⟨⟨1968, 2, 21⟩, .iso, by decide⟩ = (4 - 1 + -680) % 7 + 1 := by
  obtain ⟨hsequence, hcount, hweekday⟩ := day_moves_act ⟨⟨1970, 1, 1⟩, .iso, by decide⟩
  have hmoves : ∀ m ∈ [Move.forward 3 .weeks, .back 701 .days], m.IsOfDays := by decide
  obtain ⟨-, htotal, hother⟩ := hsequence _ ⟨⟨1968, 2, 21⟩, .iso, by decide⟩ hmoves rfl
  exact ⟨hmoves, rfl, rfl, htotal, fun d' => hother _ d' (.swap _ _ []),
    hcount ⟨⟨1968, 2, 29⟩, .iso, by decide⟩ rfl, (hweekday _ _ htotal).2.1⟩

end Date

end Calendrics
