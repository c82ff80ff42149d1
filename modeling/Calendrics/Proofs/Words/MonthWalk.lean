import Calendrics.Proofs.Words.EpochDay

/-!
# The walk through the months as a loop

Where all years have the same months, the month of a day of the year is found by a loop. It starts in
January with the day of the year, counted from 0. As long as there are no fewer days left than the
month has, they are taken away and the next month comes. Nothing in the loop looks at how far it has
come: with too many days left it would read past the end of the table.

What keeps it inside is a sum. At every turn the days of the months passed and the days that are left
make up the day of the year (`Inside`). To go on from December there would have to be as many days as
the year has, and there are fewer, since a day of the year is a remainder by their number.

* `Inside.of_turn` — **a turn keeps the sum and goes one month on**;
* `Run.inside` — so does a run of turns, which is why no run has more than eleven;
* `Inside.exists_over` — **the loop ends**;
* `Run.walkMonths_eq` — it ends where the recursion through the rest of the table does;
* `ends_inside_table` — and what it leaves is the date of the number, whatever number of 64 bits that
  is.
-/

namespace Calendrics.Words

/-- Where the walk stands. -/
structure MonthWalk where
  /-- the month that it has come to -/
  month : Int
  /-- the days that are left -/
  left : Int

namespace MonthWalk

/-- The walk before its first turn. -/
def start (dayOfYear : Int) : MonthWalk := ⟨1, dayOfYear⟩

/-- One turn of the loop, which looks the month up in the table: the walk a month later, or nothing if
the loop is over. -/
def turn (table : List Int) (w : MonthWalk) : Checked (Option MonthWalk) := do
  let length ← lookup table w.month
  if length ≤ w.left then do
    let left ← Word.i64.sub w.left length
    let month ← Word.u8.add w.month 1
    return some ⟨month, left⟩
  else
    return none

/-- The loop is over: the month has more days than are left. -/
def Over (table : List Int) (w : MonthWalk) : Prop :=
  turn table w = .ok none

/-- So many turns of the loop, from one walk to another. -/
inductive Run (table : List Int) : Nat → MonthWalk → MonthWalk → Prop where
  /-- no turn -/
  | here (w : MonthWalk) : Run table 0 w w
  /-- one turn, and then the others -/
  | on {k : Nat} {w next v : MonthWalk} (h : turn table w = .ok (some next))
      (rest : Run table k next v) : Run table (k + 1) w v

/-- **What every turn keeps**, on the way to a day of a year. -/
structure Inside (c : Chronology) (year dayOfYear : Int) (w : MonthWalk) : Prop where
  /-- the walk does not start before January -/
  one_le_month : 1 ≤ w.month
  /-- it does not go on from December -/
  month_le : w.month ≤ 12
  /-- no more days are taken away than there are -/
  left_nonneg : 0 ≤ w.left
  /-- the days of the months passed and the days left make up the day of the year -/
  days_eq : c.daysBeforeMonth year w.month + w.left = dayOfYear
  /-- the year has that day -/
  day_lt : dayOfYear < c.lengthOfYear year

variable {c : Chronology} {year n e : Int} {k : Nat} {w v : MonthWalk}

/-- The walk starts inside. -/
theorem inside_start (h₀ : 0 ≤ n) (h₁ : n < c.lengthOfYear year) : Inside c year n (start n) where
  one_le_month := Int.le_refl 1
  month_le := show (1 : Int) ≤ 12 by decide
  left_nonneg := h₀
  days_eq := by rw [start, Chronology.daysBeforeMonth, Months.before_first, Int.zero_add]
  day_lt := h₁

/-- There are never more days left than twelve long months have. -/
theorem Inside.left_lt (h : Inside c year n w) : w.left < 372 := by
  obtain ⟨hm₁, hm₂, -, hdays, hlt⟩ := h
  have hbefore := c.daysBeforeMonth_bounds year hm₁ (by omega)
  have hdecember := c.daysBeforeMonth_bounds year (show (1 : Int) ≤ 12 by decide) (by decide)
  have hlast := c.lengthOfMonth_bounds year (show (1 : Int) ≤ 12 by decide) (by decide)
  rw [c.lengthOfYear_eq] at hlt
  omega

/-- A month that is passed is not the last: December has more days than are left. -/
theorem Inside.next (h : Inside c year n w) (hlong : c.lengthOfMonth year w.month ≤ w.left) :
    Inside c year n ⟨w.month + 1, w.left - c.lengthOfMonth year w.month⟩ := by
  obtain ⟨hm₁, hm₂, h₀, hdays, hlt⟩ := h
  have hnot : w.month ≠ 12 := by
    intro hlast
    rw [hlast] at hdays hlong
    rw [c.lengthOfYear_eq] at hlt
    omega
  have hsum := c.daysBeforeMonth_succ year hm₁
  exact
    { one_le_month := by dsimp only; omega
      month_le := by dsimp only; omega
      left_nonneg := by dsimp only; omega
      days_eq := by dsimp only; omega
      day_lt := hlt }

section

variable (h₁ : c ≠ .iso) (h₂ : c ≠ .julian)
include h₁ h₂

/-! ## Turns -/

/-- The entries of the table are the lengths of the months. -/
theorem lookup_monthTable (year : Int) {m : Int} (hm₁ : 1 ≤ m) (hm₂ : m ≤ 12) :
    lookup (monthTable c) m = .ok (c.lengthOfMonth year m) := by
  have hlength := lengthOfMonth_eq c year hm₁ hm₂
  obtain rfl | rfl | rfl := fixedYear_cases h₁ h₂ <;> exact hlength

/-- **No turn stops**: the month is in the table, and what comes next fits its words. -/
theorem Inside.turn_eq (h : Inside c year n w) :
    turn (monthTable c) w =
      .ok (if c.lengthOfMonth year w.month ≤ w.left then
        some ⟨w.month + 1, w.left - c.lengthOfMonth year w.month⟩ else none) := by
  have hleft := h.left_lt
  obtain ⟨hm₁, hm₂, h₀, -, -⟩ := h
  have hlength := c.lengthOfMonth_bounds year hm₁ hm₂
  have hdays : w.left - c.lengthOfMonth year w.month ∈ Word.i64.range := by
    rw [Word.mem_i64]
    omega
  have hmonth : w.month + 1 ∈ Word.u8.range := by
    rw [Word.mem_u8]
    omega
  rw [turn, lookup_monthTable h₁ h₂ year hm₁ hm₂, Checked.ok_bind, Word.sub_of_mem hdays,
    Checked.ok_bind, Word.add_of_mem hmonth, Checked.ok_bind]
  split <;> rfl

/-- The loop is over as soon as the month has more days than are left. -/
theorem Inside.over_iff (h : Inside c year n w) :
    Over (monthTable c) w ↔ w.left < c.lengthOfMonth year w.month := by
  rw [Over, h.turn_eq h₁ h₂, ← Int.not_le]
  split
  case isTrue hlong => exact ⟨fun hover => (by cases hover), fun hshort => absurd hlong hshort⟩
  case isFalse hshort => exact ⟨fun _ => hshort, fun _ => rfl⟩

/-- **A turn goes one month on and stays inside.** -/
theorem Inside.of_turn (h : Inside c year n w) (hturn : turn (monthTable c) w = .ok (some v)) :
    v.month = w.month + 1 ∧ Inside c year n v := by
  rw [h.turn_eq h₁ h₂] at hturn
  by_cases hlong : c.lengthOfMonth year w.month ≤ w.left
  · rw [if_pos hlong] at hturn
    obtain rfl := Option.some.inj (Except.ok.inj hturn)
    exact ⟨rfl, h.next hlong⟩
  · rw [if_neg hlong] at hturn
    cases hturn

/-! ## Runs -/

/-- **So does a run**, by as many months as it has turns. -/
theorem Run.inside (r : Run (monthTable c) k w v) (h : Inside c year n w) :
    v.month = w.month + k ∧ Inside c year n v := by
  induction r with
  | here w => exact ⟨(Int.add_zero _).symm, h⟩
  | on hturn rest ih =>
    obtain ⟨hmonth, hnext⟩ := h.of_turn h₁ h₂ hturn
    obtain ⟨hlast, hv⟩ := ih hnext
    exact ⟨by omega, hv⟩

/-- **The loop ends.** Every turn leaves fewer months to come. -/
theorem Inside.exists_over (h : Inside c year n w) :
    ∃ k v, Run (monthTable c) k w v ∧ Over (monthTable c) v := by
  obtain ⟨j, hj⟩ : ∃ j : Nat, w.month + j = 12 := by
    have := h.month_le
    exact ⟨(12 - w.month).toNat, by omega⟩
  induction j generalizing w with
  | zero =>
    -- going on from December would not stay inside
    refine ⟨0, w, .here w, (h.over_iff h₁ h₂).mpr (Int.not_le.mp fun hlong => ?_)⟩
    have := (h.next hlong).month_le
    dsimp only at this
    omega
  | succ j ih =>
    by_cases hlong : c.lengthOfMonth year w.month ≤ w.left
    · obtain ⟨k, v, r, hover⟩ := ih (h.next hlong) (by dsimp only; omega)
      refine ⟨k + 1, v, .on ?_ r, hover⟩
      rw [h.turn_eq h₁ h₂, if_pos hlong]
    · exact ⟨0, w, .here w, (h.over_iff h₁ h₂).mpr (Int.not_le.mp hlong)⟩

end

/-! ## The recursion through the table -/

/-- The recursion through the rest of the table makes one turn and goes on, or it is over. -/
theorem walkMonths_eq_turn (table : List Int) (k : Nat) (left : Int) :
    walkMonths (table.drop k) k left = (do
      match ← turn table ⟨k, left⟩ with
      | some next => walkMonths (table.drop (k + 1)) next.month next.left
      | none => return (k, left)) := by
  rw [walkMonths_drop, turn]
  cases lookup table k with
  | error stop => rfl
  | ok length =>
    rw [Checked.ok_bind, Checked.ok_bind]
    by_cases hlong : length ≤ left
    · rw [if_pos hlong, if_pos hlong]
      cases Word.i64.sub left length with
      | error stop => rfl
      | ok rest => cases Word.u8.add k 1 <;> rfl
    · rw [if_neg hlong, if_neg hlong]
      rfl

section

variable (h₁ : c ≠ .iso) (h₂ : c ≠ .julian)
include h₁ h₂

/-- **The loop ends where the recursion does.** -/
theorem Run.walkMonths_eq (r : Run (monthTable c) k w v) (h : Inside c year n w)
    (hover : Over (monthTable c) v) {j : Nat} (hj : w.month = j) :
    walkMonths ((monthTable c).drop j) w.month w.left = .ok (v.month, v.left) := by
  induction r generalizing j with
  | here w =>
    rw [hj, walkMonths_eq_turn, ← hj, hover]
    rfl
  | on hturn rest ih =>
    obtain ⟨hmonth, hnext⟩ := h.of_turn h₁ h₂ hturn
    have hrest := ih hnext hover (j := j + 1) (by omega)
    rw [hj, walkMonths_eq_turn, ← hj, hturn]
    exact hrest

/-! ## Dates -/

/-- Years of one length have the length of the longest. -/
theorem lengthOfYear_of_fixedYear (year : Int) : c.lengthOfYear year = c.longestYear := by
  obtain rfl | rfl | rfl := fixedYear_cases h₁ h₂ <;> rfl

/-- The remainder of a number by the length of the year is a day of the year. -/
theorem inside_start_of_epochDay (e year : Int) :
    Inside c year (e % c.longestYear) (start (e % c.longestYear)) := by
  have hpos := c.one_le_longestYear
  refine inside_start (Int.emod_nonneg e (by omega)) ?_
  rw [lengthOfYear_of_fixedYear h₁ h₂]
  exact Int.emod_lt_of_pos e (by omega)

/-- **What the loop leaves is the date of the number.** -/
theorem ofEpochDay_eq_of_run (r : Run (monthTable c) k (start (e % c.longestYear)) w)
    (hover : Over (monthTable c) w) :
    c.ofEpochDay e = ⟨e / c.longestYear + 1970, w.month, w.left + 1⟩ := by
  have hstart := inside_start_of_epochDay h₁ h₂ e 1970
  have hday : e % c.longestYear < c.longestYear :=
    lengthOfYear_of_fixedYear h₁ h₂ 1970 ▸ hstart.day_lt
  have hloop := r.walkMonths_eq h₁ h₂ hstart hover (j := 1) rfl
  have hwalk := walkMonths_monthTable h₁ h₂ hstart.left_nonneg hday
  obtain ⟨hmonth, hleft⟩ := Prod.mk.inj (Except.ok.inj (hloop.symm.trans hwalk))
  rw [hmonth, hleft, Int.sub_add_cancel]
  obtain rfl | rfl | rfl := fixedYear_cases h₁ h₂ <;> rfl

end

/-- **The walk through the months ends inside the table.** In each of the calendars whose years all
have the same months, and for every number of 64 bits, the loop makes at most eleven turns; after each
of them it is in one of the twelve months, looks that month up, and stops for no other reason than that
it is over. It does come to an end, in a month that has more days than are left, and the year, month
and day that it leaves are the date of the number, in words and with exact integers: the day with that
date has the number. -/
theorem ends_inside_table (c : Chronology)
    (hc : c ∈ [Chronology.noLeap, .allLeap, .uniform30]) (e : Int) (he : e ∈ Word.i64.range) :
    (∀ k v, Run (monthTable c) k (start (e % c.longestYear)) v →
      k ≤ 11 ∧ v.month = k + 1 ∧ ∃ next, turn (monthTable c) v = .ok next) ∧
    ∃ k w length, Run (monthTable c) k (start (e % c.longestYear)) w ∧ Over (monthTable c) w ∧
      (1 ≤ w.month ∧ w.month ≤ 12) ∧
      lookup (monthTable c) w.month = .ok length ∧ (0 ≤ w.left ∧ w.left < length) ∧
      fromEpochDay c e = .ok ⟨e / c.longestYear + 1970, w.month, w.left + 1⟩ ∧
      c.ofEpochDay e = ⟨e / c.longestYear + 1970, w.month, w.left + 1⟩ ∧
      c.epochDay ⟨e / c.longestYear + 1970, w.month, w.left + 1⟩ = e := by
  have h₁ : c ≠ .iso := by
    rintro rfl
    simp at hc
  have h₂ : c ≠ .julian := by
    rintro rfl
    simp at hc
  have hstart := inside_start_of_epochDay h₁ h₂ e 1970
  refine ⟨?_, ?_⟩
  · intro k v r
    obtain ⟨hmonth, hv⟩ := r.inside h₁ h₂ hstart
    have hfirst : (start (e % c.longestYear)).month = 1 := rfl
    have hlast := hv.month_le
    exact ⟨by omega, by omega, _, hv.turn_eq h₁ h₂⟩
  · obtain ⟨k, w, r, hover⟩ := hstart.exists_over h₁ h₂
    obtain ⟨-, hw⟩ := r.inside h₁ h₂ hstart
    have hdate := ofEpochDay_eq_of_run h₁ h₂ r hover
    refine ⟨k, w, c.lengthOfMonth 1970 w.month, r, hover, ⟨hw.one_le_month, hw.month_le⟩,
      lookup_monthTable h₁ h₂ 1970 hw.one_le_month hw.month_le,
      ⟨hw.left_nonneg, (hw.over_iff h₁ h₂).mp hover⟩, ?_, hdate, ?_⟩
    · rw [fromEpochDay_of_fixedYear h₁ h₂ he, hdate]
    · rw [← hdate, c.epochDay_ofEpochDay]

/-- The least number of 64 bits, far before the supported years, takes all eleven turns in the 360-day
calendar: it is 23 December. -/
theorem ends_inside_table_least :
    Chronology.uniform30 ∈ [Chronology.noLeap, .allLeap, .uniform30] ∧
    -9223372036854775808 ∈ Word.i64.range ∧
    ∃ k w, Run (monthTable .uniform30) k (start 352) w ∧ Over (monthTable .uniform30) w ∧
      k = 11 ∧ w.month = 12 ∧ w.left = 22 ∧
      fromEpochDay .uniform30 (-9223372036854775808) = .ok ⟨-25620477880150186, 12, 23⟩ := by
  obtain ⟨hruns, k, w, length, r, hover, -, -, -, hwords, hdate, -⟩ :=
    ends_inside_table .uniform30 (by decide) (-9223372036854775808) (by decide)
  have hexact : Chronology.uniform30.ofEpochDay (-9223372036854775808) =
      ⟨-25620477880150186, 12, 23⟩ := by decide
  obtain ⟨-, hmonth, hday⟩ := YearMonthDay.ext_iff.mp (hexact.symm.trans hdate)
  dsimp only at hmonth hday
  obtain ⟨-, hturns, -⟩ := hruns k w r
  refine ⟨by decide, by decide, k, w, r, hover, by omega, hmonth.symm, by omega, ?_⟩
  rw [hwords, ← hdate, hexact]

end MonthWalk

end Calendrics.Words
