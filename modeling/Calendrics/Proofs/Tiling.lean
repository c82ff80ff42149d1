import Mathlib.Data.Int.LeastGreatest
import Mathlib.Order.Monotone.Basic

/-!
# Stretches laid end to end

The months of all years lie along the day numbers one after the other, and so do the years. Each
begins where the one before ends, and none is empty. That is all that is needed to say in which
month or year a day is, and at which place:

* `Tiles.start_mono`, `Tiles.end_mono` — later stretches begin and end later;
* `Tiles.exists_stretch` — **every number is in a stretch**;
* `Tiles.place_unique` — **no number is in two**, nor at two places of one;
* `Tiles.place_cases` — a place counted past the end of a stretch is a place in the next;
* `Tiles.reads_iff_stays` — what is read off such a place tells whether it is.
-/

namespace Calendrics

/-- Stretches of numbers, one for each integer, are laid end to end: none is empty, and the next
begins where it ends. -/
structure Tiles (start length : Int → Int) : Prop where
  /-- the next stretch begins where this one ends -/
  start_succ : ∀ i, start (i + 1) = start i + length i
  /-- no stretch is empty -/
  one_le_length : ∀ i, 1 ≤ length i

namespace Tiles

variable {start length : Int → Int} {i j a b e v : Int}

/-- Later stretches begin later. -/
theorem start_mono (h : Tiles start length) (hij : i ≤ j) : start i ≤ start j := by
  refine monotone_int_of_le_succ (fun i => ?_) hij
  have hlength := h.one_le_length i
  rw [h.start_succ]
  omega

/-- A stretch ends before any later one begins. -/
theorem start_add_length_le (h : Tiles start length) (hij : i < j) :
    start i + length i ≤ start j := by
  rw [← h.start_succ]
  exact h.start_mono hij

/-- Later stretches end later. -/
theorem end_mono (h : Tiles start length) (hij : i ≤ j) :
    start i + length i ≤ start j + length j := by
  rw [← h.start_succ, ← h.start_succ]
  apply h.start_mono
  omega

/-- Later stretches begin later by at least one for each stretch between. -/
theorem start_add_le (h : Tiles start length) (hij : i ≤ j) : start i + (j - i) ≤ start j := by
  obtain ⟨k, rfl⟩ := Int.le.dest hij
  induction k with
  | zero => simp
  | succ k ih =>
    have hk := ih (by omega)
    have hlength := h.one_le_length (i + k)
    rw [Int.natCast_add_one, ← Int.add_assoc, h.start_succ]
    omega

/-- Stretches of one length begin at its multiples. -/
theorem start_add_of_length_eq (h : Tiles start length) (hlength : ∀ i, length i = a) (i n : Int) :
    start (i + n) = start i + a * n := by
  induction n using Int.induction_on with
  | zero => simp
  | succ n ih =>
    have hnext := h.start_succ (i + n)
    rw [hlength, ih, Int.add_assoc i] at hnext
    rw [hnext, Int.mul_add, Int.mul_one, Int.add_assoc]
  | pred n ih =>
    have hnext := h.start_succ (i + (-n - 1))
    rw [hlength, Int.add_assoc i, Int.sub_add_cancel, ih] at hnext
    rw [Int.mul_sub, Int.mul_one]
    omega

/-- **Every number is in a stretch.** -/
theorem exists_stretch (h : Tiles start length) (e : Int) :
    ∃ i, start i ≤ e ∧ e < start i + length i := by
  have hbounded : ∃ b, ∀ i, start i ≤ e → i ≤ b := by
    refine ⟨max 0 (e - start 0), ?_⟩
    intro i hi
    rcases Int.le_total i 0 with h₀ | h₀
    · omega
    · have := h.start_add_le h₀
      omega
  have hinhabited : ∃ i, start i ≤ e := by
    refine ⟨min 0 (e - start 0), ?_⟩
    have := h.start_add_le (Int.min_le_left 0 (e - start 0))
    omega
  -- the last stretch that does not begin later
  obtain ⟨i, hi, hgreatest⟩ := Int.exists_greatest_of_bdd hbounded hinhabited
  refine ⟨i, hi, Int.lt_of_not_ge ?_⟩
  intro hnext
  rw [← h.start_succ] at hnext
  have := hgreatest (i + 1) hnext
  omega

/-- **No number is in two stretches**, nor at two places of one. -/
theorem place_unique (h : Tiles start length) (ha : 1 ≤ a) (ha' : a ≤ length i) (hb : 1 ≤ b)
    (hb' : b ≤ length j) (hab : start i + a = start j + b) : i = j ∧ a = b := by
  rcases lt_trichotomy i j with hlt | rfl | hlt
  · have := h.start_add_length_le hlt
    omega
  · exact ⟨rfl, by omega⟩
  · have := h.start_add_length_le hlt
    omega

/-- **A place counted past the end of a stretch is a place in the next.** Here `b` is counted from
the start of the stretch `i`, and `a` is the same number's place in its own stretch `j`. -/
theorem place_cases (h : Tiles start length) (ha : 1 ≤ a) (ha' : a ≤ length j) (hb : 1 ≤ b)
    (hb' : b ≤ length i + length (i + 1)) (hab : start j + a = start i + b) :
    (b ≤ length i ∧ j = i ∧ a = b) ∨ (length i < b ∧ j = i + 1 ∧ a = b - length i) := by
  by_cases hstays : b ≤ length i
  · obtain ⟨hj, hplace⟩ := h.place_unique ha ha' hb hstays hab
    exact .inl ⟨hstays, hj, hplace⟩
  · have hnext := h.start_succ i
    obtain ⟨hj, hplace⟩ := h.place_unique (j := i + 1) (b := b - length i) ha ha' (by omega)
      (by omega) (by omega)
    exact .inr ⟨by omega, hj, hplace⟩

/-- **Reading a place back.** A place is read by a function, such as the week that it is in, and
`b` reads as requested. If it would read differently in the next stretch, the requested value is
read exactly if the place is still in the stretch. -/
theorem reads_iff_stays (h : Tiles start length) (ha : 1 ≤ a) (ha' : a ≤ length j) (hb : 1 ≤ b)
    (hb' : b ≤ length i + length (i + 1)) (hab : start j + a = start i + b) {read : Int → Int}
    (hread : read b = v) (hspill : length i < b → read (b - length i) ≠ v) :
    (read a = v ↔ j = i) ∧ i ≤ j := by
  rcases h.place_cases ha ha' hb hb' hab with ⟨-, rfl, rfl⟩ | ⟨hpast, rfl, rfl⟩
  · exact ⟨⟨fun _ => rfl, fun _ => hread⟩, Int.le_refl _⟩
  · refine ⟨⟨fun hback => absurd hback (hspill hpast), fun hsame => ?_⟩, ?_⟩
    · omega
    · exact Int.le_add_one (Int.le_refl i)

end Tiles

end Calendrics
