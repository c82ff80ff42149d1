/-!
# Texts that are made of parts

The texts of dates and periods are parts written one after another: names, numbers, and between or
after them the marks that end a part, such as a hyphen or the letter of a unit. Such a text can be
taken apart in one way only if no part contains the mark that ends it; then two equal texts have equal
parts (`cut_unique`).

The other half is that the parts themselves say what they stand for. A number is written in decimal,
with as many digits as it needs and a minus sign in front if it is negative:

* `decimal_inj` — **different numbers are written differently**;
* `not_mem_decimal`, `not_mem_decimal_of_nonneg` — a decimal contains nothing but digits and the sign.

A part that can be left out is an optional number (`written`), and `written_append_inj` says that one
can tell whether it was.
-/

namespace Calendrics.Text

variable {mark letter : Char} {u v s t : List Char} {m n : Int} {x y : Option Int}

/-! ## Cutting at a mark -/

/-- What comes before the first mark cannot go on after it. -/
theorem eq_nil_of_append_mark {more : List Char} (hmore : mark ∉ u ++ more)
    (h : mark :: s = more ++ mark :: t) : more = [] ∧ s = t := by
  cases more with
  | nil => exact ⟨rfl, (List.cons.inj h).2⟩
  | cons c more =>
    obtain rfl := (List.cons.inj h).1
    exact absurd (List.mem_append_right u List.mem_cons_self) hmore

/-- **A text is cut at its first mark in one way.** -/
theorem cut_unique (hu : mark ∉ u) (hv : mark ∉ v) (h : u ++ mark :: s = v ++ mark :: t) :
    u = v ∧ s = t := by
  -- of the two beginnings, one goes on where the other ends
  rcases List.append_eq_append_iff.mp h with ⟨more, rfl, hrest⟩ | ⟨more, rfl, hrest⟩
  · obtain ⟨rfl, rfl⟩ := eq_nil_of_append_mark hv hrest
    exact ⟨(List.append_nil u).symm, rfl⟩
  · obtain ⟨rfl, rfl⟩ := eq_nil_of_append_mark hu hrest
    exact ⟨List.append_nil v, rfl⟩

/-! ## Decimals -/

/-- How a number is written that is not negative. -/
theorem toList_decimal_of_nonneg (hn : 0 ≤ n) :
    (toString n).toList = Nat.toDigits 10 n.toNat := by
  rw [Int.toString_eq_repr, Int.repr_eq_if, if_pos hn, Nat.toList_repr]

/-- How a negative number is written. -/
theorem toList_decimal_of_neg (hn : n < 0) :
    (toString n).toList = '-' :: Nat.toDigits 10 (-n).toNat := by
  rw [Int.toString_eq_repr, Int.repr_eq_if, if_neg (Int.not_le.mpr hn), String.toList_append,
    Nat.toList_repr]
  rfl

/-- The digits of a number are read back as the number. -/
theorem ofDigitChars_decimal (hn : 0 ≤ n) :
    Nat.ofDigitChars 10 (toString n).toList 0 = n.toNat := by
  rw [toList_decimal_of_nonneg hn, Nat.ofDigitChars_ten_toDigits]

/-- A number that is not negative is written without anything but digits. -/
theorem not_mem_decimal_of_nonneg (hn : 0 ≤ n) (hmark : ¬mark.isDigit) :
    mark ∉ (toString n).toList := by
  intro h
  rw [toList_decimal_of_nonneg hn] at h
  exact hmark (Nat.isDigit_of_mem_toDigits (by decide) (by decide) h)

/-- A number is written without anything but digits and a minus sign. -/
theorem not_mem_decimal (hmark : ¬mark.isDigit) (hminus : mark ≠ '-') :
    mark ∉ (toString n).toList := by
  intro h
  rcases Int.lt_or_le n 0 with hn | hn
  · rw [toList_decimal_of_neg hn, List.mem_cons] at h
    rcases h with h | h
    · exact hminus h
    · exact hmark (Nat.isDigit_of_mem_toDigits (by decide) (by decide) h)
  · exact not_mem_decimal_of_nonneg hn hmark h

/-- **Different numbers are written differently.** -/
theorem decimal_inj : (toString m).toList = (toString n).toList ↔ m = n := by
  refine ⟨fun h => ?_, fun h => congrArg (fun k : Int => (toString k).toList) h⟩
  have hminus : ∀ {k : Int}, 0 ≤ k → '-' ∉ (toString k).toList := fun hk =>
    not_mem_decimal_of_nonneg hk (by decide)
  rcases Int.lt_or_le m 0 with hm | hm <;> rcases Int.lt_or_le n 0 with hn | hn
  · rw [toList_decimal_of_neg hm, toList_decimal_of_neg hn] at h
    have hdigits := congrArg (Nat.ofDigitChars 10 · 0) (List.cons.inj h).2
    simp only [Nat.ofDigitChars_ten_toDigits] at hdigits
    omega
  · rw [toList_decimal_of_neg hm] at h
    exact absurd (h ▸ List.mem_cons_self) (hminus hn)
  · rw [toList_decimal_of_neg hn] at h
    exact absurd (h ▸ List.mem_cons_self) (hminus hm)
  · have hdigits := congrArg (Nat.ofDigitChars 10 · 0) h
    simp only [ofDigitChars_decimal hm, ofDigitChars_decimal hn] at hdigits
    omega

/-! ## Parts that can be left out -/

/-- A number and the letter of its unit, or nothing. -/
def written (letter : Char) : Option Int → List Char
  | none => []
  | some n => (toString n).toList ++ [letter]

/-- A part that was not left out contains its letter. -/
theorem mem_written (letter : Char) (n : Int) : letter ∈ written letter (some n) :=
  List.mem_append_right _ List.mem_cons_self

/-- A part contains no other letter than its own. -/
theorem not_mem_written (hdigit : ¬mark.isDigit) (hminus : mark ≠ '-') (hletter : mark ≠ letter) :
    mark ∉ written letter x := by
  cases x with
  | none => exact List.not_mem_nil
  | some n =>
    rw [written, List.mem_append, List.mem_singleton, not_or]
    exact ⟨not_mem_decimal hdigit hminus, hletter⟩

/-- So a letter is in a part only if it is that of the part and the part was not left out. -/
theorem mem_written_iff (hdigit : ¬mark.isDigit) (hminus : mark ≠ '-') :
    mark ∈ written letter x ↔ mark = letter ∧ x ≠ none := by
  by_cases hletter : mark = letter
  · obtain rfl := hletter
    cases x with
    | none => exact ⟨fun h => absurd h List.not_mem_nil, fun h => absurd rfl h.2⟩
    | some n => exact ⟨fun _ => ⟨rfl, Option.some_ne_none n⟩, fun _ => mem_written mark n⟩
  · exact ⟨fun h => absurd h (not_mem_written hdigit hminus hletter), fun h => absurd h.1 hletter⟩

/-- **Whether a part was left out can be told**, and what it is if it was not, as long as its letter
does not come again. -/
theorem written_append_inj (hdigit : ¬letter.isDigit) (hminus : letter ≠ '-') (hs : letter ∉ s)
    (ht : letter ∉ t) (h : written letter x ++ s = written letter y ++ t) : x = y ∧ s = t := by
  cases x with
  | none =>
    cases y with
    | none => exact ⟨rfl, h⟩
    | some n =>
      change s = _ at h
      rw [h] at hs
      exact absurd (List.mem_append_left t (mem_written letter n)) hs
  | some m =>
    cases y with
    | none =>
      change _ = t at h
      rw [← h] at ht
      exact absurd (List.mem_append_left s (mem_written letter m)) ht
    | some n =>
      simp only [written, List.append_assoc, List.singleton_append] at h
      obtain ⟨hnumber, hrest⟩ :=
        cut_unique (not_mem_decimal hdigit hminus) (not_mem_decimal hdigit hminus) h
      exact ⟨congrArg some (decimal_inj.mp hnumber), hrest⟩

/-- So it can be at the end of a text. -/
theorem written_inj (hdigit : ¬letter.isDigit) (hminus : letter ≠ '-')
    (h : written letter x = written letter y) : x = y :=
  (written_append_inj hdigit hminus List.not_mem_nil List.not_mem_nil (congrArg (· ++ []) h)).1

end Calendrics.Text
