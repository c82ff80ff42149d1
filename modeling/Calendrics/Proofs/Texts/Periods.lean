import Calendrics.Period
import Calendrics.Proofs.Texts.Dates

/-!
# The text of a period says which period it is

After the name of its chronology and a `P`, a period is written as its years, months and days, each
with its letter, but without those that are zero; if all are, it is written as zero days. So there are
eight shapes of a text, and numbers of any length and either sign in them. Nevertheless each shape and
each number can be told: the letters differ and stand in one order, and a decimal contains none of
them, so that every letter says by being there that its part was written, and where it ends
(`Text.written_append_inj`). A zero is written for no other period than that of nothing.

* `days_eq_of_shownDays` — the zero days of the period of nothing are not taken for other days;
* `toList_text` — a text is a chronology and three parts that can be left out;
* `text_inj` — periods with one text are equal, whatever their chronologies;
* `letter_mem_text_iff`, `text_eq_zero_days_iff` — what is left out, and how nothing is written;
* `text_determines_period` — **a text says which period it is**, although zeros are left out.
-/

namespace Calendrics.Period

variable {p q : Period} {m n : Int}

/-! ## What is shown -/

/-- A number that is shown unless it is zero. -/
def shown (n : Int) : Option Int :=
  if n = 0 then none else some n

/-- The days that the text of a period shows: they are left out if they are zero and anything else
is not. -/
def shownDays (p : Period) : Option Int :=
  if p.isZero then some 0 else shown p.days

theorem shown_inj : shown m = shown n ↔ m = n := by
  unfold shown
  split <;> split <;> simp_all [eq_comm]

/-- A number that is shown is not zero. -/
theorem shown_ne_zero : shown n ≠ some 0 := by
  unfold shown
  split <;> simp_all

/-- **The days that are shown determine the days**: a zero is shown for the period of nothing
alone. -/
theorem days_eq_of_shownDays (hd : p.shownDays = q.shownDays) : p.days = q.days := by
  unfold shownDays at hd
  by_cases hp : p.isZero = true <;> by_cases hq : q.isZero = true
  · rw [(isZero_iff.mp hp).2.2, (isZero_iff.mp hq).2.2]
  · rw [if_pos hp, if_neg hq] at hd
    exact absurd hd.symm shown_ne_zero
  · rw [if_neg hp, if_pos hq] at hd
    exact absurd hd shown_ne_zero
  · rw [if_neg hp, if_neg hq] at hd
    exact shown_inj.mp hd

/-! ## The text -/

theorem toList_partText (n : Int) {unit : String} {letter : Char} (h : unit.toList = [letter]) :
    (partText n unit).toList = Text.written letter (shown n) := by
  unfold partText shown
  split
  · rfl
  · rw [String.toList_append, h]
    rfl

/-- The parts of a text, each with the mark that ends it. -/
theorem toList_text (p : Period) :
    p.text.toList = p.chronology.name.toList ++ ' ' :: 'P' ::
      (Text.written 'Y' (shown p.years) ++ (Text.written 'M' (shown p.months) ++
        Text.written 'D' p.shownDays)) := by
  have hparts : (if p.isZero then "0D"
      else partText p.years "Y" ++ partText p.months "M" ++ partText p.days "D").toList =
      Text.written 'Y' (shown p.years) ++ (Text.written 'M' (shown p.months) ++
        Text.written 'D' p.shownDays) := by
    have hY : "Y".toList = ['Y'] := rfl
    have hM : "M".toList = ['M'] := rfl
    have hD : "D".toList = ['D'] := rfl
    unfold shownDays
    split
    case isTrue hp =>
      obtain ⟨hyears, hmonths, -⟩ := isZero_iff.mp hp
      rw [hyears, hmonths]
      rfl
    case isFalse =>
      rw [String.toList_append, String.toList_append, List.append_assoc, toList_partText _ hY,
        toList_partText _ hM, toList_partText _ hD]
  rw [text, String.toList_append, String.toList_append, hparts, List.append_assoc]
  rfl

/-- After the years, no letter of theirs comes again. -/
theorem not_mem_of_years (p : Period) :
    'Y' ∉ Text.written 'M' (shown p.months) ++ Text.written 'D' p.shownDays := by
  rw [List.mem_append, not_or]
  exact ⟨Text.not_mem_written (by decide) (by decide) (by decide),
    Text.not_mem_written (by decide) (by decide) (by decide)⟩

/-- **Periods with one text are one period.** -/
theorem text_inj : p.text = q.text ↔ p = q := by
  refine ⟨fun h => ?_, congrArg text⟩
  have hparts := congrArg String.toList h
  rw [toList_text, toList_text] at hparts
  obtain ⟨hchronology, hparts⟩ := Text.cut_unique p.chronology.blank_not_mem_name
    q.chronology.blank_not_mem_name hparts
  obtain ⟨hyears, hparts⟩ := Text.written_append_inj (by decide) (by decide)
    (not_mem_of_years p) (not_mem_of_years q) (List.cons.inj hparts).2
  obtain ⟨hmonths, hparts⟩ := Text.written_append_inj (by decide) (by decide)
    (Text.not_mem_written (by decide) (by decide) (by decide))
    (Text.not_mem_written (by decide) (by decide) (by decide)) hparts
  have hdays := Text.written_inj (by decide) (by decide) hparts
  exact Period.ext (Chronology.name_inj.mp (String.toList_inj.mp hchronology))
    (shown_inj.mp hyears) (shown_inj.mp hmonths) (days_eq_of_shownDays hdays)

/-! ## What is left out -/

/-- The period of nothing is written as zero days. -/
theorem text_of_isZero (h : p.isZero = true) : p.text = p.chronology.name ++ " P0D" := by
  rw [text, if_pos h, String.append_assoc]
  rfl

/-- No other period is. -/
theorem text_eq_zero_days_iff :
    p.text = p.chronology.name ++ " P0D" ↔ p.years = 0 ∧ p.months = 0 ∧ p.days = 0 := by
  rw [← isZero_iff]
  refine ⟨fun h => ?_, text_of_isZero⟩
  have hnothing : text ⟨p.chronology, 0, 0, 0⟩ = p.chronology.name ++ " P0D" := text_of_isZero rfl
  rw [text_inj.mp (h.trans hnothing.symm)]
  rfl

/-- A number is shown unless it is zero. -/
theorem shown_ne_none_iff : shown n ≠ none ↔ n ≠ 0 := by
  unfold shown
  split <;> simp_all

/-- Days are shown unless they are zero, and the period of nothing shows them all the same. -/
theorem shownDays_ne_none_iff :
    p.shownDays ≠ none ↔ p.days ≠ 0 ∨ (p.years = 0 ∧ p.months = 0) := by
  by_cases hp : p.isZero = true
  · obtain ⟨hyears, hmonths, -⟩ := isZero_iff.mp hp
    rw [shownDays, if_pos hp]
    exact ⟨fun _ => .inr ⟨hyears, hmonths⟩, fun _ => Option.some_ne_none 0⟩
  · rw [shownDays, if_neg hp, shown_ne_none_iff]
    refine ⟨.inl, ?_⟩
    rintro (hdays | ⟨hyears, hmonths⟩)
    · exact hdays
    · exact fun hdays => hp (isZero_iff.mpr ⟨hyears, hmonths, hdays⟩)

/-- There are no capitals in the names of chronologies. -/
theorem not_mem_name_of_isUpper (c : Chronology) {letter : Char} (h : letter.isUpper = true) :
    letter ∉ c.name.toList := by
  have hnone : c.name.toList.any Char.isUpper = false := by
    cases c <;> decide
  exact fun hmem => List.any_eq_false.mp hnone letter hmem h

/-- **A letter is in a text exactly if its part is shown.** -/
theorem letter_mem_text_iff {letter : Char} (h : letter ∈ ['Y', 'M', 'D']) :
    letter ∈ p.text.toList ↔ (letter = 'Y' ∧ p.years ≠ 0) ∨ (letter = 'M' ∧ p.months ≠ 0) ∨
      (letter = 'D' ∧ p.shownDays ≠ none) := by
  obtain ⟨hupper, hP, hblank, hdigit, hminus⟩ : letter.isUpper = true ∧ letter ≠ 'P' ∧
      letter ≠ ' ' ∧ ¬letter.isDigit ∧ letter ≠ '-' := by
    simp only [List.mem_cons, List.not_mem_nil, or_false] at h
    rcases h with rfl | rfl | rfl <;> decide
  have hname := not_mem_name_of_isUpper p.chronology hupper
  rw [toList_text, List.mem_append, List.mem_cons, List.mem_cons, List.mem_append, List.mem_append,
    Text.mem_written_iff hdigit hminus, Text.mem_written_iff hdigit hminus,
    Text.mem_written_iff hdigit hminus, shown_ne_none_iff, shown_ne_none_iff]
  simp only [hname, hblank, hP, false_or]

/-- **The text of a period says which period it is.** Two periods, of one chronology or of two, have
the same text only if they agree in chronology, years, months and days. This is so even though zeros
are left out: there are years in a text exactly if they are not zero, and so for the months, and for
the days except that the period of nothing, and no other, is written as zero days. -/
theorem text_determines_period (p q : Period) :
    (p.text = q.text ↔ p.chronology = q.chronology ∧ p.years = q.years ∧ p.months = q.months ∧
      p.days = q.days) ∧
    (p.text = p.chronology.name ++ " P0D" ↔ p.years = 0 ∧ p.months = 0 ∧ p.days = 0) ∧
    ('Y' ∈ p.text.toList ↔ p.years ≠ 0) ∧
    ('M' ∈ p.text.toList ↔ p.months ≠ 0) ∧
    ('D' ∈ p.text.toList ↔ p.days ≠ 0 ∨ (p.years = 0 ∧ p.months = 0)) := by
  refine ⟨text_inj.trans Period.ext_iff, text_eq_zero_days_iff, ?_, ?_, ?_⟩
  · simp [letter_mem_text_iff]
  · simp [letter_mem_text_iff]
  · rw [← shownDays_ne_none_iff]
    simp [letter_mem_text_iff]

/-- A period that points back, without years. -/
example : text ⟨.iso, 0, -1, -5⟩ = "iso8601 P-1M-5D" := by decide

/-- The period of nothing. -/
example : text ⟨.julian, 0, 0, 0⟩ = "julian P0D" := by decide

end Calendrics.Period
