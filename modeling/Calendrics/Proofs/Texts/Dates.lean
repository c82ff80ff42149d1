import Calendrics.Date.Basic
import Calendrics.Proofs.Texts.Parts

/-!
# The text of a date says which date it is

A date is written as its chronology and its era, each followed by a blank, and then the year of the
era, the month and the day with hyphens between them. The names of chronologies contain digits and an
underscore, but no blank; the numbers are not negative and so contain no hyphen. Therefore a text is
taken apart at its first two blanks and its first two hyphens, and each of the five parts stands for
one thing: the year follows from the era and the year of it (`Era.year_unique`), and a leading zero
does not change the number that two digits are read as.

* `ofDigitChars_twoDigits` — two digits are read back as their number;
* `toList_text` — the parts and marks of a text;
* `text_determines_date` — **dates with one text are equal**, whatever their chronologies.
-/

namespace Calendrics

/-- There are no blanks in the name of a chronology. -/
theorem Chronology.blank_not_mem_name (c : Chronology) : ' ' ∉ c.name.toList := by
  cases c <;> decide

/-- There are no blanks in the abbreviation of an era. -/
theorem Era.blank_not_mem_name (e : Era) : ' ' ∉ e.name.toList := by
  cases e <;> decide

namespace Date

variable {a b : Date} {m n : Int}

/-! ## Two digits -/

/-- **Two digits are read back as their number**, the leading zero included. -/
theorem ofDigitChars_twoDigits (hn : 0 ≤ n) :
    Nat.ofDigitChars 10 (twoDigits n).toList 0 = n.toNat := by
  unfold twoDigits
  split
  · rw [String.toList_append]
    exact Text.ofDigitChars_decimal hn
  · exact Text.ofDigitChars_decimal hn

/-- Different numbers have different digits. -/
theorem twoDigits_inj (hm : 0 ≤ m) (hn : 0 ≤ n)
    (h : (twoDigits m).toList = (twoDigits n).toList) : m = n := by
  have hnumber := congrArg (Nat.ofDigitChars 10 · 0) h
  simp only [ofDigitChars_twoDigits hm, ofDigitChars_twoDigits hn] at hnumber
  omega

/-- There is no hyphen among two digits. -/
theorem hyphen_not_mem_twoDigits (hn : 0 ≤ n) : '-' ∉ (twoDigits n).toList := by
  have hdigits : '-' ∉ (toString n).toList := Text.not_mem_decimal_of_nonneg hn (by decide)
  unfold twoDigits
  split
  · rw [String.toList_append, List.mem_append, not_or]
    exact ⟨by decide, hdigits⟩
  · exact hdigits

/-! ## The text -/

/-- The parts of a text, each with the mark that ends it. -/
theorem toList_text (d : Date) :
    d.text.toList = d.chronology.name.toList ++ ' ' :: (d.era.name.toList ++ ' ' ::
      ((toString d.yearOfEra).toList ++ '-' :: ((twoDigits d.month).toList ++ '-' ::
        (twoDigits d.day).toList))) := by
  simp [text]

/-- There is no hyphen in the year of an era, which counts from 1. -/
theorem hyphen_not_mem_yearOfEra (d : Date) : '-' ∉ (toString d.yearOfEra).toList :=
  Text.not_mem_decimal_of_nonneg (Int.le_trans (by decide) (Era.one_le_yearOfEra d.year))
    (by decide)

/-- **The text of a date says which date it is.** Two dates, of one chronology or of two, have the
same text only if they agree in chronology, year, month and day. -/
theorem text_determines_date (a b : Date) : a.text = b.text ↔ a = b := by
  refine ⟨fun h => ?_, fun h => congrArg text h⟩
  have hmonth : ∀ d : Date, 0 ≤ d.month := fun d =>
    Int.le_trans (by decide) d.isDate.one_le_month
  have hday : ∀ d : Date, 0 ≤ d.day := fun d => Int.le_trans (by decide) d.isDate.one_le_day
  have hparts := congrArg String.toList h
  rw [toList_text, toList_text] at hparts
  obtain ⟨hchronology, hparts⟩ := Text.cut_unique a.chronology.blank_not_mem_name
    b.chronology.blank_not_mem_name hparts
  obtain ⟨hera, hparts⟩ := Text.cut_unique a.era.blank_not_mem_name b.era.blank_not_mem_name hparts
  obtain ⟨hyear, hparts⟩ := Text.cut_unique a.hyphen_not_mem_yearOfEra
    b.hyphen_not_mem_yearOfEra hparts
  obtain ⟨hmonths, hdays⟩ := Text.cut_unique (hyphen_not_mem_twoDigits (hmonth a))
    (hyphen_not_mem_twoDigits (hmonth b)) hparts
  have hsameEra : a.era = b.era := Era.name_inj.mp (String.toList_inj.mp hera)
  exact Date.ext (Era.year_unique (congrArg Era.value hsameEra) (Text.decimal_inj.mp hyear))
    (twoDigits_inj (hmonth a) (hmonth b) hmonths) (twoDigits_inj (hday a) (hday b) hdays)
    (Chronology.name_inj.mp (String.toList_inj.mp hchronology))

/-- Year zero is the first one of the era before year one. -/
example : text ⟨⟨0, 2, 9⟩, .uniform30, by decide⟩ = "360_day BCE 1-02-09" := by decide

end Date

end Calendrics
