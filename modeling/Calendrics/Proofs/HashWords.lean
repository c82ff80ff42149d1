import Calendrics.Proofs.Orders
import Calendrics.Proofs.Words.Dates

/-!
# What a date is hashed by

A date is hashed by two numbers: the index of its chronology, and a packed number in which the year,
the month and the day are simply added up, the year moved up by eleven bits and the month by six.
Nothing is masked. The packing is faithful because a day always fits in six bits and a month in five,
so that no part reaches into the next; and since only the year can be negative, this holds below year
zero as well, with quotients and remainders rounded down.

* `hashWord_parts` — **the parts are read back from the packed number**;
* `hashWord_inj`, `hashWords_inj` — hence it tells the dates of a chronology apart, and together with
  the index all dates;
* `isKey_hashWord` — **it is a key**: earlier dates have smaller packed numbers;
* `hashWords_faithful` — both, and that the packed number is calculated in 64 bits without a loss.
-/

namespace Calendrics.Date

variable {a b : Date}

/-! ## The parts of a packed number -/

/-- **The parts are read back from the packed number.** The day stays below the lowest bit of the
month, and both together stay below the lowest bit of the year. -/
theorem hashWord_parts (d : Date) :
    d.hashWord / 2048 = d.year ∧ d.hashWord % 2048 / 64 = d.month ∧ d.hashWord % 64 = d.day := by
  obtain ⟨-, -, hm₁, hm₂, hd₁, -⟩ := d.isDate
  have hd₂ := d.day_le
  rw [hashWord]
  refine ⟨?_, ?_, ?_⟩ <;> omega

/-- Dates of a chronology with one packed number are equal, part by part. -/
theorem hashWord_inj (hc : a.chronology = b.chronology) : a.hashWord = b.hashWord ↔ a = b := by
  refine ⟨fun h => ?_, fun h => congrArg hashWord h⟩
  obtain ⟨hyear, hmonth, hday⟩ := a.hashWord_parts
  obtain ⟨hyear', hmonth', hday'⟩ := b.hashWord_parts
  rw [h] at hyear hmonth hday
  exact Date.ext (hyear.symm.trans hyear') (hmonth.symm.trans hmonth') (hday.symm.trans hday') hc

/-- **Dates hashed by the same numbers are equal.** -/
theorem hashWords_inj : a.hashWords = b.hashWords ↔ a = b := by
  refine ⟨fun h => ?_, fun h => congrArg hashWords h⟩
  simp only [hashWords, List.cons.injEq, and_true, Int.natCast_inj] at h
  obtain ⟨hindex, hword⟩ := h
  exact (hashWord_inj (Chronology.index_inj.mp hindex)).mp hword

/-! ## The order of packed numbers -/

/-- **Packed numbers are a key**: an earlier day cannot make up for a later month, nor an earlier
month for a later year. -/
theorem isKey_hashWord : IsKey hashWord := by
  intro a b hc
  obtain ⟨-, -, ham₁, ham₂, had₁, -⟩ := a.isDate
  obtain ⟨-, -, hbm₁, hbm₂, hbd₁, -⟩ := b.isDate
  have had₂ := a.day_le
  have hbd₂ := b.day_le
  rw [lt_iff hc, hashWord, hashWord]
  omega

/-- **What a date is hashed by is faithful and ordered.** Two dates are hashed by the same numbers
exactly if they are equal; within a chronology they compare as their packed numbers; and the packed
number is calculated in 64 bits, its shifts and sums, without leaving them. -/
theorem hashWords_faithful (a b : Date) :
    (a.hashWords = b.hashWords ↔ a = b) ∧
    (a.chronology = b.chronology → a.compare? b = some (compare a.hashWord b.hashWord)) ∧
    Words.hashWord a.bare = .ok a.hashWord :=
  ⟨hashWords_inj, isKey_hashWord.compare?_eq, Words.hashWord_eq a⟩

/-- Across the end of the year before year zero: the packed numbers are negative up to and including
that year, the later one is the larger, and the Julian date with the same year, month and day has the
same packed number but another index. -/
theorem hashWords_faithful_below_zero :
    compare? ⟨⟨-1, 12, 31⟩, .iso, by decide⟩ ⟨⟨0, 1, 1⟩, .iso, by decide⟩ =
        some (compare (-1249) 65) ∧
      hashWords ⟨⟨-1, 12, 31⟩, .iso, by decide⟩ ≠ hashWords ⟨⟨-1, 12, 31⟩, .julian, by decide⟩ ∧
      Words.hashWord ⟨⟨-1, 12, 31⟩, .iso⟩ = .ok (-1249) := by
  obtain ⟨-, horder, hwords⟩ :=
    hashWords_faithful ⟨⟨-1, 12, 31⟩, .iso, by decide⟩ ⟨⟨0, 1, 1⟩, .iso, by decide⟩
  have hdistinct := (hashWords_faithful ⟨⟨-1, 12, 31⟩, .iso, by decide⟩
    ⟨⟨-1, 12, 31⟩, .julian, by decide⟩).1
  exact ⟨horder rfl, fun h => absurd (hdistinct.mp h) (by decide), hwords⟩

end Calendrics.Date
