import Calendrics.Text.Blank
import Mathlib.Data.List.DropRight

/-!
# What trimming leaves

Trimming drops blanks from one end of a text and then from the other. What is left is the part between
the blanks, with no blank at either end; there is only one such part, so that this says all about
trimming (`trimChars_eq_iff`). Trimming a second time changes nothing (`trim_trim`).
-/

namespace Calendrics.Text

variable {cs word : List Char} {c : Char}

/-- There is nothing but blanks. -/
def AllBlank (cs : List Char) : Prop :=
  ∀ c ∈ cs, isBlank c

/-- A word is what lies between the blanks at the two ends of a text. -/
structure LiesWithin (word cs : List Char) : Prop where
  /-- there are blanks before it and after it, or nothing -/
  around : ∃ before after, cs = before ++ (word ++ after) ∧ AllBlank before ∧ AllBlank after
  /-- it does not begin with a blank -/
  first : ∀ c ∈ word.head?, ¬isBlank c
  /-- it does not end with one -/
  last : ∀ c ∈ word.getLast?, ¬isBlank c

/-! ## Dropping blanks at one end -/

/-- What is left does not begin with a blank. -/
theorem not_isBlank_of_mem_head? (hc : c ∈ (cs.dropWhile isBlank).head?) : ¬isBlank c := by
  have hfirst := List.head?_dropWhile_not isBlank cs
  rw [Option.mem_def.mp hc] at hfirst
  exact Bool.eq_false_iff.mp hfirst

/-- Nothing is dropped from a text that does not begin with a blank. -/
theorem dropWhile_eq_self (h : ∀ c ∈ cs.head?, ¬isBlank c) : cs.dropWhile isBlank = cs := by
  cases cs with
  | nil => rfl
  | cons c cs => exact List.dropWhile_cons_of_neg (h c rfl)

/-- At the end, the blanks after a word are dropped and nothing else. -/
theorem rdropWhile_append (hlast : ∀ c ∈ word.getLast?, ¬isBlank c) {after : List Char}
    (hafter : AllBlank after) : (word ++ after).rdropWhile isBlank = word := by
  have hword : word.reverse.dropWhile isBlank = word.reverse :=
    dropWhile_eq_self fun c hc => hlast c (List.head?_reverse ▸ hc)
  rw [List.rdropWhile, List.reverse_append,
    List.dropWhile_append_of_pos fun c hc => hafter c (List.mem_reverse.mp hc), hword,
    List.reverse_reverse]

/-! ## Trimming -/

/-- What trimming leaves lies between the blanks. -/
theorem liesWithin_trimChars (cs : List Char) : LiesWithin (trimChars cs) cs := by
  refine ⟨⟨cs.takeWhile isBlank, (cs.dropWhile isBlank).rtakeWhile isBlank, ?_, ?_, ?_⟩, ?_, ?_⟩
  · change cs = _ ++ ((cs.dropWhile isBlank).rdropWhile isBlank ++ _)
    rw [List.rdropWhile_append_rtakeWhile, List.takeWhile_append_dropWhile]
  · exact fun c hc => List.mem_takeWhile_imp hc
  · exact fun c hc => List.mem_rtakeWhile_imp hc
  · -- dropping at the end leaves the beginning as it is
    intro c hc
    obtain ⟨after, hafter⟩ := List.rdropWhile_prefix isBlank (cs.dropWhile isBlank)
    have hfirst : c ∈ (cs.dropWhile isBlank).head? := by
      rw [← hafter, List.head?_append]
      exact Option.mem_def.mpr (congrArg (Option.or · _) hc)
    exact not_isBlank_of_mem_head? hfirst
  · intro c hc
    rw [trimChars, List.getLast?_reverse] at hc
    exact not_isBlank_of_mem_head? hc

/-- **What trimming leaves** is the one word between the blanks. -/
theorem trimChars_eq_iff : trimChars cs = word ↔ LiesWithin word cs := by
  refine ⟨?_, ?_⟩
  · rintro rfl
    exact liesWithin_trimChars cs
  · rintro ⟨⟨before, after, rfl, hbefore, hafter⟩, hfirst, hlast⟩
    change ((before ++ (word ++ after)).dropWhile isBlank).rdropWhile isBlank = word
    rw [List.dropWhile_append_of_pos hbefore]
    cases word with
    | nil =>
      -- a text of blanks is gone after the first end
      rw [List.nil_append, List.dropWhile_eq_nil_iff.mpr hafter, List.rdropWhile_nil]
    | cons c word =>
      have hword : (c :: word ++ after).dropWhile isBlank = c :: word ++ after :=
        dropWhile_eq_self hfirst
      rw [hword]
      exact rdropWhile_append hlast hafter

/-- Trimming a second time changes nothing. -/
theorem trim_trim (s : String) : trim (trim s) = trim s := by
  obtain ⟨-, hfirst, hlast⟩ := liesWithin_trimChars s.toList
  have hnothing : AllBlank [] := List.forall_mem_nil _
  have hself : trimChars (trimChars s.toList) = trimChars s.toList :=
    trimChars_eq_iff.mpr ⟨⟨[], [], (List.append_nil _).symm, hnothing, hnothing⟩, hfirst, hlast⟩
  rw [trim, trim, String.toList_ofList, hself]

end Calendrics.Text
