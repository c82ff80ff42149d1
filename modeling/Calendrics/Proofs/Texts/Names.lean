import Calendrics.Name
import Calendrics.Proofs.Texts.Blanks

/-!
# Which texts are names

Chronologies, fields and units are read by their names, and leniently: the blanks around a name are
dropped, and some characters count as others. There are two ways to say which texts are accepted. From
the side of the reader, a text is accepted if what trimming and folding make of it is a name. From the
side of the writer, it is accepted if it spells a name (`Text.Spells`): it is a word between blanks,
and the word is the name but for characters that count as the same. The two agree because no blank
counts as another character and no name has a blank in it (`Text.spells_iff`).

A parser that looks for its key in a complete list of things, no two of which share a name, accepts
exactly these texts and refuses all others, with the text that it was given, trimmed but not folded
(`readsNames_of_find`). All three parsers are of this kind (`names_read_exactly`).
-/

namespace Calendrics

namespace Text

variable {fold : Char → Char} {name s : String} {c : Char}

/-! ## Spellings -/

/-- A text spells a name: it is the name between blanks, but for characters that count as the same. -/
def Spells (fold : Char → Char) (name s : String) : Prop :=
  ∃ before word after, s.toList = before ++ (word ++ after) ∧ AllBlank before ∧ AllBlank after ∧
    word.map fold = name.toList

/-- **A text spells a name exactly if trimming leaves the name**, but for characters that count as
the same. -/
theorem spells_iff (hfold : ∀ c, isBlank c → fold c = c) (hname : ∀ c ∈ name.toList, ¬isBlank c) :
    Spells fold name s ↔ (trim s).toList.map fold = name.toList := by
  rw [trim, String.toList_ofList]
  refine ⟨?_, ?_⟩
  · rintro ⟨before, word, after, hs, hbefore, hafter, hword⟩
    have hinside : ∀ c ∈ word, ¬isBlank c := by
      intro c hc hblank
      have hmem : fold c ∈ name.toList := hword ▸ List.mem_map_of_mem hc
      rw [hfold c hblank] at hmem
      exact hname c hmem hblank
    have htrim : trimChars s.toList = word :=
      trimChars_eq_iff.mpr ⟨⟨before, after, hs, hbefore, hafter⟩,
        fun c hc => hinside c (List.mem_of_mem_head? hc),
        fun c hc => hinside c (List.mem_of_getLast? hc)⟩
    rw [htrim, hword]
  · intro h
    obtain ⟨before, after, hs, hbefore, hafter⟩ := (liesWithin_trimChars s.toList).around
    exact ⟨before, _, after, hs, hbefore, hafter, h⟩

/-- There are no blanks among the capitals. -/
theorem toLower_of_isBlank (h : isBlank c) : c.toLower = c := by
  obtain ⟨r, hr, hlo, hhi⟩ := inRanges_iff.mp h
  have hoff : ¬(65 ≤ c.toNat ∧ c.toNat ≤ 90) := by
    simp only [blankRanges, List.mem_cons, List.not_mem_nil, or_false] at hr
    rcases hr with rfl | rfl | rfl | rfl | rfl | rfl | rfl | rfl | rfl | rfl <;> omega
  exact dif_neg fun hcapital => hoff ⟨hcapital.1, hcapital.2⟩

end Text

/-- How the characters of a field's or a unit's name count: capitals as small letters, underscores as
hyphens. -/
def nameFold (c : Char) : Char :=
  if c.toLower = '_' then '-' else c.toLower

theorem nameFold_of_isBlank {c : Char} (h : Text.isBlank c) : nameFold c = c := by
  have hc : c ≠ '_' := by
    rintro rfl
    exact absurd h (by decide)
  rw [nameFold, Text.toLower_of_isBlank h, if_neg hc]

/-- The key of a text is what it holds between the blanks, folded. -/
theorem toList_nameKey (s : String) : (nameKey s).toList = (Text.trim s).toList.map nameFold := by
  rw [nameKey, Text.hyphenate, Text.foldCase, String.toList_ofList, String.toList_ofList,
    List.map_map]
  rfl

/-! ## Parsers of names -/

/-- A parser reads the names of things, by comparing them with a key of the text, and nothing else. -/
structure ReadsNames {α : Type} (parse : String → Except CalendarError α) (key : String → String)
    (fold : Char → Char) (names : α → List String) (refusal : String → CalendarError) : Prop where
  /-- a text is read as a thing if its key is a name of that thing -/
  ok_iff : ∀ s x, parse s = .ok x ↔ key s ∈ names x
  /-- that is, if it spells a name of that thing -/
  spells_iff : ∀ s x, parse s = .ok x ↔ ∃ name ∈ names x, Text.Spells fold name s
  /-- no two things have a name in common -/
  unique : ∀ name x y, name ∈ names x → name ∈ names y → x = y
  /-- a text is refused if its key is no name, and the error has the text as it was, but trimmed -/
  error_iff : ∀ s e, parse s = .error e ↔ (∀ x, key s ∉ names x) ∧ e = refusal (Text.trim s)
  /-- blanks around a text make no difference -/
  parse_trim : ∀ s, parse (Text.trim s) = parse s

section

variable {α : Type} {all : List α} {names : α → List String} {name : String} {x : α}

/-- In a complete list, a name finds the one thing that has it. -/
theorem find?_name_eq_some_iff (hall : ∀ x, x ∈ all)
    (hunique : ∀ name x y, name ∈ names x → name ∈ names y → x = y) :
    (all.find? fun x => name ∈ names x) = some x ↔ name ∈ names x := by
  have hfinds : ∀ y, (all.find? fun x => name ∈ names x) = some y → name ∈ names y := by
    intro y hy
    simpa using List.find?_some hy
  refine ⟨hfinds x, fun h => ?_⟩
  cases hfound : all.find? fun x => name ∈ names x with
  | none => exact absurd (decide_eq_true h) (List.find?_eq_none.mp hfound x (hall x))
  | some y => exact congrArg some (hunique name y x (hfinds y hfound) h)

/-- **A parser that looks for its key in a complete list reads names exactly.** -/
theorem readsNames_of_find {parse : String → Except CalendarError α} {key : String → String}
    {fold : Char → Char} {refusal : String → CalendarError} (hall : ∀ x, x ∈ all)
    (hunique : ∀ name x y, name ∈ names x → name ∈ names y → x = y)
    (hblank : ∀ x, ∀ name ∈ names x, ∀ c ∈ name.toList, ¬Text.isBlank c)
    (hfold : ∀ c, Text.isBlank c → fold c = c)
    (hkey : ∀ s, (key s).toList = (Text.trim s).toList.map fold)
    (hparse : ∀ s, parse s =
      (all.find? fun x => key s ∈ names x).elim (.error (refusal (Text.trim s))) .ok) :
    ReadsNames parse key fold names refusal := by
  have hok : ∀ s x, parse s = .ok x ↔ key s ∈ names x := by
    intro s x
    rw [hparse, ← find?_name_eq_some_iff hall hunique]
    cases all.find? fun x => key s ∈ names x <;> simp
  refine ⟨hok, ?_, hunique, ?_, ?_⟩
  · intro s x
    rw [hok]
    refine ⟨fun h => ⟨key s, h, (Text.spells_iff hfold (hblank x _ h)).mpr (hkey s).symm⟩, ?_⟩
    rintro ⟨name, hname, hspells⟩
    have hfolded := (Text.spells_iff hfold (hblank x name hname)).mp hspells
    rw [String.toList_inj.mp ((hkey s).trans hfolded)]
    exact hname
  · intro s e
    simp only [← hok]
    rw [hparse]
    cases all.find? fun x => key s ∈ names x <;> simp [eq_comm]
  · intro s
    have hsame : key (Text.trim s) = key s :=
      String.toList_inj.mp (by rw [hkey, hkey, Text.trim_trim])
    rw [hparse, hparse, hsame, Text.trim_trim]

/-- **So does one whose things have one name each**, if its key is that of fields and units. -/
theorem readsNames_of_find_name {parse : String → Except CalendarError α} {name : α → String}
    {refusal : String → CalendarError} (hall : ∀ x, x ∈ all)
    (hinj : ∀ x y, name x = name y → x = y) (hblank : ∀ x, ∀ c ∈ (name x).toList, ¬Text.isBlank c)
    (hparse : ∀ s, parse s =
      (all.find? fun x => name x = nameKey s).elim (.error (refusal (Text.trim s))) .ok) :
    ReadsNames parse nameKey nameFold (fun x => [name x]) refusal := by
  refine readsNames_of_find hall ?_ ?_ (fun _ => nameFold_of_isBlank) toList_nameKey ?_
  · intro key x y hx hy
    exact hinj x y ((List.mem_singleton.mp hx).symm.trans (List.mem_singleton.mp hy))
  · intro x key hx
    rw [List.mem_singleton.mp hx]
    exact hblank x
  · intro s
    simp only [hparse, List.mem_singleton, eq_comm]

end

/-! ## The three parsers -/

/-- **Chronologies are read by their spellings.** -/
theorem Chronology.readsNames :
    ReadsNames Chronology.parse (fun s => Text.foldCase (Text.trim s)) Char.toLower
      Chronology.spellings .unknownChronology := by
  have hblank : ∀ c ∈ Chronology.all, ∀ name ∈ c.spellings,
    name.toList.any Text.isBlank = false := by decide
  refine readsNames_of_find Chronology.mem_all Chronology.spellings_unique
    (fun c name hname => List.any_eq_false.mp (hblank c c.mem_all name hname))
    (fun _ => Text.toLower_of_isBlank) (fun s => String.toList_ofList) fun s => ?_
  unfold Chronology.parse Chronology.parseLogged Chronology.ofSpelling?
  cases Chronology.all.find? fun c => Text.foldCase (Text.trim s) ∈ c.spellings <;> rfl

/-- **Fields are read by their names.** -/
theorem Field.readsNames :
    ReadsNames Field.parse nameKey nameFold (fun f => [f.name]) .unsupportedField := by
  have hblank : ∀ f ∈ Field.all, f.name.toList.any Text.isBlank = false := by decide
  refine readsNames_of_find_name Field.mem_all (fun _ _ => Field.name_inj.mp)
    (fun f => List.any_eq_false.mp (hblank f f.mem_all)) fun s => ?_
  unfold Field.parse
  cases Field.all.find? fun f => f.name = nameKey s <;> rfl

/-- **Units are read by their names.** -/
theorem TimeUnit.readsNames :
    ReadsNames TimeUnit.parse nameKey nameFold (fun u => [u.name]) .unsupportedUnit := by
  have hblank : ∀ u ∈ TimeUnit.all, u.name.toList.any Text.isBlank = false := by decide
  refine readsNames_of_find_name TimeUnit.mem_all (fun _ _ => TimeUnit.name_inj.mp)
    (fun u => List.any_eq_false.mp (hblank u u.mem_all)) fun s => ?_
  unfold TimeUnit.parse
  cases TimeUnit.all.find? fun u => u.name = nameKey s <;> rfl

/-- **Names are read exactly.** A text is read as a chronology if one of its spellings is left when
the blanks around the text are dropped and ASCII capitals are made small; as a field or a unit, if the
name of it is left when besides underscores are made hyphens. These are the texts that spell a name
between blanks. No two chronologies share a spelling, and no two fields or units a name. Every other
text is refused, and the error has the text without the blanks around it; and without these blanks it
is read or refused in the same way. The canonical name of a chronology is one of its spellings. -/
theorem names_read_exactly :
    ReadsNames Chronology.parse (fun s => Text.foldCase (Text.trim s)) Char.toLower
      Chronology.spellings .unknownChronology ∧
    ReadsNames Field.parse nameKey nameFold (fun f => [f.name]) .unsupportedField ∧
    ReadsNames TimeUnit.parse nameKey nameFold (fun u => [u.name]) .unsupportedUnit ∧
    ∀ c : Chronology, c.name ∈ c.spellings :=
  ⟨Chronology.readsNames, Field.readsNames, TimeUnit.readsNames, Chronology.name_mem_spellings⟩

/-- Capitals, mixed separators and blanks on both sides, one of them ideographic. -/
example : Field.parse "\u3000DAY_of-Month\n" = .ok .dayOfMonth := by decide

end Calendrics
