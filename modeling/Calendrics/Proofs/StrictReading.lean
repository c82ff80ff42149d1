import Mathlib.Data.List.Nodup
import Calendrics.Proofs.LenientDates
import Calendrics.Record.Read
import Calendrics.Record.Write

/-!
# Reading dates back

A stored date is read in two steps. First its parts are found: in a list by their places, in a record
by their keys, whatever the order of the entries and whatever else there is. A record that gives a part
twice is refused, so no choice between two values is ever made. Then the date is made leniently and the
days are compared. The lenient step moves a day back if some other year gives the month that day; the
comparison has to notice exactly that.

* `ofFieldsExactly_eq_ok_iff` — **after the comparison only the date itself is left**;
* `outside_of_ofFieldsExactly` — every refusal names one of the three numbers and a range that it
  is not in;
* `DateParts.exists_foldlM_readEntry` — entries with different keys are read to the parts among them;
* `Datum.count_name_of_toDate` — **a record that is read has every part once**;
* `Datum.HoldsParts` — the two forms in which a date is stored;
* `stored_dates_read_exactly` — **stored numbers are read as they are, or refused**, and a date that
  is written is read back.
-/

namespace Calendrics

namespace Date

variable {c : Chronology} {year month day : Int} {d : Date} {e : CalendarError}

/-! ## Making exactly a date -/

/-- **Exactly making a date** gives the date with these numbers, if there is one, and nothing
else. -/
theorem ofFieldsExactly_eq_ok_iff :
    ofFieldsExactly c year month day = .ok d ↔
      d.chronology = c ∧ d.toYearMonthDay = ⟨year, month, day⟩ := by
  rw [ofFieldsExactly, Outcome.bind_eq_ok_iff]
  refine ⟨?_, ?_⟩
  · rintro ⟨made, hmade, hsame⟩
    obtain ⟨-, hc, hy, hm, -⟩ := ofFields_eq_ok_iff.mp hmade
    by_cases hd : made.day = day
    · rw [if_pos hd] at hsame
      obtain rfl := Except.ok.inj hsame
      exact ⟨hc, YearMonthDay.ext hy hm hd⟩
    · rw [if_neg hd] at hsame
      cases hsame
  · rintro ⟨rfl, hsame⟩
    obtain ⟨rfl, rfl, rfl⟩ := YearMonthDay.ext_iff.mp hsame
    obtain ⟨-, -, hm₁, hm₂, hd₁, hd₂⟩ := d.isDate
    have hlongest := d.chronology.lengthOfMonth_le_longestMonth d.year hm₁ hm₂
    have hmade : ofFields d.chronology d.year d.month d.day = .ok d :=
      ofFields_eq_ok_iff.mpr ⟨⟨hd₁, Int.le_trans hd₂ hlongest⟩, rfl, rfl, rfl,
        (Int.min_eq_left hd₂).symm⟩
    exact ⟨d, hmade, if_pos rfl⟩

/-- An error that names one of the numbers of a date, and a range that the number is not in. -/
def NamesOutside (t : YearMonthDay) (e : CalendarError) : Prop :=
  ∃ field value min max, e = .invalidFieldValue field value min max ∧
    ((field = .year ∧ value = t.year) ∨ (field = .monthOfYear ∧ value = t.month) ∨
      (field = .dayOfMonth ∧ value = t.day)) ∧
    ¬(min ≤ value ∧ value ≤ max)

/-- A refusal of resolved numbers names one that is outside its range. -/
theorem outside_of_resolve (h : (resolve c year month day).result = .error e) :
    NamesOutside ⟨year, month, day⟩ e := by
  by_cases hy : year ∈ yearRange
  · by_cases hm : month ∈ monthRange
    · by_cases hd : 1 ≤ day
      · rw [resolve, dif_pos hy, dif_pos hm, dif_pos hd] at h
        cases h
      · rw [resolve, dif_pos hy, dif_pos hm, dif_neg hd] at h
        obtain rfl := Except.error.inj h
        exact ⟨_, _, _, _, rfl, .inr (.inr ⟨rfl, rfl⟩), fun hrange => hd hrange.1⟩
    · rw [resolve, dif_pos hy, dif_neg hm] at h
      obtain rfl := Except.error.inj h
      exact ⟨_, _, _, _, rfl, .inr (.inl ⟨rfl, rfl⟩), hm⟩
  · rw [resolve, dif_neg hy] at h
    obtain rfl := Except.error.inj h
    exact ⟨_, _, _, _, rfl, .inl ⟨rfl, rfl⟩, hy⟩

/-- So does a refusal of lenient construction. -/
theorem outside_of_ofFields (h : ofFields c year month day = .error e) :
    NamesOutside ⟨year, month, day⟩ e := by
  by_cases hm : month ∈ monthRange
  · by_cases hd : c.HasDay month day
    · rw [ofFields_of_hasDay hm hd] at h
      exact outside_of_resolve h
    · rw [ofFields_of_not_hasDay hm hd] at h
      rw [Chronology.hasDay_iff hm] at hd
      obtain rfl := Except.error.inj h
      exact ⟨_, _, _, _, rfl, .inr (.inr ⟨rfl, rfl⟩), hd⟩
  · rw [ofFields_of_month_not_mem hm] at h
    obtain rfl := Except.error.inj h
    exact ⟨_, _, _, _, rfl, .inr (.inl ⟨rfl, rfl⟩), hm⟩

/-- **Every refusal names a number outside its range**, also where the month has the day in other
years only. -/
theorem outside_of_ofFieldsExactly (h : ofFieldsExactly c year month day = .error e) :
    NamesOutside ⟨year, month, day⟩ e := by
  rw [ofFieldsExactly] at h
  cases hmade : ofFields c year month day with
  | error e' =>
    rw [hmade] at h
    obtain rfl := Except.error.inj h
    exact outside_of_ofFields hmade
  | ok made =>
    obtain ⟨⟨hd₁, -⟩, rfl, rfl, rfl, hday⟩ := ofFields_eq_ok_iff.mp hmade
    rw [hmade] at h
    change (if made.day = day then _ else _) = _ at h
    by_cases hd : made.day = day
    · rw [if_pos hd] at h
      cases h
    · rw [if_neg hd] at h
      obtain rfl := Except.error.inj h
      refine ⟨_, _, _, _, rfl, .inr (.inr ⟨rfl, rfl⟩), fun hrange => hd ?_⟩
      rw [hday]
      exact Int.min_eq_left hrange.2

end Date

/-! ## Reading the entries of a record -/

/-- Different parts have different keys. -/
theorem DatePart.name_inj {part other : DatePart} (h : part.name = other.name) : part = other :=
  Option.some.inj ((named?_eq_some_iff.mpr h).symm.trans (named?_eq_some_iff.mpr rfl))

namespace DateParts

variable {parts read : DateParts} {part : DatePart} {key : String} {x : Datum}
  {entries : List (String × Datum)}

/-- An entry that is no part of a date is left alone. -/
theorem readEntry_of_other (h : ∀ part : DatePart, part.name ≠ key) :
    parts.readEntry (key, x) = .ok parts := by
  have hnone : DatePart.named? key = none := by
    rw [Option.eq_none_iff_forall_ne_some]
    exact fun part hpart => h part (DatePart.named?_eq_some_iff.mp hpart)
  rw [readEntry, hnone]

/-- A part that is new is read. -/
theorem readEntry_of_new (h : parts part = none) :
    parts.readEntry (part.name, x) = (part.read x).map (parts.put part) := by
  rw [readEntry, DatePart.named?_eq_some_iff.mpr rfl]
  dsimp only
  rw [h]

/-- A part that comes a second time is refused. -/
theorem readEntry_of_read {value : part.Value} (h : parts part = some value) :
    parts.readEntry (part.name, x) = .error (.duplicateField part.name) := by
  rw [readEntry, DatePart.named?_eq_some_iff.mpr rfl]
  dsimp only
  rw [h]

/-- An entry that can be read, and that is no part that has been read, is the part that it is. -/
theorem exists_readEntry (parts : DateParts) (value : (part : DatePart) → part.Value)
    (hnew : ∀ part : DatePart, part.name = key → parts part = none)
    (hread : ∀ part : DatePart, part.name = key → part.read x = .ok (value part)) :
    ∃ next, parts.readEntry (key, x) = .ok next ∧ ∀ part : DatePart,
      next part = if part.name = key then some (value part) else parts part := by
  rcases exists_or_forall_not fun part : DatePart => part.name = key with ⟨part, rfl⟩ | hother
  · refine ⟨parts.put part (value part), ?_, fun other => ?_⟩
    · rw [readEntry_of_new (hnew part rfl), hread part rfl]
      rfl
    · by_cases hsame : part = other
      · obtain rfl := hsame
        rw [put_self, if_pos rfl]
      · rw [put_of_ne _ _ hsame, if_neg fun hname => hsame (DatePart.name_inj hname.symm)]
  · exact ⟨parts, readEntry_of_other hother, fun part => (if_neg (hother part)).symm⟩

/-- **Entries with different keys are read** to the parts among them, which come to those that have
been read before. -/
theorem exists_foldlM_readEntry (parts : DateParts) (value : (part : DatePart) → part.Value)
    (hdistinct : (entries.map Prod.fst).Nodup)
    (hnew : ∀ part : DatePart, part.name ∈ entries.map Prod.fst → parts part = none)
    (hread : ∀ (part : DatePart) (x : Datum), (part.name, x) ∈ entries →
      part.read x = .ok (value part)) :
    ∃ read, entries.foldlM readEntry parts = .ok read ∧ ∀ part : DatePart,
      read part = if part.name ∈ entries.map Prod.fst then some (value part) else parts part := by
  induction entries generalizing parts with
  | nil => exact ⟨parts, rfl, fun part => (if_neg List.not_mem_nil).symm⟩
  | cons entry rest ih =>
    obtain ⟨key, x⟩ := entry
    obtain ⟨hkey, hdistinct⟩ := List.nodup_cons.mp hdistinct
    obtain ⟨next, hstep, hnext⟩ := parts.exists_readEntry value
      (fun part hname => hnew part (hname ▸ List.mem_cons_self))
      (fun part hname => hread part x (hname ▸ List.mem_cons_self))
    -- a key that comes later is not the one of this entry, so its part is still to be read
    have hlater : ∀ part : DatePart, part.name ∈ rest.map Prod.fst → next part = none := by
      intro part hmem
      rw [hnext, if_neg (ne_of_mem_of_not_mem hmem hkey)]
      exact hnew part (List.mem_cons_of_mem _ hmem)
    obtain ⟨read, hrest, hvalues⟩ := ih next hdistinct hlater
      fun part y hmem => hread part y (List.mem_cons_of_mem _ hmem)
    refine ⟨read, ?_, fun part => ?_⟩
    · rw [List.foldlM_cons, hstep]
      exact hrest
    · rw [hvalues, hnext, ← ite_or]
      exact if_congr (or_comm.trans List.mem_cons.symm) rfl rfl

/-- **The first part that cannot be read is the error**, where all entries before it can and have
different keys. -/
theorem foldlM_readEntry_eq_error (value : (part : DatePart) → part.Value)
    {before after : List (String × Datum)} {e : ReadError}
    (hdistinct : ((before ++ (part.name, x) :: after).map Prod.fst).Nodup)
    (hread : ∀ (part : DatePart) (x : Datum), (part.name, x) ∈ before →
      part.read x = .ok (value part)) (herror : part.read x = .error e) :
    (before ++ (part.name, x) :: after).foldlM readEntry .empty = .error e := by
  rw [List.map_append, List.map_cons, List.nodup_append] at hdistinct
  obtain ⟨hbefore, -, hdisjoint⟩ := hdistinct
  have hfirst : part.name ∉ before.map Prod.fst := fun h =>
    hdisjoint _ h _ List.mem_cons_self rfl
  obtain ⟨read, hrest, hvalues⟩ :=
    exists_foldlM_readEntry .empty value hbefore (fun _ _ => rfl) hread
  have hnone : read part = none := by
    rw [hvalues, if_neg hfirst]
    rfl
  rw [List.foldlM_append, hrest]
  change List.foldlM readEntry read ((part.name, x) :: after) = _
  rw [List.foldlM_cons, readEntry_of_new hnone, herror]
  rfl

/-- One entry that is read adds the part that it is, which was not there: counted as one if it is there
and as none if it is not, that part is one more. -/
theorem isSome_of_readEntry (h : parts.readEntry (key, x) = .ok read) (part : DatePart) :
    (read part).isSome.toNat = (parts part).isSome.toNat + if key = part.name then 1 else 0 := by
  rcases exists_or_forall_not fun other : DatePart => other.name = key with ⟨other, rfl⟩ | hother
  · cases hparts : parts other with
    | some value =>
      rw [readEntry_of_read hparts] at h
      cases h
    | none =>
      rw [readEntry_of_new hparts] at h
      cases hread : other.read x with
      | error e =>
        rw [hread] at h
        cases h
      | ok value =>
        rw [hread] at h
        obtain rfl := Except.ok.inj h
        by_cases hsame : other = part
        · obtain rfl := hsame
          rw [put_self, hparts, if_pos rfl]
          rfl
        · rw [put_of_ne _ _ hsame, if_neg fun hname => hsame (DatePart.name_inj hname)]
          rfl
  · rw [readEntry_of_other hother] at h
    obtain rfl := Except.ok.inj h
    rw [if_neg fun hname => hother part hname.symm]
    rfl

/-- **Hence every part is there as often as its key**, where all entries are read, and so no key of a
part comes twice. -/
theorem isSome_of_foldlM_readEntry (h : entries.foldlM readEntry parts = .ok read)
    (part : DatePart) :
    (read part).isSome.toNat =
      (parts part).isSome.toNat + (entries.map Prod.fst).count part.name := by
  induction entries generalizing parts with
  | nil =>
    obtain rfl := Except.ok.inj h
    rfl
  | cons entry rest ih =>
    obtain ⟨key, x⟩ := entry
    rw [List.foldlM_cons] at h
    obtain ⟨next, hstep, hrest⟩ := Outcome.bind_eq_ok_iff.mp h
    rw [ih hrest, isSome_of_readEntry hstep, List.map_cons, List.count_cons]
    simp only [beq_iff_eq]
    omega

/-- A part that has to be there is the one that has been read. -/
theorem require_eq_ok_iff {value : part.Value} :
    parts.require part = .ok value ↔ parts part = some value := by
  rw [require]
  cases parts part with
  | none => exact ⟨fun h => (by cases h), fun h => (by cases h)⟩
  | some v =>
    exact ⟨fun h => congrArg some (Except.ok.inj h), fun h => congrArg _ (Option.some.inj h)⟩

end DateParts

/-! ## Stored dates -/

/-- A chronology is stored by a text that names it. -/
theorem Chronology.parse_name (c : Chronology) : Chronology.parse c.name = .ok c := by
  cases c <;> decide

namespace Datum

/-- A stored value with the four parts of a date: a record that has them, with whatever other
entries, or a list of them. The chronology is a text, and the numbers are whole. -/
inductive HoldsParts : Datum → String → YearMonthDay → Prop
  /-- a record, its entries in any order, and no two of them with one key -/
  | record {entries : List (String × Datum)} {identifier : String} {t : YearMonthDay}
      (distinct : (entries.map Prod.fst).Nodup)
      (chronology : ("chronology", .text identifier) ∈ entries)
      (year : ("year", .integer t.year) ∈ entries)
      (month : ("month", .integer t.month) ∈ entries)
      (day : ("day", .integer t.day) ∈ entries) :
      HoldsParts (.record entries) identifier t
  /-- a list, with the parts in order -/
  | list (identifier : String) (t : YearMonthDay) :
      HoldsParts (.list [.text identifier, .integer t.year, .integer t.month, .integer t.day])
        identifier t

variable {x : Datum} {identifier : String} {t : YearMonthDay} {entries : List (String × Datum)}

/-- What the parts of a date are read as, beside a chronology. -/
def readAs (c : Chronology) (t : YearMonthDay) : (part : DatePart) → part.Value
  | .chronology => c
  | .year => t.year
  | .month => t.month
  | .day => t.day

/-- A record is read to the parts that its entries are read to, if these are all there. -/
theorem toDateParts_record_eq_ok_iff {c : Chronology} :
    (record entries).toDateParts = .ok (c, t) ↔
      ∃ read, entries.foldlM DateParts.readEntry .empty = .ok read ∧
        ∀ part, read part = some (readAs c t part) := by
  simp only [toDateParts, Outcome.bind_eq_ok_iff]
  refine ⟨?_, ?_⟩
  · rintro ⟨read, hread, c', hc, year, hyear, month, hmonth, day, hday, hparts⟩
    obtain ⟨rfl, rfl⟩ := Prod.mk.inj (Except.ok.inj hparts)
    refine ⟨read, hread, fun part => ?_⟩
    cases part with
    | chronology => exact DateParts.require_eq_ok_iff.mp hc
    | year => exact DateParts.require_eq_ok_iff.mp hyear
    | month => exact DateParts.require_eq_ok_iff.mp hmonth
    | day => exact DateParts.require_eq_ok_iff.mp hday
  · rintro ⟨read, hread, hparts⟩
    have hrequire : ∀ part, read.require part = .ok (readAs c t part) :=
      fun part => DateParts.require_eq_ok_iff.mpr (hparts part)
    exact ⟨read, hread, _, hrequire .chronology, _, hrequire .year, _, hrequire .month, _,
      hrequire .day, rfl⟩

/-- **A record is read as a date only if it has every part, and has it once.** -/
theorem count_name_of_toDate {d : Date} (h : (record entries).toDate = .ok d) (part : DatePart) :
    (entries.map Prod.fst).count part.name = 1 := by
  obtain ⟨_, hparts, -⟩ := Outcome.bind_eq_ok_iff.mp h
  obtain ⟨read, hread, hvalues⟩ := toDateParts_record_eq_ok_iff.mp hparts
  have hcount := DateParts.isSome_of_foldlM_readEntry hread part
  rw [hvalues] at hcount
  exact (Nat.zero_add _).symm.trans hcount.symm

/-- A second day is refused before it is looked at. -/
example : toDate (.record [("day", .integer 5), ("day", .text "31")]) =
    .error (.duplicateField "day") := rfl

/-- A whole number that fits in 64 bits is read as it is. -/
theorem toAmount_of_mem {n : Int} (h : n ∈ Amount.range) : (integer n).toAmount = .ok n :=
  if_pos h

/-- Where keys are different, a key has one value. -/
theorem eq_of_mem_of_mem (hdistinct : (entries.map Prod.fst).Nodup) {key : String} {x y : Datum}
    (hx : (key, x) ∈ entries) (hy : (key, y) ∈ entries) : x = y :=
  (Prod.mk.inj (List.inj_on_of_nodup_map hdistinct hx hy rfl)).2

/-- In a record that holds the parts of a date the chronology is read as it is named, and the numbers
are read as they are. -/
theorem HoldsParts.read_eq (hx : HoldsParts (.record entries) identifier t)
    (hy : t.year ∈ Amount.range) (hm : t.month ∈ Amount.range) (hd : t.day ∈ Amount.range)
    (c : Chronology) {part : DatePart}
    (hpart : part = .chronology → Chronology.parse identifier = .ok c) {y : Datum}
    (hentry : (part.name, y) ∈ entries) : part.read y = .ok (readAs c t part) := by
  cases hx with
  | record distinct chronology year month day =>
    cases part with
    | chronology =>
      obtain rfl := eq_of_mem_of_mem distinct chronology hentry
      rw [DatePart.read_chronology, hpart rfl]
      rfl
    | year =>
      obtain rfl := eq_of_mem_of_mem distinct year hentry
      exact toAmount_of_mem hy
    | month =>
      obtain rfl := eq_of_mem_of_mem distinct month hentry
      exact toAmount_of_mem hm
    | day =>
      obtain rfl := eq_of_mem_of_mem distinct day hentry
      exact toAmount_of_mem hd

/-- It has every part. -/
theorem HoldsParts.name_mem (hx : HoldsParts (.record entries) identifier t) (part : DatePart) :
    part.name ∈ entries.map Prod.fst := by
  cases hx with
  | record distinct chronology year month day =>
    cases part with
    | chronology => exact List.mem_map_of_mem chronology
    | year => exact List.mem_map_of_mem year
    | month => exact List.mem_map_of_mem month
    | day => exact List.mem_map_of_mem day

/-- **The parts of a stored date are its numbers**, beside the chronology that the text names. -/
theorem HoldsParts.toDateParts_eq (hx : HoldsParts x identifier t) (hy : t.year ∈ Amount.range)
    (hm : t.month ∈ Amount.range) (hd : t.day ∈ Amount.range) :
    x.toDateParts = ((Chronology.parse identifier).map fun c => (c, t)).mapError .calendar := by
  cases hx with
  | @record entries _ _ distinct chronology year month day =>
    have hx : HoldsParts (.record entries) identifier t :=
      .record distinct chronology year month day
    cases hname : Chronology.parse identifier with
    | error e =>
      -- the entries before the chronology are read, and then it is refused
      have herror : DatePart.chronology.read (.text identifier) = .error (.calendar e) := by
        rw [DatePart.read_chronology, hname]
        rfl
      obtain ⟨before, after, rfl⟩ := List.mem_iff_append.mp chronology
      have hbefore : ∀ (part : DatePart) (y : Datum), (part.name, y) ∈ before →
          part.read y = .ok (readAs default t part) := by
        intro part y hentry
        refine hx.read_eq hy hm hd default ?_ (List.mem_append_left _ hentry)
        rintro rfl
        rw [List.map_append, List.nodup_append] at distinct
        exact absurd rfl (distinct.2.2 _ (List.mem_map_of_mem hentry) _ List.mem_cons_self)
      have hfold : (before ++ ("chronology", .text identifier) :: after).foldlM
          DateParts.readEntry .empty = .error (.calendar e) :=
        DateParts.foldlM_readEntry_eq_error _ distinct hbefore herror
      rw [toDateParts, hfold]
      rfl
    | ok c =>
      obtain ⟨read, hfold, hparts⟩ := DateParts.exists_foldlM_readEntry .empty (readAs c t) distinct
        (fun _ _ => rfl) fun part y => hx.read_eq hy hm hd c fun _ => hname
      refine toDateParts_record_eq_ok_iff.mpr ⟨read, hfold, fun part => ?_⟩
      rw [hparts, if_pos (hx.name_mem part)]
  | list =>
    simp only [toDateParts, toAmount_of_mem, hy, hm, hd, toChronology]
    cases Chronology.parse identifier <;> rfl

/-- **Reading a stored date** is naming its chronology and making exactly the date. -/
theorem HoldsParts.toDate_eq (hx : HoldsParts x identifier t) (hy : t.year ∈ Amount.range)
    (hm : t.month ∈ Amount.range) (hd : t.day ∈ Amount.range) :
    x.toDate =
      (Chronology.parse identifier >>= fun c =>
        Date.ofFieldsExactly c t.year t.month t.day).mapError .calendar := by
  rw [toDate, hx.toDateParts_eq hy hm hd]
  cases Chronology.parse identifier <;> rfl

/-- What is stored of a date holds its parts. -/
theorem holdsParts_toDatum (d : Date) :
    HoldsParts d.toDatum d.chronology.name d.toYearMonthDay := by
  have hdistinct : ["chronology", "year", "month", "day"].Nodup := by decide
  refine .record hdistinct ?_ ?_ ?_ ?_ <;> simp [Chronology.toDatum]

end Datum

/-- **A date that is written is read back.** -/
theorem Date.toDate_toDatum (d : Date) : d.toDatum.toDate = .ok d := by
  obtain ⟨-, -, hm₁, hm₂, hd₁, hd₂⟩ := d.isDate
  have hlength := (d.chronology.lengthOfMonth_bounds d.year hm₁ hm₂).2
  have hm : d.month ∈ Amount.range := Amount.mem_range.mpr (by omega)
  have hd : d.day ∈ Amount.range := Amount.mem_range.mpr (by omega)
  have hy := Date.mem_range_of_mem_yearRange d.year_mem_yearRange
  rw [(Datum.holdsParts_toDatum d).toDate_eq hy hm hd, Outcome.mapError_eq_ok_iff,
    Outcome.bind_eq_ok_iff]
  exact ⟨d.chronology, d.chronology.parse_name, ofFieldsExactly_eq_ok_iff.mpr ⟨rfl, rfl⟩⟩

/-- **Stored dates are read as they are, or refused.** A stored date, with whole numbers of 64 bits,
is read exactly if its text names a chronology and its numbers name a day of it, and the result has
these very numbers. An unknown chronology is the error that naming it gives, and every refusal of
the numbers names one of them with a range that it is not in. A record that lacks a part of a date, or
has it twice, is not read as a date. What is written of a date is read back as that date. -/
theorem stored_dates_read_exactly :
    (∀ (x : Datum) (identifier : String) (t : YearMonthDay), x.HoldsParts identifier t →
      t.year ∈ Amount.range → t.month ∈ Amount.range → t.day ∈ Amount.range →
      (∀ d, x.toDate = .ok d ↔
        Chronology.parse identifier = .ok d.chronology ∧ d.toYearMonthDay = t) ∧
      ((∃ d, x.toDate = .ok d) ↔ ∃ c, Chronology.parse identifier = .ok c ∧
        (minYear ≤ t.year ∧ t.year ≤ maxYear) ∧ (1 ≤ t.month ∧ t.month ≤ 12) ∧
          1 ≤ t.day ∧ t.day ≤ c.lengthOfMonth t.year t.month) ∧
      (∀ e, Chronology.parse identifier = .error e → x.toDate = .error (.calendar e)) ∧
      (∀ c e, Chronology.parse identifier = .ok c → x.toDate = .error e →
        ∃ cause, e = .calendar cause ∧ Date.NamesOutside t cause)) ∧
    (∀ (entries : List (String × Datum)) (d : Date), (Datum.record entries).toDate = .ok d →
      ∀ part : DatePart, (entries.map Prod.fst).count part.name = 1) ∧
    ∀ d : Date, d.toDatum.toDate = .ok d := by
  refine ⟨fun x identifier t hx hy hm hd => ?_, fun entries d => Datum.count_name_of_toDate,
    Date.toDate_toDatum⟩
  rw [hx.toDate_eq hy hm hd]
  simp only [Outcome.mapError_eq_ok_iff, Outcome.bind_eq_ok_iff, Date.ofFieldsExactly_eq_ok_iff]
  refine ⟨fun d => ?_, ?_, fun e he => ?_, fun c e hc he => ?_⟩
  · refine ⟨?_, fun ⟨hname, hsame⟩ => ⟨_, hname, rfl, hsame⟩⟩
    rintro ⟨c, hname, rfl, hsame⟩
    exact ⟨hname, hsame⟩
  · refine ⟨?_, ?_⟩
    · rintro ⟨d, c, hname, rfl, hsame⟩
      obtain rfl : d.toYearMonthDay = t := hsame
      obtain ⟨hy₁, hy₂, hm₁, hm₂, hd₁, hd₂⟩ := d.isDate
      exact ⟨_, hname, ⟨hy₁, hy₂⟩, ⟨hm₁, hm₂⟩, hd₁, hd₂⟩
    · rintro ⟨c, hname, ⟨hy₁, hy₂⟩, ⟨hm₁, hm₂⟩, hd₁, hd₂⟩
      exact ⟨⟨t, c, hy₁, hy₂, hm₁, hm₂, hd₁, hd₂⟩, c, hname, rfl, rfl⟩
  · rw [he]
    rfl
  · rw [hc] at he
    obtain ⟨cause, hcause, rfl⟩ := Outcome.mapError_eq_error_iff.mp he
    exact ⟨cause, rfl, Date.outside_of_ofFieldsExactly hcause⟩

/-- A leap day in a record with a spelling variant of the chronology and a further entry; the same
numbers in a year without it, as a list, which are refused although the month has that day in other
years; a record with two days, which is refused although either would do; and a leap day that is
written and read. -/
theorem stored_dates_read_exactly_leapDay :
    Datum.toDate (.record [("note", .null), ("day", .integer 29), ("year", .integer 2020),
        ("month", .integer 2), ("chronology", .text " Proleptic_Gregorian ")]) =
      .ok ⟨⟨2020, 2, 29⟩, .iso, by decide⟩ ∧
    (¬∃ d, Datum.toDate (.list [.text "iso8601", .integer 2021, .integer 2, .integer 29]) =
      .ok d) ∧
    (∃ cause, Datum.toDate (.list [.text "iso8601", .integer 2021, .integer 2, .integer 29]) =
        .error (.calendar cause) ∧ Date.NamesOutside ⟨2021, 2, 29⟩ cause) ∧
    (¬∃ d, Datum.toDate (.record [("chronology", .text "iso8601"), ("day", .integer 5),
        ("day", .integer 31), ("month", .integer 1), ("year", .integer 2021)]) = .ok d) ∧
    Datum.toDate (Date.toDatum ⟨⟨1900, 2, 29⟩, .julian, by decide⟩) =
      .ok ⟨⟨1900, 2, 29⟩, .julian, by decide⟩ := by
  obtain ⟨hread, honce, hback⟩ := stored_dates_read_exactly
  have hrecord := hread (.record [("note", .null), ("day", .integer 29), ("year", .integer 2020),
    ("month", .integer 2), ("chronology", .text " Proleptic_Gregorian ")]) " Proleptic_Gregorian "
    ⟨2020, 2, 29⟩
    (.record (by decide) (by simp) (by simp) (by simp) (by simp)) (by decide) (by decide)
    (by decide)
  obtain ⟨-, hexists, -, hrefused⟩ := hread _ "iso8601" ⟨2021, 2, 29⟩ (.list _ _) (by decide)
    (by decide) (by decide)
  refine ⟨(hrecord.1 _).mpr ⟨by decide, rfl⟩, ?_, ?_, ?_, hback _⟩
  · rw [hexists]
    rintro ⟨c, hname, -, -, -, hday⟩
    obtain rfl : .iso = c := Except.ok.inj (Chronology.iso.parse_name.symm.trans hname)
    exact absurd hday (by decide)
  · obtain ⟨cause, hcause, hnames⟩ := hrefused .iso _ Chronology.iso.parse_name rfl
    exact ⟨cause, congrArg _ hcause, hnames⟩
  · rintro ⟨d, hd⟩
    exact absurd (honce _ d hd .day) (by decide)

end Calendrics
