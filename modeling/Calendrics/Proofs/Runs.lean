import Calendrics.Proofs.BareDate
import Calendrics.Proofs.Moves

/-!
# Runs of a calculator

Dates come about in many ways, one from another: from fields, from day numbers, from stored
values, by conversion, by edits, by moves of a unit or a period; and periods from pairs of dates
or by turning round. A run is any sequence of such requests, where each can use whatever the
earlier ones produced.

* `Calculator` — the operations that requests stand for, on some representation of dates;
* `Calculator.run` — the history that a list of requests leads to;
* `Calculator.Simulates` — one calculator does on images what another does on dates; then so do
  their runs (`Simulates.run_map`);
* `run_dates_supported` — **every date of a run is a supported day**, also for the calculator of
  bare dates, which builds its results without looking whether there is such a day.
-/

namespace Calendrics

/-! ## Moves and edits keep the chronology -/

namespace Date

variable {d d' : Date}

theorem chronology_of_plusWeeks {n : Int} (h : d.plusWeeks n = .ok d') :
    d'.chronology = d.chronology := by
  obtain ⟨days, -, hmove⟩ := Outcome.bind_eq_ok_iff.mp h
  exact (plusDays_eq_ok_iff.mp hmove).1

theorem chronology_of_plusYears {n : Int} (h : (d.plusYears n).result = .ok d') :
    d'.chronology = d.chronology :=
  (plusYears_eq_ok_iff.mp h).1

/-- An edit keeps the chronology. -/
theorem chronology_of_set {field : Field} {value : Int} (h : d.set field value = .ok d') :
    d'.chronology = d.chronology := by
  rw [set, setLogged] at h
  split at h
  case isFalse => cases h
  case isTrue =>
    cases field with
    | dayOfWeek => exact (plusDays_eq_ok_iff.mp h).1
    | alignedDayOfWeekInMonth => exact (plusDays_eq_ok_iff.mp h).1
    | alignedDayOfWeekInYear => exact (plusDays_eq_ok_iff.mp h).1
    | dayOfMonth => exact (resolve_eq_ok_iff.mp h).2.1
    | dayOfYear => exact (plusDays_eq_ok_iff.mp h).1
    | epochDay => exact (ofEpochDay_eq_ok_iff.mp h).1
    | alignedWeekOfMonth => exact chronology_of_plusWeeks h
    | alignedWeekOfYear => exact chronology_of_plusWeeks h
    | monthOfYear => exact (resolve_eq_ok_iff.mp h).2.1
    | prolepticMonth => exact (plusMonths_eq_ok_iff.mp h).1
    | yearOfEra => exact (resolve_eq_ok_iff.mp h).2.1
    | year => exact (resolve_eq_ok_iff.mp h).2.1
    | era =>
      rw [edit] at h
      split at h
      · obtain rfl := Except.ok.inj h
        rfl
      · exact (resolve_eq_ok_iff.mp h).2.1

/-- A move by a unit keeps the chronology. -/
theorem chronology_of_plus {amount : Int} {unit : TimeUnit} (h : d.plus amount unit = .ok d') :
    d'.chronology = d.chronology := by
  -- decades, centuries and millennia are year moves by a multiple
  have hyears : ∀ factor : Int,
      (do d.plusYears (← Amount.mul amount factor) : Logged Date).result = .ok d' →
        d'.chronology = d.chronology := by
    intro factor hmove
    rw [Logged.result_bind] at hmove
    obtain ⟨years, -, hmove⟩ := Outcome.bind_eq_ok_iff.mp hmove
    exact chronology_of_plusYears hmove
  cases unit with
  | days => exact (plusDays_eq_ok_iff.mp h).1
  | weeks => exact chronology_of_plusWeeks h
  | months => exact (plusMonths_eq_ok_iff.mp h).1
  | years => exact chronology_of_plusYears h
  | decades => exact hyears 10 h
  | centuries => exact hyears 100 h
  | millennia => exact hyears 1000 h
  | eras =>
    rw [plus, plusLogged, Logged.result_bind] at h
    obtain ⟨era, -, hset⟩ := Outcome.bind_eq_ok_iff.mp h
    exact chronology_of_set hset

/-- A move back keeps the chronology. -/
theorem chronology_of_minus {amount : Int} {unit : TimeUnit} (h : d.minus amount unit = .ok d') :
    d'.chronology = d.chronology := by
  rw [minus, minusLogged, Logged.result_bind] at h
  obtain ⟨n, -, hmove⟩ := Outcome.bind_eq_ok_iff.mp h
  exact chronology_of_plus hmove

/-- A move by a period keeps the chronology. -/
theorem chronology_of_plusPeriod {p : Period} (h : d.plusPeriod p = .ok d') :
    d'.chronology = d.chronology := by
  rw [plusPeriod_eq] at h
  obtain ⟨-, -, h⟩ := Outcome.bind_eq_ok_iff.mp h
  obtain ⟨moved, hmonths, hdays⟩ := Outcome.bind_eq_ok_iff.mp h
  exact (plusDays_eq_ok_iff.mp hdays).1.trans (plusMonths_eq_ok_iff.mp hmonths).1

end Date

/-! ## Calculators and their runs -/

/-- A calculator: the ways to get dates, in some representation, and periods. -/
structure Calculator (δ : Type) where
  /-- a date from fields -/
  ofFields : Chronology → Int → Int → Int → Except CalendarError δ
  /-- a date from a day number -/
  ofEpochDay : Chronology → Int → Except CalendarError δ
  /-- a date from a stored value -/
  read : Datum → Except ReadError δ
  /-- the same day in another chronology -/
  convertTo : δ → Chronology → Except CalendarError δ
  /-- a date with one field set -/
  set : δ → Field → Int → Except CalendarError δ
  /-- a date an amount of a unit later -/
  plus : δ → Int → TimeUnit → Except CalendarError δ
  /-- a date an amount of a unit earlier -/
  minus : δ → Int → TimeUnit → Except CalendarError δ
  /-- a date a period later -/
  plusPeriod : δ → Period → Except CalendarError δ
  /-- the gap between two dates -/
  periodUntil : δ → δ → Except CalendarError Period

/-- A request to a calculator. Dates and periods produced before are named by their positions. -/
inductive Request where
  /-- make a date from fields -/
  | ofFields (c : Chronology) (year month day : Int)
  /-- make a date from a day number -/
  | ofEpochDay (c : Chronology) (e : Int)
  /-- read a stored date -/
  | read (x : Datum)
  /-- convert a date -/
  | convert (i : Nat) (c : Chronology)
  /-- set a field of a date -/
  | set (i : Nat) (field : Field) (value : Int)
  /-- move a date forward -/
  | plus (i : Nat) (amount : Int) (unit : TimeUnit)
  /-- move a date back -/
  | minus (i : Nat) (amount : Int) (unit : TimeUnit)
  /-- move a date by a period -/
  | plusPeriod (i j : Nat)
  /-- measure the gap between two dates -/
  | periodUntil (i k : Nat)
  /-- turn a period round -/
  | negate (j : Nat)

/-- What a run has produced so far, in order. -/
structure History (δ : Type) where
  /-- the dates -/
  dates : List δ
  /-- the periods -/
  periods : List Period

namespace History

variable {δ ε : Type}

/-- The history with one more date, if there is one. -/
def addDate (h : History δ) : Option δ → History δ
  | some d => { h with dates := h.dates ++ [d] }
  | none => h

/-- The history with one more period, if there is one. -/
def addPeriod (h : History δ) : Option Period → History δ
  | some p => { h with periods := h.periods ++ [p] }
  | none => h

/-- The history with every date replaced by its image. -/
def map (f : δ → ε) (h : History δ) : History ε :=
  ⟨h.dates.map f, h.periods⟩

theorem map_addDate (f : δ → ε) (h : History δ) (d : Option δ) :
    (h.addDate d).map f = (h.map f).addDate (d.map f) := by
  cases d with
  | none => rfl
  | some d => exact congrArg (History.mk · h.periods) List.map_append

theorem map_addPeriod (f : δ → ε) (h : History δ) (p : Option Period) :
    (h.addPeriod p).map f = (h.map f).addPeriod p := by
  cases p <;> rfl

end History

namespace Calculator

variable {δ ε : Type}

/-- One request: what it produces is added to the history. A request that fails, or that names a
position where there is nothing, adds nothing. -/
def step (A : Calculator δ) (h : History δ) : Request → History δ
  | .ofFields c year month day => h.addDate (A.ofFields c year month day).toOption
  | .ofEpochDay c e => h.addDate (A.ofEpochDay c e).toOption
  | .read x => h.addDate (A.read x).toOption
  | .convert i c => h.addDate (h.dates[i]?.bind fun d => (A.convertTo d c).toOption)
  | .set i field value => h.addDate (h.dates[i]?.bind fun d => (A.set d field value).toOption)
  | .plus i amount unit => h.addDate (h.dates[i]?.bind fun d => (A.plus d amount unit).toOption)
  | .minus i amount unit => h.addDate (h.dates[i]?.bind fun d => (A.minus d amount unit).toOption)
  | .plusPeriod i j =>
    h.addDate (h.periods[j]?.bind fun p => h.dates[i]?.bind fun d => (A.plusPeriod d p).toOption)
  | .periodUntil i k =>
    h.addPeriod (h.dates[i]?.bind fun a => h.dates[k]?.bind fun b => (A.periodUntil a b).toOption)
  | .negate j => h.addPeriod (h.periods[j]?.map Period.negated)

/-- The history that a list of requests leads to. -/
def run (A : Calculator δ) (requests : List Request) : History δ :=
  requests.foldl A.step ⟨[], []⟩

/-- The calculator of dates. -/
def ofDates : Calculator Date where
  ofFields := Date.ofFields
  ofEpochDay := Date.ofEpochDay
  read := Datum.toDate
  convertTo := Date.convertTo
  set := Date.set
  plus := Date.plus
  minus := Date.minus
  plusPeriod := Date.plusPeriod
  periodUntil := Date.periodUntil

/-- The calculator of bare dates. -/
def ofBareDates : Calculator BareDate where
  ofFields := BareDate.ofFields
  ofEpochDay := BareDate.ofEpochDay
  read := BareDate.read
  convertTo := BareDate.convertTo
  set := BareDate.set
  plus := BareDate.plus
  minus := BareDate.minus
  plusPeriod := BareDate.plusPeriod
  periodUntil := BareDate.periodUntil

/-- `B` simulates `A` along `f`: it does on images what `A` does on dates, failures included. -/
structure Simulates (f : δ → ε) (A : Calculator δ) (B : Calculator ε) : Prop where
  /-- dates from fields -/
  ofFields : ∀ c year month day,
    (A.ofFields c year month day).map f = B.ofFields c year month day
  /-- dates from day numbers -/
  ofEpochDay : ∀ c e, (A.ofEpochDay c e).map f = B.ofEpochDay c e
  /-- stored dates -/
  read : ∀ x, (A.read x).map f = B.read x
  /-- conversions -/
  convertTo : ∀ d c, (A.convertTo d c).map f = B.convertTo (f d) c
  /-- edits -/
  set : ∀ d field value, (A.set d field value).map f = B.set (f d) field value
  /-- moves forward -/
  plus : ∀ d amount unit, (A.plus d amount unit).map f = B.plus (f d) amount unit
  /-- moves back -/
  minus : ∀ d amount unit, (A.minus d amount unit).map f = B.minus (f d) amount unit
  /-- moves by a period -/
  plusPeriod : ∀ d p, (A.plusPeriod d p).map f = B.plusPeriod (f d) p
  /-- gaps -/
  periodUntil : ∀ a b, A.periodUntil a b = B.periodUntil (f a) (f b)

/-- What an operation does with the image of a date is the image of what it does with the date. -/
theorem map_bind_toOption {e : Type} {f : δ → ε} {g : δ → Except e δ} {g' : ε → Except e ε}
    (hg : ∀ d, (g d).map f = g' (f d)) (d : Option δ) :
    (d.bind fun d => (g d).toOption).map f = (d.map f).bind fun d => (g' d).toOption := by
  cases d with
  | none => rfl
  | some d =>
    change (g d).toOption.map f = (g' (f d)).toOption
    rw [← hg d]
    cases g d <;> rfl

/-- A step of the simulated calculator is a step of the simulating one. -/
theorem Simulates.step_map {f : δ → ε} {A : Calculator δ} {B : Calculator ε}
    (hAB : Simulates f A B) (h : History δ) (request : Request) :
    (A.step h request).map f = B.step (h.map f) request := by
  have hdate : ∀ i, (h.map f).dates[i]? = h.dates[i]?.map f := fun i => List.getElem?_map
  cases request with
  | ofFields c year month day =>
    rw [step, step, History.map_addDate, ← hAB.ofFields]
    cases A.ofFields c year month day <;> rfl
  | ofEpochDay c e =>
    rw [step, step, History.map_addDate, ← hAB.ofEpochDay]
    cases A.ofEpochDay c e <;> rfl
  | read x =>
    rw [step, step, History.map_addDate, ← hAB.read]
    cases A.read x <;> rfl
  | convert i c =>
    rw [step, step, History.map_addDate, hdate]
    exact congrArg _ (map_bind_toOption (hAB.convertTo · c) h.dates[i]?)
  | set i field value =>
    rw [step, step, History.map_addDate, hdate]
    exact congrArg _ (map_bind_toOption (hAB.set · field value) h.dates[i]?)
  | plus i amount unit =>
    rw [step, step, History.map_addDate, hdate]
    exact congrArg _ (map_bind_toOption (hAB.plus · amount unit) h.dates[i]?)
  | minus i amount unit =>
    rw [step, step, History.map_addDate, hdate]
    exact congrArg _ (map_bind_toOption (hAB.minus · amount unit) h.dates[i]?)
  | plusPeriod i j =>
    rw [step, step, History.map_addDate, hdate]
    change _ = (h.map f).addDate (h.periods[j]?.bind _)
    cases h.periods[j]? with
    | none => rfl
    | some p => exact congrArg _ (map_bind_toOption (hAB.plusPeriod · p) h.dates[i]?)
  | periodUntil i k =>
    rw [step, step, History.map_addPeriod]
    simp only [hdate, Option.bind_map, Function.comp_def, hAB.periodUntil]
  | negate j => exact History.map_addPeriod f h _

/-- **Simulation carries over to runs.** -/
theorem Simulates.run_map {f : δ → ε} {A : Calculator δ} {B : Calculator ε}
    (hAB : Simulates f A B) (requests : List Request) :
    (A.run requests).map f = B.run requests :=
  (List.foldl_hom (History.map f) fun h request => (hAB.step_map h request).symm).symm

/-- Bare dates are calculated with as dates are. -/
theorem ofBareDates_simulates : Simulates Date.bare ofDates ofBareDates where
  ofFields := Date.bare_ofFields
  ofEpochDay := Date.bare_ofEpochDay
  read := Date.bare_read
  convertTo := Date.bare_convertTo
  set := Date.bare_set
  plus := Date.bare_plus
  minus := Date.bare_minus
  plusPeriod := Date.bare_plusPeriod
  periodUntil := Date.periodUntil_bare

/-- Every bare date of a run is a date without its proof. -/
theorem exists_date_of_mem_run {requests : List Request} {d : BareDate}
    (hd : d ∈ (ofBareDates.run requests).dates) :
    ∃ date ∈ (ofDates.run requests).dates, date.bare = d := by
  rw [← ofBareDates_simulates.run_map requests] at hd
  exact List.mem_map.mp hd

/-- **Runs stay among the supported days**: a run with bare dates is the run with dates, so each
bare date that comes about has a supported year, a month of it and a day of that month. Edits and
moves stay in the chronology of the date they begin with; conversions go to the one asked for. -/
theorem run_dates_supported (requests : List Request) :
    (ofBareDates.run requests = (ofDates.run requests).map Date.bare ∧
      ∀ d ∈ (ofBareDates.run requests).dates,
        (minYear ≤ d.year ∧ d.year ≤ maxYear) ∧ (1 ≤ d.month ∧ d.month ≤ 12) ∧
          1 ≤ d.day ∧ d.day ≤ d.chronology.lengthOfMonth d.year d.month) ∧
      ∀ d d' : Date,
        (∀ field value, d.set field value = .ok d' → d'.chronology = d.chronology) ∧
          (∀ amount unit, d.plus amount unit = .ok d' → d'.chronology = d.chronology) ∧
          (∀ amount unit, d.minus amount unit = .ok d' → d'.chronology = d.chronology) ∧
          (∀ p, d.plusPeriod p = .ok d' → d'.chronology = d.chronology) ∧
          ∀ c, d.convertTo c = .ok d' → d'.chronology = c := by
  refine ⟨⟨(ofBareDates_simulates.run_map requests).symm, ?_⟩, ?_⟩
  · intro d hd
    obtain ⟨date, -, rfl⟩ := exists_date_of_mem_run hd
    obtain ⟨hy₁, hy₂, hm₁, hm₂, hd₁, hd₂⟩ := date.isDate
    exact ⟨⟨hy₁, hy₂⟩, ⟨hm₁, hm₂⟩, hd₁, hd₂⟩
  · intro d d'
    refine ⟨?_, ?_, ?_, ?_, ?_⟩
    · intro field value h
      exact Date.chronology_of_set h
    · intro amount unit h
      exact Date.chronology_of_plus h
    · intro amount unit h
      exact Date.chronology_of_minus h
    · intro p h
      exact Date.chronology_of_plusPeriod h
    · intro c h
      exact (Date.ofEpochDay_eq_ok_iff.mp h).1

/-- A run from the end of January to the leap day after it, back by the gap between the two, and
into another chronology; and a last day of February reached by an edit, two moves, a period and a
conversion, each in a chronology of its own. -/
theorem run_dates_supported_leapDay :
    ((⟨⟨2024, 1, 18⟩, .julian⟩ : BareDate) ∈ (ofBareDates.run [.ofFields .iso 2024 1 31,
        .plus 0 1 .months, .periodUntil 0 1, .negate 0, .plusPeriod 1 1,
        .convert 2 .julian]).dates ∧
      (minYear ≤ 2024 ∧ 2024 ≤ maxYear) ∧ ((1 : Int) ≤ 1 ∧ (1 : Int) ≤ 12) ∧
        (1 : Int) ≤ 18 ∧ 18 ≤ Chronology.julian.lengthOfMonth 2024 1) ∧
      (Date.set ⟨⟨2024, 1, 31⟩, .iso, by decide⟩ .monthOfYear 2 =
        .ok ⟨⟨2024, 2, 29⟩, .iso, by decide⟩ ∧ Chronology.iso = .iso) ∧
      (Date.plus ⟨⟨1900, 1, 31⟩, .julian, by decide⟩ 1 .months =
        .ok ⟨⟨1900, 2, 29⟩, .julian, by decide⟩ ∧ Chronology.julian = .julian) ∧
      (Date.minus ⟨⟨2023, 3, 31⟩, .allLeap, by decide⟩ 1 .months =
        .ok ⟨⟨2023, 2, 29⟩, .allLeap, by decide⟩ ∧ Chronology.allLeap = .allLeap) ∧
      (Date.plusPeriod ⟨⟨2024, 1, 31⟩, .noLeap, by decide⟩ ⟨.noLeap, 0, 1, 0⟩ =
        .ok ⟨⟨2024, 2, 28⟩, .noLeap, by decide⟩ ∧ Chronology.noLeap = .noLeap) ∧
      Date.convertTo ⟨⟨2024, 3, 13⟩, .iso, by decide⟩ .julian =
        .ok ⟨⟨2024, 2, 29⟩, .julian, by decide⟩ ∧ Chronology.julian = .julian := by
  obtain ⟨⟨-, hdates⟩, hkept⟩ := run_dates_supported [.ofFields .iso 2024 1 31,
    .plus 0 1 .months, .periodUntil 0 1, .negate 0, .plusPeriod 1 1, .convert 2 .julian]
  have hmem : (⟨⟨2024, 1, 18⟩, .julian⟩ : BareDate) ∈ (ofBareDates.run [.ofFields .iso 2024 1 31,
      .plus 0 1 .months, .periodUntil 0 1, .negate 0, .plusPeriod 1 1,
      .convert 2 .julian]).dates := by decide
  refine ⟨⟨hmem, hdates _ hmem⟩, ⟨rfl, ?_⟩, ⟨rfl, ?_⟩, ⟨rfl, ?_⟩, ⟨rfl, ?_⟩, rfl, ?_⟩
  · exact (hkept ⟨⟨2024, 1, 31⟩, .iso, by decide⟩ ⟨⟨2024, 2, 29⟩, .iso, by decide⟩).1
      .monthOfYear 2 rfl
  · exact (hkept ⟨⟨1900, 1, 31⟩, .julian, by decide⟩ ⟨⟨1900, 2, 29⟩, .julian, by decide⟩).2.1
      1 .months rfl
  · exact (hkept ⟨⟨2023, 3, 31⟩, .allLeap, by decide⟩
      ⟨⟨2023, 2, 29⟩, .allLeap, by decide⟩).2.2.1 1 .months rfl
  · exact (hkept ⟨⟨2024, 1, 31⟩, .noLeap, by decide⟩
      ⟨⟨2024, 2, 28⟩, .noLeap, by decide⟩).2.2.2.1 ⟨.noLeap, 0, 1, 0⟩ rfl
  · exact (hkept ⟨⟨2024, 3, 13⟩, .iso, by decide⟩
      ⟨⟨2024, 2, 29⟩, .julian, by decide⟩).2.2.2.2 .julian rfl

end Calculator

end Calendrics
