import DatePartition.Calendar.Error

/-!
# Years, months and days

The proleptic Gregorian calendar for the years 1 to 9999. Numbers outside the calendar have no
value in these types, so later definitions need no checks of their own.

- `IsLeapYear y`, `monthLength y m`: the Gregorian rules, on plain numbers.
- `Year`, `Month`, `Day`: numbers within their bounds. A `Day` on its own is only known to be in the
  longest month; `Date` ties it to a month.
- `ofNumber`: the checked way in, with the cause of a refusal; `Day.inMonth` checks against a month.
- `through`: the run of values from one to another, empty if the second comes first.
- `chars`: the fixed-width text of a value, as it stands in partition names.
-/

namespace DatePartition

/-! ## The Gregorian rules -/

/-- Every fourth year is a leap year, except the centuries that 400 does not divide. -/
def IsLeapYear (y : Nat) : Prop := (y % 4 = 0 ∧ y % 100 ≠ 0) ∨ y % 400 = 0

instance : DecidablePred IsLeapYear := fun _ => inferInstanceAs (Decidable (_ ∨ _))

/-- The number of days in month `m` of year `y`, for `m` from 1 to 12. -/
def monthLength (y m : Nat) : Nat :=
  match m with
  | 2 => if IsLeapYear y then 29 else 28
  | 4 | 6 | 9 | 11 => 30
  | _ => 31

/-- The number of days in month `m` of year `y`, if there is such a month. -/
def monthLength? (y m : Nat) : Option Nat :=
  if 1 ≤ m ∧ m ≤ 12 then some (monthLength y m) else none

/-- Every month has at least 28 days. -/
theorem le_monthLength (y m : Nat) : 28 ≤ monthLength y m := by
  unfold monthLength
  split <;> (try split) <;> omega

/-- No month has more than 31 days. -/
theorem monthLength_le (y m : Nat) : monthLength y m ≤ 31 := by
  unfold monthLength
  split <;> (try split) <;> omega

/-- The numbers from `a` to `b`, ascending; none if `b` is smaller. -/
def numbersThrough (a b : Nat) : List Nat := List.range' a (b + 1 - a)

@[simp] theorem mem_numbersThrough {a b n : Nat} :
    n ∈ numbersThrough a b ↔ a ≤ n ∧ n ≤ b := by
  rw [numbersThrough, List.mem_range'_1]
  omega

/-! ## Years -/

/-- A year from 1 to 9999. -/
structure Year where
  /-- The number of the year. -/
  number : Nat
  one_le : 1 ≤ number := by decide
  number_le : number ≤ 9999 := by decide
deriving DecidableEq, Repr

namespace Year

/-- The last year of the calendar. -/
def greatest : Year := ⟨9999, by decide, by decide⟩

/-- The year with this number, if there is one. -/
def ofNumber? (n : Nat) : Option Year :=
  if h : 1 ≤ n ∧ n ≤ 9999 then some ⟨n, h.1, h.2⟩ else none

/-- The year with this number, or the cause of its refusal. -/
def ofNumber (n : Nat) : Except DateError Year :=
  match ofNumber? n with
  | some y => .ok y
  | none => .error (.invalidYear n)

/-- The years from `first` to `last`, ascending. -/
def through (first last : Year) : List Year :=
  (numbersThrough first.number last.number).filterMap ofNumber?

/-- A year has four places. -/
def chars (y : Year) : List Char := Numeral.padded 4 y.number

@[ext] theorem ext {a b : Year} (h : a.number = b.number) : a = b := by
  cases a; cases b; simp_all

@[simp] theorem ofNumber?_number (y : Year) : ofNumber? y.number = some y := by
  simp [ofNumber?, y.one_le, y.number_le]

@[simp] theorem ofNumber_number (y : Year) : ofNumber y.number = .ok y := by
  rw [ofNumber, ofNumber?_number]

theorem ofNumber_eq_ok {n : Nat} (h : 1 ≤ n ∧ n ≤ 9999) : ofNumber n = .ok ⟨n, h.1, h.2⟩ := by
  rw [ofNumber, ofNumber?, dif_pos h]

theorem ofNumber_eq_error {n : Nat} (h : ¬ (1 ≤ n ∧ n ≤ 9999)) :
    ofNumber n = .error (.invalidYear n) := by
  rw [ofNumber, ofNumber?, dif_neg h]

theorem ofNumber?_eq_some {n : Nat} {y : Year} : ofNumber? n = some y ↔ y.number = n := by
  constructor
  · intro h
    unfold ofNumber? at h
    split at h
    · cases h; rfl
    · cases h
  · rintro rfl
    exact ofNumber?_number y

/-- All years have texts of one length. -/
theorem length_chars (y : Year) : y.chars.length = 4 :=
  Numeral.length_padded (by decide) (Nat.lt_of_le_of_lt y.number_le (by decide))

@[simp] theorem chars_inj {a b : Year} : a.chars = b.chars ↔ a = b := by
  rw [chars, chars, Numeral.padded_inj, Year.ext_iff]

end Year

/-! ## Months -/

/-- A month from 1 to 12. -/
structure Month where
  /-- The number of the month. -/
  number : Nat
  one_le : 1 ≤ number := by decide
  number_le : number ≤ 12 := by decide
deriving DecidableEq, Repr

namespace Month

/-- The first month of a year. -/
def january : Month := ⟨1, by decide, by decide⟩

/-- The month whose length varies. -/
def february : Month := ⟨2, by decide, by decide⟩

/-- The last month of a year. -/
def december : Month := ⟨12, by decide, by decide⟩

/-- The number of months in a year. -/
def perYear : Nat := 12

/-- The month with this number, if there is one. -/
def ofNumber? (n : Nat) : Option Month :=
  if h : 1 ≤ n ∧ n ≤ 12 then some ⟨n, h.1, h.2⟩ else none

/-- The month with this number, or the cause of its refusal. -/
def ofNumber (n : Nat) : Except DateError Month :=
  match ofNumber? n with
  | some m => .ok m
  | none => .error (.invalidMonth n)

/-- The months from `first` to `last`, ascending. -/
def through (first last : Month) : List Month :=
  (numbersThrough first.number last.number).filterMap ofNumber?

/-- The number of days of this month in year `y`. -/
def lengthIn (m : Month) (y : Year) : Nat := monthLength y.number m.number

/-- A month has two places. -/
def chars (m : Month) : List Char := Numeral.padded 2 m.number

@[ext] theorem ext {a b : Month} (h : a.number = b.number) : a = b := by
  cases a; cases b; simp_all

@[simp] theorem ofNumber?_number (m : Month) : ofNumber? m.number = some m := by
  simp [ofNumber?, m.one_le, m.number_le]

@[simp] theorem ofNumber_number (m : Month) : ofNumber m.number = .ok m := by
  rw [ofNumber, ofNumber?_number]

theorem ofNumber_eq_ok {n : Nat} (h : 1 ≤ n ∧ n ≤ 12) : ofNumber n = .ok ⟨n, h.1, h.2⟩ := by
  rw [ofNumber, ofNumber?, dif_pos h]

theorem ofNumber_eq_error {n : Nat} (h : ¬ (1 ≤ n ∧ n ≤ 12)) :
    ofNumber n = .error (.invalidMonth n) := by
  rw [ofNumber, ofNumber?, dif_neg h]

theorem ofNumber?_eq_some {n : Nat} {m : Month} : ofNumber? n = some m ↔ m.number = n := by
  constructor
  · intro h
    unfold ofNumber? at h
    split at h
    · cases h; rfl
    · cases h
  · rintro rfl
    exact ofNumber?_number m

theorem le_lengthIn (m : Month) (y : Year) : 28 ≤ m.lengthIn y := le_monthLength _ _

theorem lengthIn_le (m : Month) (y : Year) : m.lengthIn y ≤ 31 := monthLength_le _ _

/-- All months have texts of one length. -/
theorem length_chars (m : Month) : m.chars.length = 2 :=
  Numeral.length_padded (by decide) (Nat.lt_of_le_of_lt m.number_le (by decide))

@[simp] theorem chars_inj {a b : Month} : a.chars = b.chars ↔ a = b := by
  rw [chars, chars, Numeral.padded_inj, Month.ext_iff]

end Month

/-! ## Days -/

/-- A day of the month, from 1 to 31. -/
structure Day where
  /-- The number of the day. -/
  number : Nat
  one_le : 1 ≤ number := by decide
  number_le : number ≤ 31 := by decide
deriving DecidableEq, Repr

namespace Day

/-- The first day of a month. -/
def first : Day := ⟨1, by decide, by decide⟩

/-- The last day of the longest month. -/
def greatest : Day := ⟨31, by decide, by decide⟩

/-- The last day of month `m` in year `y`. -/
def lastOf (y : Year) (m : Month) : Day :=
  ⟨m.lengthIn y, Nat.le_trans (by decide) (m.le_lengthIn y), m.lengthIn_le y⟩

/-- The day with this number, if the longest month has it. -/
def ofNumber? (n : Nat) : Option Day :=
  if h : 1 ≤ n ∧ n ≤ 31 then some ⟨n, h.1, h.2⟩ else none

/-- The day with this number, checked against the longest month only. -/
def ofNumber (n : Nat) : Except DateError Day :=
  match ofNumber? n with
  | some d => .ok d
  | none => .error (.invalidDay 0 0 n)

/-- The day exists in month `m` of year `y`. -/
def ExistsIn (d : Day) (y : Year) (m : Month) : Prop := d.number ≤ m.lengthIn y

instance (d : Day) (y : Year) (m : Month) : Decidable (d.ExistsIn y m) :=
  inferInstanceAs (Decidable (_ ≤ _))

/-- The day with this number in month `m` of year `y`, or the cause of its refusal. -/
def inMonth (n : Nat) (y : Year) (m : Month) : Except DateError { d : Day // d.ExistsIn y m } :=
  if h : 1 ≤ n ∧ n ≤ m.lengthIn y then
    .ok ⟨⟨n, h.1, Nat.le_trans h.2 (m.lengthIn_le y)⟩, h.2⟩
  else .error (.invalidDay y.number m.number n)

/-- The days from `first` to `last`, ascending. -/
def through (first last : Day) : List Day :=
  (numbersThrough first.number last.number).filterMap ofNumber?

/-- A day has two places. -/
def chars (d : Day) : List Char := Numeral.padded 2 d.number

@[ext] theorem ext {a b : Day} (h : a.number = b.number) : a = b := by
  cases a; cases b; simp_all

@[simp] theorem ofNumber?_number (d : Day) : ofNumber? d.number = some d := by
  simp [ofNumber?, d.one_le, d.number_le]

@[simp] theorem ofNumber_number (d : Day) : ofNumber d.number = .ok d := by
  rw [ofNumber, ofNumber?_number]

theorem ofNumber?_eq_some {n : Nat} {d : Day} : ofNumber? n = some d ↔ d.number = n := by
  constructor
  · intro h
    unfold ofNumber? at h
    split at h
    · cases h; rfl
    · cases h
  · rintro rfl
    exact ofNumber?_number d

theorem inMonth_eq_ok {n : Nat} {y : Year} {m : Month} (h : 1 ≤ n ∧ n ≤ m.lengthIn y) :
    inMonth n y m = .ok ⟨⟨n, h.1, Nat.le_trans h.2 (m.lengthIn_le y)⟩, h.2⟩ :=
  dif_pos h

theorem inMonth_eq_error {n : Nat} {y : Year} {m : Month} (h : ¬ (1 ≤ n ∧ n ≤ m.lengthIn y)) :
    inMonth n y m = .error (.invalidDay y.number m.number n) :=
  dif_neg h

/-- A day of a month passes the check against it. -/
theorem inMonth_number {d : Day} {y : Year} {m : Month} (h : d.ExistsIn y m) :
    inMonth d.number y m = .ok ⟨d, h⟩ :=
  dif_pos ⟨d.one_le, h⟩

/-- The first day exists in every month. -/
theorem first_existsIn (y : Year) (m : Month) : first.ExistsIn y m :=
  Nat.le_trans (by decide) (m.le_lengthIn y)

/-- All days have texts of one length. -/
theorem length_chars (d : Day) : d.chars.length = 2 :=
  Numeral.length_padded (by decide) (Nat.lt_of_le_of_lt d.number_le (by decide))

@[simp] theorem chars_inj {a b : Day} : a.chars = b.chars ↔ a = b := by
  rw [chars, chars, Numeral.padded_inj, Day.ext_iff]

end Day

/-! ## Runs -/

@[simp] theorem Year.mem_through {y first last : Year} :
    y ∈ first.through last ↔ first.number ≤ y.number ∧ y.number ≤ last.number := by
  simp [Year.through, Year.ofNumber?_eq_some]

@[simp] theorem Month.mem_through {m first last : Month} :
    m ∈ first.through last ↔ first.number ≤ m.number ∧ m.number ≤ last.number := by
  simp [Month.through, Month.ofNumber?_eq_some]

@[simp] theorem Day.mem_through {d first last : Day} :
    d ∈ first.through last ↔ first.number ≤ d.number ∧ d.number ≤ last.number := by
  simp [Day.through, Day.ofNumber?_eq_some]

/-- Numbers that all have a value come back from their values. -/
theorem map_filterMap_ofNumber {α : Type} {ofNumber? : Nat → Option α} {number : α → Nat}
    {ns : List Nat} (h : ∀ n ∈ ns, ∃ a, ofNumber? n = some a ∧ number a = n) :
    (ns.filterMap ofNumber?).map number = ns := by
  induction ns with
  | nil => rfl
  | cons n ns ih =>
    obtain ⟨a, ha, hn⟩ := h n (List.mem_cons_self ..)
    rw [List.filterMap_cons_some ha, List.map_cons, hn,
      ih fun k hk => h k (List.mem_cons_of_mem _ hk)]

theorem Year.map_number_through (first last : Year) :
    (first.through last).map number = numbersThrough first.number last.number := by
  refine map_filterMap_ofNumber fun n hn => ?_
  rw [mem_numbersThrough] at hn
  have hlow := first.one_le
  have hhigh := last.number_le
  exact ⟨⟨n, by omega, by omega⟩, ofNumber?_eq_some.2 rfl, rfl⟩

theorem Month.map_number_through (first last : Month) :
    (first.through last).map number = numbersThrough first.number last.number := by
  refine map_filterMap_ofNumber fun n hn => ?_
  rw [mem_numbersThrough] at hn
  have hlow := first.one_le
  have hhigh := last.number_le
  exact ⟨⟨n, by omega, by omega⟩, ofNumber?_eq_some.2 rfl, rfl⟩

theorem Day.map_number_through (first last : Day) :
    (first.through last).map number = numbersThrough first.number last.number := by
  refine map_filterMap_ofNumber fun n hn => ?_
  rw [mem_numbersThrough] at hn
  have hlow := first.one_le
  have hhigh := last.number_le
  exact ⟨⟨n, by omega, by omega⟩, ofNumber?_eq_some.2 rfl, rfl⟩

end DatePartition
