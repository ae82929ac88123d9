import DatePartition.Calendar.Basic

/-!
# Dates

A `Date` is a year, a month and a day that exists in that month; the type holds no other triples.

- `Date.ofNumbers y m d`: checks the year, then the month, then the day.
- `a < b`, `a ≤ b`: the lexicographic order on year, month and day.
- `Date.next?`: the following day; only the last day of year 9999 has none.
- `Date.following n d`: the `n` days after `d`, fewer if the calendar ends before.
- `Date.dayNumber`: how many days of the calendar lie at or before a date.
-/

namespace DatePartition

/-- A day of the Gregorian calendar, in the years 1 to 9999. -/
structure Date where
  year : Year
  month : Month
  day : Day
  /-- The day exists in its month. -/
  existsIn : day.ExistsIn year month := by decide
deriving DecidableEq, Repr

namespace Date

@[ext] theorem ext {a b : Date} (hy : a.year = b.year) (hm : a.month = b.month)
    (hd : a.day = b.day) : a = b := by
  cases a; cases b; simp_all

/-! ## Construction -/

/-- The date with these numbers, or the cause of the first refusal. -/
def ofNumbers (y m d : Nat) : Except DateError Date := do
  let year ← Year.ofNumber y
  let month ← Month.ofNumber m
  let day ← Day.inMonth d year month
  return ⟨year, month, day.1, day.2⟩

/-- The numbers of a date make it up again. -/
theorem ofNumbers_numbers (d : Date) :
    ofNumbers d.year.number d.month.number d.day.number = .ok d := by
  rw [ofNumbers, Year.ofNumber_number, Month.ofNumber_number]
  show (do let day ← Day.inMonth d.day.number d.year d.month; _) = _
  rw [Day.inMonth_number d.existsIn]
  rfl

/-- The first day of a month. -/
def firstOf (y : Year) (m : Month) : Date := ⟨y, m, Day.first, Day.first_existsIn y m⟩

/-- The date is the first of its month. -/
def IsFirstOfMonth (d : Date) : Prop := d.day.number = 1

instance : DecidablePred IsFirstOfMonth := fun _ => inferInstanceAs (Decidable (_ = _))

/-- The date is the last of its month. -/
def IsLastOfMonth (d : Date) : Prop := d.day.number = d.month.lengthIn d.year

instance : DecidablePred IsLastOfMonth := fun _ => inferInstanceAs (Decidable (_ = _))

/-! ## Order -/

/-- The order on year, then month, then day. -/
instance : LT Date where
  lt a b := a.year.number < b.year.number ∨ a.year.number = b.year.number ∧
    (a.month.number < b.month.number ∨ a.month.number = b.month.number ∧
      a.day.number < b.day.number)

/-- The order on year, then month, then day, with equality. -/
instance : LE Date where
  le a b := a.year.number < b.year.number ∨ a.year.number = b.year.number ∧
    (a.month.number < b.month.number ∨ a.month.number = b.month.number ∧
      a.day.number ≤ b.day.number)

instance (a b : Date) : Decidable (a < b) := inferInstanceAs (Decidable (_ ∨ _))

instance (a b : Date) : Decidable (a ≤ b) := inferInstanceAs (Decidable (_ ∨ _))

theorem lt_def {a b : Date} : a < b ↔
    a.year.number < b.year.number ∨ a.year.number = b.year.number ∧
      (a.month.number < b.month.number ∨ a.month.number = b.month.number ∧
        a.day.number < b.day.number) := Iff.rfl

theorem le_def {a b : Date} : a ≤ b ↔
    a.year.number < b.year.number ∨ a.year.number = b.year.number ∧
      (a.month.number < b.month.number ∨ a.month.number = b.month.number ∧
        a.day.number ≤ b.day.number) := Iff.rfl

/-- Dates that agree in all three numbers are equal. -/
theorem eq_of_numbers {a b : Date} (hy : a.year.number = b.year.number)
    (hm : a.month.number = b.month.number) (hd : a.day.number = b.day.number) : a = b :=
  ext (Year.ext hy) (Month.ext hm) (Day.ext hd)

theorem le_refl (a : Date) : a ≤ a := by
  rw [le_def]; omega

theorem le_antisymm {a b : Date} (h : a ≤ b) (k : b ≤ a) : a = b := by
  rw [le_def] at *
  exact eq_of_numbers (by omega) (by omega) (by omega)

theorem not_lt {a b : Date} : ¬ a < b ↔ b ≤ a := by
  rw [lt_def, le_def]; omega

theorem not_le {a b : Date} : ¬ a ≤ b ↔ b < a := by
  rw [lt_def, le_def]; omega

/-! ## Following days -/

/-- The day after a date: the next day of the month, else the first of the next month, else the
first of January. Only the last day of the last year has none. -/
def next? (d : Date) : Option Date :=
  if h : d.day.number < d.month.lengthIn d.year then
    some ⟨d.year, d.month,
      ⟨d.day.number + 1, Nat.le_add_left 1 _, Nat.le_trans h (d.month.lengthIn_le d.year)⟩, h⟩
  else if h : d.month.number < 12 then
    some (firstOf d.year ⟨d.month.number + 1, Nat.le_add_left 1 _, h⟩)
  else if h : d.year.number < 9999 then
    some (firstOf ⟨d.year.number + 1, Nat.le_add_left 1 _, h⟩ Month.january)
  else none

/-- Puts the dates after `d`, latest first, before `seen`: at most `n` of them, and none from the
first date on that `keep` rejects. -/
def pushFollowing (keep : Date → Bool) : Nat → Date → List Date → List Date
  | 0, _, seen => seen
  | n + 1, d, seen =>
    match d.next? with
    | none => seen
    | some e => if keep e then pushFollowing keep n e (e :: seen) else seen

/-- The `n` days after a date, ascending; fewer if the calendar ends before. -/
def following (n : Nat) (d : Date) : List Date := (pushFollowing (fun _ => true) n d []).reverse

/-! ## Day numbers -/

/-- The number of days in the months before month `m` of year `y`. -/
def daysBeforeMonth (y m : Nat) : Nat :=
  (numbersThrough 1 (m - 1)).foldl (fun n k => n + monthLength y k) 0

/-- The number of days in the years before year `y`. -/
def daysBeforeYear (y : Nat) : Nat := 365 * (y - 1) + (y - 1) / 4 - (y - 1) / 100 + (y - 1) / 400

/-- The number of days from the first day of the calendar to this one, both counted. -/
def dayNumber (d : Date) : Nat :=
  daysBeforeYear d.year.number + daysBeforeMonth d.year.number d.month.number + d.day.number

end Date

end DatePartition
