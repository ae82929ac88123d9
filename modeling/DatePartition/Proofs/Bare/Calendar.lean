import DatePartition.Proofs.Bare.Attempt
import DatePartition.Calendar.DateText

/-!
# Dates as bare numbers

The calendar again, with dates that are three numbers and carry no proof that they belong together.
The length of a month is looked up in a table after an assertion that there is such a month, and the
sums of the successor are held in words. The functions for dates with proofs say what all of this
comes to.

- `monthLength y m`: the length of a month. `monthLength_eq`, `monthLength_eq_error`: it is known
  for the months that exist and faults on all other numbers.
- `Date`, `Date.Valid`: three numbers, and those that are a day of the calendar.
- `DatePartition.Date.bare`: the numbers of a date, which are valid.
- `Date.ofNumbers_grants`, `Date.next?_grants`, `Date.parse_grants`: **construction, successor and
  reading do not fault**, and give the numbers of what the functions for dates give.
-/

namespace DatePartition

namespace Bare

/-! ## Lengths of months -/

/-- The lengths of the months of a common year. There is no month 0. -/
def commonLengths : List Nat := [0, 31, 28, 31, 30, 31, 30, 31, 31, 30, 31, 30, 31]

/-- The number of days in month `m` of year `y`. -/
def monthLength (y m : Nat) : Checked Nat := do
  ensure (m ≠ 0 ∧ m ≤ 12)
  if m = 2 ∧ IsLeapYear y then return 29 else entry commonLengths m

theorem monthLength_eq {m : Nat} (hpos : 1 ≤ m) (hle : m ≤ 12) (y : Nat) :
    monthLength y m = .ok (DatePartition.monthLength y m) := by
  have hensure : ensure (m ≠ 0 ∧ m ≤ 12) = .ok () := if_pos ⟨by omega, hle⟩
  rw [monthLength, hensure]
  show (if m = 2 ∧ IsLeapYear y then Except.ok 29 else entry commonLengths m) = _
  by_cases hleap : m = 2 ∧ IsLeapYear y
  · obtain ⟨rfl, hy⟩ := hleap
    simp [DatePartition.monthLength, hy]
  · -- the table and the rules agree month by month, and only one month asks for the year
    rw [if_neg hleap]
    have hcases : m = 1 ∨ m = 2 ∨ m = 3 ∨ m = 4 ∨ m = 5 ∨ m = 6 ∨ m = 7 ∨ m = 8 ∨ m = 9 ∨ m = 10
        ∨ m = 11 ∨ m = 12 := by omega
    rcases hcases with rfl | rfl | rfl | rfl | rfl | rfl | rfl | rfl | rfl | rfl | rfl | rfl
    case inr.inl =>
      have hy : ¬ IsLeapYear y := fun hy => hleap ⟨rfl, hy⟩
      simp [DatePartition.monthLength, hy, entry, commonLengths]
    all_goals rfl

/-- Any other number fails the assertion. -/
theorem monthLength_eq_error {m : Nat} (h : ¬ (1 ≤ m ∧ m ≤ 12)) (y : Nat) :
    monthLength y m = .error .assertion := by
  have hensure : ensure (m ≠ 0 ∧ m ≤ 12) = .error .assertion := if_neg (by omega)
  rw [monthLength, hensure]
  rfl

/-- The length of a month of the calendar is always known. -/
theorem monthLength_number (y : Year) (m : Month) :
    monthLength y.number m.number = .ok (m.lengthIn y) :=
  monthLength_eq m.one_le m.number_le y.number

/-- The last day of month `m` of year `y`, which is at least the first. -/
def lastOf (y m : Nat) : Checked Nat := do
  let length ← monthLength y m
  return if length = 0 then 1 else length

theorem lastOf_number (y : Year) (m : Month) :
    lastOf y.number m.number = .ok (Day.lastOf y m).number := by
  have hlength : ¬ m.lengthIn y = 0 := by
    have hle := m.le_lengthIn y
    omega
  rw [lastOf, monthLength_number]
  show Except.ok (if m.lengthIn y = 0 then 1 else m.lengthIn y) = _
  rw [if_neg hlength]
  rfl

/-! ## Numbers within bounds -/

/-- Refuses a number outside its bounds. -/
def within (low high n : Nat) : Attempt Nat := if low ≤ n ∧ n ≤ high then pure n else failure

theorem within_year (n : Nat) :
    Grants Year.number (within 1 9999 n) (Year.ofNumber n).toOption := by
  unfold within Year.ofNumber Year.ofNumber?
  split <;> rfl

theorem within_month (n : Nat) :
    Grants Month.number (within 1 12 n) (Month.ofNumber n).toOption := by
  unfold within Month.ofNumber Month.ofNumber?
  split <;> rfl

theorem within_day (n : Nat) : Grants Day.number (within 1 31 n) (Day.ofNumber n).toOption := by
  unfold within Day.ofNumber Day.ofNumber?
  split <;> rfl

/-- Refuses a number that is no day of month `m` of year `y`. -/
def dayWithin (n y m : Nat) : Attempt Nat := do
  let length ← monthLength y m
  within 1 length n

theorem dayWithin_number (n : Nat) (y : Year) (m : Month) :
    Grants (·.1.number) (dayWithin n y.number m.number) (Day.inMonth n y m).toOption := by
  rw [dayWithin, monthLength_number, lift_ok_bind]
  unfold within Day.inMonth
  split <;> rfl

/-! ## Dates -/

/-- A year, a month and a day that need not belong together. -/
structure Date where
  year : Nat
  month : Nat
  day : Nat
deriving DecidableEq, Repr

end Bare

/-- The numbers of a date. -/
def Date.bare (d : Date) : Bare.Date := ⟨d.year.number, d.month.number, d.day.number⟩

namespace Bare

namespace Date

/-- The numbers are a day of the calendar. -/
def Valid (d : Date) : Prop :=
  (1 ≤ d.year ∧ d.year ≤ 9999) ∧ (1 ≤ d.month ∧ d.month ≤ 12) ∧
    1 ≤ d.day ∧ d.day ≤ DatePartition.monthLength d.year d.month

/-- The order on year, then month, then day, with equality. -/
instance : LE Date where
  le a b := a.year < b.year ∨ a.year = b.year ∧
    (a.month < b.month ∨ a.month = b.month ∧ a.day ≤ b.day)

instance (a b : Date) : Decidable (a ≤ b) := inferInstanceAs (Decidable (_ ∨ _))

theorem bare_le {a b : DatePartition.Date} : a.bare ≤ b.bare ↔ a ≤ b := Iff.rfl

theorem valid_bare (d : DatePartition.Date) : d.bare.Valid :=
  ⟨⟨d.year.one_le, d.year.number_le⟩, ⟨d.month.one_le, d.month.number_le⟩, d.day.one_le, d.existsIn⟩

/-! ## Construction -/

/-- The date with these numbers. -/
def ofNumbers (y m d : Nat) : Attempt Date := do
  let year ← within 1 9999 y
  let month ← within 1 12 m
  let day ← dayWithin d year month
  return ⟨year, month, day⟩

theorem ofNumbers_grants (y m d : Nat) :
    Grants (·.bare) (ofNumbers y m d) (DatePartition.Date.ofNumbers y m d).toOption := by
  refine (within_year y).bind_toOption fun year => ?_
  refine (within_month m).bind_toOption fun month => ?_
  refine (dayWithin_number d year month).bind_toOption fun day => ?_
  exact Grants.pure (·.bare) (⟨year, month, day.1, day.2⟩ : DatePartition.Date)

/-! ## Following days -/

/-- The date is the last of its month. -/
def isLastOfMonth (d : Date) : Checked Bool := do
  let length ← monthLength d.year d.month
  return d.day = length

theorem isLastOfMonth_eq (d : DatePartition.Date) :
    d.bare.isLastOfMonth = .ok (decide d.IsLastOfMonth) := by
  show (monthLength d.year.number d.month.number >>= _) = _
  rw [monthLength_number]
  rfl

/-- The day after a date. Each number is checked again when it has grown. -/
def next? (d : Date) : Attempt Date := do
  if ← d.isLastOfMonth then
    if d.month < 12 then
      let month ← within 1 12 (← add greatestByte d.month 1)
      return { d with month, day := 1 }
    else
      let year ← within 1 9999 (← add greatestWord d.year 1)
      return ⟨year, 1, 1⟩
  else
    let day ← dayWithin (← add greatestByte d.day 1) d.year d.month
    return { d with day }

/-- On a date of the calendar no number outgrows its word, and the day found is that of the date. -/
theorem next?_grants (d : DatePartition.Date) : Grants (·.bare) d.bare.next? d.next? := by
  have hyear : d.year.number + 1 ≤ greatestWord :=
    Nat.le_trans (Nat.succ_le_succ d.year.number_le) (by decide)
  have hmonth : d.month.number + 1 ≤ greatestByte :=
    Nat.le_trans (Nat.succ_le_succ d.month.number_le) (by decide)
  have hday : d.day.number + 1 ≤ greatestByte :=
    Nat.le_trans (Nat.succ_le_succ d.day.number_le) (by decide)
  have hexists : d.day.number ≤ d.month.lengthIn d.year := d.existsIn
  rw [Grants, next?, isLastOfMonth_eq, lift_ok_bind]
  unfold DatePartition.Date.next?
  by_cases hlast : d.IsLastOfMonth
  · -- a month ends: its number grows unless the year ends with it
    have hnot : ¬ d.day.number < d.month.lengthIn d.year := Nat.not_lt.2 (Nat.le_of_eq hlast.symm)
    rw [if_pos (decide_eq_true hlast), dif_neg hnot]
    show (if d.month.number < 12 then
      (liftM (add greatestByte d.month.number 1) >>= fun n => within 1 12 n >>= _) else
      (liftM (add greatestWord d.year.number 1) >>= fun n => within 1 9999 n >>= _)) = _
    by_cases hm : d.month.number < 12
    · rw [if_pos hm, dif_pos hm, add_eq hmonth, lift_ok_bind, within, if_pos (by omega)]
      rfl
    · rw [if_neg hm, dif_neg hm, add_eq hyear, lift_ok_bind, within]
      by_cases hy : d.year.number < 9999
      · rw [if_pos (by omega), dif_pos hy]
        rfl
      · rw [if_neg (by omega), dif_neg hy]
        rfl
  · -- the day grows within its month
    have hlt : d.day.number < d.month.lengthIn d.year := Nat.lt_of_le_of_ne hexists hlast
    rw [if_neg (by simpa using hlast), dif_pos hlt]
    show (liftM (add greatestByte d.day.number 1) >>= fun n =>
      dayWithin n d.year.number d.month.number >>= _) = _
    rw [add_eq hday, lift_ok_bind, dayWithin_number, Day.inMonth, dif_pos ⟨by omega, hlt⟩]
    rfl

/-! ## Reading -/

/-- The date with these parts. -/
def ofParts (year month day : List Char) : Attempt Date := do
  let y ← grant (Numeral.read? DatePartition.Date.yearBound year)
  let m ← grant (Numeral.read? DatePartition.Date.partBound month)
  let d ← grant (Numeral.read? DatePartition.Date.partBound day)
  ofNumbers y m d

/-- Reads a date whose spelling is known from its separator. A refusal reports the number of
separators, which is one less than that of the parts. -/
def ofSpelling (separator : Char) (assemble : List Char → List Char → List Char → Attempt Date)
    (cs : List Char) : Attempt Date :=
  match (Text.fields separator cs).map Text.trim with
  | [a, b, c] => assemble a b c
  | parts => do
    let _ ← sub parts.length 1
    failure

/-- Reads a date in either spelling. -/
def ofChars (cs : List Char) : Attempt Date :=
  let cs := Text.trim cs
  if cs = [] then failure
  else if DatePartition.Date.yearFirstSeparator ∈ cs then
    if DatePartition.Date.monthFirstSeparator ∈ cs then failure
    else ofSpelling DatePartition.Date.yearFirstSeparator ofParts cs
  else if DatePartition.Date.monthFirstSeparator ∈ cs then
    ofSpelling DatePartition.Date.monthFirstSeparator
      (fun month day year => ofParts year month day) cs
  else failure

/-- Reads a date in either spelling. -/
def parse (s : String) : Attempt Date := ofChars s.toList

theorem readPart_grants (bound : Nat) (part : List Char) :
    Grants id (grant (Numeral.read? bound part))
      (DatePartition.Date.readPart bound part).toOption := by
  have hread : (DatePartition.Date.readPart bound part).toOption = Numeral.read? bound part := by
    unfold DatePartition.Date.readPart
    cases Numeral.read? bound part with
    | none => rfl
    | some n => rfl
  rw [hread]
  exact Grants.self _

theorem ofParts_grants (year month day : List Char) :
    Grants (·.bare) (ofParts year month day)
      (DatePartition.Date.ofParts year month day).toOption := by
  refine (readPart_grants _ year).bind_toOption fun y => ?_
  refine (readPart_grants _ month).bind_toOption fun m => ?_
  refine (readPart_grants _ day).bind_toOption fun d => ?_
  exact ofNumbers_grants y m d

/-- There is always a part, so that the number of separators is not below zero. -/
theorem ofSpelling_grants (separator : Char)
    {assemble : List Char → List Char → List Char → Attempt Date}
    {assemble' : List Char → List Char → List Char → Except DateError DatePartition.Date}
    (h : ∀ a b c, Grants (·.bare) (assemble a b c) (assemble' a b c).toOption) (cs : List Char) :
    Grants (·.bare) (ofSpelling separator assemble cs)
      (DatePartition.Date.ofSpelling separator assemble' cs).toOption := by
  have hlength : 1 ≤ ((Text.fields separator cs).map Text.trim).length := by
    rw [List.length_map, Text.length_fields]
    exact Nat.le_add_left 1 _
  unfold ofSpelling DatePartition.Date.ofSpelling
  generalize (Text.fields separator cs).map Text.trim = parts at hlength ⊢
  match parts with
  | [a, b, c] => exact h a b c
  | [_] | [_, _] | _ :: _ :: _ :: _ :: _ =>
    show (liftM (sub _ 1) >>= fun _ => failure) = _
    rw [sub_eq hlength]
    rfl

theorem ofChars_grants (cs : List Char) :
    Grants (·.bare) (ofChars cs) (DatePartition.Date.ofChars cs).toOption :=
  .ite (.failure _)
    (.ite (.ite (.failure _) (ofSpelling_grants _ ofParts_grants _))
      (.ite (ofSpelling_grants _ (fun month day year => ofParts_grants year month day) _)
        (.failure _)))

/-- **Reading a date never faults**, whatever the text is. -/
theorem parse_grants (s : String) :
    Grants (·.bare) (parse s) (DatePartition.Date.parse s).toOption :=
  ofChars_grants s.toList

end Date

end Bare

end DatePartition
