import DatePartition.Proofs.Calendar.DayNumber

/-!
# The following day and its number

Stepping to the following day is counting: the days of the calendar are numbered from 1 to 3652059
without a gap, and the step goes from each number to the next.

- `Date.dayNumber_eq`: the day number as a closed form over the integers.
- `Date.greatest`: the last day of the calendar. `Date.next?_eq_none_iff`: only it has no following
  day, and `Date.next?_eq_some_iff`: every other date is followed by the one with the next number.
- `Date.exists_dayNumber_eq`: no number is left out.
- `Date.checkedNext`: the step with each grown number checked again, which can be refused.
  `Date.checkedNext_eq`: it never is, except where the year grows past the last.
- `Date.next?_is_successor`: **the following day is the successor in the Gregorian count.**
-/

namespace DatePartition

namespace Date

/-! ## The number in closed form -/

/-- The number of a date, where nothing is cut off at zero: 365 days for each year before, a day
more for each fourth year but the centuries that 400 does not divide, and the months before. -/
theorem dayNumber_eq (d : Date) :
    (d.dayNumber : Int) = 365 * ((d.year.number : Int) - 1) + ((d.year.number : Int) - 1) / 4
      - ((d.year.number : Int) - 1) / 100 + ((d.year.number : Int) - 1) / 400
      + ((numbersThrough 1 (d.month.number - 1)).foldl
          (fun n k => n + monthLength d.year.number k) 0 : Nat)
      + d.day.number := by
  have hyear := d.year.one_le
  rw [dayNumber, daysBeforeYear, daysBeforeMonth]
  omega

/-! ## The last day -/

/-- The last day of the calendar. -/
def greatest : Date := ⟨Year.greatest, Month.december, Day.greatest, by decide⟩

theorem dayNumber_greatest : greatest.dayNumber = 3652059 := rfl

theorem le_greatest (d : Date) : d ≤ greatest := le_of_next?_eq_none rfl d

/-- Only the last day of the calendar has no following day. -/
theorem next?_eq_none_iff {d : Date} : d.next? = none ↔ d = greatest := by
  constructor
  · intro h
    exact le_antisymm d.le_greatest (le_of_next?_eq_none h greatest)
  · rintro rfl
    rfl

/-- A date is followed by the date with the next number. -/
theorem next?_eq_some_iff {d e : Date} : d.next? = some e ↔ e.dayNumber = d.dayNumber + 1 := by
  refine ⟨dayNumber_next?, fun he => ?_⟩
  cases hnext : d.next? with
  | none =>
    -- the calendar ends with `d`, so that no date has a greater number
    have hle := dayNumber_le_iff.2 (le_of_next?_eq_none hnext e)
    omega
  | some e' =>
    have he' := dayNumber_next? hnext
    rw [dayNumber_inj (he'.trans he.symm)]

/-- Every number up to that of the last day is the number of a date. -/
theorem exists_dayNumber_eq {n : Nat} (hpos : 1 ≤ n) (hle : n ≤ greatest.dayNumber) :
    ∃ d : Date, d.dayNumber = n := by
  induction hpos with
  | refl => exact ⟨⟨⟨1, by decide, by decide⟩, Month.january, Day.first, by decide⟩, rfl⟩
  | @step n hpos ih =>
    obtain ⟨d, hd⟩ := ih (Nat.le_of_succ_le hle)
    cases hnext : d.next? with
    | none =>
      have hlast : d = greatest := next?_eq_none_iff.1 hnext
      rw [← hlast, hd] at hle
      exact absurd hle (Nat.not_succ_le_self n)
    | some e => exact ⟨e, by rw [dayNumber_next? hnext, hd]⟩

/-- The numbers begin with 1. -/
theorem one_le_dayNumber (d : Date) : 1 ≤ d.dayNumber :=
  Nat.le_trans d.day.one_le (Nat.le_add_left _ _)

/-! ## Checking each step -/

/-- The day after a date, where the number that grows is checked as if it came from outside. -/
def checkedNext (d : Date) : Except DateError Date :=
  if ¬ d.IsLastOfMonth then do
    let day ← Day.inMonth (d.day.number + 1) d.year d.month
    return ⟨d.year, d.month, day.1, day.2⟩
  else if d.month.number < 12 then do
    let month ← Month.ofNumber (d.month.number + 1)
    return firstOf d.year month
  else do
    let year ← Year.ofNumber (d.year.number + 1)
    return firstOf year Month.january

/-- No check refuses a step, except that there is no year after the last. -/
theorem checkedNext_eq (d : Date) :
    d.checkedNext = d.next?.elim (.error (.invalidYear 10000)) .ok := by
  have hexists : d.day.number ≤ d.month.lengthIn d.year := d.existsIn
  unfold checkedNext next?
  by_cases hlast : d.IsLastOfMonth
  · have hnot : ¬ d.day.number < d.month.lengthIn d.year := Nat.not_lt.2 (Nat.le_of_eq hlast.symm)
    rw [if_neg (not_not_intro hlast), dif_neg hnot]
    by_cases hm : d.month.number < 12
    · -- the month that follows is one of the twelve
      rw [if_pos hm, dif_pos hm, Month.ofNumber_eq_ok ⟨Nat.le_add_left 1 _, hm⟩]
      rfl
    · rw [if_neg hm, dif_neg hm]
      by_cases hy : d.year.number < 9999
      · rw [dif_pos hy, Year.ofNumber_eq_ok ⟨Nat.le_add_left 1 _, hy⟩]
        rfl
      · have h9999 : d.year.number = 9999 := Nat.le_antisymm d.year.number_le (Nat.le_of_not_lt hy)
        rw [dif_neg hy, h9999]
        rfl
  · -- the day that follows is within the month
    have hlt : d.day.number < d.month.lengthIn d.year := Nat.lt_of_le_of_ne hexists hlast
    rw [if_pos hlast, dif_pos hlt, Day.inMonth_eq_ok ⟨Nat.le_add_left 1 _, hlt⟩]
    rfl

/-- Checking changes nothing but that a cause is given. -/
theorem toOption_checkedNext (d : Date) : d.checkedNext.toOption = d.next? := by
  rw [checkedNext_eq]
  cases d.next? with
  | none => rfl
  | some e => rfl

/-- The only refusal is that of a year after the last. -/
theorem checkedNext_eq_error_iff {d : Date} {e : DateError} :
    d.checkedNext = .error e ↔ d = greatest ∧ e = .invalidYear 10000 := by
  rw [checkedNext_eq, ← next?_eq_none_iff]
  cases d.next? with
  | none =>
    show Except.error (DateError.invalidYear 10000) = .error e ↔ _
    rw [Except.error.injEq, eq_comm, and_iff_right rfl]
  | some e' =>
    refine iff_of_false (fun h => ?_) fun h => ?_
    · cases h
    · cases h.1

/-- **The following day is the successor in the Gregorian count.** Dates are numbered by a closed
form of year, month and day; they are ordered as their numbers are, no two dates have one number,
and the numbers in use are those from 1 to 3652059. Only the last day of the calendar has no
following day, and any other date is followed by the date with the next number. The step may as
well be checked anew: no day and no month that it arrives at is ever refused, and no year but the
one after the last. -/
theorem next?_is_successor :
    (∀ d : Date, (d.dayNumber : Int)
      = 365 * ((d.year.number : Int) - 1) + ((d.year.number : Int) - 1) / 4
        - ((d.year.number : Int) - 1) / 100 + ((d.year.number : Int) - 1) / 400
        + ((numbersThrough 1 (d.month.number - 1)).foldl
          (fun n k => n + monthLength d.year.number k) 0 : Nat)
        + d.day.number) ∧
    (∀ a b : Date, a < b ↔ a.dayNumber < b.dayNumber) ∧
    (∀ a b : Date, a.dayNumber = b.dayNumber ↔ a = b) ∧
    (∀ n, (∃ d : Date, d.dayNumber = n) ↔ 1 ≤ n ∧ n ≤ 3652059) ∧
    (∀ d : Date, d.next? = none ↔ d = greatest) ∧
    (∀ d e : Date, d.next? = some e ↔ e.dayNumber = d.dayNumber + 1) ∧
    (∀ d : Date, d.checkedNext.toOption = d.next?) ∧
    (∀ (d : Date) (e : DateError),
      d.checkedNext = .error e ↔ d = greatest ∧ e = .invalidYear 10000) := by
  refine ⟨dayNumber_eq, fun a b => dayNumber_lt_iff.symm,
    fun a b => ⟨dayNumber_inj, fun h => h ▸ rfl⟩, fun n => ?_, fun d => next?_eq_none_iff,
    fun d e => next?_eq_some_iff, toOption_checkedNext, fun d e => checkedNext_eq_error_iff⟩
  constructor
  · rintro ⟨d, rfl⟩
    have hle := dayNumber_le_iff.2 d.le_greatest
    rw [dayNumber_greatest] at hle
    exact ⟨d.one_le_dayNumber, hle⟩
  · rintro ⟨hpos, hle⟩
    rw [← dayNumber_greatest] at hle
    exact exists_dayNumber_eq hpos hle

end Date

end DatePartition
