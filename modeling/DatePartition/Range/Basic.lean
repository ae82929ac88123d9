import DatePartition.Calendar.Date

/-!
# Ranges of dates

A `DateRange` holds every date from its first to its last, both included. The first is never after
the last, so a range is never empty.

- `DateRange.ofBounds first last`: refuses reversed bounds; they are never swapped.
- `d ∈ r`: the date lies in the range.
- `r < s`: the order on the first date, then on the last.
- `DateRange.dates r`, `DateRange.take n r`: its dates, and its first `n` dates, ascending.
-/

namespace DatePartition

/-- The dates from `first` to `last`, both included. -/
structure DateRange where
  first : Date
  last : Date
  first_le_last : first ≤ last := by decide
deriving DecidableEq, Repr

/-- Two dates of which the second is before the first. -/
structure ReversedBounds where
  first : Date
  last : Date
deriving DecidableEq, Repr

namespace DateRange

/-- The range between two dates, unless they are reversed. -/
def ofBounds (first last : Date) : Except ReversedBounds DateRange :=
  if h : first ≤ last then .ok ⟨first, last, h⟩ else .error ⟨first, last⟩

/-- The range of one date. -/
def day (d : Date) : DateRange := ⟨d, d, d.le_refl⟩

instance : Membership Date DateRange where
  mem r d := r.first ≤ d ∧ d ≤ r.last

instance (d : Date) (r : DateRange) : Decidable (d ∈ r) := inferInstanceAs (Decidable (_ ∧ _))

theorem mem_def {d : Date} {r : DateRange} : d ∈ r ↔ r.first ≤ d ∧ d ≤ r.last := Iff.rfl

/-! ## Order -/

instance : LT DateRange where
  lt r s := r.first < s.first ∨ r.first = s.first ∧ r.last < s.last

instance (r s : DateRange) : Decidable (r < s) := inferInstanceAs (Decidable (_ ∨ _))

/-! ## Enumeration -/

/-- The first `n` dates of the range, ascending; fewer if it holds fewer. -/
def take (n : Nat) (r : DateRange) : List Date :=
  match n with
  | 0 => []
  | n + 1 => (Date.pushFollowing (fun d => decide (d ≤ r.last)) n r.first [r.first]).reverse

/-- How many days lie between the bounds, both counted. -/
def dayCount (r : DateRange) : Nat := r.last.dayNumber + 1 - r.first.dayNumber

/-- Every date of the range, ascending. -/
def dates (r : DateRange) : List Date := r.take r.dayCount

/-- The bounds of a range belong to it. -/
theorem first_mem (r : DateRange) : r.first ∈ r := ⟨r.first.le_refl, r.first_le_last⟩

/-- The bounds of a range belong to it. -/
theorem last_mem (r : DateRange) : r.last ∈ r := ⟨r.first_le_last, r.last.le_refl⟩

end DateRange

end DatePartition
