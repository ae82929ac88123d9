import DatePartition.Predicate.Basic

/-!
# From a range to a predicate

A range is cut into whole years, runs of whole months within a year, and the days of a partial first
or last month. A range inside one month is always a list of days, even if it is the whole month.

- `DateRange.coverage r y m`: what the range covers of a month that it reaches.
- `DateRange.pieces r y run ms`: the walk through the months of a year. Whole months wait in `run`.
- `DateRange.selectionsIn r y`: the pieces of a year, which is walked through only if it has to be.
- `DateRange.selections r`: the pieces, in chronological order.
- `DateRange.compile r`: the predicate with one clause per piece.
- `compile first last`, `compileTexts first last`: the same from two dates or their texts. Reversed
  bounds are refused and never swapped.
-/

namespace DatePartition

/-- What a range covers of a month. -/
inductive Coverage where
  /-- Every day. -/
  | whole
  /-- These days and no others, ascending. -/
  | partly (days : List Day)
deriving DecidableEq, Repr

namespace DateRange

/-- What the range covers of month `m` of year `y`, which it reaches. The range does not lie inside
that one month. -/
def coverage (r : DateRange) (y : Year) (m : Month) : Coverage :=
  if y = r.first.year ∧ m = r.first.month ∧ ¬ r.first.IsFirstOfMonth then
    .partly (r.first.day.through (Day.lastOf y m))
  else if y = r.last.year ∧ m = r.last.month ∧ ¬ r.last.IsLastOfMonth then
    .partly (Day.first.through r.last.day)
  else .whole

/-- The months of year `y` that the range reaches, ascending. -/
def monthsOf (r : DateRange) (y : Year) : List Month :=
  (if y = r.first.year then r.first.month else Month.january).through
    (if y = r.last.year then r.last.month else Month.december)

/-- A run of whole months as a piece of its own. Twelve are the whole year. -/
def wholeMonths (y : Year) (run : List Month) : List Selection :=
  if run = [] then []
  else if run.length = Month.perYear then [⟨y, [], []⟩]
  else [⟨y, run, []⟩]

/-- The pieces of a year that the range enters or leaves: each partial month alone, and each run of
whole months together. The months in `run` are whole and wait. They come before a partial last
month; a partial first month comes before all others. -/
def pieces (r : DateRange) (y : Year) (run : List Month) : List Month → List Selection
  | [] => wholeMonths y run
  | m :: ms =>
    match r.coverage y m with
    | .whole => pieces r y (run ++ [m]) ms
    | .partly days =>
      if ms = [] then wholeMonths y run ++ ⟨y, [m], days⟩ :: pieces r y [] ms
      else ⟨y, [m], days⟩ :: pieces r y run ms

/-- The range begins and ends in the same month. -/
def InOneMonth (r : DateRange) : Prop :=
  r.first.year = r.last.year ∧ r.first.month = r.last.month

instance : DecidablePred InOneMonth := fun _ => inferInstanceAs (Decidable (_ ∧ _))

/-- The pieces of year `y`, in chronological order. A year strictly between the bounds is one
piece, and so is a range that does not leave its month. -/
def selectionsIn (r : DateRange) (y : Year) : List Selection :=
  if r.first.year.number < y.number ∧ y.number < r.last.year.number then [⟨y, [], []⟩]
  else if r.InOneMonth then [⟨y, [r.first.month], r.first.day.through r.last.day⟩]
  else r.pieces y [] (r.monthsOf y)

/-- The pieces of a range, in chronological order. -/
def selections (r : DateRange) : List Selection :=
  (r.first.year.through r.last.year).flatMap r.selectionsIn

/-- The predicate that selects exactly the dates of the range. -/
def compile (r : DateRange) : Except CompileError Predicate := do
  let clauses ← r.selections.mapM Clause.ofSelection
  Predicate.ofClauses clauses

end DateRange

/-- The predicate for the dates from `first` to `last`. -/
def compile (first last : Date) : Except CompileError Predicate := do
  let r ← (DateRange.ofBounds first last).mapError .reversed
  r.compile

/-- The predicate for the dates between two texts. The first is read before the last. -/
def compileTexts (first last : String) : Except CompileError Predicate := do
  let first ← (Date.parse first).mapError .date
  let last ← (Date.parse last).mapError .date
  compile first last

end DatePartition
