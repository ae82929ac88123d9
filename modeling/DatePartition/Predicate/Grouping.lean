import DatePartition.Predicate.Clause

/-!
# The clauses of a range by counting its days

A second account of how a range is cut into clauses, which looks at nothing but the list of its
dates: they are grouped by month, and months that are complete are joined.

- `MonthDays.group ds`: the runs of dates that lie in the same month.
- `Piece.ofGroups gs`: each incomplete month alone, and each run of complete months of one year.
- `DateRange.grouped r`: the year and the scope of each piece. A single month is never complete.
-/

namespace DatePartition

/-! ## Grouping by month -/

/-- Some days of one month. -/
structure MonthDays where
  year : Year
  month : Month
  days : List Day
deriving DecidableEq, Repr

namespace MonthDays

/-- Puts a date before groups: into the first of them if it lies in the same month. -/
def add (d : Date) : List MonthDays → List MonthDays
  | [] => [⟨d.year, d.month, [d.day]⟩]
  | g :: gs =>
    if g.year = d.year ∧ g.month = d.month then ⟨g.year, g.month, d.day :: g.days⟩ :: gs
    else ⟨d.year, d.month, [d.day]⟩ :: g :: gs

/-- The runs of dates that lie in the same month. -/
def group (ds : List Date) : List MonthDays := ds.foldr add []

/-- Every day of the month is there. -/
def IsComplete (g : MonthDays) : Prop :=
  ∀ d ∈ Day.first.through (Day.lastOf g.year g.month), d ∈ g.days

instance : DecidablePred IsComplete := fun g =>
  inferInstanceAs (Decidable (∀ d ∈ Day.first.through (Day.lastOf g.year g.month), d ∈ g.days))

end MonthDays

/-! ## Joining complete months -/

/-- A run of complete months of one year, or the days of an incomplete one. -/
inductive Piece where
  | run (year : Year) (months : List Month)
  | part (group : MonthDays)
deriving DecidableEq, Repr

namespace Piece

/-- Puts a group before pieces: into the first of them if both are complete and of one year. -/
def add (g : MonthDays) (ps : List Piece) : List Piece :=
  if g.IsComplete then
    match ps with
    | run y ms :: rest =>
      if y = g.year then run y (g.month :: ms) :: rest else run g.year [g.month] :: ps
    | _ => run g.year [g.month] :: ps
  else part g :: ps

/-- Each incomplete month alone, and each run of complete months of one year. -/
def ofGroups (gs : List MonthDays) : List Piece := gs.foldr add []

/-- The year and the scope of a piece. Twelve months are the whole year. -/
def scope : Piece → Year × Scope
  | run y ms => (y, if ms.length = 12 then .wholeYear else .ofMonths ms)
  | part g => (g.year, .daysOf g.month g.days)

end Piece

/-- The year and the scope of each piece of a range, by grouping its dates. -/
def DateRange.grouped (r : DateRange) : List (Year × Scope) :=
  match MonthDays.group r.dates with
  | [g] => [(Piece.part g).scope]
  | gs => (Piece.ofGroups gs).map Piece.scope

end DatePartition
