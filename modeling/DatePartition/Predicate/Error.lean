import DatePartition.Range.Text

/-!
# Why there is no predicate

- `ShapeViolation`: months and days that cannot stand together in one clause.
- `CompileError`: every cause for which a clause or a predicate is refused.
-/

namespace DatePartition

/-- Months and days that cannot stand together in one clause. -/
inductive ShapeViolation where
  /-- There are days, and two or more months. -/
  | daysWithMultipleMonths
  /-- There are days and no month. -/
  | daysWithoutMonth
  /-- `day` is the smallest of the days that the month does not have. -/
  | dayPastMonthEnd (day : Day)
deriving DecidableEq, Repr

/-- The wording of a violation. -/
def ShapeViolation.message : ShapeViolation → String
  | daysWithMultipleMonths => "a day list requires exactly one month"
  | daysWithoutMonth => "a day list requires a month"
  | dayPastMonthEnd day =>
    "day " ++ String.ofList (Numeral.plain day.number) ++ " is past the end of the month"

/-- Why a clause or a predicate is refused. -/
inductive CompileError where
  /-- The last date is before the first. -/
  | reversed (bounds : ReversedBounds)
  /-- A clause was asked for that cannot exist. -/
  | illegalShape (year : Year) (violation : ShapeViolation)
  /-- A predicate without clauses was asked for. -/
  | noClauses
  /-- A bound is no date. -/
  | date (cause : DateError)
deriving DecidableEq, Repr

/-- The wording of a refused clause or predicate. -/
def CompileError.message : CompileError → String
  | reversed bounds => bounds.message
  | illegalShape year violation =>
    "Illegal clause shape for year " ++ String.ofList year.chars ++ ": " ++ violation.message
  | noClauses => "Internal invariant violated: predicate assembled from zero clauses"
  | date cause => cause.message

end DatePartition
