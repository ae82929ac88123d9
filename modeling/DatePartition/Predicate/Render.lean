import DatePartition.Predicate.Basic

/-!
# The text of a predicate

A predicate is written as a boolean expression over three columns. Values are quoted and have a
fixed width, since partition names are compared as text.

- `Columns`, `Layout`, `RenderOptions`: the names of the columns and how clauses are joined.
- `Clause.render`, `Predicate.render`: the written form. Column names are copied as they are.
- `Clause.text`, `Predicate.text`: the same with the default settings.
-/

namespace DatePartition

/-! ## Settings -/

/-- The names of the three partition columns. -/
structure Columns where
  year : String := "year"
  month : String := "month"
  day : String := "day"
deriving DecidableEq, Repr, Inhabited

/-- How clauses are joined. -/
inductive Layout where
  /-- One clause on each line. -/
  | multiLine
  /-- All clauses on one line. -/
  | singleLine
deriving DecidableEq, Repr, Inhabited

/-- The text between two clauses. -/
def Layout.joiner : Layout → String
  | multiLine => "\n  or "
  | singleLine => " or "

/-- How a predicate is written. -/
structure RenderOptions where
  columns : Columns := {}
  layout : Layout := .multiLine
deriving DecidableEq, Repr

/-! ## Writing -/

namespace Render

/-- A value between quotes. -/
def quoted (value : List Char) : List Char := '\'' :: (value ++ ['\''])

/-- The condition that a column has one value. -/
def equals (column : String) (value : List Char) : List Char :=
  column.toList ++ " = ".toList ++ quoted value

/-- The condition that a column has one of several values. -/
def oneOf (column : String) (values : List (List Char)) : List Char :=
  column.toList ++ " in (".toList ++ List.intercalate ", ".toList (values.map quoted) ++ [')']

/-- Joined texts are the first one and the others with the joiner before each. -/
theorem intercalate_cons (joiner cs : List Char) (css : List (List Char)) :
    List.intercalate joiner (cs :: css) = cs ++ css.flatMap (joiner ++ ·) := by
  induction css generalizing cs with
  | nil => simp
  | cons ds css ih => rw [List.intercalate_cons_cons, ih, List.flatMap_cons, List.append_assoc,
      List.append_assoc]

end Render

open Render

/-- The conditions on the month and the day. -/
def Scope.conditions (columns : Columns) : Scope → List (List Char)
  | wholeYear => []
  | wholeMonth month => [equals columns.month month.chars]
  | wholeMonths months => [oneOf columns.month (months.map Month.chars)]
  | daysOf month days =>
    [equals columns.month month.chars, oneOf columns.day (days.map Day.chars)]

namespace Clause

/-- The clause as a conjunction in parentheses. -/
def chars (columns : Columns) (c : Clause) : List Char :=
  '(' :: List.intercalate " and ".toList
    (equals columns.year c.year.chars :: c.scope.conditions columns) ++ [')']

/-- The clause as a conjunction in parentheses. -/
def render (columns : Columns) (c : Clause) : String := String.ofList (c.chars columns)

/-- The clause with the default column names. -/
def text (c : Clause) : String := c.render {}

instance : ToString Clause := ⟨text⟩

end Clause

namespace Predicate

/-- The predicate as a disjunction of its clauses in parentheses. -/
def chars (options : RenderOptions) (p : Predicate) : List Char :=
  '(' :: List.intercalate options.layout.joiner.toList
    (p.clauses.map (Clause.chars options.columns)) ++ [')']

/-- The predicate as a disjunction of its clauses in parentheses. -/
def render (options : RenderOptions) (p : Predicate) : String := String.ofList (p.chars options)

/-- The predicate with the default settings. -/
def text (p : Predicate) : String := p.render {}

instance : ToString Predicate := ⟨text⟩

end Predicate

end DatePartition
