import DatePartition.Json.Decode
import DatePartition.Predicate.Render

/-!
# Dates, predicates and settings as JSON

- Years, months and days are integers; dates and ranges are texts in their written form, and are
  read in every form that they have as text.
- A clause is an object with a year, the months unless it is a whole year, and the days unless it
  selects whole months. It is read as a request, so the order in its lists does not matter, and
  `null`, an empty list and no list mean the same. A predicate is the list of its clauses.
- Column names and settings are objects; fields that are left out keep their defaults. A layout is
  its name.

For each type there are `toJson` and `ofReading`.
-/

namespace DatePartition

/-! ## Calendar -/

namespace Year

/-- A year is its number. -/
def toJson (y : Year) : Json := .number y.number

/-- Reads a year. -/
def ofReading (r : Reading) : Except DecodeError Year := do
  (ofNumber (← r.natural 65535 "u16")).mapError .date

end Year

namespace Month

/-- A month is its number. -/
def toJson (m : Month) : Json := .number m.number

/-- Reads a month. -/
def ofReading (r : Reading) : Except DecodeError Month := do
  (ofNumber (← r.natural 255 "u8")).mapError .date

end Month

namespace Day

/-- A day is its number. -/
def toJson (d : Day) : Json := .number d.number

/-- Reads a day, which is checked against the longest month only. -/
def ofReading (r : Reading) : Except DecodeError Day := do
  (ofNumber (← r.natural 255 "u8")).mapError .date

end Day

namespace Date

/-- A date is its text. -/
def toJson (d : Date) : Json := .text d.text

/-- Reads a date. -/
def ofReading (r : Reading) : Except DecodeError Date := do
  (parse (← r.string "a string")).mapError .date

end Date

namespace DateRange

/-- A range is its text. -/
def toJson (r : DateRange) : Json := .text r.text

/-- Reads a range. -/
def ofReading (r : Reading) : Except DecodeError DateRange := do
  (parse (← r.string "a string")).mapError .range

end DateRange

/-! ## Predicates -/

namespace Selection

/-- A request lists its months and its days unless there are none. -/
def toJson (s : Selection) : Json :=
  let months := if s.months = [] then [] else [("months", .list (s.months.map Month.toJson))]
  let days := if s.days = [] then [] else [("days", .list (s.days.map Day.toJson))]
  .object (("year", s.year.toJson) :: months ++ days)

/-- A request of which only some fields are known. -/
structure Draft where
  year : Option Year := none
  months : Option (List Month) := none
  days : Option (List Day) := none

namespace Draft

/-- The field of the year. -/
def yearSlot : Slot Draft where
  name := "year"
  isFilled s := s.year.isSome
  fill s r := do return { s with year := some (← Year.ofReading r) }

/-- The field of the months. Nothing is the same as no months. -/
def monthsSlot : Slot Draft where
  name := "months"
  isFilled s := s.months.isSome
  fill s r := do return { s with months := some ((← r.optional (·.items Month.ofReading)).getD []) }

/-- The field of the days. Nothing is the same as no days. -/
def daysSlot : Slot Draft where
  name := "days"
  isFilled s := s.days.isSome
  fill s r := do return { s with days := some ((← r.optional (·.items Day.ofReading)).getD []) }

/-- The fields of a request in their order. -/
def slots : List (Slot Draft) := [yearSlot, monthsSlot, daysSlot]

/-- The finished request, which must have a year. -/
def finish (fromObject : Bool) (s : Draft) : Except DecodeError Selection :=
  match s.year with
  | some year => .ok ⟨year, s.months.getD [], s.days.getD []⟩
  | none =>
    .error
      (if fromObject then .missingField "year" else .tooShort "struct ClauseRepr with 3 elements")

end Draft

/-- Reads a request. -/
def ofReading (r : Reading) : Except DecodeError Selection :=
  r.record "struct ClauseRepr" Draft.slots {} Draft.finish

end Selection

namespace Clause

/-- A clause is written as the request that it answers. -/
def toJson (c : Clause) : Json := c.selection.toJson

/-- Reads a clause. -/
def ofReading (r : Reading) : Except DecodeError Clause := do
  (ofSelection (← Selection.ofReading r)).mapError .predicate

end Clause

namespace Predicate

/-- A predicate is the list of its clauses. -/
def toJson (p : Predicate) : Json := .list (p.clauses.map Clause.toJson)

/-- Reads a predicate. -/
def ofReading (r : Reading) : Except DecodeError Predicate := do
  (ofClauses (← r.items Clause.ofReading)).mapError .predicate

end Predicate

/-! ## Settings -/

namespace Columns

/-- Column names are written with all their fields. -/
def toJson (c : Columns) : Json :=
  .object [("year", .text c.year), ("month", .text c.month), ("day", .text c.day)]

/-- Column names of which only some are known. -/
structure Draft where
  year : Option String := none
  month : Option String := none
  day : Option String := none

namespace Draft

/-- The field of the year column. -/
def yearSlot : Slot Draft where
  name := "year"
  isFilled s := s.year.isSome
  fill s r := do return { s with year := some (← r.string "a string") }

/-- The field of the month column. -/
def monthSlot : Slot Draft where
  name := "month"
  isFilled s := s.month.isSome
  fill s r := do return { s with month := some (← r.string "a string") }

/-- The field of the day column. -/
def daySlot : Slot Draft where
  name := "day"
  isFilled s := s.day.isSome
  fill s r := do return { s with day := some (← r.string "a string") }

/-- The fields of the column names in their order. -/
def slots : List (Slot Draft) := [yearSlot, monthSlot, daySlot]

/-- The column names with the given ones replaced. -/
def overlay (base : Columns) (s : Draft) : Columns :=
  ⟨s.year.getD base.year, s.month.getD base.month, s.day.getD base.day⟩

end Draft

/-- Reads column names. Those that are left out keep their defaults. -/
def ofReading (r : Reading) : Except DecodeError Columns :=
  r.record "struct PartitionColumns" Draft.slots {} fun _ s => .ok (s.overlay {})

end Columns

namespace Layout

/-- The names of the layouts. -/
def names : List (String × Layout) := [("multi_line", multiLine), ("single_line", singleLine)]

/-- The name of a layout. -/
def name : Layout → String
  | multiLine => "multi_line"
  | singleLine => "single_line"

/-- A layout is its name. -/
def toJson (l : Layout) : Json := .text l.name

/-- Reads a layout. -/
def ofReading (r : Reading) : Except DecodeError Layout := r.choice names

end Layout

namespace RenderOptions

/-- Settings are written with all their fields. -/
def toJson (o : RenderOptions) : Json :=
  .object [("columns", o.columns.toJson), ("layout", o.layout.toJson)]

/-- Settings of which only some are known. -/
structure Draft where
  columns : Option Columns := none
  layout : Option Layout := none

namespace Draft

/-- The field of the column names. -/
def columnsSlot : Slot Draft where
  name := "columns"
  isFilled s := s.columns.isSome
  fill s r := do return { s with columns := some (← Columns.ofReading r) }

/-- The field of the layout. -/
def layoutSlot : Slot Draft where
  name := "layout"
  isFilled s := s.layout.isSome
  fill s r := do return { s with layout := some (← Layout.ofReading r) }

/-- The fields of the settings in their order. -/
def slots : List (Slot Draft) := [columnsSlot, layoutSlot]

/-- The settings with the given ones replaced. -/
def overlay (base : RenderOptions) (s : Draft) : RenderOptions :=
  ⟨s.columns.getD base.columns, s.layout.getD base.layout⟩

end Draft

/-- Reads settings. Those that are left out keep their defaults. -/
def ofReading (r : Reading) : Except DecodeError RenderOptions :=
  r.record "struct RenderOptions" Draft.slots {} fun _ s => .ok (s.overlay {})

end RenderOptions

end DatePartition
