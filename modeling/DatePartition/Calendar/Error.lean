import DatePartition.Text.Numeral

/-!
# What can be wrong with a date

- `DateError`: the causes for which a date is refused, one constructor per cause. The first four
  concern the spelling of a date, the last four its numbers or its absence.
- `DateError.message`: the wording.
-/

namespace DatePartition

/-- Why a date is refused. -/
inductive DateError where
  /-- Both the hyphen and the slash occur. -/
  | mixedSeparators
  /-- Neither the hyphen nor the slash occurs in `text`. -/
  | noSeparator (text : String)
  /-- The separator occurs `found` times, which is not twice. -/
  | separatorCount (separator : Char) (found : Nat)
  /-- A part is no numeral, or its value is too large to be looked at. -/
  | notNumeric (part : String)
  /-- The year is outside 1 to 9999. -/
  | invalidYear (number : Nat)
  /-- The month is outside 1 to 12. -/
  | invalidMonth (number : Nat)
  /-- The day is not in the month. A check that knows no month reports year 0 and month 0. -/
  | invalidDay (year month day : Nat)
  /-- Nothing but blanks was given. -/
  | empty
deriving DecidableEq, Repr

namespace DateError

/-- The number in plain decimal. -/
private def shown (n : Nat) : String := String.ofList (Numeral.plain n)

/-- The wording of a refused date. -/
def message : DateError → String
  | mixedSeparators => "Invalid date format: Mixed delimiters (- and /)"
  | noSeparator text => "Invalid date format: Expected M/D/YYYY or YYYY-MM-DD, found " ++ text
  | separatorCount separator found =>
    "Invalid date format: Expected 2 " ++ String.singleton separator ++ " separators, found "
      ++ shown found
  | notNumeric part => "Invalid date format: " ++ part
  | invalidYear number => "Invalid year: " ++ shown number ++ " (must be 1-9999)"
  | invalidMonth number => "Invalid month: " ++ shown number ++ " (must be 1-12)"
  | invalidDay year month day =>
    "Invalid day " ++ shown day ++ " for month " ++ shown year ++ "-"
      ++ String.ofList (Numeral.padded 2 month)
  | empty => "Empty date string"

end DateError

end DatePartition
