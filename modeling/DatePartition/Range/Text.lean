import DatePartition.Range.Basic
import DatePartition.Calendar.DateText

/-!
# The text of a range

A range is written `YYYY-MM-DD/YYYY-MM-DD`. It is read in that form, and with two dots between its
bounds, which may then be in either spelling of a date. The dots win over slashes, so that
`1/30/2018..2/2/2018` is a range.

- `RangeError`: why a range is refused.
- `DateRange.chars`, `DateRange.text`: the written form.
- `DateRange.ofChars`, `DateRange.parse`: reads either form.
-/

namespace DatePartition

/-- The separator between the bounds of a written range. -/
def DateRange.separator : Char := '/'

/-- The separator that leaves both spellings of a date free for the bounds. -/
def DateRange.dots : String := ".."

/-- Why a range is refused. -/
inductive RangeError where
  /-- The last date is before the first. -/
  | reversed (bounds : ReversedBounds)
  /-- A bound is no date. -/
  | date (cause : DateError)
  /-- There are neither dots nor a slash in `text`. -/
  | noSeparator (text : String)
  /-- There are no dots and `found` slashes, more than one. -/
  | separatorCount (found : Nat)
deriving DecidableEq, Repr

/-- The wording of reversed bounds. -/
def ReversedBounds.message (b : ReversedBounds) : String :=
  "Invalid date range: start (" ++ b.first.text ++ ") is after end (" ++ b.last.text ++ ")"

/-- The wording of a refused range. -/
def RangeError.message : RangeError → String
  | reversed bounds => bounds.message
  | date cause => cause.message
  | noSeparator text =>
    "Invalid range format: No range separator found (expected '"
      ++ String.singleton DateRange.separator ++ "' or '" ++ DateRange.dots ++ "'): " ++ text
  | separatorCount found =>
    "Invalid range format: Too many '" ++ String.singleton DateRange.separator
      ++ "' separators: expected 1, found " ++ String.ofList (Numeral.plain found)
      ++ " (use '" ++ DateRange.dots ++ "' between month-first dates)"

namespace DateRange

/-- The range as `YYYY-MM-DD/YYYY-MM-DD`. -/
def chars (r : DateRange) : List Char := r.first.chars ++ separator :: r.last.chars

/-- The range as `YYYY-MM-DD/YYYY-MM-DD`. -/
def text (r : DateRange) : String := String.ofList r.chars

instance : ToString DateRange := ⟨text⟩

/-- The texts of the two bounds. -/
def boundTexts (cs : List Char) : Except RangeError (List Char × List Char) :=
  let trimmed := Text.trim cs
  match Text.breakAtDots? trimmed with
  | some sides => .ok sides
  | none =>
    match Text.fields separator trimmed with
    | [first, last] => .ok (first, last)
    | parts =>
      if parts.length ≤ 1 then .error (.noSeparator (String.ofList cs))
      else .error (.separatorCount (parts.length - 1))

/-- Reads a range. The first bound is read before the last, and their order is checked in the
end. -/
def ofChars (cs : List Char) : Except RangeError DateRange := do
  let (first, last) ← boundTexts cs
  let first ← (Date.ofChars first).mapError .date
  let last ← (Date.ofChars last).mapError .date
  (ofBounds first last).mapError .reversed

/-- Reads a range. -/
def parse (s : String) : Except RangeError DateRange := ofChars s.toList

end DateRange

end DatePartition
