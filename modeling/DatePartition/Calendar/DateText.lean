import DatePartition.Calendar.Date
import DatePartition.Text.Blank
import DatePartition.Text.Fields

/-!
# The text of a date

Dates are written `YYYY-MM-DD` and read in two spellings: that one, and month first as `M/D/YYYY`.
The separator decides between them.

- `Date.chars`, `Date.text`: the written form.
- `Date.ofChars`, `Date.parse`: reads either spelling. Blanks around the text and around each part
  are ignored. A part that is no numeral is reported before any number is checked, and both are
  done in the order year, month, day.
-/

namespace DatePartition

namespace Date

/-- The separator of the spelling that puts the year first. -/
def yearFirstSeparator : Char := '-'

/-- The separator of the spelling that puts the month first. -/
def monthFirstSeparator : Char := '/'

/-- The date as `YYYY-MM-DD`. -/
def chars (d : Date) : List Char :=
  d.year.chars ++ yearFirstSeparator :: d.month.chars ++ yearFirstSeparator :: d.day.chars

/-- The date as `YYYY-MM-DD`. -/
def text (d : Date) : String := String.ofList d.chars

instance : ToString Date := ⟨text⟩

/-! ## Reading -/

/-- Reads one part of a date. Its value may be at most `bound`. -/
def readPart (bound : Nat) (part : List Char) : Except DateError Nat :=
  match Numeral.read? bound part with
  | some n => .ok n
  | none => .error (.notNumeric (String.ofList part))

/-- The greatest value that is read as a year; whether the calendar has it is checked later. -/
def yearBound : Nat := 65535

/-- The greatest value that is read as a month or a day. -/
def partBound : Nat := 255

/-- The date with these parts. All parts are read before any is checked. -/
def ofParts (year month day : List Char) : Except DateError Date := do
  let y ← readPart yearBound year
  let m ← readPart partBound month
  let d ← readPart partBound day
  ofNumbers y m d

/-- Reads a date whose spelling is known from its separator. -/
def ofSpelling (separator : Char) (assemble : List Char → List Char → List Char →
    Except DateError Date) (cs : List Char) : Except DateError Date :=
  match (Text.fields separator cs).map Text.trim with
  | [a, b, c] => assemble a b c
  | parts => .error (.separatorCount separator (parts.length - 1))

/-- Reads a date in either spelling. -/
def ofChars (cs : List Char) : Except DateError Date :=
  let cs := Text.trim cs
  if cs = [] then .error .empty
  else if yearFirstSeparator ∈ cs then
    if monthFirstSeparator ∈ cs then .error .mixedSeparators
    else ofSpelling yearFirstSeparator ofParts cs
  else if monthFirstSeparator ∈ cs then
    ofSpelling monthFirstSeparator (fun month day year => ofParts year month day) cs
  else .error (.noSeparator (String.ofList cs))

/-- Reads a date in either spelling. -/
def parse (s : String) : Except DateError Date := ofChars s.toList

end Date

end DatePartition
