import DatePartition.Json.Reading
import DatePartition.Decimal.Shortest
import DatePartition.Text.Quoted
import DatePartition.Predicate.Error

/-!
# Why JSON text is refused

- `DecodeError`: the causes. Only `malformed` says that the text is not JSON, or that it goes on
  after the value; all others are about a value that does not fit.
- `withoutPlace cs`: a wording without the place in the text that it may end with.
- `DecodeError.message`: the wording; a malformed text has none of its own.
-/

namespace DatePartition

/-- A value that stands where another kind is expected. Of lists and objects nothing else is
looked at. -/
inductive Found where
  | null
  | bool (value : Bool)
  | number (value : JsonNumber)
  | text (value : String)
  | list
  | object
deriving DecidableEq, Repr

/-- The wording of a number. -/
def JsonNumber.describe : JsonNumber → String
  | natural n => "integer `" ++ String.ofList (Numeral.plain n) ++ "`"
  | negative n => "integer `-" ++ String.ofList (Numeral.plain n) ++ "`"
  | double minus value =>
    "floating point `" ++ (if minus then "-" else "") ++ String.ofList value.chars ++ "`"

/-- The wording of a value that was found. -/
def Found.describe : Found → String
  | null => "null"
  | bool b => "boolean `" ++ (if b then "true" else "false") ++ "`"
  | number n => n.describe
  | text s => "string " ++ Text.quoted s
  | list => "sequence"
  | object => "map"

/-- Why JSON text is refused. -/
inductive DecodeError where
  /-- The text is not JSON, or it goes on after the value. -/
  | malformed
  /-- Another kind of value is expected. -/
  | wrongType (found : Found) (expected : String)
  /-- The integer is too small or too large. -/
  | outOfRange (found : JsonNumber) (expected : String)
  /-- An object lacks a field that it must have. -/
  | missingField (name : String)
  /-- An object has a field twice. -/
  | duplicateField (name : String)
  /-- An object has a field that it must not have. -/
  | unknownField (name : String) (known : List String)
  /-- The text is none of the names that can stand here. -/
  | unknownVariant (name : String) (known : List String)
  /-- A list that stands for an object ends before the fields that it must have. -/
  | tooShort (expected : String)
  /-- The value is no date. -/
  | date (cause : DateError)
  /-- The value is no range. -/
  | range (cause : RangeError)
  /-- The value is no clause or no predicate. -/
  | predicate (cause : CompileError)
deriving DecidableEq, Repr

/-- The wording of a choice of names. -/
def describeNames (names : List String) : String :=
  let quoted := names.map fun name => "`" ++ name ++ "`"
  match quoted with
  | [a, b] => a ++ " or " ++ b
  | names => "one of " ++ String.intercalate ", " names

/-- The wording of a refused text, before a place is taken from it. -/
def DecodeError.wording : DecodeError → String
  | malformed => "malformed text"
  | wrongType found expected =>
    "invalid type: " ++ found.describe ++ ", expected " ++ expected
  | outOfRange found expected =>
    "invalid value: " ++ found.describe ++ ", expected " ++ expected
  | missingField name => "missing field `" ++ name ++ "`"
  | duplicateField name => "duplicate field `" ++ name ++ "`"
  | unknownField name known =>
    "unknown field `" ++ name ++ "`, expected " ++ describeNames known
  | unknownVariant name known =>
    "unknown variant `" ++ name ++ "`, expected " ++ describeNames known
  | tooShort expected => "invalid length 0, expected " ++ expected
  | date cause => cause.message
  | range cause => cause.message
  | predicate cause => cause.message

/-! ## Places -/

/-- What stands before a number of a line or a column at the end of a text. The number fits 64
bits. -/
def beforePlace? (cs : List Char) : Option (List Char) :=
  let digits := (cs.reverse.takeWhile Char.isDigit).reverse
  if (Numeral.read? Significand.greatest digits).isSome then
    some (cs.take (cs.length - digits.length))
  else none

/-- What stands before an ending. -/
def beforeEnding? (ending cs : List Char) : Option (List Char) :=
  if ending.isSuffixOf cs then some (cs.take (cs.length - ending.length)) else none

/-- A wording without the line and the column that it ends with, if it does. A wording can quote
the end of a text that was read, so a text that ends like this loses its ending too. -/
def withoutPlace (cs : List Char) : List Char :=
  let before? := do
    beforeEnding? " at line ".toList
      (← beforePlace? (← beforeEnding? " column ".toList (← beforePlace? cs)))
  before?.getD cs

/-- The wording of a refused text. -/
def DecodeError.message (e : DecodeError) : String := String.ofList (withoutPlace e.wording.toList)

end DatePartition
