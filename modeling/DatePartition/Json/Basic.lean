import DatePartition.Text.Numeral

/-!
# JSON values and their text

- `Json`: a JSON value. Numbers are natural, and the fields of an object have an order.
- `Json.write spacing depth j`: the text of a value. A `Spacing` says which blanks stand around
  elements and after colons.
- `Json.compact`, `Json.pretty`: without any blanks, and with every element on a line of its own,
  indented by two places for each level.

In quoted text only the quote, the backslash and the characters below U+0020 are escaped.
-/

namespace DatePartition

/-- A JSON value. -/
inductive Json where
  | null
  | bool (value : Bool)
  | number (value : Nat)
  | text (value : String)
  | list (items : List Json)
  | object (fields : List (String × Json))
deriving Repr, Inhabited

namespace Json

/-! ## Quoted text -/

/-- A digit of base sixteen, in lower case. -/
def hexDigit (n : Nat) : Char := Nat.digitChar n

/-- A character as it stands in quoted text. -/
def escape (c : Char) : List Char :=
  if c = '"' then ['\\', '"']
  else if c = '\\' then ['\\', '\\']
  else if c = '\n' then ['\\', 'n']
  else if c = '\t' then ['\\', 't']
  else if c = '\r' then ['\\', 'r']
  else if c.toNat = 8 then ['\\', 'b']
  else if c.toNat = 12 then ['\\', 'f']
  else if c.toNat < 32 then
    ['\\', 'u', '0', '0', hexDigit (c.toNat / 16), hexDigit (c.toNat % 16)]
  else [c]

/-- The text between quotes. -/
def quote (s : String) : List Char := '"' :: s.toList.flatMap escape ++ ['"']

/-! ## Writing -/

/-- The blanks that stand between the parts of a written value. -/
structure Spacing where
  /-- What stands before an element or a closing bracket at a depth. -/
  line : Nat → List Char
  /-- What stands after a colon. -/
  afterColon : List Char

mutual

/-- The text of a value at a depth. -/
def write (spacing : Spacing) (depth : Nat) : Json → List Char
  | null => "null".toList
  | bool true => "true".toList
  | bool false => "false".toList
  | number n => Numeral.plain n
  | text s => quote s
  | list [] => ['[', ']']
  | list (item :: items) =>
    '[' :: spacing.line (depth + 1) ++ write spacing (depth + 1) item
      ++ writeItems spacing depth items
  | object [] => ['\x7b', '\x7d']
  | object ((key, value) :: fields) =>
    '\x7b' :: spacing.line (depth + 1) ++ quote key ++ ':' :: spacing.afterColon
      ++ write spacing (depth + 1) value ++ writeFields spacing depth fields

/-- The text of the further items of a list, to its end. -/
def writeItems (spacing : Spacing) (depth : Nat) : List Json → List Char
  | [] => spacing.line depth ++ [']']
  | item :: items =>
    ',' :: spacing.line (depth + 1) ++ write spacing (depth + 1) item
      ++ writeItems spacing depth items

/-- The text of the further fields of an object, to its end. -/
def writeFields (spacing : Spacing) (depth : Nat) : List (String × Json) → List Char
  | [] => spacing.line depth ++ ['\x7d']
  | (key, value) :: fields =>
    ',' :: spacing.line (depth + 1) ++ quote key ++ ':' :: spacing.afterColon
      ++ write spacing (depth + 1) value ++ writeFields spacing depth fields

end

/-- No blanks at all. -/
def Spacing.none : Spacing := ⟨fun _ => [], []⟩

/-- A new line for every element, indented by two places for each level. -/
def Spacing.lines : Spacing := ⟨fun depth => '\n' :: List.replicate (2 * depth) ' ', [' ']⟩

/-- The text of a value without blanks. -/
def compact (j : Json) : String := String.ofList (j.write .none 0)

/-- The text of a value with every element on its own line. -/
def pretty (j : Json) : String := String.ofList (j.write .lines 0)

end Json

end DatePartition
