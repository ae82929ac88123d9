import DatePartition.Json.Basic
import DatePartition.Json.Token

/-!
# Reading JSON text

A text is read up to the first place where it stops being JSON, so that what stands before that
place can still be judged first.

- `Reading`: a value as far as it could be read. `broken` stands where the text stops being JSON; it
  is then the last element of everything that it lies in. The rest of the text is not looked at.
- `Reading.ofChars cs`: the value at the start of a text, and what follows it.
- `Json.reading j`: a value that was read without a problem.
-/

namespace DatePartition

/-- A JSON value as far as it could be read. -/
inductive Reading where
  | null
  | bool (value : Bool)
  | number (value : JsonNumber)
  | text (value : String)
  | list (items : List Reading)
  /-- A field without a key stands where the text stops being JSON before a colon. -/
  | object (fields : List (Option String × Reading))
  | broken
deriving Repr, Inhabited

namespace Reading

mutual

/-- Reads a value. The fuel bounds the depth of the recursion. -/
def readValue : Nat → List Char → Reading × List Char
  | 0, _ => (broken, [])
  | fuel + 1, cs =>
    match Json.Token.next cs with
    | (.null, rest) => (null, rest)
    | (.bool b, rest) => (bool b, rest)
    | (.number n, rest) => (number n, rest)
    | (.text s, rest) => (text s, rest)
    | (.openList, rest) =>
      match Json.Token.next rest with
      | (.closeList, rest) => (list [], rest)
      | _ =>
        let (items, rest) := readItems fuel rest
        (list items, rest)
    | (.openObject, rest) =>
      match Json.Token.next rest with
      | (.closeObject, rest) => (object [], rest)
      | _ =>
        let (fields, rest) := readFields fuel rest
        (object fields, rest)
    | _ => (broken, [])

/-- Reads one or more items to the end of their list. -/
def readItems : Nat → List Char → List Reading × List Char
  | 0, _ => ([broken], [])
  | fuel + 1, cs =>
    let (item, rest) := readValue fuel cs
    match Json.Token.next rest with
    | (.comma, rest) =>
      let (items, rest) := readItems fuel rest
      (item :: items, rest)
    | (.closeList, rest) => ([item], rest)
    | _ => ([item, broken], [])

/-- Reads one or more fields to the end of their object. -/
def readFields : Nat → List Char → List (Option String × Reading) × List Char
  | 0, _ => ([(none, broken)], [])
  | fuel + 1, cs =>
    match Json.Token.next cs with
    | (.text key, rest) =>
      match Json.Token.next rest with
      | (.colon, rest) =>
        let (value, rest) := readValue fuel rest
        match Json.Token.next rest with
        | (.comma, rest) =>
          let (fields, rest) := readFields fuel rest
          ((some key, value) :: fields, rest)
        | (.closeObject, rest) => ([(some key, value)], rest)
        | _ => ([(some key, value), (none, broken)], [])
      | _ => ([(some key, broken)], [])
    | _ => ([(none, broken)], [])

end

/-- The value at the start of a text, and what follows it. -/
def ofChars (cs : List Char) : Reading × List Char := readValue (2 * cs.length + 2) cs

end Reading

mutual

/-- The reading of a value whose text has no defect. -/
def Json.reading : Json → Reading
  | .null => .null
  | .bool b => .bool b
  | .number n => .number (.natural n)
  | .text s => .text s
  | .list items => .list (Json.readings items)
  | .object fields => .object (Json.fieldReadings fields)

/-- The readings of the items of a list. -/
def Json.readings : List Json → List Reading
  | [] => []
  | item :: items => item.reading :: Json.readings items

/-- The readings of the fields of an object. -/
def Json.fieldReadings : List (String × Json) → List (Option String × Reading)
  | [] => []
  | (key, value) :: fields => (some key, value.reading) :: Json.fieldReadings fields

end

end DatePartition
