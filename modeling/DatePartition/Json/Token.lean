import DatePartition.Json.Number

/-!
# Tokens of JSON text

- `Token`: brackets, separators and the values without parts. `broken` stands for text that is no
  token, and `finish` for the end.
- `Token.next cs`: the first token after any blanks, and the rest of the text.
- `Token.readText? cs`: quoted text after its opening quote. Characters beyond U+FFFF may be written
  as two escapes, of which neither is allowed alone.
-/

namespace DatePartition

namespace Json

/-- A token of JSON text. -/
inductive Token where
  | openList
  | closeList
  | openObject
  | closeObject
  | comma
  | colon
  | null
  | bool (value : Bool)
  | number (value : JsonNumber)
  | text (value : String)
  | broken
  | finish
deriving DecidableEq, Repr

namespace Token

/-- The blanks between tokens: the space, the tabulator and the two line ends. -/
def isBlank (c : Char) : Bool := c = ' ' || c = '\n' || c = '\t' || c = '\r'

/-! ## Quoted text -/

/-- A character of quoted text as it is written: itself, or the number of an escape. -/
inductive TextUnit where
  | char (c : Char)
  | escaped (n : Nat)

/-- The character that a backslash and one letter stand for. -/
def shortEscape? (c : Char) : Option Char :=
  if c = '"' ∨ c = '\\' ∨ c = '/' then some c
  else if c = 'b' then some (Char.ofNat 8)
  else if c = 'f' then some (Char.ofNat 12)
  else if c = 'n' then some '\n'
  else if c = 'r' then some '\r'
  else if c = 't' then some '\t'
  else none

/-- Puts a unit before those that were read. -/
def consUnit (u : TextUnit) (r : List TextUnit × List Char) : List TextUnit × List Char :=
  (u :: r.1, r.2)

/-- Reads up to the closing quote. Characters below U+0020 are refused. -/
def readUnits? : List Char → Option (List TextUnit × List Char)
  | [] => none
  | '"' :: cs => some ([], cs)
  | '\\' :: 'u' :: a :: b :: c :: d :: cs =>
    match Numeral.hexValue? [a, b, c, d] with
    | some n => (readUnits? cs).map (consUnit (.escaped n))
    | none => none
  | '\\' :: e :: cs =>
    match shortEscape? e with
    | some c => (readUnits? cs).map (consUnit (.char c))
    | none => none
  | c :: cs =>
    if c.toNat < 32 ∨ c = '\\' then none else (readUnits? cs).map (consUnit (.char c))

/-- The first half of a character beyond U+FFFF. -/
def isHighHalf (n : Nat) : Bool := 0xD800 ≤ n && n ≤ 0xDBFF

/-- The second half of a character beyond U+FFFF. -/
def isLowHalf (n : Nat) : Bool := 0xDC00 ≤ n && n ≤ 0xDFFF

/-- Joins the halves of characters. A half alone is refused. -/
def joinUnits? : List TextUnit → Option (List Char)
  | [] => some []
  | .char c :: us => (joinUnits? us).map (c :: ·)
  | .escaped n :: .escaped k :: us =>
    if isHighHalf n then
      if isLowHalf k then
        (joinUnits? us).map (Char.ofNat (0x10000 + (n - 0xD800) * 0x400 + (k - 0xDC00)) :: ·)
      else none
    else if isLowHalf n then none
    else (joinUnits? (.escaped k :: us)).map (Char.ofNat n :: ·)
  | .escaped n :: us =>
    if isHighHalf n ∨ isLowHalf n then none else (joinUnits? us).map (Char.ofNat n :: ·)

/-- Reads quoted text after its opening quote. -/
def readText? (cs : List Char) : Option (String × List Char) := do
  let (units, rest) ← readUnits? cs
  let chars ← joinUnits? units
  return (String.ofList chars, rest)

/-! ## The next token -/

/-- The token with this name at the start of a text. -/
def keyword (name : List Char) (token : Token) (cs : List Char) : Token × List Char :=
  if name.isPrefixOf cs then (token, cs.drop name.length) else (broken, [])

/-- The first token of a text without blanks at its start. -/
def first : List Char → Token × List Char
  | [] => (finish, [])
  | '[' :: cs => (openList, cs)
  | ']' :: cs => (closeList, cs)
  | '\x7b' :: cs => (openObject, cs)
  | '\x7d' :: cs => (closeObject, cs)
  | ',' :: cs => (comma, cs)
  | ':' :: cs => (colon, cs)
  | '"' :: cs =>
    match readText? cs with
    | some (s, rest) => (text s, rest)
    | none => (broken, [])
  | 'n' :: cs => keyword "ull".toList null cs
  | 't' :: cs => keyword "rue".toList (bool true) cs
  | 'f' :: cs => keyword "alse".toList (bool false) cs
  | cs =>
    match JsonNumber.read? cs with
    | some (n, rest) => (number n, rest)
    | none => (broken, [])

/-- The first token after any blanks, and the rest of the text. -/
def next (cs : List Char) : Token × List Char := first (cs.dropWhile isBlank)

end Token

end Json

end DatePartition
