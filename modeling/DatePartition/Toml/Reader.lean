import DatePartition.Toml.Quoted
import DatePartition.Toml.Scalar
import DatePartition.Toml.Table

/-!
# Reading TOML documents

- `Toml.readKey?`: a key of one or more parts between dots.
- `Toml.readValue?`: a value, of which lists and braces may hold others to a fixed depth. Lists may
  go on over several lines and hold comments; braces may not.
- `Toml.parse? s`: the entries of a whole document.
-/

namespace DatePartition

namespace Toml

/-! ## Blanks, comments and line ends -/

/-- The text after the blanks at its start. -/
def skipBlanks (cs : List Char) : List Char := cs.dropWhile isBlank

/-- The text after a comment, if there is one at its start. -/
def skipComment : List Char → List Char
  | '#' :: cs => cs.dropWhile isPlain
  | cs => cs

/-- The text after a line end or at its end. -/
def lineEnd? : List Char → Option (List Char)
  | [] => some []
  | '\n' :: cs => some cs
  | '\r' :: '\n' :: cs => some cs
  | _ => none

/-- The text after the rest of a line, which may hold only blanks and a comment. -/
def restOfLine? (cs : List Char) : Option (List Char) := lineEnd? (skipComment (skipBlanks cs))

/-- The text after blanks, line ends and comments. A comment goes up to the end of its line. -/
def skipLines (inComment : Bool) : List Char → Option (List Char)
  | [] => if inComment then none else some []
  | '\r' :: '\n' :: cs => skipLines false cs
  | c :: cs =>
    if c = '\n' then skipLines false cs
    else if inComment then if isPlain c then skipLines true cs else none
    else if isBlank c then skipLines false cs
    else if c = '#' then skipLines true cs
    else some (c :: cs)

/-- The text after a character that has to be there. -/
def expect (c : Char) : List Char → Option (List Char)
  | [] => none
  | d :: cs => if d = c then some cs else none

/-! ## Keys -/

/-- A character that can stand in a key without quotes. -/
def isBareChar (c : Char) : Bool := c.isAlphanum || c = '-' || c = '_'

/-- Reads one part of a key. -/
def readKeyPart? (cs : List Char) : Option (String × List Char) :=
  match readShort? cs with
  | some (key, rest) => some (String.ofList key, rest)
  | none =>
    match cs.takeWhile isBareChar with
    | [] => none
    | key => some (String.ofList key, cs.dropWhile isBareChar)

/-- Reads a key. Blanks may stand around its parts. The fuel bounds the number of parts. -/
def readKey? : Nat → List Char → Option (List String × List Char)
  | 0, _ => none
  | fuel + 1, cs => do
    let (part, rest) ← readKeyPart? (skipBlanks cs)
    match skipBlanks rest with
    | '.' :: rest => do
      let (parts, rest) ← readKey? fuel rest
      return (part :: parts, rest)
    | rest => return ([part], rest)

/-- The number of parts that a key may have, and the number of values that may lie within one
another. -/
def greatestDepth : Nat := 79

/-- Reads a key as the path to a table and a name in it. -/
def readPath? (cs : List Char) : Option ((List String × String) × List Char) := do
  let (parts, rest) ← readKey? greatestDepth cs
  let name ← parts.getLast?
  return ((parts.dropLast, name), rest)

/-! ## Values -/

mutual

/-- Reads a value. The fuel bounds the recursion and `depth` the values around this one. -/
def readValue? : Nat → Nat → List Char → Option (Value × List Char)
  | 0, _, _ => none
  | fuel + 1, depth, cs =>
    match cs with
    | '[' :: rest => do
      if depth = 0 then none
      let (items, rest) ← readItems? fuel (depth - 1) rest
      return (.list items, rest)
    | '\x7b' :: rest => do
      if depth = 0 then none
      match skipBlanks rest with
      | '\x7d' :: rest => return (.table .inline [], rest)
      | rest => do
        let (entries, rest) ← readEntries? fuel (depth - 1) [] rest
        return (.table .inline entries, rest)
    | cs =>
      match readQuoted? cs with
      | some (text, rest) => some (.text (String.ofList text), rest)
      | none => (readScalar? cs).map fun rest => (.scalar, rest)

/-- Reads the items of a list up to its closing bracket, before which a comma may stand. -/
def readItems? : Nat → Nat → List Char → Option (List Value × List Char)
  | 0, _, _ => none
  | fuel + 1, depth, cs => do
    match ← skipLines false cs with
    | ']' :: rest => return ([], rest)
    | rest => do
      let (item, rest) ← readValue? fuel depth rest
      match ← skipLines false rest with
      | ',' :: rest => do
        let (items, rest) ← readItems? fuel depth rest
        return (item :: items, rest)
      | ']' :: rest => return ([item], rest)
      | _ => none

/-- Reads one or more entries in braces up to the closing one, before which no comma may stand. -/
def readEntries? : Nat → Nat → Entries → List Char → Option (Entries × List Char)
  | 0, _, _, _ => none
  | fuel + 1, depth, entries, cs => do
    let ((path, key), rest) ← readPath? cs
    let (value, rest) ← readValue? fuel depth (skipBlanks (← expect '=' rest))
    let entries ← entries.insert path key value
    match skipBlanks rest with
    | ',' :: rest => readEntries? fuel depth entries rest
    | '\x7d' :: rest => return (entries, rest)
    | _ => none

end

/-! ## Documents -/

/-- Reads the line of an entry. -/
def readEntry? (d : Draft) (cs : List Char) : Option (Draft × List Char) := do
  let ((path, key), rest) ← readPath? cs
  let rest := skipBlanks (← expect '=' rest)
  let (value, rest) ← readValue? (2 * cs.length + 2) greatestDepth rest
  let rest ← restOfLine? rest
  return (← d.insert path key value, rest)

/-- Reads the line of a header after its opening bracket or brackets. -/
def readHeader? (isElement : Bool) (d : Draft) (cs : List Char) : Option (Draft × List Char) := do
  let ((path, key), rest) ← readPath? cs
  let rest ← expect ']' rest
  let rest ← if isElement then expect ']' rest else some rest
  let rest ← restOfLine? rest
  return (← d.openTable isElement path key, rest)

/-- Reads the lines of a document. The fuel bounds their number. -/
def readLines? : Nat → Draft → List Char → Option Draft
  | 0, _, _ => none
  | fuel + 1, d, cs =>
    match skipBlanks cs with
    | [] => some d
    | '#' :: _ => do readLines? fuel d (← restOfLine? cs)
    | '\n' :: _ => do readLines? fuel d (← restOfLine? cs)
    | '\r' :: _ => do readLines? fuel d (← restOfLine? cs)
    | '[' :: '[' :: rest => do
      let (d, rest) ← readHeader? true d rest
      readLines? fuel d rest
    | '[' :: rest => do
      let (d, rest) ← readHeader? false d rest
      readLines? fuel d rest
    | rest => do
      let (d, rest) ← readEntry? d rest
      readLines? fuel d rest

/-- The entries of a document, unless it breaks a rule. A byte order mark may stand before it. -/
def parse? (s : String) : Option Entries := do
  let cs := match s.toList with
    | '\uFEFF' :: cs => cs
    | cs => cs
  (← readLines? (cs.length + 1) {} cs).close

end Toml

end DatePartition
