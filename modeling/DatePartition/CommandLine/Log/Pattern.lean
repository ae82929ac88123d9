import DatePartition.Text.Blank
import DatePartition.Text.Letter
import DatePartition.Text.Numeral

/-!
# The grammar of patterns

A directive can ask for a field with a value that matches a pattern, a regular expression. No value
is ever matched here, but a directive whose pattern cannot be used is refused, and so this module
says which patterns can be used.

Patterns know neither the classes of Unicode nor its cases. In Unicode mode, which is the usual one,
a pattern therefore cannot ask for digits, blanks, words or their boundaries, nor pass over cases.
In byte mode it cannot match a part of a character. A pattern stands in braces and is cut at a
comma, so it holds no closing brace; an opening one is refused, since nothing closes it.

- `Pattern.Mode`: how the characters of a pattern are read.
- `Pattern.readSet?`, `Pattern.readPieces?`: read a set in brackets and the pieces of an
  alternation, and give the depth of their nesting.
- `Pattern.IsUsable cs`: the text is a pattern that can be used.
-/

namespace DatePartition

namespace Log

namespace Pattern

/-! ## Modes -/

/-- How the characters of a pattern are read. -/
structure Mode where
  /-- A pattern is about characters and not about bytes. -/
  unicode : Bool := true
  /-- Cases are passed over. -/
  caseless : Bool := false
  /-- Blanks and comments are passed over. -/
  spaced : Bool := false
deriving DecidableEq, Repr

/-- The text after blanks, and after comments, which go from a number sign to the end of a line. -/
def afterBlanks : Bool → List Char → List Char
  | _, [] => []
  | true, c :: cs => afterBlanks (c ≠ '\n') cs
  | false, c :: cs =>
    if Text.isBlank c then afterBlanks false cs
    else if c = '#' then afterBlanks true cs
    else c :: cs

namespace Mode

/-- The text after what is passed over. -/
def skip (m : Mode) (cs : List Char) : List Char := if m.spaced then afterBlanks false cs else cs

/-- The character that is next to be read after a hyphen. A number sign hides only itself. -/
def peek? (m : Mode) (cs : List Char) : Option Char :=
  if !m.spaced then cs.head?
  else
    match cs.dropWhile Text.isBlank with
    | '#' :: rest => ((rest.dropWhile Text.isBlank).head?).or cs.head?
    | [] => cs.head?
    | c :: _ => some c

/-- A character can stand for itself. The number of a byte beyond ASCII stands for no character. -/
def allows (m : Mode) (c : Char) (isByte : Bool) : Bool :=
  if m.unicode then !m.caseless else !(isByte && 127 < c.toNat)

/-- A character can stand in a set. In byte mode a set holds ASCII only. -/
def allowsInSet (m : Mode) (c : Char) : Bool :=
  if m.unicode then !m.caseless else c.toNat ≤ 127

/-- A set or a class can be turned into its complement. In byte mode that would hold parts of
characters. -/
def allowsComplement (m : Mode) : Bool := m.unicode

end Mode

/-! ## Escapes -/

/-- What a backslash and the characters after it stand for. -/
inductive Escape where
  /-- A character, maybe given as the number of a byte. -/
  | char (c : Char) (isByte : Bool)
  /-- A class of ASCII characters. -/
  | characters
  /-- A place in the text. -/
  | place
deriving DecidableEq, Repr

/-- Reads digits of base sixteen, between which blanks may be passed over. -/
def readHex? (m : Mode) : Nat → Nat → List Char → Option (Nat × List Char)
  | 0, value, cs => some (value, cs)
  | count + 1, value, cs =>
    match m.skip cs with
    | [] => none
    | c :: cs =>
      match Numeral.hexDigit? c with
      | some d => readHex? m count (value * 16 + d) cs
      | none => none

/-- Reads the number of a character, written with `count` digits. -/
def readNumber? (m : Mode) (count : Nat) (cs : List Char) : Option (Escape × List Char) := do
  let (n, cs) ← readHex? m count 0 cs
  if n.isValidChar then return (.char (Char.ofNat n) (count = 2), cs) else none

/-- The control characters that have letters. -/
def controls : List (Char × Nat) :=
  [('a', 0x07), ('f', 0x0C), ('t', 0x09), ('n', 0x0A), ('r', 0x0D), ('v', 0x0B)]

/-- Reads what follows a backslash. Classes and boundaries are for byte mode, and then only classes
of characters that are in ASCII. -/
def readEscape? (m : Mode) : List Char → Option (Escape × List Char)
  | [] => none
  | c :: cs =>
    if c = 'x' then readNumber? m 2 cs
    else if c = 'u' then readNumber? m 4 cs
    else if c = 'U' then readNumber? m 8 cs
    else if c ∈ ['d', 's', 'w'] then if m.unicode then none else some (.characters, cs)
    else if c ∈ ['b', 'B', '<', '>'] then if m.unicode then none else some (.place, cs)
    else if c = 'A' ∨ c = 'z' then some (.place, cs)
    else
      match controls.lookup c with
      | some n => some (.char (Char.ofNat n) false, cs)
      | none => if c.isAlphanum ∨ 127 < c.toNat then none else some (.char c false, cs)

/-! ## Sets -/

/-- The names of the classes that a set can hold. -/
def classNames : List String :=
  ["alnum", "alpha", "ascii", "blank", "cntrl", "digit", "graph", "lower", "print", "punct",
   "space", "upper", "word", "xdigit"]

/-- Reads a class by its name between colons, after the opening bracket. It may be a complement. -/
def readClass? (cs : List Char) : Option (Bool × List Char) := do
  let (isComplement, cs) ← match cs with
    | ':' :: '^' :: cs => some (true, cs)
    | ':' :: cs => some (false, cs)
    | _ => none
  if String.ofList (cs.takeWhile (· ≠ ':')) ∉ classNames then none
  else
    match cs.dropWhile (· ≠ ':') with
    | ':' :: ']' :: cs => return (isComplement, cs)
    | _ => none

/-- Reads a member of a set: a character, or a class. -/
def readMember? (m : Mode) : List Char → Option (Option Char × List Char)
  | [] => none
  | '\\' :: cs =>
    match readEscape? m cs with
    | some (.char c _, cs) => if m.allowsInSet c then some (some c, cs) else none
    | some (.characters, cs) => some (none, cs)
    | _ => none
  | c :: cs => if m.allowsInSet c then some (some c, cs) else none

/-- Reads a member of a set or a range between two characters. -/
def readRange? (m : Mode) (cs : List Char) : Option (List Char) := do
  let (first, cs) ← readMember? m cs
  match m.skip cs with
  | '-' :: rest =>
    if m.peek? rest = some ']' ∨ m.peek? rest = some '-' then return '-' :: rest
    else
      let (last, cs) ← readMember? m (m.skip rest)
      match first, last with
      | some first, some last => if first ≤ last then return cs else none
      | _, _ => none
  | cs => return cs

/-- Passes over hyphens and gives their number. The fuel bounds it. -/
def readHyphens (m : Mode) : Nat → List Char → Nat × List Char
  | 0, cs => (0, cs)
  | fuel + 1, cs =>
    match m.skip cs with
    | '-' :: cs =>
      let r := readHyphens m fuel cs
      (r.1 + 1, r.2)
    | cs => (0, cs)

/-- Passes over the hyphens that a set begins with, or else over the closing bracket that it begins
with, and gives their number: they stand for themselves. -/
def readFirstMembers (m : Mode) (cs : List Char) : Nat × List Char :=
  match readHyphens m (cs.length + 1) cs with
  | (0, ']' :: cs) => (1, cs)
  | r => r

/-- The depth of members side by side. -/
def besideDepth : List Nat → Nat
  | [] => 0
  | [d] => d
  | ds => ds.foldl max 0 + 1

/-- The depth of the operands of a set operation, of which the left ones are joined first. -/
def operandDepth (left : Option Nat) (members : List Nat) : Nat :=
  match left with
  | none => besideDepth members
  | some d => max d (besideDepth members) + 1

mutual

/-- Reads a set after its opening bracket, and gives its depth. The fuel bounds the recursion. -/
def readSet? (m : Mode) : Nat → List Char → Option (Nat × List Char)
  | 0, _ => none
  | fuel + 1, cs =>
    let (isComplement, cs) := match m.skip cs with
      | '^' :: cs => (true, cs)
      | cs => (false, cs)
    let (count, cs) := readFirstMembers m cs
    if (isComplement && !m.allowsComplement) || (0 < count && !m.allowsInSet '-') then none
    else (readMembers? m fuel none (List.replicate count 0) cs).map fun r => (r.1 + 1, r.2)

/-- Reads the members of a set up to its end, and gives the depth of all of them. -/
def readMembers? (m : Mode) :
    Nat → Option Nat → List Nat → List Char → Option (Nat × List Char)
  | 0, _, _, _ => none
  | fuel + 1, left, members, cs =>
    match m.skip cs with
    | [] => none
    | ']' :: cs => some (operandDepth left members, cs)
    | '&' :: '&' :: cs => readMembers? m fuel (some (operandDepth left members)) [] cs
    | '-' :: '-' :: cs => readMembers? m fuel (some (operandDepth left members)) [] cs
    | '~' :: '~' :: cs => readMembers? m fuel (some (operandDepth left members)) [] cs
    | '[' :: cs =>
      match readClass? cs with
      | some (isComplement, cs) =>
        if (isComplement && !m.allowsComplement) || !m.allowsInSet 'a' then none
        else readMembers? m fuel left (0 :: members) cs
      | none =>
        match readSet? m fuel cs with
        | some (d, cs) => readMembers? m fuel left (d :: members) cs
        | none => none
    | cs =>
      match readRange? m cs with
      | some cs => readMembers? m fuel left (0 :: members) cs
      | none => none

end

/-! ## Groups -/

/-- The letters of the modes that a group can set. -/
def modeLetters : List Char := ['i', 'm', 's', 'U', 'u', 'R', 'x']

/-- Reads the letters of modes up to a closing bracket or a colon. None stands twice, and the hyphen
before those that are turned off has one after it. -/
def readLetters? : List Char → List Char → Option (List Char × List Char)
  | _, [] => none
  | letters, c :: cs =>
    if c = ')' ∨ c = ':' then
      if letters.getLast? = some '-' then none else some (letters, c :: cs)
    else if (c = '-' ∨ c ∈ modeLetters) ∧ c ∉ letters then readLetters? (letters ++ [c]) cs
    else none

/-- The mode with some letters turned on, and those after a hyphen turned off. -/
def Mode.set (m : Mode) (letters : List Char) : Mode :=
  let on := letters.takeWhile (· ≠ '-')
  let off := letters.dropWhile (· ≠ '-')
  let choose (letter : Char) (old : Bool) : Bool :=
    if letter ∈ on then true else if letter ∈ off then false else old
  ⟨choose 'u' m.unicode, choose 'i' m.caseless, choose 'x' m.spaced⟩

/-- Reads the name of a group up to an angle bracket. -/
def readName? (cs : List Char) : Option (List Char × List Char) :=
  let name := cs.takeWhile (· ≠ '>')
  let isFirst (c : Char) : Bool := c = '_' || Text.isLetter c
  let isFurther (c : Char) : Bool := c ∈ ['_', '.', '[', ']'] || Text.isLetterOrNumber c
  match name, cs.dropWhile (· ≠ '>') with
  | c :: further, _ :: rest =>
    if isFirst c ∧ further.all isFurther then some (name, rest) else none
  | _, _ => none

/-- What an opening bracket begins. -/
inductive Opening where
  /-- A group, in which a mode holds. -/
  | group (m : Mode)
  /-- A group with a name. -/
  | named (name : List Char)
  /-- No group: a mode that holds up to the end of the group around it. -/
  | mode (m : Mode)
deriving DecidableEq, Repr

/-- Reads what stands between an opening bracket and the pieces of the group. Groups that look
around are refused. -/
def readOpening? (m : Mode) (cs : List Char) : Option (Opening × List Char) :=
  match m.skip cs with
  | '?' :: 'P' :: '<' :: cs => (readName? cs).map fun r => (.named r.1, r.2)
  | '?' :: '<' :: cs => (readName? cs).map fun r => (.named r.1, r.2)
  | '?' :: cs =>
    match readLetters? [] cs with
    | some (letters, ':' :: cs) => some (.group (m.set letters), cs)
    | some (letters, ')' :: cs) => if letters = [] then none else some (.mode (m.set letters), cs)
    | _ => none
  | cs => some (.group m, cs)

/-! ## Patterns -/

/-- What was read of the group that is being read: the depths of the finished branches, and those of
the pieces of the last one, from the last piece on. A piece that only sets a mode cannot be
repeated; it has no depth. -/
structure Branches where
  finished : List Nat := []
  pieces : List (Option Nat) := []

namespace Branches

/-- The depth of the last branch. -/
def lastDepth (b : Branches) : Nat := besideDepth (b.pieces.map (·.getD 0))

/-- The depth of all branches. -/
def depth (b : Branches) : Nat := besideDepth (b.lastDepth :: b.finished)

/-- One more piece. -/
def push (b : Branches) (piece : Option Nat) : Branches := { b with pieces := piece :: b.pieces }

/-- The next branch begins. -/
def next (b : Branches) : Branches := ⟨b.lastDepth :: b.finished, []⟩

/-- The last piece is repeated, if there is one that can be. -/
def repeat? (b : Branches) : Option Branches :=
  match b.pieces with
  | some d :: pieces => some { b with pieces := some (d + 1) :: pieces }
  | _ => none

end Branches

/-- Reads pieces up to the end of their group, whose closing bracket is not taken, and gives their
depth. `names` are the names of groups so far. The fuel bounds the recursion. -/
def readPieces? : Nat → Mode → List (List Char) → Branches → List Char →
    Option (Nat × List (List Char) × List Char)
  | 0, _, _, _, _ => none
  | fuel + 1, m, names, b, cs =>
    match m.skip cs with
    | [] => some (b.depth, names, [])
    | ')' :: cs => some (b.depth, names, ')' :: cs)
    | '|' :: cs => readPieces? fuel m names b.next cs
    | '[' :: cs =>
      match readSet? m fuel cs with
      | some (d, cs) => readPieces? fuel m names (b.push (some d)) cs
      | none => none
    | '(' :: cs =>
      match readOpening? m cs with
      | none => none
      | some (.mode new, cs) => readPieces? fuel new names (b.push none) cs
      | some (.group inner, cs) => readGroup fuel m inner names b cs
      | some (.named name, cs) =>
        if name ∈ names then none else readGroup fuel m m (name :: names) b cs
    | '\x7b' :: _ => none
    | '\\' :: cs =>
      match readEscape? m cs with
      | some (.char c isByte, cs) =>
        if m.allows c isByte then readPieces? fuel m names (b.push (some 0)) cs else none
      | some (_, cs) => readPieces? fuel m names (b.push (some 0)) cs
      | none => none
    | c :: cs =>
      if c ∈ ['?', '*', '+'] then
        match b.repeat? with
        | some b => readPieces? fuel m names b (if cs.head? = some '?' then cs.drop 1 else cs)
        | none => none
      else if c = '^' ∨ c = '$' ∨ (if c = '.' then m.unicode else m.allows c false) then
        readPieces? fuel m names (b.push (some 0)) cs
      else none
where
  /-- Reads the rest of a group, in which a mode of its own holds, and what follows the group. -/
  readGroup (fuel : Nat) (m inner : Mode) (names : List (List Char)) (b : Branches)
      (cs : List Char) : Option (Nat × List (List Char) × List Char) :=
    match fuel with
    | 0 => none
    | fuel + 1 =>
      match readPieces? fuel inner names {} cs with
      | some (d, names, ')' :: cs) => readPieces? fuel m names (b.push (some (d + 1))) cs
      | _ => none

/-- Patterns are not nested deeper than this. -/
def greatestDepth : Nat := 250

/-- The text is a pattern that can be used. -/
def IsUsable (cs : List Char) : Prop :=
  match readPieces? (2 * cs.length + 2) {} [] {} cs with
  | some (d, _, []) => d ≤ greatestDepth
  | _ => False

instance : DecidablePred IsUsable := fun cs => by
  unfold IsUsable
  split <;> infer_instance

end Pattern

end Log

end DatePartition
