import DatePartition.Text.Numeral

/-!
# Quoted text in TOML

There are four kinds of quoted text: with escapes or without, and on one line or on several.

- `Toml.readBasic?`, `Toml.readLiteral?`: text on one line, after its opening quote.
- `Toml.readLongBasic?`, `Toml.readLongLiteral?`: text on several lines, after its three opening
  quotes. A line end right after them is left out. Up to two quotes may stand before the three
  closing ones. Line ends are read as U+000A.
- `Toml.readQuoted?`: any of the four.
-/

namespace DatePartition

namespace Toml

/-- The blanks within a line. -/
def isBlank (c : Char) : Bool := c = ' ' || c = '\t'

/-- A character that can stand in quoted text and in comments: no control character but the
tabulator. -/
def isPlain (c : Char) : Bool := c = '\t' || (32 ≤ c.toNat && c.toNat ≠ 127)

/-! ## Escapes -/

/-- The character that a backslash and one letter stand for. -/
def shortEscape? (c : Char) : Option Char :=
  if c = '"' ∨ c = '\\' then some c
  else if c = 'b' then some (Char.ofNat 8)
  else if c = 't' then some '\t'
  else if c = 'n' then some '\n'
  else if c = 'f' then some (Char.ofNat 12)
  else if c = 'r' then some '\r'
  else none

/-! ## One line -/

/-- Puts a character before those that were read. -/
def consChar {α : Type} (a : α) (r : List α × List Char) : List α × List Char := (a :: r.1, r.2)

/-- Text with escapes, up to its closing quote. -/
def readBasic? : List Char → Option (List Char × List Char)
  | [] => none
  | '"' :: cs => some ([], cs)
  | '\\' :: 'u' :: a :: b :: c :: d :: cs =>
    match Numeral.codePoint? [a, b, c, d] with
    | some e => (readBasic? cs).map (consChar e)
    | none => none
  | '\\' :: 'U' :: a :: b :: c :: d :: e :: f :: g :: h :: cs =>
    match Numeral.codePoint? [a, b, c, d, e, f, g, h] with
    | some e => (readBasic? cs).map (consChar e)
    | none => none
  | '\\' :: c :: cs =>
    match shortEscape? c with
    | some e => (readBasic? cs).map (consChar e)
    | none => none
  | c :: cs => if isPlain c ∧ c ≠ '\\' then (readBasic? cs).map (consChar c) else none

/-- Text without escapes, up to its closing quote. -/
def readLiteral? : List Char → Option (List Char × List Char)
  | [] => none
  | '\'' :: cs => some ([], cs)
  | c :: cs => if isPlain c then (readLiteral? cs).map (consChar c) else none

/-! ## Several lines -/

/-- A part of text on several lines: a character as it is written, an escaped one, or a backslash
that takes away the line end and the blanks after it. -/
inductive Part where
  | plain (c : Char)
  | escaped (c : Char)
  | joint

/-- The text after the three closing quotes, and the quotes that belong before them. -/
def closing (quote : Char) : List Char → List Part × List Char
  | a :: b :: cs =>
    if a = quote then
      if b = quote then ([.plain quote, .plain quote], cs) else ([.plain quote], b :: cs)
    else ([], a :: b :: cs)
  | [a] => if a = quote then ([.plain quote], []) else ([], [a])
  | [] => ([], [])

/-- The parts of text with escapes, up to its three closing quotes. -/
def readLongParts? : List Char → Option (List Part × List Char)
  | [] => none
  | '"' :: '"' :: '"' :: cs => some (closing '"' cs)
  | '\\' :: 'u' :: a :: b :: c :: d :: cs =>
    match Numeral.codePoint? [a, b, c, d] with
    | some e => (readLongParts? cs).map (consChar (.escaped e))
    | none => none
  | '\\' :: 'U' :: a :: b :: c :: d :: e :: f :: g :: h :: cs =>
    match Numeral.codePoint? [a, b, c, d, e, f, g, h] with
    | some e => (readLongParts? cs).map (consChar (.escaped e))
    | none => none
  | '\\' :: '\r' :: '\n' :: cs =>
    (readLongParts? cs).map fun r => consChar .joint (consChar (.plain '\n') r)
  | '\\' :: c :: cs =>
    if isBlank c ∨ c = '\n' then
      (readLongParts? cs).map fun r => consChar .joint (consChar (.plain c) r)
    else
      match shortEscape? c with
      | some e => (readLongParts? cs).map (consChar (.escaped e))
      | none => none
  | '\r' :: '\n' :: cs => (readLongParts? cs).map (consChar (.plain '\n'))
  | c :: cs =>
    if (isPlain c ∨ c = '\n') ∧ c ≠ '\\' then (readLongParts? cs).map (consChar (.plain c))
    else none

/-- Where the joining of parts stands. -/
inductive Joining where
  /-- Not after a joint. -/
  | none
  /-- After a joint, before the line end that has to follow. -/
  | line
  /-- After that line end. -/
  | blanks

/-- The text that the parts stand for. -/
def joinParts? : Joining → List Part → Option (List Char)
  | .line, [] => none
  | _, [] => some []
  | .line, .plain c :: ps =>
    if isBlank c then joinParts? .line ps else if c = '\n' then joinParts? .blanks ps else none
  | .line, _ :: _ => none
  | .blanks, .plain c :: ps =>
    if isBlank c ∨ c = '\n' then joinParts? .blanks ps else (joinParts? .none ps).map (c :: ·)
  | .none, .plain c :: ps => (joinParts? .none ps).map (c :: ·)
  | _, .escaped c :: ps => (joinParts? .none ps).map (c :: ·)
  | _, .joint :: ps => joinParts? .line ps

/-- The text without a line end at its start. -/
def dropLineEnd : List Char → List Char
  | '\n' :: cs => cs
  | '\r' :: '\n' :: cs => cs
  | cs => cs

/-- Text with escapes on several lines. -/
def readLongBasic? (cs : List Char) : Option (List Char × List Char) := do
  let (parts, rest) ← readLongParts? (dropLineEnd cs)
  let text ← joinParts? .none parts
  return (text, rest)

/-- The parts of text without escapes, up to its three closing quotes. -/
def readLongLiteralParts? : List Char → Option (List Part × List Char)
  | [] => none
  | '\'' :: '\'' :: '\'' :: cs => some (closing '\'' cs)
  | '\r' :: '\n' :: cs => (readLongLiteralParts? cs).map (consChar (.plain '\n'))
  | c :: cs =>
    if isPlain c ∨ c = '\n' then (readLongLiteralParts? cs).map (consChar (.plain c)) else none

/-- Text without escapes on several lines. -/
def readLongLiteral? (cs : List Char) : Option (List Char × List Char) := do
  let (parts, rest) ← readLongLiteralParts? (dropLineEnd cs)
  let text ← joinParts? .none parts
  return (text, rest)

/-! ## Any kind -/

/-- Quoted text on one line. -/
def readShort? : List Char → Option (List Char × List Char)
  | '"' :: cs => readBasic? cs
  | '\'' :: cs => readLiteral? cs
  | _ => none

/-- Quoted text of any kind. -/
def readQuoted? : List Char → Option (List Char × List Char)
  | '"' :: '"' :: '"' :: cs => readLongBasic? cs
  | '\'' :: '\'' :: '\'' :: cs => readLongLiteral? cs
  | cs => readShort? cs

end Toml

end DatePartition
