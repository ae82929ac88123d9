import DatePartition.Predicate.Render
import DatePartition.Text.Letter

/-!
# Boolean expressions over columns

The meaning of a written predicate, independent of how it was written: a reader for boolean
expressions and their value for a row.

- `Condition`: comparisons of columns with values, joined by `and` and `or`.
- `Condition.Holds row c`: the value of a condition in a row of named columns.
- `Condition.parse? cs`: reads an expression. `and` binds tighter than `or`, both are known in any
  case, and blanks do not matter. Words are made of the letters and numbers of any script, and of
  underscores.
- `Columns.ArePlain`: the names of the columns are single words and differ.
- `Columns.row`: the row of the partition that holds a date.
-/

namespace DatePartition

/-- A boolean expression over columns. -/
inductive Condition where
  | equals (column value : List Char)
  | oneOf (column : List Char) (values : List (List Char))
  | both (a b : Condition)
  | either (a b : Condition)
deriving DecidableEq, Repr

namespace Condition

/-- The value of an expression in a row, which gives some columns a value. -/
def Holds (row : List Char → Option (List Char)) : Condition → Prop
  | equals column value => row column = some value
  | oneOf column values => ∃ value ∈ values, row column = some value
  | both a b => a.Holds row ∧ b.Holds row
  | either a b => a.Holds row ∨ b.Holds row

instance decidableHolds (row : List Char → Option (List Char)) :
    (c : Condition) → Decidable (c.Holds row)
  | equals _ _ => inferInstanceAs (Decidable (_ = _))
  | oneOf _ values => inferInstanceAs (Decidable (∃ value ∈ values, _ = _))
  | both a b => @instDecidableAnd _ _ (decidableHolds row a) (decidableHolds row b)
  | either a b => @instDecidableOr _ _ (decidableHolds row a) (decidableHolds row b)

/-! ## Words and marks -/

/-- A word or a mark of an expression. -/
inductive Lexeme where
  | opening
  | closing
  | comma
  | equals
  | word (cs : List Char)
  | quoted (cs : List Char)
deriving DecidableEq, Repr

/-- A character that a word begins with. -/
def startsWord (c : Char) : Bool := Text.isLetter c || c = '_'

/-- A character that a word goes on with. -/
def continuesWord (c : Char) : Bool := Text.isLetterOrNumber c || c = '_'

/-- The words and marks of a text, unless something else stands in it. The fuel bounds their number
and that of the blanks. -/
def lexemes? : Nat → List Char → Option (List Lexeme)
  | _, [] => some []
  | 0, _ :: _ => none
  | fuel + 1, c :: cs =>
    if c = ' ' ∨ c = '\n' then lexemes? fuel cs
    else if c = '(' then (lexemes? fuel cs).map (.opening :: ·)
    else if c = ')' then (lexemes? fuel cs).map (.closing :: ·)
    else if c = ',' then (lexemes? fuel cs).map (.comma :: ·)
    else if c = '=' then (lexemes? fuel cs).map (.equals :: ·)
    else if c = '\'' then
      match cs.dropWhile (· ≠ '\'') with
      | [] => none
      | _ :: rest => (lexemes? fuel rest).map (.quoted (cs.takeWhile (· ≠ '\'')) :: ·)
    else if startsWord c then
      (lexemes? fuel (cs.dropWhile continuesWord)).map
        (.word (c :: cs.takeWhile continuesWord) :: ·)
    else none

/-- The word is a keyword in any case. -/
def isKeyword (keyword : String) (cs : List Char) : Bool := cs.map Char.toLower = keyword.toList

/-- The word has a meaning of its own and names no column. -/
def isReserved (cs : List Char) : Bool :=
  isKeyword "and" cs || isKeyword "or" cs || isKeyword "in" cs

/-- The text names a column without quotes: it is one word that is not reserved. -/
def isPlainName : List Char → Bool
  | [] => false
  | c :: cs => startsWord c && cs.all continuesWord && !isReserved (c :: cs)

/-! ## Expressions -/

/-- Reads the further values of a list, up to its end. -/
def readValues? : List Lexeme → Option (List (List Char) × List Lexeme)
  | .closing :: ls => some ([], ls)
  | .comma :: .quoted v :: ls => (readValues? ls).map fun r => (v :: r.1, r.2)
  | _ => none

/-- Reads what follows a column: a value, or a list of one or more. -/
def readComparison? (column : List Char) : List Lexeme → Option (Condition × List Lexeme)
  | .equals :: .quoted v :: ls => some (.equals column v, ls)
  | .word w :: .opening :: .quoted v :: ls =>
    if isKeyword "in" w then (readValues? ls).map fun r => (.oneOf column (v :: r.1), r.2)
    else none
  | _ => none

mutual

/-- Reads a comparison or an expression in parentheses. The fuel bounds the recursion. -/
def readSimple? : Nat → List Lexeme → Option (Condition × List Lexeme)
  | 0, _ => none
  | fuel + 1, ls =>
    match ls with
    | .opening :: ls =>
      match readEither? fuel ls with
      | some (c, .closing :: ls) => some (c, ls)
      | _ => none
    | .word w :: ls => if isReserved w then none else readComparison? w ls
    | _ => none

/-- Reads expressions between which `and` stands. -/
def readBoth? : Nat → List Lexeme → Option (Condition × List Lexeme)
  | 0, _ => none
  | fuel + 1, ls =>
    match readSimple? fuel ls with
    | some (a, .word w :: ls) =>
      if isKeyword "and" w then (readBoth? fuel ls).map fun r => (.both a r.1, r.2)
      else some (a, .word w :: ls)
    | r => r

/-- Reads expressions between which `or` stands. -/
def readEither? : Nat → List Lexeme → Option (Condition × List Lexeme)
  | 0, _ => none
  | fuel + 1, ls =>
    match readBoth? fuel ls with
    | some (a, .word w :: ls) =>
      if isKeyword "or" w then (readEither? fuel ls).map fun r => (.either a r.1, r.2)
      else some (a, .word w :: ls)
    | r => r

end

/-- Reads an expression, which must be the whole text. -/
def parse? (cs : List Char) : Option Condition := do
  let ls ← lexemes? cs.length cs
  match readEither? (3 * ls.length + 3) ls with
  | some (c, []) => some c
  | _ => none

end Condition

/-- The columns can be told apart in an expression: their names are plain and differ. -/
def Columns.ArePlain (columns : Columns) : Prop :=
  (∀ name ∈ [columns.year, columns.month, columns.day], Condition.isPlainName name.toList) ∧
    columns.year ≠ columns.month ∧ columns.year ≠ columns.day ∧ columns.month ≠ columns.day

instance : DecidablePred Columns.ArePlain := fun _ => inferInstanceAs (Decidable (_ ∧ _))

/-- The row of the partition that holds a date: its year, month and day as they are written. -/
def Columns.row (columns : Columns) (d : Date) (name : List Char) : Option (List Char) :=
  if name = columns.year.toList then some d.year.chars
  else if name = columns.month.toList then some d.month.chars
  else if name = columns.day.toList then some d.day.chars
  else none

end DatePartition
