import DatePartition.Text.Invisible

/-!
# Quoted text in messages

- `quotedChar c`: a character as it stands between quotes. Quotes and backslashes follow a
  backslash, four controls have letters, and what is not shown is written by its number in base
  sixteen.
- `quoted s`: the text between quotes.
-/

namespace DatePartition.Text

/-- A character by its number in braces. -/
def numbered (c : Char) : List Char :=
  ['\\', 'u', '\x7b'] ++ Nat.toDigits 16 c.toNat ++ ['\x7d']

/-- A character between quotes. -/
def quotedChar (c : Char) : List Char :=
  if c = '"' ∨ c = '\\' then ['\\', c]
  else if c = '\n' then ['\\', 'n']
  else if c = '\r' then ['\\', 'r']
  else if c = '\t' then ['\\', 't']
  else if c.toNat = 0 then ['\\', '0']
  else if isInvisible c then numbered c
  else [c]

/-- The text between quotes. -/
def quoted (s : String) : String := String.ofList ('"' :: s.toList.flatMap quotedChar ++ ['"'])

end DatePartition.Text
