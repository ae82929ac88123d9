import DatePartition.Calendar.Basic

/-!
# Scalars in TOML

Booleans, integers, floats, dates and times have no meaning for the settings, but they have to be
told from text that is no value at all. A scalar is read as the longest run of the characters that
can occur in one, and then judged as a whole.

- `Toml.isBoolean`, `isInteger`, `isFloat`, `isTime`, `isDate`, `isDateTime`: the kinds.
- `Toml.readScalar? cs`: passes over a scalar at the start of a text. A date may be followed by one
  space and a time.
-/

namespace DatePartition

namespace Toml

/-! ## Digits -/

/-- Digits in which single underscores may stand between two digits. -/
def isDigitRun (isDigit : Char → Bool) : List Char → Bool
  | [] => false
  | [c] => isDigit c
  | c :: '_' :: cs => isDigit c && isDigitRun isDigit cs
  | c :: cs => isDigit c && isDigitRun isDigit cs

/-- The text without underscores. -/
def withoutUnderscores (cs : List Char) : List Char := cs.filter (· ≠ '_')

/-- What follows an optional sign, and whether it is a minus sign. -/
def splitSign : List Char → Bool × List Char
  | '+' :: cs => (false, cs)
  | '-' :: cs => (true, cs)
  | cs => (false, cs)

/-- A decimal integer without a sign: zero alone, or no zero in front. -/
def isUnsigned : List Char → Bool
  | ['0'] => true
  | '0' :: _ => false
  | cs => isDigitRun Char.isDigit cs

/-- The value of a digit of base sixteen, which bounds that of smaller bases. -/
def digitValue (c : Char) : Nat :=
  if c.isDigit then c.toNat - '0'.toNat else c.toLower.toNat - 'a'.toNat + 10

/-- A digit of a base up to sixteen. -/
def isDigitOf (base : Nat) (c : Char) : Bool :=
  (c.isDigit || ('a' ≤ c.toLower && c.toLower ≤ 'f')) && digitValue c < base

/-- The value of digits in a base. -/
def valueOf (base : Nat) (cs : List Char) : Nat :=
  (withoutUnderscores cs).foldl (fun n c => n * base + digitValue c) 0

/-- Digits of a base whose value fits 64 bits with a sign. -/
def isBased (base : Nat) (cs : List Char) : Bool :=
  isDigitRun (isDigitOf base) cs && valueOf base cs < 0x8000000000000000

/-! ## Numbers -/

/-- The two truth values. -/
def isBoolean (cs : List Char) : Bool := cs = "true".toList || cs = "false".toList

/-- An integer of 64 bits. -/
def isInteger : List Char → Bool
  | '0' :: 'x' :: cs => isBased 16 cs
  | '0' :: 'o' :: cs => isBased 8 cs
  | '0' :: 'b' :: cs => isBased 2 cs
  | cs =>
    let (minus, ds) := splitSign cs
    isUnsigned ds &&
      valueOf 10 ds < if minus then 0x8000000000000001 else 0x8000000000000000

/-- The text before and after the first character of a kind. -/
def breakOn (stop : Char → Bool) (cs : List Char) : List Char × Option (List Char) :=
  match cs.dropWhile fun c => !stop c with
  | [] => (cs, none)
  | _ :: rest => (cs.takeWhile fun c => !stop c, some rest)

/-- From here on, numbers are rounded to the first power of two that is no double. -/
def overflowBound : Nat := Nat.pow 2 1024 - Nat.pow 2 970

/-- Digits with a point and an exponent stand for a number that is rounded to a double. Where the
exponent alone decides, no power is computed. -/
def isFinite (whole fraction : List Char) (down : Bool) (exponent : Nat) : Bool :=
  let places := (withoutUnderscores fraction).length
  let digits := withoutUnderscores whole ++ withoutUnderscores fraction
  let n := valueOf 10 digits
  if n = 0 then true
  else if down then digits.length ≤ exponent || n < overflowBound * Nat.pow 10 (places + exponent)
  else exponent ≤ 400 + places &&
    n * Nat.pow 10 exponent < overflowBound * Nat.pow 10 places

/-- A number with a fraction, an exponent or both, or one of the names of infinity and of no
number. A positive number that is too large is refused. -/
def isFloat (cs : List Char) : Bool :=
  let (minus, ds) := splitSign cs
  if ds = "inf".toList || ds = "nan".toList then true
  else
    let (number, exponent) := breakOn (fun c => c = 'e' || c = 'E') ds
    let (whole, fraction) := breakOn (· = '.') number
    let (down, places) := splitSign (exponent.getD ['0'])
    (exponent.isSome || fraction.isSome) && isUnsigned whole
      && isDigitRun Char.isDigit (fraction.getD ['0']) && isDigitRun Char.isDigit places
      && (minus || isFinite whole (fraction.getD []) down (valueOf 10 places))

/-! ## Dates and times -/

/-- A number of exactly `width` digits. -/
def fixed? (width : Nat) (cs : List Char) : Option Nat :=
  if cs.length = width ∧ cs.all Char.isDigit then some (valueOf 10 cs) else none

/-- A number of exactly two digits that is at most `greatest`. -/
def isPair (greatest : Nat) (cs : List Char) : Bool :=
  match fixed? 2 cs with
  | some n => n ≤ greatest
  | none => false

/-- A time of day, with or without a fraction of the second. -/
def isTime (cs : List Char) : Bool :=
  let (clock, fraction) := breakOn (· = '.') cs
  clock.length = 8 && isPair 23 (clock.take 2) && clock[2]? = some ':'
    && isPair 59 ((clock.drop 3).take 2) && clock[5]? = some ':' && isPair 60 (clock.drop 6)
    && match fraction with
      | none => true
      | some ds => !ds.isEmpty && ds.all Char.isDigit

/-- A day of the Gregorian calendar, year zero included. -/
def isDate (cs : List Char) : Bool :=
  cs.length = 10 && cs[4]? = some '-' && cs[7]? = some '-' &&
    match fixed? 4 (cs.take 4), fixed? 2 ((cs.drop 5).take 2), fixed? 2 (cs.drop 8) with
    | some y, some m, some d => 1 ≤ m && m ≤ 12 && 1 ≤ d && d ≤ monthLength y m
    | _, _, _ => false

/-- A time of day with or without a distance from universal time. -/
def isTimeWithOffset (cs : List Char) : Bool :=
  let (time, offset) := breakOn (fun c => c = '+' || c = '-' || c = 'Z' || c = 'z') cs
  isTime time &&
    match offset, cs.drop time.length with
    | none, _ => true
    | some rest, sign :: _ =>
      if sign = 'Z' || sign = 'z' then rest.isEmpty
      else
        rest.length = 5 && isPair 23 (rest.take 2) && rest[2]? = some ':' && isPair 59 (rest.drop 3)
    | some _, [] => false

/-- A date and a time, joined by a letter. -/
def isDateTime (cs : List Char) : Bool :=
  isDate (cs.take 10) &&
    match cs.drop 10 with
    | c :: rest => (c = 'T' || c = 't') && isTimeWithOffset rest
    | [] => false

/-! ## Reading -/

/-- A character that can occur in a scalar. -/
def isScalarChar (c : Char) : Bool :=
  c.isAlphanum || c = '_' || c = '+' || c = '-' || c = '.' || c = ':'

/-- A scalar of any kind. -/
def isScalar (cs : List Char) : Bool :=
  isBoolean cs || isInteger cs || isFloat cs || isTime cs || isDate cs || isDateTime cs

/-- Passes over a scalar at the start of a text. -/
def readScalar? (cs : List Char) : Option (List Char) :=
  let word := cs.takeWhile isScalarChar
  let rest := cs.dropWhile isScalarChar
  if isScalar word then
    match rest with
    | ' ' :: more =>
      if isDate word && isTimeWithOffset (more.takeWhile isScalarChar) then
        some (more.dropWhile isScalarChar)
      else some rest
    | _ => some rest
  else none

end Toml

end DatePartition
