import DatePartition.Decimal.Double
import DatePartition.Text.Numeral

/-!
# Numbers in JSON text

A number without fraction and exponent is an integer if it fits 64 bits. Every other number is a
double, and so is `-0`.

- `JsonNumber`: the three kinds of numbers.
- `JsonNumber.read? cs`: reads a number at the start of a text and gives the rest. Leading zeros, a
  point without digits on both sides and a double that is too large are refused.
- `Significand`: how the digits of a double are taken in. They fill 64 bits; the digits that do not
  fit only move the point.
-/

namespace DatePartition

/-- A number in JSON text. -/
inductive JsonNumber where
  /-- An integer from zero on. -/
  | natural (value : Nat)
  /-- The negative of a positive integer. -/
  | negative (value : Nat)
  /-- A double with its sign. -/
  | double (negative : Bool) (value : Double)
deriving DecidableEq, Repr

/-- The digits of a number and the power of ten that they are to be multiplied with. -/
structure Significand where
  digits : Nat := 0
  exponent : Int := 0

namespace Significand

/-- The greatest number of 64 bits. -/
def greatest : Nat := 0xffffffffffffffff

/-- Takes in digits before the point. From the first on that does not fit, they are only counted. -/
def addWhole (s : Significand) : List Nat → Significand
  | [] => s
  | d :: ds =>
    if s.digits * 10 + d ≤ greatest then addWhole { s with digits := s.digits * 10 + d } ds
    else { s with exponent := s.exponent + (d :: ds).length }

/-- Takes in digits after the point. From the first on that does not fit, they are left out. -/
def addFraction (s : Significand) : List Nat → Significand
  | [] => s
  | d :: ds =>
    if s.digits * 10 + d ≤ greatest then addFraction ⟨s.digits * 10 + d, s.exponent - 1⟩ ds
    else s

/-- The greatest exponent that is computed with. -/
def greatestExponent : Int := 0x7fffffff

/-- Takes in a written exponent. Where it is too large to be computed with, zero is zero, a negative
exponent makes zero, and any other number is refused. -/
def scale? (s : Significand) (negative : Bool) (e : Nat) : Option Significand :=
  if e ≤ greatestExponent then
    let moved := if negative then s.exponent - e else s.exponent + e
    some ⟨s.digits, max (-greatestExponent - 1) (min greatestExponent moved)⟩
  else if s.digits = 0 ∨ negative then some {}
  else none

end Significand

namespace JsonNumber

/-- Splits a text after its leading digits. -/
def takeDigits (cs : List Char) : List Char × List Char :=
  (cs.takeWhile Char.isDigit, cs.dropWhile Char.isDigit)

/-- The values of digits. -/
def digitValues (ds : List Char) : List Nat := ds.map fun c => c.toNat - '0'.toNat

/-- Reads the digits before the point: one zero, or digits that begin with another one. -/
def readWhole? (cs : List Char) : Option (List Char × List Char) :=
  match takeDigits cs with
  | ([], _) => none
  | ('0' :: _ :: _, _) => none
  | (ds, rest) => some (ds, rest)

/-- Reads a point with digits after it, if there is a point. -/
def readFraction? : List Char → Option (Option (List Char) × List Char)
  | '.' :: cs =>
    match takeDigits cs with
    | ([], _) => none
    | (ds, rest) => some (some ds, rest)
  | cs => some (none, cs)

/-- Reads the sign of an exponent; `true` means that it is negative. -/
def readSign : List Char → Bool × List Char
  | '+' :: cs => (false, cs)
  | '-' :: cs => (true, cs)
  | cs => (false, cs)

/-- Reads an exponent with its sign, if there is one. -/
def readExponent? : List Char → Option (Option (Bool × Nat) × List Char)
  | c :: cs =>
    if c = 'e' ∨ c = 'E' then
      let (minus, cs) := readSign cs
      match takeDigits cs with
      | ([], _) => none
      | (ds, rest) => some (some (minus, Numeral.value ds), rest)
    else some (none, c :: cs)
  | [] => some (none, [])

/-- The integer with these digits, if it fits 64 bits. Zero with a minus sign is no integer. -/
def ofInteger? (minus : Bool) (whole : List Char) : Option JsonNumber :=
  let n := Numeral.value whole
  if minus then if 1 ≤ n ∧ n ≤ 0x8000000000000000 then some (negative n) else none
  else if n ≤ Significand.greatest then some (natural n) else none

/-- The double with these digits. -/
def ofDouble? (minus : Bool) (whole fraction : List Char) (exponent : Bool × Nat) :
    Option JsonNumber := do
  let s := (({} : Significand).addWhole (digitValues whole)).addFraction (digitValues fraction)
  let s ← s.scale? exponent.1 exponent.2
  let value ← Double.ofDecimal? s.digits s.exponent
  return double minus value

/-- The number with these parts. -/
def ofParts? (minus : Bool) (whole : List Char) (fraction : Option (List Char))
    (exponent : Option (Bool × Nat)) : Option JsonNumber :=
  match fraction, exponent, ofInteger? minus whole with
  | none, none, some n => some n
  | _, _, _ => ofDouble? minus whole (fraction.getD []) (exponent.getD (false, 0))

/-- Reads an unsigned number, to which a minus sign may belong. -/
def readUnsigned? (minus : Bool) (cs : List Char) : Option (JsonNumber × List Char) := do
  let (whole, cs) ← readWhole? cs
  let (fraction, cs) ← readFraction? cs
  let (exponent, cs) ← readExponent? cs
  let n ← ofParts? minus whole fraction exponent
  return (n, cs)

/-- Reads a number at the start of a text and gives the rest. -/
def read? : List Char → Option (JsonNumber × List Char)
  | '-' :: cs => readUnsigned? true cs
  | cs => readUnsigned? false cs

end JsonNumber

end DatePartition
