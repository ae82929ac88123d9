import DatePartition.Decimal.Double
import DatePartition.Text.Numeral

/-!
# The shortest decimal of a double

A double is shown with the fewest digits that read back as the same double, and of those decimals
the nearest. They are found as a multiple of the greatest power of ten that has a multiple among the
reals that round to the double.

- `Double.Rounds x a d`: the real a / d, in units, rounds to `x`.
- `Double.shortest x`: the multiple and the exponent of the power of ten.
- `Double.chars x`: the text, positional from 0.00001 up to sixteen places before the point, and
  with an exponent outside.
-/

namespace DatePartition

namespace Double

/-- The quotient `a / d`, in units, lies among the reals that round to `x`. The two ends belong to
them if the significand is even. Below a power of two the spacing is half as wide. -/
def Rounds (x : Double) (a d : Nat) : Prop :=
  let step := Nat.pow 2 (spacing x.scaled)
  let below := if x.scaled = Nat.pow 2 52 * step ∧ 1 < step then step else 2 * step
  if x.scaled / step % 2 = 0 then
    (4 * x.scaled - below) * d ≤ 4 * a ∧ 4 * a ≤ (4 * x.scaled + 2 * step) * d
  else (4 * x.scaled - below) * d < 4 * a ∧ 4 * a < (4 * x.scaled + 2 * step) * d

instance (x : Double) (a d : Nat) : Decidable (x.Rounds a d) := by
  unfold Rounds; infer_instance

/-- A power of ten in units, as a quotient. -/
def power : Int → Nat × Nat
  | .ofNat e => (Nat.pow 10 e * Nat.pow 2 unitExponent, 1)
  | .negSucc e => (Nat.pow 2 unitExponent, Nat.pow 10 (e + 1))

/-- The multiple of a power of ten that is nearest to the double, if one of its two neighbours
rounds to it. -/
def multiple? (x : Double) (e : Int) : Option Nat :=
  let (a, d) := power e
  let low := x.scaled * d / a
  let fits (n : Nat) : Bool := n ≠ 0 ∧ x.Rounds (n * a) d
  match fits low, fits (low + 1) with
  | true, true => some (roundDiv (x.scaled * d) a)
  | true, false => some low
  | false, true => some (low + 1)
  | false, false => none

/-- The exponents of the powers of ten of which a double can be a multiple, descending. -/
def exponents : List Int := (List.range 660).map fun i => 310 - Int.ofNat i

/-- The shortest decimal: a multiple of a power of ten and the exponent of that power. -/
def shortest (x : Double) : Nat × Int :=
  (exponents.findSome? fun e => (x.multiple? e).map fun n => (n, e)).getD (0, 0)

/-- The digits of a decimal with the point where it belongs. `place` is the number of digits before
the point. -/
def positioned (digits : List Char) (place : Int) : List Char :=
  if 0 < place ∧ place ≤ 16 then
    let before := place.toNat
    if digits.length ≤ before then
      digits ++ List.replicate (before - digits.length) '0' ++ ".0".toList
    else digits.take before ++ '.' :: digits.drop before
  else if -5 < place ∧ place ≤ 0 then
    "0.".toList ++ List.replicate (-place).toNat '0' ++ digits
  else
    let exponent := place - 1
    let sign := if exponent < 0 then '-' else '+'
    let fraction := if digits.length ≤ 1 then [] else '.' :: digits.drop 1
    digits.take 1 ++ fraction ++ 'e' :: sign :: Numeral.plain exponent.natAbs

/-- The text of a double. -/
def chars (x : Double) : List Char :=
  if x.scaled = 0 then "0.0".toList
  else
    let (n, e) := x.shortest
    let digits := Numeral.plain n
    positioned digits (digits.length + e)

end Double

end DatePartition
