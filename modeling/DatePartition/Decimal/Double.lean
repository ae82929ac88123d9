/-!
# Double precision

A finite number of double precision that is not negative is a multiple of 2 ^ -1074, so it is kept
as that multiple: `⟨n⟩ : Double` stands for n * 2 ^ -1074. All arithmetic is on natural numbers and
exact, followed by one rounding.

- `Double.round? a d`: the double nearest to a / d in units of 2 ^ -1074, ties to the even
  significand; none from 2 ^ 1024 on.
- `Double.ofNat?`, `Double.mul?`, `Double.div?`: an operation done exactly and then rounded.
- `Double.ofDecimal? s e`: s * 10 ^ e, computed in at most a few rounded steps.
-/

namespace DatePartition

/-- A finite number of double precision that is not negative, in units of 2 ^ -1074. -/
structure Double where
  scaled : Nat
deriving DecidableEq, Repr

namespace Double

/-- The exponent of the units in the scale: one is 2 ^ 1074 units. -/
def unitExponent : Nat := 1074

/-- The first power of two that is no finite double, in units. -/
def overflow : Nat := Nat.pow 2 (1024 + unitExponent)

/-- The exponent of the spacing of doubles at `n` units: the significand has 53 bits. -/
def spacing (n : Nat) : Nat := Nat.log2 n - 52

/-- The quotient rounded to the nearest natural number, ties to the even one. -/
def roundDiv (a d : Nat) : Nat :=
  let q := a / d
  let twice := 2 * (a % d)
  if twice < d ∨ (twice = d ∧ q % 2 = 0) then q else q + 1

/-- The double nearest to `a / d` units, unless it is too large. -/
def round? (a d : Nat) : Option Double :=
  let step := Nat.pow 2 (spacing (a / d))
  let n := roundDiv a (d * step) * step
  if n < overflow then some ⟨n⟩ else none

/-- The double nearest to a natural number. -/
def ofNat? (n : Nat) : Option Double := round? (n * Nat.pow 2 unitExponent) 1

/-- The rounded product. -/
def mul? (x y : Double) : Option Double := round? (x.scaled * y.scaled) (Nat.pow 2 unitExponent)

/-- The rounded quotient. The divisor is not zero. -/
def div? (x y : Double) : Option Double := round? (x.scaled * Nat.pow 2 unitExponent) y.scaled

/-- The greatest power of ten that is a double has this exponent. -/
def greatestPower : Nat := 308

/-- Divides by a power of ten, in steps no greater than the greatest power that is a double. -/
def divPower? (x : Double) (e : Nat) : Option Double :=
  if e ≤ greatestPower then do x.div? (← ofNat? (Nat.pow 10 e))
  else if x.scaled = 0 then some x
  else do (← x.div? (← ofNat? (Nat.pow 10 greatestPower))).divPower? (e - greatestPower)
termination_by e
decreasing_by
  have : 0 < greatestPower := by decide
  omega

/-- Multiplies by a power of ten, unless the result is too large. -/
def mulPower? (x : Double) (e : Nat) : Option Double :=
  if e ≤ greatestPower then do x.mul? (← ofNat? (Nat.pow 10 e))
  else if x.scaled = 0 then some x
  else none

/-- The double for a significand and a power of ten, unless it is too large. -/
def ofDecimal? (significand : Nat) : Int → Option Double
  | .ofNat e => do (← ofNat? significand).mulPower? e
  | .negSucc e => do (← ofNat? significand).divPower? (e + 1)

end Double

end DatePartition
