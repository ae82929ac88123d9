/-!
# Numerals

Numbers in dates, partition values and messages are written in decimal, numbers of characters in
base sixteen.

- `Numeral.plain n`: the digits of `n` without leading zeros.
- `Numeral.padded width n`: the same digits, filled up with zeros to `width` places. A number with
  more digits keeps them all.
- `Numeral.read? bound cs`: reads an optional single `+` and one or more ASCII digits, with any
  number of leading zeros, and gives the value if it is at most `bound`. The value is computed
  without any bound first, so no input wraps around.
- `Numeral.hexValue? cs`, `Numeral.codePoint? cs`: the number and the character that digits of base
  sixteen stand for.
-/

namespace DatePartition.Numeral

/-- The decimal digits of a number, most significant first. -/
def plain (n : Nat) : List Char := Nat.toDigits 10 n

/-- The decimal digits of a number, filled up with zeros to at least `width` places. -/
def padded (width n : Nat) : List Char := (plain n).leftpad width '0'

/-- What follows an optional plus sign. -/
def unsigned : List Char → List Char
  | '+' :: cs => cs
  | cs => cs

/-- One or more ASCII digits and nothing else. -/
def IsDigits (cs : List Char) : Prop := cs ≠ [] ∧ ∀ c ∈ cs, c.isDigit

-- Only the characters of the text are looked at, not all that there are.
instance : DecidablePred IsDigits := fun cs =>
  @instDecidableAnd _ _ _ (List.decidableBAll (fun c => c.isDigit = true) cs)

/-- The number that a row of decimal digits stands for. -/
def value (cs : List Char) : Nat := Nat.ofDigitChars 10 cs 0

/-- Reads a numeral whose value is at most `bound`. -/
def read? (bound : Nat) (cs : List Char) : Option Nat :=
  if IsDigits (unsigned cs) ∧ value (unsigned cs) ≤ bound then some (value (unsigned cs)) else none

/-- The value of a digit of base sixteen. -/
def hexDigit? (c : Char) : Option Nat :=
  if c.isDigit then some (c.toNat - '0'.toNat)
  else if 'a' ≤ c ∧ c ≤ 'f' then some (c.toNat - 'a'.toNat + 10)
  else if 'A' ≤ c ∧ c ≤ 'F' then some (c.toNat - 'A'.toNat + 10)
  else none

/-- The number that a row of digits of base sixteen stands for. -/
def hexValue? (cs : List Char) : Option Nat :=
  cs.foldlM (fun n c => (hexDigit? c).map (n * 16 + ·)) 0

/-- The character with a number written in base sixteen. -/
def codePoint? (cs : List Char) : Option Char := do
  let n ← hexValue? cs
  if n.isValidChar then some (Char.ofNat n) else none

/-- A numeral without padding has at least one digit. -/
theorem plain_ne_nil (n : Nat) : plain n ≠ [] := Nat.toDigits_ne_nil

/-- A numeral holds digits only. -/
theorem isDigit_of_mem_plain {n : Nat} {c : Char} (h : c ∈ plain n) : c.isDigit :=
  Nat.isDigit_of_mem_toDigits (by decide) (by decide) h

/-- Padding adds digits only. -/
theorem isDigit_of_mem_padded {width n : Nat} {c : Char} (h : c ∈ padded width n) : c.isDigit := by
  rw [padded, List.leftpad, List.mem_append] at h
  rcases h with h | h
  · rw [List.eq_of_mem_replicate h]; rfl
  · exact isDigit_of_mem_plain h

/-- The value of a numeral is the number that was written. -/
@[simp] theorem value_plain (n : Nat) : value (plain n) = n := by
  simp [value, plain]

/-- No number but zero is written with a zero in front. -/
theorem eq_nil_of_plain_eq_zero_cons {n : Nat} {ds : List Char} (h : plain n = '0' :: ds) :
    ds = [] := by
  induction n using Nat.strongRecOn generalizing ds with
  | ind n ih =>
    rw [plain, Nat.toDigits_eq_if (by decide)] at h
    split at h
    · exact (List.cons.inj h).2.symm
    · -- the first digit of a longer numeral is the first one of its tenth, which is not zero
      obtain ⟨c, cs, hcs⟩ := List.exists_cons_of_ne_nil (plain_ne_nil (n / 10))
      rw [show Nat.toDigits 10 (n / 10) = c :: cs from hcs, List.cons_append,
        List.cons.injEq] at h
      obtain ⟨rfl, -⟩ := h
      have hnil : cs = [] := ih (n / 10) (by omega) hcs
      have hzero : n / 10 = 0 := by
        rw [← value_plain (n / 10), hcs, hnil]
        rfl
      omega

/-- Zeros in front do not change the value. -/
@[simp] theorem value_padded (width n : Nat) : value (padded width n) = n := by
  rw [value, padded, List.leftpad, Nat.ofDigitChars_append, Nat.ofDigitChars_replicate_zero,
    Nat.mul_zero]
  exact value_plain n

/-- A number that fits its places fills them exactly. -/
theorem length_padded {width n : Nat} (hwidth : 0 < width) (h : n < Nat.pow 10 width) :
    (padded width n).length = width := by
  have hplain : (plain n).length ≤ width := (Nat.length_toDigits_le_iff (by decide) hwidth).2 h
  rw [padded, List.length_leftpad, Nat.max_eq_left hplain]

/-- Digits have no sign before them. -/
theorem unsigned_eq_self {cs : List Char} (h : ∀ c ∈ cs, c.isDigit) : unsigned cs = cs := by
  unfold unsigned
  split
  · exact absurd (h '+' (List.mem_cons_self ..)) (by decide)
  · rfl

/-- A numeral is one or more digits. -/
theorem isDigits_padded (width n : Nat) : IsDigits (padded width n) := by
  refine ⟨fun hnil => plain_ne_nil n ?_, fun c => isDigit_of_mem_padded⟩
  rw [padded, List.leftpad] at hnil
  exact (List.append_eq_nil_iff.1 hnil).2

/-- **A numeral is read as its number**, however many zeros stand in front. -/
theorem read?_padded {bound n : Nat} (h : n ≤ bound) (width : Nat) :
    read? bound (padded width n) = some n := by
  have hdigits := isDigits_padded width n
  rw [read?, unsigned_eq_self hdigits.2, value_padded, if_pos ⟨hdigits, h⟩]

/-- No padding is padding to no places. -/
theorem padded_zero (n : Nat) : padded 0 n = plain n := by
  rw [padded, List.leftpad, Nat.zero_sub, List.replicate_zero, List.nil_append]

/-- Numbers are told apart by their digits, also behind zeros. -/
@[simp] theorem padded_inj {width m n : Nat} : padded width m = padded width n ↔ m = n := by
  constructor
  · intro h
    rw [← value_padded width m, h, value_padded]
  · intro h
    rw [h]

end DatePartition.Numeral
