import DatePartition.Range.Text
import DatePartition.Proofs.Calendar.DateText

/-!
# The order of written dates

Partition names are compared as texts. Numbers are written with zeros in front, so that all texts of
a kind have one length, and texts of one length are in order as the numbers are that they stand for.

- `Text.append_lt_append_iff`: behind beginnings of one length, the order is that of the beginnings
  and then of what follows.
- `Numeral.padded_lt_padded_iff`: numerals of one width are in the order of their numbers.
- `Date.values`, `DateRange.values`: the texts of the single numbers, as they stand in partition
  names.
- `DateRange.order_of_texts`: **written dates and ranges are in the order of time**.
-/

namespace DatePartition

/-! ## Texts -/

namespace Text

/-- Texts with beginnings of one length are in the order of their beginnings, and if these are equal
in the order of what follows. -/
theorem append_lt_append_iff {α : Type} [LT α] {a b c d : List α} (h : a.length = b.length) :
    a ++ c < b ++ d ↔ a < b ∨ a = b ∧ c < d := by
  induction a generalizing b with
  | nil =>
    obtain rfl := List.length_eq_zero_iff.1 h.symm
    simp
  | cons x a ih =>
    obtain ⟨y, b, rfl⟩ := List.exists_cons_of_length_eq_add_one h.symm
    rw [List.cons_append, List.cons_append, List.cons_lt_cons_iff, List.cons_lt_cons_iff,
      List.cons.injEq, ih (Nat.succ.inj h)]
    grind

/-- A common first character does not count. -/
theorem cons_lt_cons_iff_tail {x : Char} {a b : List Char} : x :: a < x :: b ↔ a < b := by
  rw [List.cons_lt_cons_iff, or_iff_right (Char.lt_irrefl x), and_iff_right rfl]

theorem ofList_lt_ofList_iff {a b : List Char} :
    String.ofList a < String.ofList b ↔ a < b := by
  rw [String.lt_iff, String.toList_ofList, String.toList_ofList]

end Text

/-! ## Numerals -/

namespace Numeral

/-- Digits are in the order of their values. -/
theorem digitChar_lt_digitChar_iff :
    ∀ i < 10, ∀ j < 10, Nat.digitChar i < Nat.digitChar j ↔ i < j := by
  decide

theorem singleton_digitChar_lt_iff {i j : Nat} (hi : i < 10) (hj : j < 10) :
    [Nat.digitChar i] < [Nat.digitChar j] ↔ i < j := by
  rw [List.cons_lt_cons_iff, digitChar_lt_digitChar_iff i hi j hj]
  exact or_iff_left fun h => List.not_lt_nil [] h.2

/-- The last digit stands behind those of the tenth. -/
theorem padded_succ (width n : Nat) :
    padded (width + 2) n = padded (width + 1) (n / 10) ++ [Nat.digitChar (n % 10)] := by
  have hzero : padded (width + 1) 0 = List.replicate (width + 1) '0' := by
    show List.replicate width '0' ++ ['0'] = _
    rw [List.replicate_succ']
  rcases Nat.lt_or_ge n 10 with hn | hn
  · -- a single digit, and zeros in front
    rw [Nat.div_eq_of_lt hn, Nat.mod_eq_of_lt hn, hzero, padded, plain, Nat.toDigits_of_lt_base hn]
    rfl
  · have hplain : plain n = plain (n / 10) ++ [Nat.digitChar (n % 10)] :=
      Nat.toDigits_of_base_le (by decide) hn
    rw [padded, padded, hplain, List.leftpad, List.leftpad, List.length_append,
      List.length_singleton, show width + 2 = width + 1 + 1 from rfl, Nat.add_sub_add_right,
      List.append_assoc]

/-- **Numerals of one width are in the order of their numbers**, if the numbers fit the width. -/
theorem padded_lt_padded_iff {width m n : Nat} (hm : m < Nat.pow 10 (width + 1))
    (hn : n < Nat.pow 10 (width + 1)) :
    padded (width + 1) m < padded (width + 1) n ↔ m < n := by
  induction width generalizing m n with
  | zero =>
    have hdigit : ∀ k < 10, padded 1 k = [Nat.digitChar k] := by decide
    rw [hdigit m hm, hdigit n hn, singleton_digitChar_lt_iff hm hn]
  | succ width ih =>
    have hm' : m / 10 < Nat.pow 10 (width + 1) := Nat.div_lt_of_lt_mul (by rwa [Nat.mul_comm])
    have hn' : n / 10 < Nat.pow 10 (width + 1) := Nat.div_lt_of_lt_mul (by rwa [Nat.mul_comm])
    have hlength : (padded (width + 1) (m / 10)).length = (padded (width + 1) (n / 10)).length := by
      rw [length_padded (Nat.succ_pos width) hm', length_padded (Nat.succ_pos width) hn']
    have hlast : [Nat.digitChar (m % 10)] < [Nat.digitChar (n % 10)] ↔ m % 10 < n % 10 :=
      singleton_digitChar_lt_iff (Nat.mod_lt m (by decide)) (Nat.mod_lt n (by decide))
    rw [padded_succ, padded_succ, Text.append_lt_append_iff hlength, ih hm' hn', padded_inj, hlast]
    -- the tenths decide, and if they are equal the last digits do
    omega

end Numeral

/-! ## Dates -/

theorem Year.chars_lt_iff {a b : Year} : a.chars < b.chars ↔ a.number < b.number :=
  Numeral.padded_lt_padded_iff (Nat.lt_of_le_of_lt a.number_le (by decide))
    (Nat.lt_of_le_of_lt b.number_le (by decide))

theorem Month.chars_lt_iff {a b : Month} : a.chars < b.chars ↔ a.number < b.number :=
  Numeral.padded_lt_padded_iff (Nat.lt_of_le_of_lt a.number_le (by decide))
    (Nat.lt_of_le_of_lt b.number_le (by decide))

theorem Day.chars_lt_iff {a b : Day} : a.chars < b.chars ↔ a.number < b.number :=
  Numeral.padded_lt_padded_iff (Nat.lt_of_le_of_lt a.number_le (by decide))
    (Nat.lt_of_le_of_lt b.number_le (by decide))

namespace Date

/-- The texts of the year, the month and the day. -/
def values (d : Date) : List String :=
  [String.ofList d.year.chars, String.ofList d.month.chars, String.ofList d.day.chars]

/-- The order of time, told by what is written for the numbers. -/
theorem lt_iff_chars {a b : Date} : a < b ↔
    a.year.chars < b.year.chars ∨ a.year.chars = b.year.chars ∧
      (a.month.chars < b.month.chars ∨ a.month.chars = b.month.chars ∧
        a.day.chars < b.day.chars) := by
  rw [lt_def, Year.chars_lt_iff, Month.chars_lt_iff, Day.chars_lt_iff, Year.chars_inj,
    Month.chars_inj, Year.ext_iff, Month.ext_iff]

/-- All dates have texts of one length. -/
theorem length_chars (d : Date) : d.chars.length = 10 := by
  simp [chars_eq, Year.length_chars, Month.length_chars, Day.length_chars]

theorem chars_lt_iff {a b : Date} : a.chars < b.chars ↔ a < b := by
  have hyear : a.year.chars.length = b.year.chars.length := by
    rw [Year.length_chars, Year.length_chars]
  have hmonth : a.month.chars.length = b.month.chars.length := by
    rw [Month.length_chars, Month.length_chars]
  rw [chars_eq, chars_eq, Text.append_lt_append_iff hyear, Text.cons_lt_cons_iff_tail,
    Text.append_lt_append_iff hmonth, Text.cons_lt_cons_iff_tail, lt_iff_chars]

/-- Dates are told apart by their texts. -/
theorem chars_inj {a b : Date} : a.chars = b.chars ↔ a = b := by
  constructor
  · intro h
    have hparse : ofChars a.chars = ofChars b.chars := congrArg ofChars h
    rw [ofChars_chars, ofChars_chars] at hparse
    exact Except.ok.inj hparse
  · rintro rfl
    rfl

theorem values_lt_iff {a b : Date} : a.values < b.values ↔ a < b := by
  simp only [values, List.cons_lt_cons_iff, Text.ofList_lt_ofList_iff, String.ofList_inj,
    List.not_lt_nil, and_false, or_false, lt_iff_chars]

theorem values_inj {a b : Date} : a.values = b.values ↔ a = b := by
  simp only [values, List.cons.injEq, String.ofList_inj, Year.chars_inj, Month.chars_inj,
    Day.chars_inj, and_true, Date.ext_iff]

end Date

/-! ## Ranges -/

namespace DateRange

/-- The texts of the numbers of both bounds. -/
def values (r : DateRange) : List String := r.first.values ++ r.last.values

theorem lt_def {r s : DateRange} :
    r < s ↔ r.first < s.first ∨ r.first = s.first ∧ r.last < s.last := Iff.rfl

theorem chars_lt_iff {r s : DateRange} : r.chars < s.chars ↔ r < s := by
  have hlength : r.first.chars.length = s.first.chars.length := by
    rw [Date.length_chars, Date.length_chars]
  rw [chars, chars, Text.append_lt_append_iff hlength, Text.cons_lt_cons_iff_tail,
    Date.chars_lt_iff, Date.chars_lt_iff, Date.chars_inj, lt_def]

theorem values_lt_iff {r s : DateRange} : r.values < s.values ↔ r < s := by
  have hlength : r.first.values.length = s.first.values.length := rfl
  rw [values, values, Text.append_lt_append_iff hlength, Date.values_lt_iff, Date.values_lt_iff,
    Date.values_inj, lt_def]

/-- **Written dates and ranges are in the order of time.** One date is before another exactly if its
text is smaller, and so for the texts of its year, its month and its day in this order. One range is
before another, by its first date and then by its last, exactly if its text is smaller, and so for
the texts of its numbers. -/
theorem order_of_texts :
    (∀ a b : Date, a < b ↔ a.text < b.text) ∧
    (∀ r s : DateRange, r < s ↔ r.text < s.text) ∧
    (∀ a b : Date, a < b ↔ a.values < b.values) ∧
    (∀ r s : DateRange, r < s ↔ r.values < s.values) := by
  refine ⟨fun a b => ?_, fun r s => ?_, fun a b => Date.values_lt_iff.symm, fun r s => ?_⟩
  · rw [Date.text, Date.text, Text.ofList_lt_ofList_iff, Date.chars_lt_iff]
  · rw [text, text, Text.ofList_lt_ofList_iff, chars_lt_iff]
  · exact values_lt_iff.symm

/-- Without zeros in front the year 987 would come behind the year 2019. -/
example : (⟨⟨987, by decide, by decide⟩, .december, ⟨31, by decide, by decide⟩,
    by decide⟩ : Date).text < "2019-01-01" := by decide

end DateRange

end DatePartition
