import DatePartition.Calendar.DateText

/-!
# Written dates are read again

The reader takes a text apart at its separators and reads the parts as numerals. On a text that was
put together from numerals it finds the same parts, since no digit is a blank or a separator.

- `Date.ofSpelling_parts`: three rows of digits with a separator between them are its parts.
- `Date.ofChars_yearFirst`, `Date.ofChars_monthFirst`: the separator tells the order of the parts.
- `Date.ofParts_padded`: the numerals of a date make it up again, however many zeros stand in front.
- `Date.parse_text`, `Date.parse_monthFirstText`: **a date is read from either of its spellings**.
-/

namespace DatePartition

/-- No digit is a blank. -/
theorem Text.isBlank_of_isDigit {c : Char} (h : c.isDigit = true) : isBlank c = false := by
  have hrange : 48 ≤ c.toNat ∧ c.toNat ≤ 57 := by
    simpa [Char.isDigit, UInt32.le_iff_toNat_le] using h
  simp only [isBlank, Bool.or_eq_false_iff, Bool.and_eq_false_iff, decide_eq_false_iff_not,
    beq_eq_false_iff_ne]
  omega

namespace Date

/-! ## Taking a text apart -/

/-- No digit is a separator. -/
theorem not_mem_of_digits {sep : Char} {part : List Char} (hsep : sep.isDigit = false)
    (hpart : ∀ c ∈ part, c.isDigit) : sep ∉ part := by
  intro hmem
  have hdigit := hpart sep hmem
  rw [hsep] at hdigit
  cases hdigit

variable {sep : Char} {a b c : List Char}

/-- A character that is neither a digit nor the separator is not in the text. -/
theorem not_mem_parts {other : Char} (hother : other.isDigit = false) (hne : other ≠ sep)
    (ha : ∀ x ∈ a, x.isDigit) (hb : ∀ x ∈ b, x.isDigit) (hc : ∀ x ∈ c, x.isDigit) :
    other ∉ a ++ sep :: (b ++ sep :: c) := by
  simp only [List.mem_append, List.mem_cons, not_or]
  exact ⟨not_mem_of_digits hother ha, hne, not_mem_of_digits hother hb, hne,
    not_mem_of_digits hother hc⟩

/-- Digits and separators are kept by trimming. -/
theorem trim_parts (hsep : Text.isBlank sep = false) (ha : ∀ x ∈ a, x.isDigit)
    (hb : ∀ x ∈ b, x.isDigit) (hc : ∀ x ∈ c, x.isDigit) :
    Text.trim (a ++ sep :: (b ++ sep :: c)) = a ++ sep :: (b ++ sep :: c) := by
  refine Text.trim_eq_self fun x hx => ?_
  simp only [List.mem_append, List.mem_cons] at hx
  rcases hx with hx | rfl | hx | rfl | hx
  · exact Text.isBlank_of_isDigit (ha x hx)
  · exact hsep
  · exact Text.isBlank_of_isDigit (hb x hx)
  · exact hsep
  · exact Text.isBlank_of_isDigit (hc x hx)

/-- Three rows of digits with a separator between them are taken apart again. -/
theorem ofSpelling_parts (hsep : sep.isDigit = false) (ha : ∀ x ∈ a, x.isDigit)
    (hb : ∀ x ∈ b, x.isDigit) (hc : ∀ x ∈ c, x.isDigit)
    (assemble : List Char → List Char → List Char → Except DateError Date) :
    ofSpelling sep assemble (a ++ sep :: (b ++ sep :: c)) = assemble a b c := by
  have htrim : ∀ {part : List Char}, (∀ x ∈ part, x.isDigit) → Text.trim part = part :=
    fun hpart => Text.trim_eq_self fun x hx => Text.isBlank_of_isDigit (hpart x hx)
  have hfields : Text.fields sep (a ++ sep :: (b ++ sep :: c)) = [a, b, c] := by
    rw [Text.fields_append_cons _ (not_mem_of_digits hsep ha),
      Text.fields_append_cons _ (not_mem_of_digits hsep hb),
      Text.fields_eq_singleton (not_mem_of_digits hsep hc)]
  rw [ofSpelling, hfields, List.map_cons, List.map_cons, List.map_cons, htrim ha, htrim hb,
    htrim hc]
  rfl

/-- Hyphens tell that the year comes first. -/
theorem ofChars_yearFirst {y m d : List Char} (hy : ∀ x ∈ y, x.isDigit) (hm : ∀ x ∈ m, x.isDigit)
    (hd : ∀ x ∈ d, x.isDigit) : ofChars (y ++ '-' :: (m ++ '-' :: d)) = ofParts y m d := by
  have hslash : monthFirstSeparator ∉ y ++ '-' :: (m ++ '-' :: d) :=
    not_mem_parts (by decide) (by decide) hy hm hd
  have hhyphen : yearFirstSeparator ∈ y ++ '-' :: (m ++ '-' :: d) := by simp [yearFirstSeparator]
  unfold ofChars
  rw [trim_parts (by decide) hy hm hd, if_neg (by simp), if_pos hhyphen, if_neg hslash]
  exact ofSpelling_parts (by decide) hy hm hd ofParts

/-- Slashes tell that the year comes last. -/
theorem ofChars_monthFirst {y m d : List Char} (hy : ∀ x ∈ y, x.isDigit)
    (hm : ∀ x ∈ m, x.isDigit) (hd : ∀ x ∈ d, x.isDigit) :
    ofChars (m ++ '/' :: (d ++ '/' :: y)) = ofParts y m d := by
  have hhyphen : yearFirstSeparator ∉ m ++ '/' :: (d ++ '/' :: y) :=
    not_mem_parts (by decide) (by decide) hm hd hy
  have hslash : monthFirstSeparator ∈ m ++ '/' :: (d ++ '/' :: y) := by simp [monthFirstSeparator]
  unfold ofChars
  rw [trim_parts (by decide) hm hd hy, if_neg (by simp), if_neg hhyphen, if_pos hslash]
  exact ofSpelling_parts (by decide) hm hd hy fun month day year => ofParts year month day

/-! ## Written dates -/

/-- The numerals of a date make it up again. -/
theorem ofParts_padded (wy wm wd : Nat) (d : Date) :
    ofParts (Numeral.padded wy d.year.number) (Numeral.padded wm d.month.number)
      (Numeral.padded wd d.day.number) = .ok d := by
  have hyear : d.year.number ≤ yearBound := Nat.le_trans d.year.number_le (by decide)
  have hmonth : d.month.number ≤ partBound := Nat.le_trans d.month.number_le (by decide)
  have hday : d.day.number ≤ partBound := Nat.le_trans d.day.number_le (by decide)
  unfold ofParts readPart
  rw [Numeral.read?_padded hyear, Numeral.read?_padded hmonth, Numeral.read?_padded hday]
  exact d.ofNumbers_numbers

/-- A written date is three numerals with hyphens between them. -/
theorem chars_eq (d : Date) :
    d.chars = d.year.chars ++ '-' :: (d.month.chars ++ '-' :: d.day.chars) := by
  rw [chars, List.append_assoc, List.cons_append]
  rfl

/-- A written date is read again. -/
theorem ofChars_chars (d : Date) : ofChars d.chars = .ok d := by
  rw [chars_eq, ofChars_yearFirst]
  · exact d.ofParts_padded 4 2 2
  all_goals exact fun c => Numeral.isDigit_of_mem_padded

/-- **A written date is read again.** -/
theorem parse_text (d : Date) : parse d.text = .ok d := by
  rw [parse, text, String.toList_ofList, ofChars_chars]

/-- The date month first, its month and its day without zeros in front. The year fills `width`
places. -/
def monthFirstText (width : Nat) (d : Date) : String :=
  String.ofList (Numeral.plain d.month.number ++ '/' ::
    (Numeral.plain d.day.number ++ '/' :: Numeral.padded width d.year.number))

/-- **A date is read from its spelling month first.** -/
theorem parse_monthFirstText (width : Nat) (d : Date) : parse (d.monthFirstText width) = .ok d := by
  rw [parse, monthFirstText, String.toList_ofList, ofChars_monthFirst]
  · rw [← Numeral.padded_zero, ← Numeral.padded_zero]
    exact d.ofParts_padded width 0 0
  · exact fun c => Numeral.isDigit_of_mem_padded
  · exact fun c => Numeral.isDigit_of_mem_plain
  · exact fun c => Numeral.isDigit_of_mem_plain

end Date

end DatePartition
