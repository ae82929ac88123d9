import DatePartition.Proofs.Calendar.DateText
import DatePartition.Proofs.Json.Written
import DatePartition.Json.Codec

/-!
# Written ranges are read again

The slash is the separator of a range and of the dates that put the month first. A written range has
one slash only, since its dates are written with hyphens, and no dots.

- `DateRange.boundTexts_slash`, `DateRange.boundTexts_dots`: the two texts of the bounds are found
  again.
- `DateRange.parse_text`, `DateRange.parse_dottedText`: **a range is read from either of its
  forms**.
- `DateRange.written_and_read`: **nothing is lost in text**: dates and ranges come back from each of
  their spellings and from JSON.
-/

namespace DatePartition

/-! ## Written dates -/

namespace Date

/-- A written date consists of digits and hyphens. -/
theorem isDigit_or_hyphen_of_mem_chars {d : Date} {c : Char} (h : c ∈ d.chars) :
    c.isDigit ∨ c = '-' := by
  rw [chars_eq] at h
  simp only [List.mem_append, List.mem_cons] at h
  rcases h with h | rfl | h | rfl | h
  · exact .inl (Numeral.isDigit_of_mem_padded h)
  · exact .inr rfl
  · exact .inl (Numeral.isDigit_of_mem_padded h)
  · exact .inr rfl
  · exact .inl (Numeral.isDigit_of_mem_padded h)

/-- Any other character is not in a written date. -/
theorem not_mem_chars {c : Char} (hdigit : c.isDigit = false) (hhyphen : c ≠ '-') (d : Date) :
    c ∉ d.chars := by
  intro h
  rcases isDigit_or_hyphen_of_mem_chars h with hd | hh
  · rw [hdigit] at hd
    cases hd
  · exact hhyphen hh

/-- A written date has no blanks. -/
theorem isBlank_of_mem_chars {d : Date} {c : Char} (h : c ∈ d.chars) : Text.isBlank c = false := by
  rcases isDigit_or_hyphen_of_mem_chars h with hd | rfl
  · exact Text.isBlank_of_isDigit hd
  · rfl

end Date

namespace DateRange

/-! ## The bounds -/

/-- Nothing is trimmed from two written dates with a text between them that has no blanks. -/
theorem trim_bounds (between : List Char) (h : ∀ c ∈ between, Text.isBlank c = false)
    (a b : Date) :
    Text.trim (a.chars ++ (between ++ b.chars)) = a.chars ++ (between ++ b.chars) := by
  refine Text.trim_eq_self fun c hc => ?_
  simp only [List.mem_append] at hc
  rcases hc with hc | hc | hc
  · exact Date.isBlank_of_mem_chars hc
  · exact h c hc
  · exact Date.isBlank_of_mem_chars hc

/-- With one slash and no dots, the bounds stand at the two sides of the slash. -/
theorem boundTexts_slash (a b : Date) :
    boundTexts (a.chars ++ '/' :: b.chars) = .ok (a.chars, b.chars) := by
  have hdots : '.' ∉ a.chars ++ '/' :: b.chars := by
    simp [Date.not_mem_chars (show '.'.isDigit = false from rfl) (by decide)]
  have hslash : ∀ d : Date, separator ∉ d.chars := Date.not_mem_chars (by decide) (by decide)
  have hfields : Text.fields separator (a.chars ++ '/' :: b.chars) = [a.chars, b.chars] := by
    rw [show '/' = separator from rfl, Text.fields_append_cons _ (hslash a),
      Text.fields_eq_singleton (hslash b)]
  have htrim : Text.trim (a.chars ++ '/' :: b.chars) = a.chars ++ '/' :: b.chars :=
    trim_bounds ['/'] (List.forall_mem_singleton.2 rfl) a b
  unfold boundTexts
  rw [htrim]
  dsimp only
  rw [Text.breakAtDots?_eq_none hdots, hfields]

/-- The bounds stand at the two sides of the dots. -/
theorem boundTexts_dots (a b : Date) :
    boundTexts (a.chars ++ '.' :: '.' :: b.chars) = .ok (a.chars, b.chars) := by
  have hdots : '.' ∉ a.chars := Date.not_mem_chars (by decide) (by decide) a
  have htrim : Text.trim (a.chars ++ '.' :: '.' :: b.chars) = a.chars ++ '.' :: '.' :: b.chars :=
    trim_bounds ['.', '.'] (List.forall_mem_cons.2 ⟨rfl, List.forall_mem_singleton.2 rfl⟩) a b
  unfold boundTexts
  rw [htrim]
  dsimp only
  rw [Text.breakAtDots?_append b.chars hdots]

/-! ## Reading -/

/-- The bounds of a range make it up again. -/
theorem ofBounds_bounds (r : DateRange) : ofBounds r.first r.last = .ok r :=
  dif_pos r.first_le_last

/-- A text in which the bounds of a range are found is read as the range. -/
theorem ofChars_of_boundTexts {r : DateRange} {cs : List Char}
    (h : boundTexts cs = .ok (r.first.chars, r.last.chars)) : ofChars cs = .ok r := by
  have hfirst : (Date.ofChars r.first.chars).mapError RangeError.date = .ok r.first := by
    rw [Date.ofChars_chars]
    rfl
  have hlast : (Date.ofChars r.last.chars).mapError RangeError.date = .ok r.last := by
    rw [Date.ofChars_chars]
    rfl
  have hrange : (ofBounds r.first r.last).mapError RangeError.reversed = .ok r := by
    rw [ofBounds_bounds]
    rfl
  unfold ofChars
  rw [h]
  simp only [bind, Except.bind, hfirst, hlast, hrange]

/-- **A written range is read again.** -/
theorem parse_text (r : DateRange) : parse r.text = .ok r := by
  rw [parse, text, String.toList_ofList]
  exact ofChars_of_boundTexts (boundTexts_slash r.first r.last)

/-- The bounds as they are written, with dots between them. -/
def dottedText (r : DateRange) : String := r.first.text ++ dots ++ r.last.text

/-- **A range is read from its bounds with dots between them.** -/
theorem parse_dottedText (r : DateRange) : parse r.dottedText = .ok r := by
  have hchars : r.dottedText.toList = r.first.chars ++ '.' :: '.' :: r.last.chars := by
    simp [dottedText, dots, Date.text]
  rw [parse, hchars]
  exact ofChars_of_boundTexts (boundTexts_dots r.first r.last)

end DateRange

/-! ## JSON -/

/-- A date is decoded from the text that it is as JSON. -/
theorem Date.ofReading_toJson (d : Date) : ofReading d.toJson.reading = .ok d := by
  have hstring : d.toJson.reading.string "a string" = .ok d.text := rfl
  rw [ofReading, hstring]
  simp only [bind, Except.bind, parse_text]
  rfl

/-- A range is decoded from the text that it is as JSON. -/
theorem DateRange.ofReading_toJson (r : DateRange) : ofReading r.toJson.reading = .ok r := by
  have hstring : r.toJson.reading.string "a string" = .ok r.text := rfl
  rw [ofReading, hstring]
  simp only [bind, Except.bind, parse_text]
  rfl

/-- **Nothing is lost in text.** A date is read from the form in which it is written and from its
spelling month first, with or without zeros in front of the year. A range is read from the form in
which it is written and from its bounds with dots between them. Both are decoded from the JSON text
that they are written as. -/
theorem DateRange.written_and_read :
    (∀ d : Date, Date.parse d.text = .ok d ∧
      (∀ width, Date.parse (d.monthFirstText width) = .ok d) ∧
      Json.decode Date.ofReading d.toJson.compact = .ok d ∧
      Json.decode Date.ofReading d.toJson.pretty = .ok d) ∧
    (∀ r : DateRange, parse r.text = .ok r ∧ parse r.dottedText = .ok r ∧
      Json.decode DateRange.ofReading r.toJson.compact = .ok r ∧
      Json.decode DateRange.ofReading r.toJson.pretty = .ok r) := by
  constructor
  · intro d
    have hfit : d.toJson.NumbersFit := trivial
    rw [Json.decode_compact hfit, Json.decode_pretty hfit]
    exact ⟨d.parse_text, fun width => d.parse_monthFirstText width, d.ofReading_toJson,
      d.ofReading_toJson⟩
  · intro r
    have hfit : r.toJson.NumbersFit := trivial
    rw [Json.decode_compact hfit, Json.decode_pretty hfit]
    exact ⟨r.parse_text, r.parse_dottedText, r.ofReading_toJson, r.ofReading_toJson⟩

end DatePartition
