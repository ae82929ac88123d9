import DatePartition.Json.Basic
import DatePartition.Json.Token
import DatePartition.Text.Fields

/-!
# Written tokens are read again

Each kind of token is read as what was written, and reading stops right behind it, whatever stands
there.

- `Blanks`, `Token.next_blanks`: blanks before a token are passed over.
- `Token.next_openList` and its siblings: brackets, separators and keywords.
- `EndsNumber`, `Token.next_plain`: **a numeral is read as its number**, unless the text goes on
  with something that belongs to a number.
- `IsEscaped`, `AreEscaped`: the ways to write a character and a text between quotes.
- `Token.next_text`: **quoted text is read as the text**, with every character in it, in whichever
  way it is written.
-/

namespace DatePartition

variable {blanks cs rest : List Char} {c : Char} {n : Nat}

namespace Json

/-! ## Blanks, marks and keywords -/

/-- A text of blanks. -/
def Blanks (cs : List Char) : Prop := ∀ c ∈ cs, Token.isBlank c = true

theorem Blanks.nil : Blanks [] := fun _ hc => nomatch hc

namespace Token

theorem isBlank_iff : isBlank c = true ↔ c = ' ' ∨ c = '\n' ∨ c = '\t' ∨ c = '\r' := by
  simp only [isBlank, Bool.or_eq_true, decide_eq_true_eq, or_assoc]

/-- Blanks before a token are passed over. -/
theorem next_blanks (h : Blanks blanks) : next (blanks ++ cs) = next cs := by
  rw [next, next, List.dropWhile_append_of_pos h]

/-- A token begins where no blank stands. -/
theorem next_cons (h : isBlank c = false) : next (c :: cs) = first (c :: cs) := by
  rw [next, List.dropWhile_cons_of_neg (by rw [h]; exact Bool.false_ne_true)]

@[simp] theorem next_openList : next ('[' :: cs) = (openList, cs) := next_cons rfl

@[simp] theorem next_closeList : next (']' :: cs) = (closeList, cs) := next_cons rfl

@[simp] theorem next_openObject : next ('\x7b' :: cs) = (openObject, cs) := next_cons rfl

@[simp] theorem next_closeObject : next ('\x7d' :: cs) = (closeObject, cs) := next_cons rfl

@[simp] theorem next_comma : next (',' :: cs) = (comma, cs) := next_cons rfl

@[simp] theorem next_colon : next (':' :: cs) = (colon, cs) := next_cons rfl

@[simp] theorem next_null : next ("null".toList ++ cs) = (null, cs) := next_cons rfl

@[simp] theorem next_true : next ("true".toList ++ cs) = (bool true, cs) := next_cons rfl

@[simp] theorem next_false : next ("false".toList ++ cs) = (bool false, cs) := next_cons rfl

end Token

/-! ## Numbers -/

/-- The text does not go on with a part of a number: a digit, a point or an exponent. -/
def EndsNumber (cs : List Char) : Prop :=
  ∀ c, cs.head? = some c → c.isDigit = false ∧ c ≠ '.' ∧ c ≠ 'e' ∧ c ≠ 'E'

theorem EndsNumber.nil : EndsNumber [] := by
  intro c hc
  cases hc

theorem EndsNumber.cons (h : c.isDigit = false ∧ c ≠ '.' ∧ c ≠ 'e' ∧ c ≠ 'E') :
    EndsNumber (c :: cs) := by
  intro d hd
  cases hd
  exact h

/-- Blanks end a number, and so does what a text may have after its blanks. -/
theorem EndsNumber.append (h : Blanks blanks) (hcs : EndsNumber cs) :
    EndsNumber (blanks ++ cs) := by
  cases blanks with
  | nil => exact hcs
  | cons c blanks =>
    have hblank : Token.isBlank c = true := h c (List.mem_cons_self ..)
    refine EndsNumber.cons ?_
    rcases Token.isBlank_iff.1 hblank with rfl | rfl | rfl | rfl <;> decide

end Json

namespace JsonNumber

open Json

theorem takeDigits_plain (h : EndsNumber rest) :
    takeDigits (Numeral.plain n ++ rest) = (Numeral.plain n, rest) := by
  have hdigits : ∀ c ∈ Numeral.plain n, c.isDigit = true := fun c => Numeral.isDigit_of_mem_plain
  have hrest : ∀ c, rest.head? = some c → c.isDigit = false := fun c hc => (h c hc).1
  rw [takeDigits, Text.takeWhile_run hdigits hrest, Text.dropWhile_run hdigits hrest]

/-- A numeral has the digits of a number before the point: there is one, and no zero in front. -/
theorem readWhole?_plain (h : EndsNumber rest) :
    readWhole? (Numeral.plain n ++ rest) = some (Numeral.plain n, rest) := by
  rw [readWhole?, takeDigits_plain h]
  split
  · next hnil => exact absurd (Prod.mk.inj hnil).1 (Numeral.plain_ne_nil n)
  · -- a zero in front would be the whole numeral, but another digit follows it
    next hzero =>
    have hds := Numeral.eq_nil_of_plain_eq_zero_cons (Prod.mk.inj hzero).1
    cases hds
  · next heq => rw [← heq]

theorem readFraction?_of_endsNumber (h : EndsNumber cs) : readFraction? cs = some (none, cs) := by
  unfold readFraction?
  split
  · exact absurd rfl (h _ rfl).2.1
  · rfl

theorem readExponent?_of_endsNumber (h : EndsNumber cs) : readExponent? cs = some (none, cs) := by
  unfold readExponent?
  split
  · obtain ⟨-, -, he, hE⟩ := h _ rfl
    rw [if_neg (not_or.2 ⟨he, hE⟩)]
  · rfl

/-- A numeral is read as its number, if the number fits. -/
theorem readUnsigned?_plain (hn : n ≤ Significand.greatest) (h : EndsNumber rest) :
    readUnsigned? false (Numeral.plain n ++ rest) = some (natural n, rest) := by
  have hinteger : ofInteger? false (Numeral.plain n) = some (natural n) := by
    simp [ofInteger?, hn]
  simp [readUnsigned?, readWhole?_plain h, readFraction?_of_endsNumber h,
    readExponent?_of_endsNumber h, ofParts?, hinteger]

end JsonNumber

namespace Json

namespace Token

/-- No mark, quote or keyword begins with a digit, so a number is read. -/
theorem first_of_isDigit {value : JsonNumber} (hdigit : c.isDigit = true)
    (hread : JsonNumber.readUnsigned? false (c :: cs) = some (value, rest)) :
    first (c :: cs) = (number value, rest) := by
  have hnot : ∀ d, d.isDigit = false → ∀ ds, c :: cs ≠ d :: ds := by
    intro d hd ds heq
    rw [(List.cons.inj heq).1, hd] at hdigit
    cases hdigit
  rw [first, JsonNumber.read?, hread]
  -- what is left to show is that none of the other beginnings is meant
  all_goals first | exact hnot _ rfl | exact List.cons_ne_nil c cs

/-- No digit is a blank. -/
theorem isBlank_of_isDigit (h : c.isDigit = true) : isBlank c = false := by
  rw [← Bool.not_eq_true, isBlank_iff]
  rintro (rfl | rfl | rfl | rfl) <;> cases h

/-- **A numeral is read as its number.** -/
theorem next_plain (hn : n ≤ Significand.greatest) (h : EndsNumber rest) :
    next (Numeral.plain n ++ rest) = (number (.natural n), rest) := by
  have hread := JsonNumber.readUnsigned?_plain hn h
  obtain ⟨c, ds, hcons⟩ := List.exists_cons_of_ne_nil (Numeral.plain_ne_nil n)
  have hdigit : c.isDigit = true :=
    Numeral.isDigit_of_mem_plain (hcons ▸ List.mem_cons_self .. : c ∈ Numeral.plain n)
  rw [hcons, List.cons_append] at hread ⊢
  rw [next_cons (isBlank_of_isDigit hdigit), first_of_isDigit hdigit hread]

end Token

/-! ## Quoted text -/

/-- The characters `cs` are a way to write `c` between quotes. -/
inductive IsEscaped (c : Char) : List Char → Prop where
  /-- As it is. -/
  | plain (hcontrol : 32 ≤ c.toNat) (hquote : c ≠ '"') (hbackslash : c ≠ '\\') : IsEscaped c [c]
  /-- By a letter that stands for it. -/
  | letter {e : Char} (h : Token.shortEscape? e = some c) : IsEscaped c ['\\', e]
  /-- By its number. -/
  | number {d₁ d₂ d₃ d₄ : Char} (h : Numeral.hexValue? [d₁, d₂, d₃, d₄] = some c.toNat) :
    IsEscaped c ['\\', 'u', d₁, d₂, d₃, d₄]
  /-- By the numbers of its halves. -/
  | halves {d₁ d₂ d₃ d₄ e₁ e₂ e₃ e₄ : Char} {high low : Nat}
    (hhigh : Numeral.hexValue? [d₁, d₂, d₃, d₄] = some (0xD800 + high))
    (hlow : Numeral.hexValue? [e₁, e₂, e₃, e₄] = some (0xDC00 + low))
    (hhighLt : high < 0x400) (hlowLt : low < 0x400)
    (hvalue : c.toNat = 0x10000 + high * 0x400 + low) :
    IsEscaped c ['\\', 'u', d₁, d₂, d₃, d₄, '\\', 'u', e₁, e₂, e₃, e₄]

/-- The characters `cs` are a way to write a text between quotes. -/
inductive AreEscaped : List Char → List Char → Prop where
  | nil : AreEscaped [] []
  | cons {c : Char} {text cs rest : List Char} (h : IsEscaped c cs) (hrest : AreEscaped text rest) :
    AreEscaped (c :: text) (cs ++ rest)

theorem hexDigit?_hexDigit : ∀ d < 16, Numeral.hexDigit? (hexDigit d) = some d := by
  decide

/-- A number below 256 needs two of the four digits of an escape. -/
theorem hexValue?_hexDigits (h : n < 256) :
    Numeral.hexValue? ['0', '0', hexDigit (n / 16), hexDigit (n % 16)] = some n := by
  have hzero : Numeral.hexDigit? '0' = some 0 := rfl
  have hhigh := hexDigit?_hexDigit (n / 16) (by omega)
  have hlow := hexDigit?_hexDigit (n % 16) (by omega)
  simp only [Numeral.hexValue?, List.foldlM_cons, List.foldlM_nil, hzero, hhigh, hlow,
    Option.map_some, Option.bind_eq_bind, Option.bind_some, Option.pure_def, Option.some.injEq]
  omega

/-- What the writer makes of a character is a way to write it. -/
theorem isEscaped_escape (c : Char) : IsEscaped c (escape c) := by
  have hofNat : ∀ k, c.toNat = k → some (Char.ofNat k) = some c := by
    rintro k rfl
    rw [Char.ofNat_toNat]
  unfold escape
  split
  · next h => exact .letter (by rw [h]; rfl)
  split
  · next h => exact .letter (by rw [h]; rfl)
  split
  · next h => exact .letter (by rw [h]; rfl)
  split
  · next h => exact .letter (by rw [h]; rfl)
  split
  · next h => exact .letter (by rw [h]; rfl)
  split
  · next h => exact .letter (hofNat 8 h)
  split
  · next h => exact .letter (hofNat 12 h)
  split
  · next h => exact .number (hexValue?_hexDigits (by omega))
  · next hquote hbackslash _ _ _ _ _ hcontrol =>
    exact .plain (Nat.le_of_not_lt hcontrol) hquote hbackslash

theorem areEscaped_flatMap_escape (text : List Char) : AreEscaped text (text.flatMap escape) := by
  induction text with
  | nil => exact .nil
  | cons c text ih =>
    rw [List.flatMap_cons]
    exact .cons (isEscaped_escape c) ih

namespace Token

/-- A number that is no half is the number of a character. -/
theorem joinUnits?_escaped (hhigh : isHighHalf n = false) (hlow : isLowHalf n = false)
    (us : List TextUnit) :
    joinUnits? (.escaped n :: us) = (joinUnits? us).map (Char.ofNat n :: ·) := by
  match us with
  | [] => simp [joinUnits?, hhigh, hlow]
  | .char d :: us => simp [joinUnits?, hhigh, hlow]
  | .escaped k :: us => simp [joinUnits?, hhigh, hlow]

/-- No half is the number of a character. -/
theorem isHalf_toNat (c : Char) : isHighHalf c.toNat = false ∧ isLowHalf c.toNat = false := by
  have hvalid : c.toNat.isValidChar := c.valid
  simp only [Nat.isValidChar, isHighHalf, isLowHalf, Bool.and_eq_false_iff,
    decide_eq_false_iff_not] at hvalid ⊢
  omega

/-- A character is read as one unit or as two, which are joined to it again. -/
theorem exists_units_of_isEscaped (h : IsEscaped c cs) : ∃ units : List TextUnit,
    (∀ rest, readUnits? (cs ++ rest) = (readUnits? rest).map fun r => (units ++ r.1, r.2)) ∧
    ∀ us, joinUnits? (units ++ us) = (joinUnits? us).map (c :: ·) := by
  cases h with
  | plain hcontrol hquote hbackslash =>
    refine ⟨[.char c], fun rest => ?_, fun us => rfl⟩
    rw [List.cons_append, List.nil_append, readUnits?, if_neg]
    · rfl
    · simp [hbackslash, Nat.not_lt.2 hcontrol]
    -- neither the end nor an escape begins here
    all_goals grind
  | @letter e h =>
    refine ⟨[.char c], fun rest => ?_, fun us => rfl⟩
    -- no character has the letter that numbers begin with
    have hu : e ≠ 'u' := by
      rintro rfl
      cases h
    rw [List.cons_append, List.cons_append, List.nil_append, readUnits?, h]
    · rfl
    · intro a b c d ds heq
      exact absurd heq hu
  | number h =>
    refine ⟨[.escaped c.toNat], fun rest => ?_, fun us => ?_⟩
    · simp only [List.cons_append, List.nil_append]
      rw [readUnits?, h]
      rfl
    · obtain ⟨hhigh, hlow⟩ := isHalf_toNat c
      rw [List.singleton_append, joinUnits?_escaped hhigh hlow, Char.ofNat_toNat]
  | @halves _ _ _ _ _ _ _ _ high low hhigh hlow hhighLt hlowLt hvalue =>
    refine ⟨[.escaped (0xD800 + high), .escaped (0xDC00 + low)], fun rest => ?_, fun us => ?_⟩
    · simp only [List.cons_append, List.nil_append]
      rw [readUnits?, hhigh]
      dsimp only
      rw [readUnits?, hlow]
      simp [Function.comp_def, consUnit]
    · have hisHigh : isHighHalf (0xD800 + high) = true := by
        simp only [isHighHalf, Bool.and_eq_true, decide_eq_true_eq]
        omega
      have hisLow : isLowHalf (0xDC00 + low) = true := by
        simp only [isLowHalf, Bool.and_eq_true, decide_eq_true_eq]
        omega
      simp only [List.cons_append, List.nil_append, joinUnits?, hisHigh, hisLow, if_true,
        Nat.add_sub_cancel_left, ← hvalue, Char.ofNat_toNat]

/-- Reading ends at the quote behind the text. -/
theorem exists_units_of_areEscaped {text : List Char} (h : AreEscaped text cs) (rest : List Char) :
    ∃ units, readUnits? (cs ++ '"' :: rest) = some (units, rest) ∧
      joinUnits? units = some text := by
  induction h with
  | nil => exact ⟨[], rfl, rfl⟩
  | cons hc _ ih =>
    obtain ⟨us, hread, hjoin⟩ := ih
    obtain ⟨units, hreadUnits, hjoinUnits⟩ := exists_units_of_isEscaped hc
    refine ⟨units ++ us, ?_, ?_⟩
    · rw [List.append_assoc, hreadUnits, hread]
      rfl
    · rw [hjoinUnits, hjoin]
      rfl

/-- **Quoted text is read as the text**, in whichever way its characters are written. -/
theorem next_text {s : String} (h : AreEscaped s.toList cs) :
    next ('"' :: (cs ++ '"' :: rest)) = (text s, rest) := by
  obtain ⟨units, hread, hjoin⟩ := exists_units_of_areEscaped h rest
  have htext : readText? (cs ++ '"' :: rest) = some (s, rest) := by
    simp [readText?, hread, hjoin]
  rw [next_cons rfl, first, htext]

end Token

end Json

end DatePartition
