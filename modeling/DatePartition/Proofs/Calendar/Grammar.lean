import DatePartition.Calendar.DateText
import DatePartition.Proofs.Text.Parts

/-!
# The grammar of dates

What a text means as a date, laid down by rules: which texts are dates, and for which cause each of
the others is refused. The rules speak of how a text is put together and not of how it is read.

- `Date.NumbersMean`: what three numbers come to. The year is looked at first, the day last.
- `Date.PartsMean`: what three parts come to. They are all read as numerals before any of the
  numbers is looked at.
- `Date.SplitsInto`: a text consists of three parts with a separator between them.
- `Date.TextMeans`: what a text comes to, in either spelling.
- `Date.parse_eq_iff_means`: **the reader keeps to the rules, and the rules cover every text.**
-/

namespace DatePartition

namespace Date

/-! ## Numbers -/

/-- What three numbers come to. -/
inductive NumbersMean (y m d : Nat) : Except DateError Date → Prop where
  | date (a : Date) (hy : a.year.number = y) (hm : a.month.number = m) (hd : a.day.number = d) :
      NumbersMean y m d (.ok a)
  | noYear (hy : ¬ (1 ≤ y ∧ y ≤ 9999)) : NumbersMean y m d (.error (.invalidYear y))
  | noMonth (hy : 1 ≤ y ∧ y ≤ 9999) (hm : ¬ (1 ≤ m ∧ m ≤ 12)) :
      NumbersMean y m d (.error (.invalidMonth m))
  | noDay (hy : 1 ≤ y ∧ y ≤ 9999) (hm : 1 ≤ m ∧ m ≤ 12) (hd : ¬ (1 ≤ d ∧ d ≤ monthLength y m)) :
      NumbersMean y m d (.error (.invalidDay y m d))

theorem numbersMean_ofNumbers (y m d : Nat) : NumbersMean y m d (ofNumbers y m d) := by
  unfold ofNumbers
  by_cases hy : 1 ≤ y ∧ y ≤ 9999
  · rw [Year.ofNumber_eq_ok hy]
    by_cases hm : 1 ≤ m ∧ m ≤ 12
    · rw [Month.ofNumber_eq_ok hm]
      show NumbersMean y m d (do let day ← Day.inMonth d ⟨y, _, _⟩ ⟨m, _, _⟩; _)
      by_cases hd : 1 ≤ d ∧ d ≤ monthLength y m
      · rw [Day.inMonth_eq_ok hd]
        exact .date _ rfl rfl rfl
      · rw [Day.inMonth_eq_error hd]
        exact .noDay hy hm hd
    · rw [Month.ofNumber_eq_error hm]
      exact .noMonth hy hm
  · rw [Year.ofNumber_eq_error hy]
    exact .noYear hy

theorem NumbersMean.ofNumbers_eq {y m d : Nat} {r : Except DateError Date}
    (h : NumbersMean y m d r) : ofNumbers y m d = r := by
  cases h with
  | date a hy hm hd =>
    rw [← hy, ← hm, ← hd]
    exact a.ofNumbers_numbers
  | noYear hy =>
    rw [ofNumbers, Year.ofNumber_eq_error hy]
    rfl
  | noMonth hy hm =>
    rw [ofNumbers, Year.ofNumber_eq_ok hy, Month.ofNumber_eq_error hm]
    rfl
  | noDay hy hm hd =>
    rw [ofNumbers, Year.ofNumber_eq_ok hy, Month.ofNumber_eq_ok hm]
    show (do let day ← Day.inMonth d ⟨y, _, _⟩ ⟨m, _, _⟩; _) = _
    rw [Day.inMonth_eq_error hd]
    rfl

/-! ## Parts -/

/-- What three parts come to. -/
inductive PartsMean (year month day : List Char) : Except DateError Date → Prop where
  | badYear (hy : ∀ n, ¬ Numeral.Denotes 65535 year n) :
      PartsMean year month day (.error (.notNumeric (String.ofList year)))
  | badMonth {y : Nat} (hy : Numeral.Denotes 65535 year y)
      (hm : ∀ n, ¬ Numeral.Denotes 255 month n) :
      PartsMean year month day (.error (.notNumeric (String.ofList month)))
  | badDay {y m : Nat} (hy : Numeral.Denotes 65535 year y) (hm : Numeral.Denotes 255 month m)
      (hd : ∀ n, ¬ Numeral.Denotes 255 day n) :
      PartsMean year month day (.error (.notNumeric (String.ofList day)))
  | numbers {y m d : Nat} {r : Except DateError Date} (hy : Numeral.Denotes 65535 year y)
      (hm : Numeral.Denotes 255 month m) (hd : Numeral.Denotes 255 day d)
      (h : NumbersMean y m d r) : PartsMean year month day r

theorem readPart_of_denotes {bound n : Nat} {part : List Char}
    (h : Numeral.Denotes bound part n) : readPart bound part = .ok n := by
  rw [readPart, Numeral.read?_eq_some_iff.2 h]

theorem readPart_of_not_denotes {bound : Nat} {part : List Char}
    (h : ∀ n, ¬ Numeral.Denotes bound part n) :
    readPart bound part = .error (.notNumeric (String.ofList part)) := by
  rw [readPart, Numeral.read?_eq_none_iff.2 h]

/-- A part is a numeral or is refused. -/
theorem denotes_or_not (bound : Nat) (part : List Char) :
    (∃ n, Numeral.Denotes bound part n) ∨ ∀ n, ¬ Numeral.Denotes bound part n := by
  rw [← not_exists]
  exact Classical.em _

theorem partsMean_ofParts (year month day : List Char) :
    PartsMean year month day (ofParts year month day) := by
  unfold ofParts yearBound partBound
  rcases denotes_or_not 65535 year with ⟨y, hy⟩ | hy
  · rw [readPart_of_denotes hy]
    rcases denotes_or_not 255 month with ⟨m, hm⟩ | hm
    · rw [readPart_of_denotes hm]
      rcases denotes_or_not 255 day with ⟨d, hd⟩ | hd
      · rw [readPart_of_denotes hd]
        exact .numbers hy hm hd (numbersMean_ofNumbers y m d)
      · rw [readPart_of_not_denotes hd]
        exact .badDay hy hm hd
    · rw [readPart_of_not_denotes hm]
      exact .badMonth hy hm
  · rw [readPart_of_not_denotes hy]
    exact .badYear hy

theorem PartsMean.ofParts_eq {year month day : List Char} {r : Except DateError Date}
    (h : PartsMean year month day r) : ofParts year month day = r := by
  unfold ofParts yearBound partBound
  cases h with
  | badYear hy =>
    rw [readPart_of_not_denotes hy]
    rfl
  | badMonth hy hm =>
    rw [readPart_of_denotes hy, readPart_of_not_denotes hm]
    rfl
  | badDay hy hm hd =>
    rw [readPart_of_denotes hy, readPart_of_denotes hm, readPart_of_not_denotes hd]
    rfl
  | numbers hy hm hd h =>
    rw [readPart_of_denotes hy, readPart_of_denotes hm, readPart_of_denotes hd]
    exact h.ofNumbers_eq

/-! ## Texts -/

/-- The text is three parts with `sep` between them and nowhere else. The parts are given without
the blanks around them. -/
def SplitsInto (sep : Char) (t a b c : List Char) : Prop :=
  ∃ a' b' c', t = a' ++ sep :: (b' ++ sep :: c') ∧ sep ∉ a' ∧ sep ∉ b' ∧ sep ∉ c' ∧
    Text.TrimsTo a' a ∧ Text.TrimsTo b' b ∧ Text.TrimsTo c' c

/-- What a text comes to. Blanks around it do not count. -/
inductive TextMeans (cs : List Char) : Except DateError Date → Prop where
  | blank (ht : Text.TrimsTo cs []) : TextMeans cs (.error .empty)
  | mixed {t : List Char} (ht : Text.TrimsTo cs t) (hhyphen : '-' ∈ t) (hslash : '/' ∈ t) :
      TextMeans cs (.error .mixedSeparators)
  | unseparated {t : List Char} (ht : Text.TrimsTo cs t) (hne : t ≠ []) (hhyphen : '-' ∉ t)
      (hslash : '/' ∉ t) : TextMeans cs (.error (.noSeparator (String.ofList t)))
  | hyphenCount {t : List Char} (ht : Text.TrimsTo cs t) (hhyphen : '-' ∈ t) (hslash : '/' ∉ t)
      (hcount : t.count '-' ≠ 2) : TextMeans cs (.error (.separatorCount '-' (t.count '-')))
  | slashCount {t : List Char} (ht : Text.TrimsTo cs t) (hhyphen : '-' ∉ t) (hslash : '/' ∈ t)
      (hcount : t.count '/' ≠ 2) : TextMeans cs (.error (.separatorCount '/' (t.count '/')))
  | yearFirst {t year month day : List Char} {r : Except DateError Date}
      (ht : Text.TrimsTo cs t) (hslash : '/' ∉ t) (hsplit : SplitsInto '-' t year month day)
      (h : PartsMean year month day r) : TextMeans cs r
  | monthFirst {t year month day : List Char} {r : Except DateError Date}
      (ht : Text.TrimsTo cs t) (hhyphen : '-' ∉ t) (hsplit : SplitsInto '/' t month day year)
      (h : PartsMean year month day r) : TextMeans cs r

section

variable {sep : Char} {t a b c : List Char}
  {assemble : List Char → List Char → List Char → Except DateError Date}

theorem SplitsInto.fields_map_trim (h : SplitsInto sep t a b c) :
    (Text.fields sep t).map Text.trim = [a, b, c] := by
  obtain ⟨a', b', c', rfl, ha', hb', hc', ha, hb, hc⟩ := h
  rw [Text.fields_append_cons _ ha', Text.fields_append_cons _ hb', Text.fields_eq_singleton hc',
    List.map_cons, List.map_cons, List.map_singleton, ha.trim_eq, hb.trim_eq, hc.trim_eq]

/-- A text that is split by a separator holds it. -/
theorem SplitsInto.mem (h : SplitsInto sep t a b c) : sep ∈ t := by
  obtain ⟨a', b', c', rfl, -⟩ := h
  exact List.mem_append_right a' (List.mem_cons_self ..)

/-- A text with two separators consists of three parts. -/
theorem exists_splitsInto (h : t.count sep = 2) : ∃ a b c, SplitsInto sep t a b c := by
  have hlength : (Text.fields sep t).length = 3 := by rw [Text.length_fields, h]
  match hfields : Text.fields sep t, hlength with
  | [a', b', c'], _ =>
    obtain ⟨-, hparts, ht⟩ := Text.fields_eq_iff.1 hfields
    simp only [List.mem_cons, List.not_mem_nil, or_false, forall_eq_or_imp, forall_eq] at hparts
    obtain ⟨ha, hb, hc⟩ := hparts
    refine ⟨_, _, _, a', b', c', ?_, ha, hb, hc, Text.trimsTo_trim a', Text.trimsTo_trim b',
      Text.trimsTo_trim c'⟩
    rw [← ht, List.intercalate_cons_cons, List.intercalate_cons_cons, List.intercalate_singleton,
      List.append_assoc, List.append_assoc]
    rfl

theorem SplitsInto.ofSpelling_eq (h : SplitsInto sep t a b c) :
    ofSpelling sep assemble t = assemble a b c := by
  rw [ofSpelling, h.fields_map_trim]

/-- Any other number of separators is refused. -/
theorem ofSpelling_of_count_ne (h : t.count sep ≠ 2) :
    ofSpelling sep assemble t = .error (.separatorCount sep (t.count sep)) := by
  have hlength : ((Text.fields sep t).map Text.trim).length = t.count sep + 1 := by
    rw [List.length_map, Text.length_fields]
  unfold ofSpelling
  split
  · next a b c hparts =>
    rw [hparts] at hlength
    exact absurd (Nat.succ.inj hlength).symm h
  · rw [hlength, Nat.add_sub_cancel]

end

/-- The separators that the text holds decide how it is read. -/
theorem ofChars_of_trimsTo {cs t : List Char} (ht : Text.TrimsTo cs t) :
    ofChars cs =
      if t = [] then .error .empty
      else if '-' ∈ t then if '/' ∈ t then .error .mixedSeparators else ofSpelling '-' ofParts t
      else if '/' ∈ t then ofSpelling '/' (fun month day year => ofParts year month day) t
      else .error (.noSeparator (String.ofList t)) := by
  unfold ofChars
  rw [ht.trim_eq]
  rfl

theorem textMeans_ofChars (cs : List Char) : TextMeans cs (ofChars cs) := by
  have ht := Text.trimsTo_trim cs
  rw [ofChars_of_trimsTo ht]
  generalize Text.trim cs = t at ht ⊢
  by_cases hnil : t = []
  · rw [if_pos hnil]
    exact .blank (hnil ▸ ht)
  rw [if_neg hnil]
  by_cases hhyphen : '-' ∈ t
  · rw [if_pos hhyphen]
    by_cases hslash : '/' ∈ t
    · rw [if_pos hslash]
      exact .mixed ht hhyphen hslash
    rw [if_neg hslash]
    by_cases hcount : t.count '-' = 2
    · obtain ⟨a, b, c, hsplit⟩ := exists_splitsInto hcount
      rw [hsplit.ofSpelling_eq]
      exact .yearFirst ht hslash hsplit (partsMean_ofParts a b c)
    · rw [ofSpelling_of_count_ne hcount]
      exact .hyphenCount ht hhyphen hslash hcount
  rw [if_neg hhyphen]
  by_cases hslash : '/' ∈ t
  · rw [if_pos hslash]
    by_cases hcount : t.count '/' = 2
    · obtain ⟨a, b, c, hsplit⟩ := exists_splitsInto hcount
      rw [hsplit.ofSpelling_eq]
      exact .monthFirst ht hhyphen hsplit (partsMean_ofParts c a b)
    · rw [ofSpelling_of_count_ne hcount]
      exact .slashCount ht hhyphen hslash hcount
  · rw [if_neg hslash]
    exact .unseparated ht hnil hhyphen hslash

theorem TextMeans.ofChars_eq {cs : List Char} {r : Except DateError Date} (h : TextMeans cs r) :
    ofChars cs = r := by
  cases h with
  | blank ht => rw [ofChars_of_trimsTo ht, if_pos rfl]
  | mixed ht hhyphen hslash =>
    rw [ofChars_of_trimsTo ht, if_neg (List.ne_nil_of_mem hhyphen), if_pos hhyphen, if_pos hslash]
  | unseparated ht hne hhyphen hslash =>
    rw [ofChars_of_trimsTo ht, if_neg hne, if_neg hhyphen, if_neg hslash]
  | hyphenCount ht hhyphen hslash hcount =>
    rw [ofChars_of_trimsTo ht, if_neg (List.ne_nil_of_mem hhyphen), if_pos hhyphen, if_neg hslash,
      ofSpelling_of_count_ne hcount]
  | slashCount ht hhyphen hslash hcount =>
    rw [ofChars_of_trimsTo ht, if_neg (List.ne_nil_of_mem hslash), if_neg hhyphen, if_pos hslash,
      ofSpelling_of_count_ne hcount]
  | yearFirst ht hslash hsplit h =>
    rw [ofChars_of_trimsTo ht, if_neg (List.ne_nil_of_mem hsplit.mem), if_pos hsplit.mem,
      if_neg hslash, hsplit.ofSpelling_eq, h.ofParts_eq]
  | monthFirst ht hhyphen hsplit h =>
    rw [ofChars_of_trimsTo ht, if_neg (List.ne_nil_of_mem hsplit.mem), if_neg hhyphen,
      if_pos hsplit.mem, hsplit.ofSpelling_eq, h.ofParts_eq]

/-- **The reader keeps to the rules, and the rules cover every text.** A text is read as a date, or
refused for a cause, exactly if the rules say so. -/
theorem parse_eq_iff_means (s : String) (r : Except DateError Date) :
    parse s = r ↔ TextMeans s.toList r := by
  constructor
  · rintro rfl
    exact textMeans_ofChars s.toList
  · intro h
    exact h.ofChars_eq

/-- All parts are read before any number is looked at, the month before the day. -/
example : parse "13/XX/0" = .error (.notNumeric "XX") := rfl

end Date

end DatePartition
