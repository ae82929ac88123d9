import DatePartition.Proofs.Calendar.DateText
import DatePartition.Proofs.Calendar.Grammar
import DatePartition.Proofs.Predicate.Refusal

/-!
# The grammar of ranges

A text is a range if it has two sides that are dates. Where it has sides is laid down here, and what
it comes to is told by the texts of the sides alone: as a range, and as the predicate that the two
texts compile to.

- `DateRange.Sides`: the sides of a text, at its first two dots or else at its only slash.
- `DateRange.exists_boundTexts`, `DateRange.boundTexts_of_count_ne`: the reader finds the same
  sides, but for blanks around the text, and none where there are none.
- `DateRange.BoundsMean`: what two texts come to, as a range and as a predicate.
- `Date.IsYearFirst`: a text is spelled with the year first.
- `DateRange.parse_agrees`: **a text is read as a range exactly as its sides are compiled**, and a
  text without sides is refused for its form.
-/

namespace DatePartition

/-! ## Dates -/

namespace Date

/-- Blanks around a date do not count. -/
theorem ofChars_surround {before after : List Char} (cs : List Char)
    (hbefore : ∀ c ∈ before, Text.isBlank c = true) (hafter : ∀ c ∈ after, Text.isBlank c = true) :
    ofChars (before ++ (cs ++ after)) = ofChars cs := by
  have ht := Text.trimsTo_trim cs
  rw [ofChars_of_trimsTo (ht.surround hbefore hafter), ofChars_of_trimsTo ht]

/-- The text is spelled with the year first. -/
def IsYearFirst (cs : List Char) : Prop :=
  ∃ t year month day, Text.TrimsTo cs t ∧ '/' ∉ t ∧ SplitsInto '-' t year month day

/-- A date without slashes has its year first. -/
theorem isYearFirst_of_ofChars {cs : List Char} {d : Date} (h : ofChars cs = .ok d)
    (hslash : '/' ∉ cs) : IsYearFirst cs := by
  have hmeans := textMeans_ofChars cs
  rw [h] at hmeans
  cases hmeans with
  | yearFirst ht hnone hsplit _ => exact ⟨_, _, _, _, ht, hnone, hsplit⟩
  | monthFirst ht _ hsplit _ => exact absurd ((ht.mem_iff rfl).2 hsplit.mem) hslash

/-- The parts of a date are numerals. -/
theorem PartsMean.denotes {year month day : List Char} {d : Date}
    (h : PartsMean year month day (.ok d)) :
    (∃ y, Numeral.Denotes 65535 year y) ∧ (∃ m, Numeral.Denotes 255 month m) ∧
      ∃ n, Numeral.Denotes 255 day n := by
  cases h with
  | numbers hy hm hd _ => exact ⟨⟨_, hy⟩, ⟨_, hm⟩, ⟨_, hd⟩⟩

theorem dot_not_mem_of_denotes {bound n : Nat} {part : List Char}
    (h : Numeral.Denotes bound part n) : '.' ∉ part := by
  obtain ⟨digits, hpart, hdigits, -⟩ := h
  have hnot : '.' ∉ digits := not_mem_of_digits rfl hdigits.2
  rcases hpart with rfl | rfl
  · exact hnot
  · exact fun hmem => (List.mem_cons.1 hmem).elim (by decide) hnot

theorem SplitsInto.dot_not_mem {sep : Char} {t a b c : List Char} (h : SplitsInto sep t a b c)
    (hsep : sep ≠ '.') (ha : '.' ∉ a) (hb : '.' ∉ b) (hc : '.' ∉ c) : '.' ∉ t := by
  obtain ⟨a', b', c', rfl, -, -, -, hta, htb, htc⟩ := h
  simp only [List.mem_append, List.mem_cons, not_or]
  exact ⟨mt (hta.mem_iff rfl).1 ha, hsep.symm, mt (htb.mem_iff rfl).1 hb, hsep.symm,
    mt (htc.mem_iff rfl).1 hc⟩

/-- There is no dot in a date, in neither spelling. -/
theorem dot_not_mem_of_ofChars {cs : List Char} {d : Date} (h : ofChars cs = .ok d) :
    '.' ∉ cs := by
  have hmeans := textMeans_ofChars cs
  rw [h] at hmeans
  cases hmeans with
  | yearFirst ht _ hsplit hparts =>
    obtain ⟨⟨y, hy⟩, ⟨m, hm⟩, ⟨n, hn⟩⟩ := hparts.denotes
    exact mt (ht.mem_iff rfl).1 (hsplit.dot_not_mem (by decide) (dot_not_mem_of_denotes hy)
      (dot_not_mem_of_denotes hm) (dot_not_mem_of_denotes hn))
  | monthFirst ht _ hsplit hparts =>
    obtain ⟨⟨y, hy⟩, ⟨m, hm⟩, ⟨n, hn⟩⟩ := hparts.denotes
    exact mt (ht.mem_iff rfl).1 (hsplit.dot_not_mem (by decide) (dot_not_mem_of_denotes hm)
      (dot_not_mem_of_denotes hn) (dot_not_mem_of_denotes hy))

end Date

namespace DateRange

/-! ## Sides -/

/-- The sides of a text: what stands before and behind its first two dots, or its only slash if
there are no dots. -/
inductive Sides (cs a b : List Char) : Prop where
  | dots (h : Text.CutsAtDots cs a b) : Sides cs a b
  | slash (hdots : ¬ Text.HasDots cs) (hcs : cs = a ++ '/' :: b) (ha : '/' ∉ a) (hb : '/' ∉ b) :
      Sides cs a b

/-- A text has sides exactly if it has dots, or one slash. -/
theorem exists_sides_iff {cs : List Char} :
    (∃ a b, Sides cs a b) ↔ Text.HasDots cs ∨ cs.count '/' = 1 := by
  constructor
  · rintro ⟨a, b, h | ⟨hdots, rfl, ha, hb⟩⟩
    · exact .inl ⟨a, b, h.1⟩
    · right
      rw [List.count_append, List.count_cons_self, List.count_eq_zero_of_not_mem ha,
        List.count_eq_zero_of_not_mem hb]
  · intro h
    cases hbreak : Text.breakAtDots? cs with
    | some sides => exact ⟨_, _, .dots (Text.breakAtDots?_eq_some_iff.1 hbreak)⟩
    | none =>
      have hdots := Text.breakAtDots?_eq_none_iff.1 hbreak
      obtain ⟨a, b, hfields⟩ := Text.exists_fields_eq_pair (h.resolve_left hdots)
      obtain ⟨hcs, ha, hb⟩ := Text.fields_eq_pair_iff.1 hfields
      exact ⟨a, b, .slash hdots hcs ha hb⟩

section

variable {cs t a b : List Char}

/-- Dots come first. -/
theorem boundTexts_of_breakAtDots? (ht : Text.TrimsTo cs t)
    (h : Text.breakAtDots? t = some (a, b)) : boundTexts cs = .ok (a, b) := by
  unfold boundTexts
  rw [ht.trim_eq]
  dsimp only
  rw [h]

theorem boundTexts_of_fields (ht : Text.TrimsTo cs t) (hdots : Text.breakAtDots? t = none)
    (h : Text.fields '/' t = [a, b]) : boundTexts cs = .ok (a, b) := by
  unfold boundTexts
  rw [ht.trim_eq]
  dsimp only
  rw [hdots, show separator = '/' from rfl, h]

/-- Blanks before and behind a text only make its sides longer. -/
theorem breakAtDots?_surround {before after : List Char} (cs : List Char)
    (hbefore : ∀ c ∈ before, Text.isBlank c = true) (hafter : ∀ c ∈ after, Text.isBlank c = true) :
    Text.breakAtDots? (before ++ (cs ++ after)) =
      (Text.breakAtDots? cs).map fun sides => (before ++ sides.1, sides.2 ++ after) := by
  rw [Text.breakAtDots?_append_left _ (Text.not_mem_of_blanks rfl hbefore),
    Text.breakAtDots?_append_right _ (Text.not_mem_of_blanks rfl hafter), Option.map_map]
  rfl

/-- The only slash of a text is that of the trimmed text. -/
theorem exists_fields_of_surround {before after : List Char}
    (hbefore : ∀ c ∈ before, Text.isBlank c = true) (hafter : ∀ c ∈ after, Text.isBlank c = true)
    (h : Text.fields '/' (before ++ (t ++ after)) = [a, b]) :
    ∃ a' b', a = before ++ a' ∧ b = b' ++ after ∧ Text.fields '/' t = [a', b'] := by
  have hbefore' : '/' ∉ before := Text.not_mem_of_blanks rfl hbefore
  have hafter' : '/' ∉ after := Text.not_mem_of_blanks rfl hafter
  have hcount : t.count '/' = 1 := by
    have hlength := Text.length_fields '/' (before ++ (t ++ after))
    rw [h, List.count_append, List.count_append, List.count_eq_zero_of_not_mem hbefore',
      List.count_eq_zero_of_not_mem hafter', Nat.zero_add, Nat.add_zero] at hlength
    exact (Nat.succ.inj hlength).symm
  obtain ⟨a', b', hfields⟩ := Text.exists_fields_eq_pair hcount
  obtain ⟨rfl, ha', hb'⟩ := Text.fields_eq_pair_iff.1 hfields
  have hwhole : Text.fields '/' (before ++ (a' ++ '/' :: b' ++ after)) =
      [before ++ a', b' ++ after] := by
    refine Text.fields_eq_pair_iff.2 ⟨by simp, ?_, ?_⟩
    · exact List.not_mem_append hbefore' ha'
    · exact List.not_mem_append hb' hafter'
  rw [h] at hwhole
  cases hwhole
  exact ⟨a', b', rfl, rfl, hfields⟩

/-- The reader finds the sides of a text, without the blanks at its ends. -/
theorem exists_boundTexts (h : Sides cs a b) : ∃ before after a' b',
    (∀ c ∈ before, Text.isBlank c = true) ∧ (∀ c ∈ after, Text.isBlank c = true) ∧
      a = before ++ a' ∧ b = b' ++ after ∧ boundTexts cs = .ok (a', b') := by
  have ht := Text.trimsTo_trim cs
  obtain ⟨before, after, hcs, hbefore, hafter, -⟩ := id ht
  have hbreak := breakAtDots?_surround (Text.trim cs) hbefore hafter
  rw [← hcs] at hbreak
  refine ⟨before, after, ?_⟩
  cases h with
  | dots h =>
    rw [Text.breakAtDots?_eq_some_iff.2 h, eq_comm, Option.map_eq_some_iff] at hbreak
    obtain ⟨⟨a', b'⟩, hsides, heq⟩ := hbreak
    cases heq
    exact ⟨a', b', hbefore, hafter, rfl, rfl, boundTexts_of_breakAtDots? ht hsides⟩
  | slash hdots hab ha hb =>
    rw [Text.breakAtDots?_eq_none_iff.2 hdots, eq_comm, Option.map_eq_none_iff] at hbreak
    have hfields : Text.fields '/' cs = [a, b] := Text.fields_eq_pair_iff.2 ⟨hab, ha, hb⟩
    rw [hcs] at hfields
    obtain ⟨a', b', rfl, rfl, hfields'⟩ := exists_fields_of_surround hbefore hafter hfields
    exact ⟨a', b', hbefore, hafter, rfl, rfl, boundTexts_of_fields ht hbreak hfields'⟩

/-- The reader finds no sides where there are none. -/
theorem boundTexts_of_count_ne (hdots : ¬ Text.HasDots cs) (hcount : cs.count '/' ≠ 1) :
    boundTexts cs = .error (if cs.count '/' = 0 then .noSeparator (String.ofList cs)
      else .separatorCount (cs.count '/')) := by
  have ht := Text.trimsTo_trim cs
  have hbreak : Text.breakAtDots? (Text.trim cs) = none := by
    rw [Text.breakAtDots?_eq_none_iff]
    rintro ⟨a, b, hab⟩
    obtain ⟨before, after, hcs, -⟩ := id ht
    exact hdots ⟨before ++ a, b ++ after, by rw [hcs, hab]; simp⟩
  have hlength : (Text.fields '/' (Text.trim cs)).length = cs.count '/' + 1 := by
    rw [Text.length_fields, ht.count_eq rfl]
  unfold boundTexts
  rw [show separator = '/' from rfl]
  dsimp only
  rw [hbreak]
  dsimp only
  split
  · next first last hfields =>
    rw [hfields] at hlength
    exact absurd (Nat.succ.inj hlength).symm hcount
  · rw [hlength, Nat.add_sub_cancel]
    by_cases hzero : cs.count '/' = 0
    · rw [if_pos hzero, if_pos (by omega)]
    · rw [if_neg hzero, if_neg (by omega)]

end

/-! ## What the sides come to -/

/-- What two texts come to, as a range and as a predicate. The first text is judged before the
second one, and the order of the dates after both. -/
inductive BoundsMean (a b : String) :
    Except RangeError DateRange → Except CompileError Predicate → Prop where
  | range {r : DateRange} {p : Predicate} (ha : Date.parse a = .ok r.first)
      (hb : Date.parse b = .ok r.last) (hp : r.compile = .ok p) : BoundsMean a b (.ok r) (.ok p)
  | badFirst {cause : DateError} (ha : Date.parse a = .error cause) :
      BoundsMean a b (.error (.date cause)) (.error (.date cause))
  | badLast {d : Date} {cause : DateError} (ha : Date.parse a = .ok d)
      (hb : Date.parse b = .error cause) :
      BoundsMean a b (.error (.date cause)) (.error (.date cause))
  | reversed {d e : Date} (ha : Date.parse a = .ok d) (hb : Date.parse b = .ok e) (h : e < d) :
      BoundsMean a b (.error (.reversed ⟨d, e⟩)) (.error (.reversed ⟨d, e⟩))

section

variable {s a b : String}

/-- A text is read by its sides. -/
theorem parse_of_sides (h : Sides s.toList a.toList b.toList) :
    parse s = (do
      let first ← (Date.parse a).mapError .date
      let last ← (Date.parse b).mapError .date
      (ofBounds first last).mapError .reversed) := by
  obtain ⟨before, after, a', b', hbefore, hafter, ha, hb, hbounds⟩ := exists_boundTexts h
  have hnil : ∀ c ∈ ([] : List Char), Text.isBlank c = true := fun c hc => nomatch hc
  have hfirst : Date.ofChars a' = Date.parse a := by
    have hblank := Date.ofChars_surround a' hbefore hnil
    rw [List.append_nil, ← ha] at hblank
    exact hblank.symm
  have hlast : Date.ofChars b' = Date.parse b := by
    have hblank := Date.ofChars_surround b' hnil hafter
    rw [List.nil_append, ← hb] at hblank
    exact hblank.symm
  rw [parse, ofChars, hbounds, ← hfirst, ← hlast]
  rfl

/-- **A text with sides is read as a range exactly as its sides are compiled.** -/
theorem boundsMean_of_sides (h : Sides s.toList a.toList b.toList) :
    BoundsMean a b (parse s) (compileTexts a b) := by
  rw [parse_of_sides h, compileTexts]
  cases hfirst : Date.parse a with
  | error cause => exact .badFirst hfirst
  | ok d =>
    cases hlast : Date.parse b with
    | error cause => exact .badLast hfirst hlast
    | ok e =>
      show BoundsMean a b ((ofBounds d e).mapError .reversed) (DatePartition.compile d e)
      rcases compile_eq_ok_or_reversed d e with ⟨hle, p, hp⟩ | ⟨hlt, herror⟩
      · have hcompile : (⟨d, e, hle⟩ : DateRange).compile = .ok p := by
          rw [compile_eq_bounds, hp]
        rw [hp, ofBounds, dif_pos hle]
        exact .range hfirst hlast hcompile
      · rw [herror, ofBounds, dif_neg (Date.not_le.2 hlt)]
        exact .reversed hfirst hlast hlt

/-- A text without sides is refused for its form. -/
theorem parse_of_no_sides (h : ∀ a b, ¬ Sides s.toList a b) :
    parse s = .error (if s.toList.count '/' = 0 then .noSeparator s
      else .separatorCount (s.toList.count '/')) := by
  have hnone : ¬ (Text.HasDots s.toList ∨ s.toList.count '/' = 1) := by
    rw [← exists_sides_iff]
    rintro ⟨a, b, hsides⟩
    exact h a b hsides
  rw [not_or] at hnone
  rw [parse, ofChars, boundTexts_of_count_ne hnone.1 hnone.2, String.ofList_toList]
  rfl

/-- With dots between them, two dates are the sides, in whichever spelling they are. -/
theorem sides_dots {d : Date} (ha : Date.parse a = .ok d) (b : String) :
    Sides (a ++ dots ++ b).toList a.toList b.toList := by
  have hdot : '.' ∉ a.toList := Date.dot_not_mem_of_ofChars ha
  have hchars : (a ++ dots ++ b).toList = a.toList ++ '.' :: '.' :: b.toList := by
    simp [dots]
  rw [hchars]
  exact .dots (Text.breakAtDots?_eq_some_iff.1 (Text.breakAtDots?_append b.toList hdot))

/-- Without dots, both sides of a range have the year first. -/
theorem isYearFirst_of_parse {r : DateRange} (hdots : ¬ Text.HasDots s.toList)
    (h : parse s = .ok r) :
    ∃ a b, Sides s.toList a b ∧ Date.IsYearFirst a ∧ Date.IsYearFirst b := by
  by_cases hsides : ∃ a b, Sides s.toList a b
  · obtain ⟨a, b, hab⟩ := hsides
    refine ⟨a, b, hab, ?_⟩
    cases hab with
    | dots hcut => exact absurd ⟨a, b, hcut.1⟩ hdots
    | slash _ hcs ha hb =>
      have hmeans : BoundsMean (String.ofList a) (String.ofList b) (parse s) _ :=
        boundsMean_of_sides (by
          rw [String.toList_ofList, String.toList_ofList]
          exact .slash hdots hcs ha hb)
      rw [h] at hmeans
      generalize compileTexts (String.ofList a) (String.ofList b) = compiled at hmeans
      cases hmeans with
      | range hfirst hlast _ =>
        rw [Date.parse, String.toList_ofList] at hfirst hlast
        exact ⟨Date.isYearFirst_of_ofChars hfirst ha, Date.isYearFirst_of_ofChars hlast hb⟩
  · rw [parse_of_no_sides fun a b hab => hsides ⟨a, b, hab⟩] at h
    cases h

end

/-- **A text is read as a range exactly as its sides are compiled.** A text has sides if it has
dots, or one slash. It then comes to what the texts of its sides come to: to the range whose
predicate they compile to, or to the same cause of refusal, be it the first bad date or the order of
the dates. Any other text is refused for its form. So there may be dates of either spelling at the
two sides of dots, and only dates with the year first at those of a slash. -/
theorem parse_agrees :
    (∀ s a b : String, Sides s.toList a.toList b.toList →
      BoundsMean a b (parse s) (compileTexts a b)) ∧
    (∀ s : String, (∃ a b, Sides s.toList a b) ↔
      Text.HasDots s.toList ∨ s.toList.count '/' = 1) ∧
    (∀ s : String, (∀ a b, ¬ Sides s.toList a b) →
      parse s = .error (if s.toList.count '/' = 0 then .noSeparator s
        else .separatorCount (s.toList.count '/'))) ∧
    (∀ (a b : String) (d e : Date), Date.parse a = .ok d → Date.parse b = .ok e →
      parse (a ++ dots ++ b) = (ofBounds d e).mapError .reversed) ∧
    (∀ (s : String) (r : DateRange), ¬ Text.HasDots s.toList → parse s = .ok r →
      ∃ a b, Sides s.toList a b ∧ Date.IsYearFirst a ∧ Date.IsYearFirst b) := by
  refine ⟨fun s a b => boundsMean_of_sides, fun s => exists_sides_iff, fun s => parse_of_no_sides,
    fun a b d e ha hb => ?_, fun s r => isYearFirst_of_parse⟩
  rw [parse_of_sides (sides_dots ha b), ha, hb]
  rfl

/-- Dots win over slashes, and a single slash stands between dates with the year first. -/
theorem parse_agrees_mixed_spellings :
    BoundsMean " 1/30/2018 " "2018-02-30" (parse " 1/30/2018 ..2018-02-30")
        (compileTexts " 1/30/2018 " "2018-02-30") ∧
      parse "1/30/2018/2018-02-02" = .error (.separatorCount 3) ∧
      parse ("1/30/2018" ++ dots ++ "2018-02-02") =
        .ok ⟨⟨⟨2018, by decide, by decide⟩, .january, ⟨30, by decide, by decide⟩, by decide⟩,
          ⟨⟨2018, by decide, by decide⟩, .february, ⟨2, by decide, by decide⟩, by decide⟩,
          by decide⟩ ∧
      ∃ a b, Sides "2018-01-30/2018-02-02".toList a b ∧ Date.IsYearFirst a ∧
        Date.IsYearFirst b := by
  obtain ⟨hmeans, hsides, hnone, hdots, hslash⟩ := parse_agrees
  have hcut : Sides " 1/30/2018 ..2018-02-30".toList " 1/30/2018 ".toList "2018-02-30".toList :=
    .dots (Text.breakAtDots?_eq_some_iff.1 (by decide))
  have hno : ∀ a b, ¬ Sides "1/30/2018/2018-02-02".toList a b := by
    intro a b h
    rcases (hsides _).1 ⟨a, b, h⟩ with h | h
    · exact Text.breakAtDots?_eq_none_iff.1 (by decide) h
    · exact absurd h (by decide)
  exact ⟨hmeans _ _ _ hcut, hnone _ hno,
    (hdots "1/30/2018" "2018-02-02" _ _ rfl rfl).trans rfl,
    hslash _ _ (Text.breakAtDots?_eq_none_iff.1 (by decide)) rfl⟩

end DateRange

end DatePartition
