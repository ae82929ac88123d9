import DatePartition.Text.Blank
import DatePartition.Text.Fields
import DatePartition.Text.Numeral

/-!
# What trimming, splitting and reading find

Each of the three is a function of the text. Here it is told by its result alone, so that what is
found can be recognized without going through the text again.

- `Text.TrimsTo`: a text stands between blanks and has none at its ends. `Text.trimsTo_trim`,
  `Text.TrimsTo.trim_eq`: the trimmed text does, and no other text.
- `Text.fields_eq_iff`: the parts of a text hold no separator, and joined by it they are the text.
- `Text.CutsAtDots`, `Text.breakAtDots?_eq_some_iff`: no dots stand in a row before those at which a
  text is cut.
- `Numeral.Denotes`, `Numeral.read?_eq_some_iff`: a numeral is a row of digits, with a plus sign in
  front or without, whose value is not too large.
-/

namespace DatePartition

namespace Text

/-! ## Trimming -/

/-- `t` stands in `cs` between blanks, and is not blank at either end. -/
def TrimsTo (cs t : List Char) : Prop :=
  ∃ before after, cs = before ++ (t ++ after) ∧
    (∀ c ∈ before, isBlank c = true) ∧ (∀ c ∈ after, isBlank c = true) ∧
    (∀ c, t.head? = some c → isBlank c = false) ∧ ∀ c, t.getLast? = some c → isBlank c = false

/-- What stands before is blank, and the rest begins with no blank. -/
theorem exists_trimStart (cs : List Char) :
    ∃ before, cs = before ++ trimStart cs ∧ (∀ c ∈ before, isBlank c = true) ∧
      ∀ c, (trimStart cs).head? = some c → isBlank c = false := by
  refine ⟨cs.takeWhile isBlank, List.takeWhile_append_dropWhile.symm, fun c hc => ?_,
    fun c hc => ?_⟩
  · exact List.all_eq_true.1 List.all_takeWhile c hc
  · have hnot := List.head?_dropWhile_not isBlank cs
    rw [← trimStart, hc] at hnot
    exact hnot

/-- Blanks at the start go, and nothing else does. -/
theorem trimStart_append {before cs : List Char} (hbefore : ∀ c ∈ before, isBlank c = true)
    (hcs : ∀ c, cs.head? = some c → isBlank c = false) : trimStart (before ++ cs) = cs :=
  dropWhile_run hbefore hcs

theorem trimStart_of_blanks {cs : List Char} (h : ∀ c ∈ cs, isBlank c = true) :
    trimStart cs = [] := by
  have hnil : ∀ c, ([] : List Char).head? = some c → isBlank c = false := fun c hc => nomatch hc
  rw [← List.append_nil cs, trimStart_append h hnil]

theorem trimsTo_trim (cs : List Char) : TrimsTo cs (trim cs) := by
  obtain ⟨before, hcs, hbefore, hhead⟩ := exists_trimStart cs
  obtain ⟨after, hrev, hafter, hlast⟩ := exists_trimStart (trimStart cs).reverse
  -- seen from the end, the blanks behind the text are those at the start
  have hsplit : trimStart cs = trim cs ++ after.reverse := by
    rw [trim, trimEnd, ← List.reverse_append, ← hrev, List.reverse_reverse]
  refine ⟨before, after.reverse, by rw [← hsplit, ← hcs], hbefore, fun c hc => ?_, fun c hc => ?_,
    fun c hc => ?_⟩
  · exact hafter c (List.mem_reverse.1 hc)
  · refine hhead c ?_
    rw [hsplit, List.head?_append, hc]
    rfl
  · refine hlast c ?_
    rwa [trim, trimEnd, List.getLast?_reverse] at hc

theorem TrimsTo.trim_eq {cs t : List Char} (h : TrimsTo cs t) : trim cs = t := by
  obtain ⟨before, after, rfl, hbefore, hafter, hhead, hlast⟩ := h
  have hrev : ∀ c ∈ after.reverse, isBlank c = true := fun c hc => hafter c (List.mem_reverse.1 hc)
  cases t with
  | nil =>
    have hall : ∀ c ∈ before ++ ([] ++ after), isBlank c = true := by
      intro c hc
      rcases List.mem_append.1 hc with hc | hc
      · exact hbefore c hc
      · exact hafter c hc
    rw [trim, trimStart_of_blanks hall]
    rfl
  | cons c t =>
    have hstart : trimStart (before ++ (c :: t ++ after)) = c :: t ++ after :=
      trimStart_append hbefore hhead
    have hend : trimStart (after.reverse ++ (c :: t).reverse) = (c :: t).reverse :=
      trimStart_append hrev fun d hd => hlast d (by rwa [List.head?_reverse] at hd)
    rw [trim, hstart, trimEnd, List.reverse_append, hend, List.reverse_reverse]

/-- More blanks around a text do not change what it is trimmed to. -/
theorem TrimsTo.surround {cs t before after : List Char} (h : TrimsTo cs t)
    (hbefore : ∀ c ∈ before, isBlank c = true) (hafter : ∀ c ∈ after, isBlank c = true) :
    TrimsTo (before ++ (cs ++ after)) t := by
  obtain ⟨before', after', rfl, hbefore', hafter', hends⟩ := h
  refine ⟨before ++ before', after' ++ after, by simp only [List.append_assoc], fun c hc => ?_,
    fun c hc => ?_, hends⟩
  · exact (List.mem_append.1 hc).elim (hbefore c) (hbefore' c)
  · exact (List.mem_append.1 hc).elim (hafter' c) (hafter c)

theorem not_mem_of_blanks {c : Char} {blanks : List Char} (hc : isBlank c = false)
    (h : ∀ d ∈ blanks, isBlank d = true) : c ∉ blanks := by
  intro hmem
  rw [h c hmem] at hc
  cases hc

/-- What is no blank occurs as often in a text as in the trimmed text. -/
theorem TrimsTo.count_eq {cs t : List Char} {c : Char} (h : TrimsTo cs t)
    (hc : isBlank c = false) : cs.count c = t.count c := by
  obtain ⟨before, after, rfl, hbefore, hafter, -⟩ := h
  rw [List.count_append, List.count_append,
    List.count_eq_zero_of_not_mem (not_mem_of_blanks hc hbefore),
    List.count_eq_zero_of_not_mem (not_mem_of_blanks hc hafter), Nat.zero_add, Nat.add_zero]

theorem TrimsTo.mem_iff {cs t : List Char} {c : Char} (h : TrimsTo cs t)
    (hc : isBlank c = false) : c ∈ cs ↔ c ∈ t := by
  rw [← List.count_pos_iff, ← List.count_pos_iff, h.count_eq hc]

/-! ## Splitting -/

theorem not_mem_of_mem_fields {sep : Char} {cs part : List Char} (h : part ∈ fields sep cs) :
    sep ∉ part := by
  induction cs generalizing part with
  | nil =>
    rw [fields, List.mem_singleton] at h
    rw [h]
    exact List.not_mem_nil
  | cons c cs ih =>
    unfold fields at h
    split at h
    · rcases List.mem_cons.1 h with rfl | h
      · exact List.not_mem_nil
      · exact ih h
    · next hc =>
      -- the character belongs to the first part
      split at h
      · next hnil =>
        have hlen := length_fields sep cs
        rw [hnil] at hlen
        cases hlen
      · next first rest hcons =>
        rcases List.mem_cons.1 h with rfl | h
        · intro hmem
          rcases List.mem_cons.1 hmem with rfl | hmem
          · exact hc rfl
          · exact ih (hcons ▸ List.mem_cons_self ..) hmem
        · exact ih (hcons ▸ List.mem_cons_of_mem _ h)

theorem fields_ne_nil (sep : Char) (cs : List Char) : fields sep cs ≠ [] := by
  intro h
  have hlen := length_fields sep cs
  rw [h] at hlen
  cases hlen

/-- Joined by the separator, the parts are the text. -/
theorem intercalate_fields (sep : Char) (cs : List Char) :
    List.intercalate [sep] (fields sep cs) = cs := by
  induction cs with
  | nil => rfl
  | cons c cs ih =>
    obtain ⟨first, rest, hcons⟩ := List.exists_cons_of_ne_nil (fields_ne_nil sep cs)
    rw [hcons] at ih
    unfold fields
    rw [hcons]
    by_cases hc : c = sep
    · rw [if_pos hc, List.intercalate_cons_cons, ih, hc]
      rfl
    · rw [if_neg hc]
      show List.intercalate [sep] ((c :: first) :: rest) = c :: cs
      rw [← ih]
      cases rest with
      | nil => rfl
      | cons second rest => rw [List.intercalate_cons_cons, List.intercalate_cons_cons]; rfl

/-- Parts without the separator are found again in what they are joined to. -/
theorem fields_intercalate {sep : Char} {parts : List (List Char)} (hne : parts ≠ [])
    (h : ∀ part ∈ parts, sep ∉ part) : fields sep (List.intercalate [sep] parts) = parts := by
  induction parts with
  | nil => exact absurd rfl hne
  | cons part parts ih =>
    have hpart : sep ∉ part := h part (List.mem_cons_self ..)
    cases parts with
    | nil => rw [List.intercalate_singleton, fields_eq_singleton hpart]
    | cons next parts =>
      rw [List.intercalate_cons_cons, List.append_assoc, List.singleton_append,
        fields_append_cons _ hpart, ih (List.cons_ne_nil next parts) fun p hp =>
          h p (List.mem_cons_of_mem _ hp)]

/-- **The parts of a text are those without the separator that it is joined from.** -/
theorem fields_eq_iff {sep : Char} {cs : List Char} {parts : List (List Char)} :
    fields sep cs = parts ↔
      parts ≠ [] ∧ (∀ part ∈ parts, sep ∉ part) ∧ List.intercalate [sep] parts = cs := by
  constructor
  · rintro rfl
    exact ⟨fields_ne_nil sep cs, fun _ => not_mem_of_mem_fields, intercalate_fields sep cs⟩
  · rintro ⟨hne, hparts, rfl⟩
    exact fields_intercalate hne hparts

/-- Two parts stand at the two sides of the only separator. -/
theorem fields_eq_pair_iff {sep : Char} {cs a b : List Char} :
    fields sep cs = [a, b] ↔ cs = a ++ sep :: b ∧ sep ∉ a ∧ sep ∉ b := by
  constructor
  · intro h
    obtain ⟨-, hparts, hcs⟩ := fields_eq_iff.1 h
    rw [List.intercalate_cons_cons, List.intercalate_singleton, List.append_assoc] at hcs
    exact ⟨hcs.symm, hparts a (by simp), hparts b (by simp)⟩
  · rintro ⟨rfl, ha, hb⟩
    rw [fields_append_cons _ ha, fields_eq_singleton hb]

/-- A text with one separator has two parts. -/
theorem exists_fields_eq_pair {sep : Char} {cs : List Char} (h : cs.count sep = 1) :
    ∃ a b, fields sep cs = [a, b] := by
  have hlength : (fields sep cs).length = 2 := by rw [length_fields, h]
  match hfields : fields sep cs, hlength with
  | [a, b], _ => exact ⟨a, b, rfl⟩

/-! ## Two dots -/

/-- Somewhere in the text two dots stand in a row. -/
def HasDots (cs : List Char) : Prop := ∃ a b, cs = a ++ '.' :: '.' :: b

/-- `a` stands in the text before the first two dots in a row, and `b` behind them. -/
def CutsAtDots (cs a b : List Char) : Prop :=
  cs = a ++ '.' :: '.' :: b ∧ ∀ a' b', cs = a' ++ '.' :: '.' :: b' → a.length ≤ a'.length

theorem CutsAtDots.unique {cs a b a' b' : List Char} (h : CutsAtDots cs a b)
    (h' : CutsAtDots cs a' b') : a = a' ∧ b = b' := by
  have hlength : a.length = a'.length := Nat.le_antisymm (h.2 a' b' h'.1) (h'.2 a b h.1)
  obtain ⟨ha, hb⟩ := List.append_inj (h.1.symm.trans h'.1) hlength
  exact ⟨ha, (List.cons.inj (List.cons.inj hb).2).2⟩

theorem not_hasDots_of_breakAtDots?_eq_none {cs : List Char} (h : breakAtDots? cs = none) :
    ¬ HasDots cs := by
  rintro ⟨a, b, rfl⟩
  induction a with
  | nil => cases h
  | cons c a ih =>
    rw [List.cons_append, breakAtDots?] at h
    · exact ih (Option.map_eq_none_iff.1 h)
    · -- were these the first dots, the reader would not have gone on
      rintro rest rfl hrest
      rw [hrest, breakAtDots?] at h
      cases h

theorem cutsAtDots_of_breakAtDots? {cs a b : List Char} (h : breakAtDots? cs = some (a, b)) :
    CutsAtDots cs a b := by
  fun_induction breakAtDots? cs generalizing a b with
  | case1 cs =>
    cases h
    exact ⟨rfl, fun a' b' _ => Nat.zero_le _⟩
  | case2 c cs hfirst ih =>
    obtain ⟨⟨a, b⟩, hbreak, hsides⟩ := Option.map_eq_some_iff.1 h
    cases hsides
    obtain ⟨hcs, hleast⟩ := ih hbreak
    refine ⟨congrArg (c :: ·) hcs, fun a' b' hcut => ?_⟩
    cases a' with
    | nil =>
      obtain ⟨hc, hrest⟩ := List.cons.inj hcut
      exact absurd hrest (hfirst b' hc)
    | cons c' a' => exact Nat.succ_le_succ (hleast a' b' (List.cons.inj hcut).2)
  | case3 => cases h

/-- **A text is cut at its first two dots in a row.** -/
theorem breakAtDots?_eq_some_iff {cs a b : List Char} :
    breakAtDots? cs = some (a, b) ↔ CutsAtDots cs a b := by
  refine ⟨cutsAtDots_of_breakAtDots?, fun h => ?_⟩
  cases hbreak : breakAtDots? cs with
  | none => exact absurd ⟨a, b, h.1⟩ (not_hasDots_of_breakAtDots?_eq_none hbreak)
  | some sides =>
    obtain ⟨rfl, rfl⟩ := h.unique (cutsAtDots_of_breakAtDots? hbreak)
    rfl

theorem breakAtDots?_eq_none_iff {cs : List Char} : breakAtDots? cs = none ↔ ¬ HasDots cs := by
  refine ⟨not_hasDots_of_breakAtDots?_eq_none, fun h => ?_⟩
  cases hbreak : breakAtDots? cs with
  | none => rfl
  | some sides => exact absurd ⟨_, _, (cutsAtDots_of_breakAtDots? hbreak).1⟩ h

/-- A text without a dot in front belongs to the first side. -/
theorem breakAtDots?_append_left {before : List Char} (cs : List Char) (h : '.' ∉ before) :
    breakAtDots? (before ++ cs) =
      (breakAtDots? cs).map fun sides => (before ++ sides.1, sides.2) := by
  induction before with
  | nil => simp
  | cons c before ih =>
    have hc : c ≠ '.' := fun e => h (by simp [e])
    have hbefore : '.' ∉ before := fun m => h (by simp [m])
    rw [List.cons_append, breakAtDots?, ih hbefore, Option.map_map]
    · rfl
    · exact fun _ e => absurd e hc

/-- A text without a dot at the end belongs to the second side. -/
theorem breakAtDots?_append_right {after : List Char} (cs : List Char) (h : '.' ∉ after) :
    breakAtDots? (cs ++ after) =
      (breakAtDots? cs).map fun sides => (sides.1, sides.2 ++ after) := by
  fun_induction breakAtDots? cs with
  | case1 cs => rfl
  | case2 c cs hfirst ih =>
    rw [List.cons_append, breakAtDots?, ih, Option.map_map, Option.map_map]
    · rfl
    · -- a second dot would have to be the first character behind the text
      rintro rest rfl hrest
      cases cs with
      | nil =>
        rw [List.nil_append] at hrest
        exact h (hrest ▸ List.mem_cons_self ..)
      | cons d cs => exact hfirst cs rfl (by rw [(List.cons.inj hrest).1])
  | case3 => exact breakAtDots?_eq_none h

end Text

namespace Numeral

/-! ## Reading numerals -/

/-- The text is one or more digits, with one plus sign in front or without, that stand for `n`,
which is at most `bound`. -/
def Denotes (bound : Nat) (cs : List Char) (n : Nat) : Prop :=
  ∃ digits, (cs = digits ∨ cs = '+' :: digits) ∧ IsDigits digits ∧ value digits = n ∧ n ≤ bound

/-- A sign stands in front, or there is none. -/
theorem eq_unsigned_or_eq_cons (cs : List Char) : cs = unsigned cs ∨ cs = '+' :: unsigned cs := by
  unfold unsigned
  split
  · exact .inr rfl
  · exact .inl rfl

/-- **What is read is what the digits stand for**, if that is not too large. -/
theorem read?_eq_some_iff {bound n : Nat} {cs : List Char} :
    read? bound cs = some n ↔ Denotes bound cs n := by
  constructor
  · intro h
    unfold read? at h
    split at h
    · next hread =>
      obtain rfl := Option.some.inj h
      exact ⟨unsigned cs, eq_unsigned_or_eq_cons cs, hread.1, rfl, hread.2⟩
    · cases h
  · rintro ⟨digits, hcs, hdigits, rfl, hbound⟩
    have hunsigned : unsigned cs = digits := by
      rcases hcs with rfl | rfl
      · exact unsigned_eq_self hdigits.2
      · rfl
    rw [read?, hunsigned, if_pos ⟨hdigits, hbound⟩]

theorem read?_eq_none_iff {bound : Nat} {cs : List Char} :
    read? bound cs = none ↔ ∀ n, ¬ Denotes bound cs n := by
  rw [Option.eq_none_iff_forall_ne_some]
  exact forall_congr' fun n => not_congr read?_eq_some_iff

end Numeral

end DatePartition
