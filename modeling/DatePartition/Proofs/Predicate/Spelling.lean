import DatePartition.Predicate.Condition
import DatePartition.Text.Fields
import Mathlib.Data.List.Forall2

/-!
# Texts that spell out conditions

`Condition.parse?` finds the words and marks of a text and then reads them on three levels. Both are
followed here piece by piece, whatever stands behind a piece.

- `Lexes cs ls`: a piece of text consists of these words and marks.
- `ReadsSimple`, `ReadsBoth`, `ReadsEither`: one level of the reader takes these words and marks,
  and no more, for a condition.
- `Spells`: both together. **Pieces can be put together**: by `and` (`Spells.and`), by `or`
  (`Spells.or`) and by parentheses (`Spells.group`).
- `Spells.parse?_eq`: a text that spells out a condition is read as that condition.
-/

namespace DatePartition.Condition

variable {a b cs value w : List Char} {ks ls ms : List Lexeme} {x y : Condition} {column : String}

/-! ## Words and marks -/

/-- The words and marks of a whole text. -/
def Lexed (cs : List Char) (ls : List Lexeme) : Prop :=
  ∀ fuel, cs.length ≤ fuel → lexemes? fuel cs = some ls

/-- The words and marks of a piece of text, whatever stands behind it. -/
def Lexes (cs : List Char) (ls : List Lexeme) : Prop :=
  ∀ rest ms, Lexed rest ms → Lexed (cs ++ rest) (ls ++ ms)

theorem Lexed.nil : Lexed [] [] := by
  intro fuel _
  cases fuel with
  | zero => rfl
  | succ fuel => rfl

/-- A character takes one unit of the fuel. -/
theorem Lexed.cons {c : Char}
    (h : ∀ fuel, cs.length ≤ fuel → lexemes? (fuel + 1) (c :: cs) = some ls) :
    Lexed (c :: cs) ls := by
  intro fuel hfuel
  cases fuel with
  | zero => exact absurd hfuel (Nat.not_succ_le_zero _)
  | succ fuel => exact h fuel (Nat.le_of_succ_le_succ hfuel)

theorem Lexes.append (h : Lexes a ls) (k : Lexes b ms) : Lexes (a ++ b) (ls ++ ms) := by
  intro rest ns hrest
  rw [List.append_assoc, List.append_assoc]
  exact h _ _ (k _ _ hrest)

theorem Lexes.lexed (h : Lexes cs ls) : Lexed cs ls := by
  have hnil := h [] [] Lexed.nil
  rwa [List.append_nil, List.append_nil] at hnil

/-- Blanks count for nothing. -/
theorem lexes_blank {c : Char} (h : c = ' ' ∨ c = '\n') : Lexes [c] [] := by
  intro rest ms hrest
  refine Lexed.cons fun fuel hfuel => ?_
  rw [List.nil_append, lexemes?, if_pos h]
  exact hrest fuel hfuel

/-- The characters that are marks of their own. -/
def marks : List (Char × Lexeme) :=
  [('(', .opening), (')', .closing), (',', .comma), ('=', .equals)]

theorem lexes_mark {c : Char} {l : Lexeme} (h : (c, l) ∈ marks) : Lexes [c] [l] := by
  intro rest ms hrest
  refine Lexed.cons fun fuel hfuel => ?_
  have hstep := hrest fuel hfuel
  simp only [marks, List.mem_cons, List.not_mem_nil, Prod.mk.injEq, or_false] at h
  rcases h with ⟨rfl, rfl⟩ | ⟨rfl, rfl⟩ | ⟨rfl, rfl⟩ | ⟨rfl, rfl⟩ <;>
    simp [lexemes?, hstep]

/-- A value between quotes ends at the second quote. -/
theorem lexes_quoted (h : '\'' ∉ value) : Lexes (Render.quoted value) [.quoted value] := by
  intro rest ms hrest
  have hvalue : ∀ c ∈ value, decide (c ≠ '\'') = true := by
    intro c hc
    exact decide_eq_true fun heq => h (heq ▸ hc)
  have hquote : ∀ c, ('\'' :: rest).head? = some c → decide (c ≠ '\'') = false := by
    intro c hc
    cases hc
    rfl
  have htext : Render.quoted value ++ rest = '\'' :: (value ++ '\'' :: rest) := by
    simp [Render.quoted]
  rw [htext]
  refine Lexed.cons fun fuel hfuel => ?_
  have hstep : lexemes? fuel rest = some ms := by
    refine hrest fuel (Nat.le_trans ?_ hfuel)
    simp only [List.length_append, List.length_cons]
    omega
  simp only [lexemes?, Char.reduceEq, or_self, reduceIte]
  rw [Text.takeWhile_run hvalue hquote, Text.dropWhile_run hvalue hquote]
  simp [hstep]

/-- No blank, mark or quote belongs to a word. -/
theorem continuesWord_eq_false {c : Char}
    (h : c ∈ [' ', '\n', '(', ')', ',', '=', '\'']) : continuesWord c = false := by
  simp only [List.mem_cons, List.not_mem_nil, or_false] at h
  rcases h with rfl | rfl | rfl | rfl | rfl | rfl | rfl <;> rfl

theorem continuesWord_of_startsWord {c : Char} (h : startsWord c = true) :
    continuesWord c = true := by
  unfold startsWord at h
  unfold continuesWord Text.isLetterOrNumber
  rw [Bool.or_eq_true] at h ⊢
  rcases h with h | h
  · exact .inl (by rw [h, Bool.true_or])
  · exact .inr h

/-- The text is one word. -/
def IsWord (w : List Char) : Prop :=
  ∃ c cs, w = c :: cs ∧ startsWord c = true ∧ cs.all continuesWord

/-- A word ends at a blank. -/
theorem lexes_word (h : IsWord w) : Lexes (w ++ [' ']) [.word w] := by
  obtain ⟨c, cs, rfl, hstart, hall⟩ := h
  intro rest ms hrest
  have htext : (c :: cs) ++ [' '] ++ rest = c :: (cs ++ ' ' :: rest) := by simp
  rw [htext]
  refine Lexed.cons fun fuel hfuel => ?_
  -- the blank that ends the word is still there for the next step
  have hstep : lexemes? fuel (' ' :: rest) = some ms := by
    refine lexes_blank (.inl rfl) rest ms hrest fuel (Nat.le_trans ?_ hfuel)
    simp only [List.length_append, List.length_cons, List.length_nil]
    omega
  have hno : c ∉ [' ', '\n', '(', ')', ',', '=', '\''] := by
    intro hmem
    have hfalse := continuesWord_eq_false hmem
    rw [continuesWord_of_startsWord hstart] at hfalse
    cases hfalse
  have hcs : ∀ d ∈ cs, continuesWord d = true := List.all_eq_true.1 hall
  have hblank : ∀ d, (' ' :: rest).head? = some d → continuesWord d = false := by
    intro d hd
    cases hd
    exact continuesWord_eq_false (by simp)
  simp only [List.mem_cons, List.not_mem_nil, or_false, not_or] at hno
  simp [lexemes?, hno, hstart, Text.takeWhile_run hcs hblank, Text.dropWhile_run hcs hblank, hstep]

/-! ## The levels of the reader -/

/-- The keyword does not stand at the beginning. -/
def Stops (keyword : String) (rest : List Lexeme) : Prop :=
  ∀ w ls, rest = .word w :: ls → isKeyword keyword w = false

-- A word or a mark can take one unit of the fuel on each of the three levels, and a level may be
-- entered once more from the one above it. What follows a piece never costs anything.

/-- A comparison or an expression in parentheses. -/
def ReadsSimple (ls : List Lexeme) (x : Condition) : Prop :=
  ∀ fuel rest, 3 * ls.length ≤ fuel → readSimple? (fuel + 1) (ls ++ rest) = some (x, rest)

/-- Expressions between which `and` stands. They go on as long as it does. -/
def ReadsBoth (ls : List Lexeme) (x : Condition) : Prop :=
  ∀ fuel rest, 3 * ls.length + 1 ≤ fuel → Stops "and" rest →
    readBoth? (fuel + 1) (ls ++ rest) = some (x, rest)

/-- Expressions between which `or` stands. They go on as long as it does. -/
def ReadsEither (ls : List Lexeme) (x : Condition) : Prop :=
  ∀ fuel rest, 3 * ls.length + 2 ≤ fuel → Stops "and" rest → Stops "or" rest →
    readEither? (fuel + 1) (ls ++ rest) = some (x, rest)

theorem stops_nil {keyword : String} : Stops keyword [] := by
  intro w ls h
  cases h

theorem stops_closing {keyword : String} : Stops keyword (.closing :: ls) := by
  intro w ms h
  cases h

theorem stops_or : Stops "and" (.word "or".toList :: ls) := by
  intro w ms h
  cases h
  rfl

theorem readsSimple_equals (h : isReserved w = false) :
    ReadsSimple [.word w, .equals, .quoted value] (.equals w value) := by
  intro fuel rest _
  simp [readSimple?, readComparison?, h]

/-- The values behind the first one, each behind a comma. -/
def valueLexemes (values : List (List Char)) : List Lexeme :=
  values.flatMap fun v => [.comma, .quoted v]

theorem readValues?_valueLexemes (values : List (List Char)) (rest : List Lexeme) :
    readValues? (valueLexemes values ++ .closing :: rest) = some (values, rest) := by
  induction values with
  | nil => rfl
  | cons v values ih =>
    show (readValues? (valueLexemes values ++ .closing :: rest)).map _ = _
    rw [ih]
    rfl

theorem readsSimple_oneOf (h : isReserved w = false) (values : List (List Char)) :
    ReadsSimple
      ([.word w, .word "in".toList, .opening, .quoted value] ++ (valueLexemes values ++ [.closing]))
      (.oneOf w (value :: values)) := by
  intro fuel rest _
  have hvalues := readValues?_valueLexemes values rest
  have hin : isKeyword "in" "in".toList = true := rfl
  simp only [List.append_assoc, List.cons_append, List.nil_append]
  rw [readSimple?]
  simp only [h, Bool.false_eq_true, if_false]
  rw [readComparison?, if_pos hin, hvalues]
  rfl

theorem ReadsSimple.readsBoth (h : ReadsSimple ls x) : ReadsBoth ls x := by
  intro fuel rest hfuel hand
  obtain ⟨fuel, rfl⟩ : ∃ n, fuel = n + 1 := Nat.exists_eq_add_of_le' (by omega)
  rw [readBoth?, h fuel rest (by omega)]
  split
  · -- a word follows, which is no `and`
    next w ms heq =>
    cases heq
    simp [hand w ms rfl]
  · rfl

theorem ReadsSimple.and (h : ReadsSimple ls x) (k : ReadsBoth ms y) :
    ReadsBoth (ls ++ .word "and".toList :: ms) (.both x y) := by
  intro fuel rest hfuel hand
  rw [List.length_append, List.length_cons] at hfuel
  obtain ⟨fuel, rfl⟩ : ∃ n, fuel = n + 1 := Nat.exists_eq_add_of_le' (by omega)
  have hkeyword : isKeyword "and" "and".toList = true := rfl
  rw [List.append_assoc, List.cons_append, readBoth?, h fuel _ (by omega)]
  simp only [hkeyword, if_true]
  rw [k fuel rest (by omega) hand]
  rfl

theorem ReadsBoth.readsEither (h : ReadsBoth ls x) : ReadsEither ls x := by
  intro fuel rest hfuel hand hor
  obtain ⟨fuel, rfl⟩ : ∃ n, fuel = n + 1 := Nat.exists_eq_add_of_le' (by omega)
  rw [readEither?, h fuel rest (by omega) hand]
  split
  · -- a word follows, which is no `or`
    next w ms heq =>
    cases heq
    simp [hor w ms rfl]
  · rfl

theorem ReadsBoth.or (h : ReadsBoth ls x) (k : ReadsEither ms y) :
    ReadsEither (ls ++ .word "or".toList :: ms) (.either x y) := by
  intro fuel rest hfuel hand hor
  rw [List.length_append, List.length_cons] at hfuel
  obtain ⟨fuel, rfl⟩ : ∃ n, fuel = n + 1 := Nat.exists_eq_add_of_le' (by omega)
  have hkeyword : isKeyword "or" "or".toList = true := rfl
  -- the left side ends here: what follows it is `or` and not `and`
  rw [List.append_assoc, List.cons_append, readEither?, h fuel _ (by omega) stops_or]
  simp only [hkeyword, if_true]
  rw [k fuel rest (by omega) hand hor]
  rfl

theorem ReadsEither.group (h : ReadsEither ls x) :
    ReadsSimple (.opening :: (ls ++ [.closing])) x := by
  intro fuel rest hfuel
  rw [List.length_cons, List.length_append, List.length_singleton] at hfuel
  obtain ⟨fuel, rfl⟩ : ∃ n, fuel = n + 1 := Nat.exists_eq_add_of_le' (by omega)
  rw [List.cons_append, List.append_assoc, List.singleton_append, readSimple?]
  simp only [h fuel (.closing :: rest) (by omega) stops_closing stops_closing]

/-! ## Spelling -/

/-- The text consists of words and marks that one level of the reader takes for the condition. -/
def Spells (Reads : List Lexeme → Condition → Prop) (cs : List Char) (x : Condition) : Prop :=
  ∃ ls, Lexes cs ls ∧ Reads ls x

/-- A plain name is one word, and no keyword. -/
theorem isPlainName_iff : isPlainName w = true ↔ IsWord w ∧ isReserved w = false := by
  cases w with
  | nil =>
    refine iff_of_false (by decide) ?_
    rintro ⟨⟨c, cs, h, -⟩, -⟩
    cases h
  | cons c cs =>
    unfold isPlainName IsWord
    simp [and_assoc]

theorem isWord_keyword (h : w ∈ ["and".toList, "or".toList, "in".toList]) : IsWord w := by
  simp only [List.mem_cons, List.not_mem_nil, or_false] at h
  rcases h with rfl | rfl | rfl
  · exact ⟨'a', "nd".toList, rfl, by decide, by decide⟩
  · exact ⟨'o', "r".toList, rfl, by decide, by decide⟩
  · exact ⟨'i', "n".toList, rfl, by decide, by decide⟩

theorem spells_equals (hname : isPlainName column.toList = true) (hvalue : '\'' ∉ value) :
    Spells ReadsSimple (Render.equals column value) (.equals column.toList value) := by
  obtain ⟨hword, hfree⟩ := isPlainName_iff.1 hname
  have hmark : Lexes ['='] [.equals] := lexes_mark (by simp [marks])
  have hlexes := (lexes_word hword).append
    (hmark.append ((lexes_blank (.inl rfl)).append (lexes_quoted hvalue)))
  refine ⟨_, ?_, readsSimple_equals hfree⟩
  simpa [Render.equals] using hlexes

theorem lexes_values {values : List (List Char)} (h : ∀ v ∈ values, '\'' ∉ v) :
    Lexes (values.flatMap fun v => ", ".toList ++ Render.quoted v) (valueLexemes values) := by
  induction values with
  | nil => exact fun rest ms hrest => hrest
  | cons v values ih =>
    have hcomma : Lexes [','] [.comma] := lexes_mark (by simp [marks])
    have hfirst := hcomma.append
      ((lexes_blank (.inl rfl)).append (lexes_quoted (h v (List.mem_cons_self ..))))
    have hrest := ih fun u hu => h u (List.mem_cons_of_mem _ hu)
    exact hfirst.append hrest

theorem spells_oneOf (hname : isPlainName column.toList = true) {values : List (List Char)}
    (hne : values ≠ []) (hvalues : ∀ v ∈ values, '\'' ∉ v) :
    Spells ReadsSimple (Render.oneOf column values) (.oneOf column.toList values) := by
  obtain ⟨v, values, rfl⟩ := List.exists_cons_of_ne_nil hne
  obtain ⟨hword, hfree⟩ := isPlainName_iff.1 hname
  have hopening : Lexes ['('] [.opening] := lexes_mark (by simp [marks])
  have hclosing : Lexes [')'] [.closing] := lexes_mark (by simp [marks])
  have hfirst := lexes_quoted (hvalues v (List.mem_cons_self ..))
  have hothers := lexes_values fun u hu => hvalues u (List.mem_cons_of_mem _ hu)
  -- the name and `in`, each with the blank behind it, and then the list
  have hlexes := (lexes_word hword).append ((lexes_word (isWord_keyword (w := "in".toList)
    (by simp))).append (hopening.append (hfirst.append (hothers.append hclosing))))
  refine ⟨_, ?_, readsSimple_oneOf hfree values⟩
  simpa [Render.oneOf, Render.intercalate_cons, List.flatMap_map] using hlexes

theorem Spells.both (h : Spells ReadsSimple cs x) : Spells ReadsBoth cs x := by
  obtain ⟨ls, hlexes, hreads⟩ := h
  exact ⟨ls, hlexes, hreads.readsBoth⟩

theorem Spells.either (h : Spells ReadsBoth cs x) : Spells ReadsEither cs x := by
  obtain ⟨ls, hlexes, hreads⟩ := h
  exact ⟨ls, hlexes, hreads.readsEither⟩

theorem lexes_and : Lexes " and ".toList [.word "and".toList] := by
  have hword : Lexes ("and".toList ++ [' ']) [.word "and".toList] :=
    lexes_word (isWord_keyword (by simp))
  exact (lexes_blank (.inl rfl)).append hword

/-- A joiner is the same word in either layout. -/
theorem lexes_joiner (layout : Layout) : Lexes layout.joiner.toList [.word "or".toList] := by
  have hword : Lexes ("or".toList ++ [' ']) [.word "or".toList] :=
    lexes_word (isWord_keyword (by simp))
  have hblank : Lexes [' '] [] := lexes_blank (.inl rfl)
  cases layout with
  | multiLine =>
    exact (lexes_blank (.inr rfl)).append (hblank.append (hblank.append hword))
  | singleLine => exact hblank.append hword

theorem Spells.and (h : Spells ReadsSimple a x) (k : Spells ReadsBoth b y) :
    Spells ReadsBoth (a ++ " and ".toList ++ b) (.both x y) := by
  obtain ⟨ls, hlexes, hreads⟩ := h
  obtain ⟨ms, klexes, kreads⟩ := k
  refine ⟨_, ?_, hreads.and kreads⟩
  simpa using hlexes.append (lexes_and.append klexes)

theorem Spells.or (h : Spells ReadsBoth a x) (k : Spells ReadsEither b y) (layout : Layout) :
    Spells ReadsEither (a ++ layout.joiner.toList ++ b) (.either x y) := by
  obtain ⟨ls, hlexes, hreads⟩ := h
  obtain ⟨ms, klexes, kreads⟩ := k
  refine ⟨_, ?_, hreads.or kreads⟩
  simpa using hlexes.append ((lexes_joiner layout).append klexes)

theorem Spells.group (h : Spells ReadsEither cs x) :
    Spells ReadsSimple ('(' :: cs ++ [')']) x := by
  obtain ⟨ls, hlexes, hreads⟩ := h
  have hopening : Lexes ['('] [.opening] := lexes_mark (by simp [marks])
  have hclosing : Lexes [')'] [.closing] := lexes_mark (by simp [marks])
  exact ⟨_, hopening.append (hlexes.append hclosing), hreads.group⟩

/-! ## Several conditions -/

/-- All of one or more conditions. -/
def allOf (x : Condition) : List Condition → Condition
  | [] => x
  | y :: ys => .both x (allOf y ys)

/-- Some of one or more conditions. -/
def anyOf (x : Condition) : List Condition → Condition
  | [] => x
  | y :: ys => .either x (anyOf y ys)

theorem holds_allOf {row : List Char → Option (List Char)} {xs : List Condition} :
    (allOf x xs).Holds row ↔ ∀ y ∈ x :: xs, y.Holds row := by
  induction xs generalizing x with
  | nil => simp [allOf]
  | cons y ys ih =>
    rw [allOf, Holds, ih, List.forall_mem_cons (a := x)]

theorem holds_anyOf {row : List Char → Option (List Char)} {xs : List Condition} :
    (anyOf x xs).Holds row ↔ ∃ y ∈ x :: xs, y.Holds row := by
  induction xs generalizing x with
  | nil => simp [anyOf]
  | cons y ys ih =>
    rw [anyOf, Holds, ih, List.exists_mem_cons_iff (a := x)]

theorem spells_allOf {css : List (List Char)} {xs : List Condition}
    (h : Spells ReadsSimple cs x) (hs : List.Forall₂ (Spells ReadsSimple) css xs) :
    Spells ReadsBoth (List.intercalate " and ".toList (cs :: css)) (allOf x xs) := by
  induction hs generalizing cs x with
  | nil =>
    rw [List.intercalate_singleton]
    exact h.both
  | cons hy _ ih =>
    rw [List.intercalate_cons_cons]
    exact h.and (ih hy)

theorem spells_anyOf {css : List (List Char)} {xs : List Condition} (layout : Layout)
    (h : Spells ReadsSimple cs x) (hs : List.Forall₂ (Spells ReadsSimple) css xs) :
    Spells ReadsEither (List.intercalate layout.joiner.toList (cs :: css)) (anyOf x xs) := by
  induction hs generalizing cs x with
  | nil =>
    rw [List.intercalate_singleton]
    exact h.both.either
  | cons hy _ ih =>
    rw [List.intercalate_cons_cons]
    exact h.both.or (ih hy) layout

/-- **A text that spells out a condition is read as that condition**, and nothing of it is left. -/
theorem Spells.parse?_eq (h : Spells ReadsEither cs x) : parse? cs = some x := by
  obtain ⟨ls, hlexes, hreads⟩ := h
  have hlexed : lexemes? cs.length cs = some ls := hlexes.lexed cs.length (Nat.le_refl _)
  have hread := hreads (3 * ls.length + 2) [] (Nat.le_refl _) stops_nil stops_nil
  rw [List.append_nil] at hread
  simp only [parse?, hlexed, Option.bind_eq_bind, Option.bind_some, hread]

/-- Without parentheses, `and` binds tighter than `or`. -/
example : parse? "a = '1' or b = '2' AND c in ('3', '4')".toList =
    some (.either (.equals "a".toList "1".toList)
      (.both (.equals "b".toList "2".toList) (.oneOf "c".toList ["3".toList, "4".toList]))) := by
  decide +kernel

end DatePartition.Condition
