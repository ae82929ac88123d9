import DatePartition.Json.Decode
import DatePartition.Proofs.Json.Token

/-!
# The texts of a value

A value has many texts: any blanks stand between its parts, and there are several ways to write a
character between quotes. All of them are read as the value.

- `Token.IsText`, `AreTokens`: the texts of a token, and of a row of tokens with blanks between.
- `tokens j`, `IsText j cs`: the tokens of a value; `cs` is one of its texts.
- `AreTokens.next`: **a text is read token by token.** Numbers never stand side by side.
- `readValue_of_areTokens`: a value is read from its tokens, and reading stops right behind them;
  `readItems_of_areTokens` and `readFields_of_areTokens` follow the items and the fields to the end.
- `IsText.decode`: **decoding a text of a value is decoding its reading.**
- `listText`, `decode_listText`: **a list of texts is decoded text by text.**
-/

namespace DatePartition.Json

open Reading

variable {blanks cs after rest : List Char} {ts us : List Token} {t : Token} {n fuel : Nat}

/-! ## Texts of tokens -/

/-- The characters are a text of the token. Integers beyond 64 bits are not told apart, so no text
stands for one. -/
inductive Token.IsText : Token → List Char → Prop where
  | openList : IsText .openList ['[']
  | closeList : IsText .closeList [']']
  | openObject : IsText .openObject ['\x7b']
  | closeObject : IsText .closeObject ['\x7d']
  | comma : IsText .comma [',']
  | colon : IsText .colon [':']
  | null : IsText .null "null".toList
  | true : IsText (.bool Bool.true) "true".toList
  | false : IsText (.bool Bool.false) "false".toList
  | number {n : Nat} (h : n ≤ Significand.greatest) :
    IsText (.number (.natural n)) (Numeral.plain n)
  | text {s : String} {cs : List Char} (h : AreEscaped s.toList cs) :
    IsText (.text s) ('"' :: (cs ++ ['"']))

/-- The characters are texts of the tokens, one after the other, with any blanks before each of them
and at the end. -/
inductive AreTokens : List Token → List Char → Prop where
  | nil {blanks : List Char} (hblanks : Blanks blanks) : AreTokens [] blanks
  | cons {t : Token} {ts : List Token} {blanks cs rest : List Char} (hblanks : Blanks blanks)
    (htoken : t.IsText cs) (hrest : AreTokens ts rest) :
    AreTokens (t :: ts) (blanks ++ (cs ++ rest))

/-- Blanks may stand before a text. -/
theorem AreTokens.pad (hblanks : Blanks blanks) (h : AreTokens ts cs) :
    AreTokens ts (blanks ++ cs) := by
  have happend : ∀ {others}, Blanks others → Blanks (blanks ++ others) := fun hothers c hc =>
    (List.mem_append.1 hc).elim (hblanks c) (hothers c)
  cases h with
  | nil hothers => exact .nil (happend hothers)
  | cons hothers htoken hrest =>
    rw [← List.append_assoc]
    exact .cons (happend hothers) htoken hrest

/-- A token before a text. -/
theorem AreTokens.token (htoken : t.IsText cs) (h : AreTokens ts rest) :
    AreTokens (t :: ts) (cs ++ rest) := .cons Blanks.nil htoken h

/-- A token of one character before a text. -/
theorem AreTokens.mark {c : Char} (htoken : t.IsText [c]) (h : AreTokens ts rest) :
    AreTokens (t :: ts) (c :: rest) := h.token htoken

/-- Texts of tokens one after the other. -/
theorem AreTokens.append (h : AreTokens ts cs) (hrest : AreTokens us rest) :
    AreTokens (ts ++ us) (cs ++ rest) := by
  induction h with
  | nil hblanks => exact hrest.pad hblanks
  | cons hblanks htoken _ ih =>
    rw [List.append_assoc, List.append_assoc]
    exact .cons hblanks htoken ih

/-- The first token is no number. -/
def NoNumber (ts : List Token) : Prop := ∀ n, ts.head? ≠ some (.number n)

theorem NoNumber.cons (h : ∀ n, t ≠ .number n) : NoNumber (t :: ts) :=
  fun n heq => h n (Option.some.inj heq)

theorem NoNumber.nil : NoNumber [] := nofun

/-- A token is not empty. -/
theorem Token.IsText.ne_nil (h : t.IsText cs) : cs ≠ [] := by
  cases h with
  | number h => exact Numeral.plain_ne_nil _
  | _ => exact List.cons_ne_nil _ _

/-- Every token takes a character at least. -/
theorem AreTokens.length_le (h : AreTokens ts cs) : ts.length ≤ cs.length := by
  induction h with
  | nil _ => exact Nat.zero_le _
  | cons _ htoken _ ih =>
    have hpos := List.length_pos_iff.2 htoken.ne_nil
    simp only [List.length_cons, List.length_append]
    omega

/-- Tokens that are no number do not go on with a part of one. -/
theorem Token.IsText.endsNumber (h : t.IsText cs) (hno : ∀ n, t ≠ .number n) :
    EndsNumber (cs ++ rest) := by
  cases h with
  | number h => exact absurd rfl (hno _)
  | _ => exact .cons (by decide)

theorem AreTokens.endsNumber (h : AreTokens ts cs) (hno : NoNumber ts) : EndsNumber cs := by
  cases h with
  | nil hblanks =>
    rw [← List.append_nil cs]
    exact .append hblanks .nil
  | cons hblanks htoken hrest =>
    exact .append hblanks (htoken.endsNumber fun n heq => hno n (congrArg some heq))

/-- The text of a token is read as the token. -/
theorem Token.IsText.next (h : t.IsText cs) (hend : NoNumber [t] ∨ EndsNumber rest) :
    Token.next (cs ++ rest) = (t, rest) := by
  cases h with
  | openList => exact Token.next_openList
  | closeList => exact Token.next_closeList
  | openObject => exact Token.next_openObject
  | closeObject => exact Token.next_closeObject
  | comma => exact Token.next_comma
  | colon => exact Token.next_colon
  | null => exact Token.next_null
  | true => exact Token.next_true
  | false => exact Token.next_false
  | number h =>
    rcases hend with hno | hrest
    · exact absurd rfl (hno _)
    · exact Token.next_plain h hrest
  | text h =>
    rw [List.cons_append, List.append_assoc]
    exact Token.next_text h

/-- **A text is read token by token.** -/
theorem AreTokens.next (h : AreTokens (t :: ts) cs) (hend : NoNumber [t] ∨ NoNumber ts) :
    ∃ rest, Token.next cs = (t, rest) ∧ AreTokens ts rest := by
  cases h with
  | cons hblanks htoken hrest =>
    exact ⟨_, by rw [Token.next_blanks hblanks, htoken.next (hend.imp_right hrest.endsNumber)],
      hrest⟩

/-- A token that is no number is read whatever follows. -/
theorem AreTokens.next_mark (h : AreTokens (t :: ts) cs) (hno : ∀ n, t ≠ .number n) :
    ∃ rest, Token.next cs = (t, rest) ∧ AreTokens ts rest :=
  h.next (.inl (.cons hno))

/-! ## Texts of values -/

mutual

/-- The tokens of a value. -/
def tokens : Json → List Token
  | null => [.null]
  | bool b => [.bool b]
  | number n => [.number (.natural n)]
  | text s => [.text s]
  | list items => .openList :: itemTokens items
  | object fields => .openObject :: fieldTokens fields

/-- The tokens of the items of a list, to its end. -/
def itemTokens : List Json → List Token
  | [] => [.closeList]
  | [item] => item.tokens ++ [.closeList]
  | item :: next :: items => item.tokens ++ .comma :: itemTokens (next :: items)

/-- The tokens of the fields of an object, to its end. -/
def fieldTokens : List (String × Json) → List Token
  | [] => [.closeObject]
  | [(key, value)] => .text key :: .colon :: (value.tokens ++ [.closeObject])
  | (key, value) :: next :: fields =>
    .text key :: .colon :: (value.tokens ++ .comma :: fieldTokens (next :: fields))

end

/-- The characters are a text of the value, with any blanks around it. -/
def IsText (j : Json) (cs : List Char) : Prop := AreTokens j.tokens cs

/-! ## Steps of the reader

One step for each way in which a list or an object can go on. The reader looks at the token behind
an item to see which one it is.
-/

variable {r : Reading}

/-- A text that begins with the end of a list is no item. -/
theorem readItems_of_closeList (h : Token.next cs = (.closeList, after)) (fuel : Nat) :
    (readItems fuel cs).1.head? = some broken := by
  have hvalue : ∀ fuel, readValue fuel cs = (broken, []) := by
    intro fuel
    cases fuel with
    | zero => rfl
    | succ fuel => rw [readValue, h]
  cases fuel with
  | zero => rfl
  | succ fuel => rw [readItems, hvalue]; rfl

/-- A list with an item is read from the item on. -/
theorem readValue_list {rs : List Reading} (hopen : Token.next cs = (.openList, after))
    (hr : r ≠ broken) (hitems : readItems fuel after = (r :: rs, rest)) :
    readValue (fuel + 1) cs = (.list (r :: rs), rest) := by
  rw [readValue, hopen]
  dsimp only
  split
  · -- a list that is closed at once has no first item
    next hclose =>
    have hhead := readItems_of_closeList hclose fuel
    rw [hitems] at hhead
    exact absurd (Option.some.inj hhead) hr
  · rw [hitems]

/-- An object with a field is read from the key on. -/
theorem readValue_object {key : String} {afterKey : List Char}
    {fields : List (Option String × Reading)} (hopen : Token.next cs = (.openObject, after))
    (hkey : Token.next after = (.text key, afterKey))
    (hfields : readFields fuel after = (fields, rest)) :
    readValue (fuel + 1) cs = (.object fields, rest) := by
  rw [readValue, hopen]
  dsimp only
  rw [hkey, hfields]

/-- The last item. -/
theorem readItems_last (hitem : readValue fuel cs = (r, after))
    (hclose : Token.next after = (.closeList, rest)) :
    readItems (fuel + 1) cs = ([r], rest) := by
  rw [readItems, hitem]
  dsimp only
  rw [hclose]

/-- An item before others. -/
theorem readItems_more {rs : List Reading} {afterComma : List Char}
    (hitem : readValue fuel cs = (r, after)) (hcomma : Token.next after = (.comma, afterComma))
    (hitems : readItems fuel afterComma = (rs, rest)) :
    readItems (fuel + 1) cs = (r :: rs, rest) := by
  rw [readItems, hitem]
  dsimp only
  rw [hcomma]
  dsimp only
  rw [hitems]

/-- The last field. -/
theorem readFields_last {key : String} {afterKey value : List Char}
    (hkey : Token.next cs = (.text key, afterKey)) (hcolon : Token.next afterKey = (.colon, value))
    (hvalue : readValue fuel value = (r, after))
    (hclose : Token.next after = (.closeObject, rest)) :
    readFields (fuel + 1) cs = ([(some key, r)], rest) := by
  rw [readFields, hkey]
  dsimp only
  rw [hcolon]
  dsimp only
  rw [hvalue]
  dsimp only
  rw [hclose]

/-- A field before others. -/
theorem readFields_more {key : String} {afterKey value afterComma : List Char}
    {fields : List (Option String × Reading)}
    (hkey : Token.next cs = (.text key, afterKey)) (hcolon : Token.next afterKey = (.colon, value))
    (hvalue : readValue fuel value = (r, after)) (hcomma : Token.next after = (.comma, afterComma))
    (hfields : readFields fuel afterComma = (fields, rest)) :
    readFields (fuel + 1) cs = ((some key, r) :: fields, rest) := by
  rw [readFields, hkey]
  dsimp only
  rw [hcolon]
  dsimp only
  rw [hvalue]
  dsimp only
  rw [hcomma]
  dsimp only
  rw [hfields]

/-! ## Along the tokens -/

theorem reading_ne_broken (j : Json) : j.reading ≠ broken := by
  cases j <;> simp [reading]

/-- The fields of an object begin with a key. -/
theorem exists_next_fieldTokens {key : String} {value : Json} {fields : List (String × Json)}
    (h : AreTokens (fieldTokens ((key, value) :: fields) ++ ts) cs) :
    ∃ rest, Token.next cs = (.text key, rest) := by
  cases fields with
  | nil =>
    obtain ⟨rest, hkey, -⟩ := h.next_mark nofun
    exact ⟨rest, hkey⟩
  | cons field fields =>
    obtain ⟨rest, hkey, -⟩ := h.next_mark nofun
    exact ⟨rest, hkey⟩

mutual

/-- **A value is read from its tokens**, and reading stops right behind them. Two units of the fuel
are enough for a token: one for a value, and one for the list or the object it begins. -/
theorem readValue_of_areTokens :
    ∀ (j : Json) (fuel : Nat) {ts : List Token} {cs : List Char}, AreTokens (j.tokens ++ ts) cs →
      NoNumber ts → 2 * j.tokens.length < fuel →
        ∃ rest, readValue fuel cs = (j.reading, rest) ∧ AreTokens ts rest
  | .null, fuel + 1, ts, cs, htext, _, _ => by
    obtain ⟨rest, hnext, hrest⟩ := htext.next_mark nofun
    exact ⟨rest, by rw [readValue, hnext, reading], hrest⟩
  | .bool b, fuel + 1, ts, cs, htext, _, _ => by
    obtain ⟨rest, hnext, hrest⟩ := htext.next_mark nofun
    exact ⟨rest, by rw [readValue, hnext, reading], hrest⟩
  | .number n, fuel + 1, ts, cs, htext, hno, _ => by
    obtain ⟨rest, hnext, hrest⟩ := htext.next (.inr hno)
    exact ⟨rest, by rw [readValue, hnext, reading], hrest⟩
  | .text s, fuel + 1, ts, cs, htext, _, _ => by
    obtain ⟨rest, hnext, hrest⟩ := htext.next_mark nofun
    exact ⟨rest, by rw [readValue, hnext, reading], hrest⟩
  | .list [], fuel + 1, ts, cs, htext, _, _ => by
    obtain ⟨after, hopen, hafter⟩ := htext.next_mark nofun
    obtain ⟨rest, hclose, hrest⟩ := hafter.next_mark nofun
    refine ⟨rest, ?_, hrest⟩
    rw [readValue, hopen]
    dsimp only
    rw [hclose, reading, readings]
  | .list (item :: items), fuel + 1, ts, cs, htext, _, hfuel => by
    -- the bracket was worth two units, of which this step takes one
    obtain ⟨after, hopen, hafter⟩ := htext.next_mark nofun
    rw [tokens, List.length_cons] at hfuel
    obtain ⟨rest, hitems, hrest⟩ :=
      readItems_of_areTokens (item :: items) fuel (List.cons_ne_nil item items) hafter (by omega)
    exact ⟨rest, readValue_list hopen (reading_ne_broken item) hitems, hrest⟩
  | .object [], fuel + 1, ts, cs, htext, _, _ => by
    obtain ⟨after, hopen, hafter⟩ := htext.next_mark nofun
    obtain ⟨rest, hclose, hrest⟩ := hafter.next_mark nofun
    refine ⟨rest, ?_, hrest⟩
    rw [readValue, hopen]
    dsimp only
    rw [hclose, reading, fieldReadings]
  | .object ((key, value) :: fields), fuel + 1, ts, cs, htext, _, hfuel => by
    obtain ⟨after, hopen, hafter⟩ := htext.next_mark nofun
    obtain ⟨afterKey, hkey⟩ := exists_next_fieldTokens hafter
    rw [tokens, List.length_cons] at hfuel
    obtain ⟨rest, hfields, hrest⟩ := readFields_of_areTokens ((key, value) :: fields) fuel
      (List.cons_ne_nil _ fields) hafter (by omega)
    exact ⟨rest, readValue_object hopen hkey hfields, hrest⟩

/-- Reading goes along the items of a list to its end. -/
theorem readItems_of_areTokens :
    ∀ (items : List Json) (fuel : Nat) {ts : List Token} {cs : List Char}, items ≠ [] →
      AreTokens (itemTokens items ++ ts) cs → 2 * (itemTokens items).length + 1 < fuel →
        ∃ rest, readItems fuel cs = (readings items, rest) ∧ AreTokens ts rest
  | [item], fuel + 1, ts, cs, _, htext, hfuel => by
    rw [itemTokens, List.length_append] at hfuel
    rw [itemTokens, List.append_assoc] at htext
    obtain ⟨after, hitem, hafter⟩ :=
      readValue_of_areTokens item fuel htext (.cons nofun) (by omega)
    obtain ⟨rest, hclose, hrest⟩ := hafter.next_mark nofun
    exact ⟨rest, readItems_last hitem hclose, hrest⟩
  | item :: next :: items, fuel + 1, ts, cs, _, htext, hfuel => by
    rw [itemTokens, List.length_append, List.length_cons] at hfuel
    rw [itemTokens, List.append_assoc] at htext
    obtain ⟨after, hitem, hafter⟩ :=
      readValue_of_areTokens item fuel htext (.cons nofun) (by omega)
    obtain ⟨more, hcomma, hmore⟩ := hafter.next_mark nofun
    obtain ⟨rest, hitems, hrest⟩ :=
      readItems_of_areTokens (next :: items) fuel (List.cons_ne_nil next items) hmore (by omega)
    exact ⟨rest, readItems_more hitem hcomma hitems, hrest⟩

/-- Reading goes along the fields of an object to its end. -/
theorem readFields_of_areTokens :
    ∀ (fields : List (String × Json)) (fuel : Nat) {ts : List Token} {cs : List Char},
      fields ≠ [] → AreTokens (fieldTokens fields ++ ts) cs →
        2 * (fieldTokens fields).length + 1 < fuel →
          ∃ rest, readFields fuel cs = (fieldReadings fields, rest) ∧ AreTokens ts rest
  | [(key, value)], fuel + 1, ts, cs, _, htext, hfuel => by
    simp only [fieldTokens, List.length_cons, List.length_append] at hfuel
    simp only [fieldTokens, List.cons_append, List.append_assoc] at htext
    obtain ⟨afterKey, hkey, hafterKey⟩ := htext.next_mark nofun
    obtain ⟨before, hcolon, hbefore⟩ := hafterKey.next_mark nofun
    obtain ⟨after, hvalue, hafter⟩ :=
      readValue_of_areTokens value fuel hbefore (.cons nofun) (by omega)
    obtain ⟨rest, hclose, hrest⟩ := hafter.next_mark nofun
    exact ⟨rest, readFields_last hkey hcolon hvalue hclose, hrest⟩
  | (key, value) :: next :: fields, fuel + 1, ts, cs, _, htext, hfuel => by
    simp only [fieldTokens, List.length_cons, List.length_append] at hfuel
    simp only [fieldTokens, List.cons_append, List.append_assoc] at htext
    obtain ⟨afterKey, hkey, hafterKey⟩ := htext.next_mark nofun
    obtain ⟨before, hcolon, hbefore⟩ := hafterKey.next_mark nofun
    obtain ⟨after, hvalue, hafter⟩ :=
      readValue_of_areTokens value fuel hbefore (.cons nofun) (by omega)
    obtain ⟨more, hcomma, hmore⟩ := hafter.next_mark nofun
    obtain ⟨rest, hfields, hrest⟩ :=
      readFields_of_areTokens (next :: fields) fuel (List.cons_ne_nil next fields) hmore (by omega)
    exact ⟨rest, readFields_more hkey hcolon hvalue hcomma hfields, hrest⟩

end

/-! ## Whole texts -/

variable {α : Type} {j : Json}

/-- Nothing but blanks is left of the text of a value. -/
theorem IsText.ofChars (h : j.IsText cs) :
    ∃ rest, Reading.ofChars cs = (j.reading, rest) ∧ Blanks rest := by
  have hlength := AreTokens.length_le h
  rw [IsText, ← List.append_nil j.tokens] at h
  obtain ⟨rest, hread, hrest⟩ :=
    readValue_of_areTokens j (2 * cs.length + 2) h .nil (by omega)
  cases hrest with
  | nil hblanks => exact ⟨rest, hread, hblanks⟩

/-- **Decoding a text of a value is decoding its reading.** -/
theorem IsText.decode (h : j.IsText cs) (value : Reading → Except DecodeError α) :
    Json.decode value (String.ofList cs) = value j.reading := by
  obtain ⟨rest, hread, hblanks⟩ := h.ofChars
  unfold Json.decode
  rw [String.toList_ofList, hread]
  dsimp only
  cases value j.reading with
  | error e => rfl
  | ok a =>
    show (if rest.all Token.isBlank = true then _ else _) = _
    rw [if_pos (List.all_eq_true.2 hblanks)]
    rfl

/-- **What is refused as it is read is refused as a text**, even if the text stops being JSON
behind the place of the refusal. -/
theorem decode_of_error {value : Reading → Except DecodeError α} {s : String} {r : Reading}
    {rest : List Char} {e : DecodeError} (hread : Reading.ofChars s.toList = (r, rest))
    (h : value r = .error e) : Json.decode value s = .error e := by
  unfold Json.decode
  rw [hread]
  dsimp only
  rw [h]
  rfl

/-! ## Lists of texts -/

/-- The text of a list, from texts of its items and blanks around it. -/
def listText (before : List Char) (texts : List (List Char)) (behind : List Char) : List Char :=
  before ++ '[' :: ([','].intercalate texts ++ ']' :: behind)

/-- Texts of items, with commas between them and a bracket behind them, are a text of the items.
They are decoded as items just as they are decoded alone. -/
theorem exists_areTokens_items {texts : List (List Char)} (hne : texts ≠ [])
    (h : ∀ cs ∈ texts, ∃ j : Json, j.IsText cs) (hrest : AreTokens ts rest)
    (item : Reading → Except DecodeError α) :
    ∃ (first : Json) (items : List Json),
      AreTokens (itemTokens (first :: items) ++ ts) ([','].intercalate texts ++ ']' :: rest) ∧
      (readings (first :: items)).mapM item =
        texts.mapM fun cs => Json.decode item (String.ofList cs) := by
  induction texts with
  | nil => exact absurd rfl hne
  | cons cs texts ih =>
    obtain ⟨j, hj⟩ := h cs (List.mem_cons_self ..)
    cases texts with
    | nil =>
      refine ⟨j, [], ?_, ?_⟩
      · rw [List.intercalate_singleton, itemTokens, List.append_assoc]
        exact hj.append (hrest.mark .closeList)
      · rw [readings, readings, List.mapM_cons, List.mapM_cons, hj.decode]
        rfl
    | cons next texts =>
      obtain ⟨first, items, htokens, hitems⟩ :=
        ih (List.cons_ne_nil next texts) fun cs hcs => h cs (List.mem_cons_of_mem _ hcs)
      refine ⟨j, first :: items, ?_, ?_⟩
      · rw [List.intercalate_cons_cons, itemTokens, List.append_assoc, List.append_assoc,
          List.append_assoc]
        exact hj.append (htokens.mark .comma)
      · rw [readings, List.mapM_cons, List.mapM_cons, hj.decode, hitems]

/-- **A list of texts is decoded text by text.** -/
theorem decode_listText {β : Type} {texts : List (List Char)} {before behind : List Char}
    (hne : texts ≠ []) (h : ∀ cs ∈ texts, ∃ j : Json, j.IsText cs) (hbefore : Blanks before)
    (hbehind : Blanks behind) (item : Reading → Except DecodeError α)
    (finish : List α → Except DecodeError β) :
    Json.decode (fun r => do finish (← r.items item))
      (String.ofList (listText before texts behind)) =
    (do finish (← texts.mapM fun cs => Json.decode item (String.ofList cs))) := by
  obtain ⟨first, items, htokens, hitems⟩ :=
    exists_areTokens_items hne h (.nil hbehind) item
  have htext : (list (first :: items)).IsText (listText before texts behind) := by
    rw [List.append_nil] at htokens
    exact (htokens.mark .openList).pad hbefore
  rw [htext.decode]
  show (do finish (← (readings (first :: items)).mapM item)) = _
  rw [hitems]

end DatePartition.Json
