import DatePartition.Proofs.Json.Grammar

/-!
# Written values are read again

What the writer makes of a value is one of its texts, for every spacing of blanks.

- `Spacing.IsBlank`: nothing but blanks stands around elements and after colons.
- `NumbersFit`: all numbers in a value fit 64 bits; longer ones would be read as doubles.
- `itemsText`, `fieldsText`: what stands between the brackets of a list and of an object.
- `isText_write`: **what is written of a value is a text of it**; `areTokens_itemsText` and
  `areTokens_fieldsText` follow the items and the fields to the end.
- `decode_compact`, `decode_pretty`: decoding a written value is decoding its reading.
-/

namespace DatePartition.Json

variable {spacing : Spacing} {rest : List Char} {depth : Nat}

/-! ## What is followed -/

/-- Only blanks stand between the parts of a value. -/
structure Spacing.IsBlank (spacing : Spacing) : Prop where
  line : ∀ depth, Blanks (spacing.line depth)
  afterColon : Blanks spacing.afterColon

theorem Spacing.isBlank_none : Spacing.none.IsBlank where
  line _ c hc := by cases hc
  afterColon c hc := by cases hc

theorem Spacing.isBlank_lines : Spacing.lines.IsBlank where
  line depth c hc := by
    rcases List.mem_cons.1 hc with rfl | hspace
    · rfl
    · rw [List.eq_of_mem_replicate hspace]
      rfl
  afterColon c hc := by
    rw [List.mem_singleton.1 hc]
    rfl

mutual

/-- All numbers in a value fit 64 bits. -/
def NumbersFit : Json → Prop
  | null => True
  | bool _ => True
  | number n => n ≤ Significand.greatest
  | text _ => True
  | list items => ItemsFit items
  | object fields => FieldsFit fields

/-- All numbers in the items of a list fit 64 bits. -/
def ItemsFit : List Json → Prop
  | [] => True
  | item :: items => item.NumbersFit ∧ ItemsFit items

/-- All numbers in the fields of an object fit 64 bits. -/
def FieldsFit : List (String × Json) → Prop
  | [] => True
  | (_, value) :: fields => value.NumbersFit ∧ FieldsFit fields

end

/-! ## Along the written text -/

/-- The text of a list behind its bracket, and of the further items behind a comma. -/
def itemsText (spacing : Spacing) (depth : Nat) : List Json → List Char
  | [] => []
  | item :: items =>
    spacing.line (depth + 1) ++ (item.write spacing (depth + 1) ++ writeItems spacing depth items)

/-- The text of an object behind its bracket, and of the further fields behind a comma. -/
def fieldsText (spacing : Spacing) (depth : Nat) : List (String × Json) → List Char
  | [] => []
  | (key, value) :: fields =>
    spacing.line (depth + 1) ++ (quote key ++ ':' :: (spacing.afterColon ++
      (value.write spacing (depth + 1) ++ writeFields spacing depth fields)))

theorem write_list {items : List Json} (h : items ≠ []) :
    (list items).write spacing depth = '[' :: itemsText spacing depth items := by
  cases items with
  | nil => exact absurd rfl h
  | cons item items => simp [write, itemsText]

theorem writeItems_of_ne_nil {items : List Json} (h : items ≠ []) :
    writeItems spacing depth items = ',' :: itemsText spacing depth items := by
  cases items with
  | nil => exact absurd rfl h
  | cons item items => simp [writeItems, itemsText]

theorem write_object {fields : List (String × Json)} (h : fields ≠ []) :
    (object fields).write spacing depth = '\x7b' :: fieldsText spacing depth fields := by
  cases fields with
  | nil => exact absurd rfl h
  | cons field fields => simp [write, fieldsText]

theorem writeFields_of_ne_nil {fields : List (String × Json)} (h : fields ≠ []) :
    writeFields spacing depth fields = ',' :: fieldsText spacing depth fields := by
  cases fields with
  | nil => exact absurd rfl h
  | cons field fields => simp [writeFields, fieldsText]

/-- A key stands on a new line. -/
theorem areTokens_key (hs : spacing.IsBlank) {key : String} {ts : List Token}
    (h : AreTokens ts rest) :
    AreTokens (.text key :: ts) (spacing.line depth ++ (quote key ++ rest)) :=
  (h.token (.text (areEscaped_flatMap_escape key.toList))).pad (hs.line depth)

mutual

/-- **What is written of a value is a text of it**, also before other tokens. -/
theorem areTokens_write (hs : spacing.IsBlank) :
    ∀ (j : Json) (depth : Nat) {ts : List Token} {rest : List Char}, j.NumbersFit →
      AreTokens ts rest → AreTokens (j.tokens ++ ts) (j.write spacing depth ++ rest)
  | .null, _, _, _, _, hrest => hrest.token .null
  | .bool true, _, _, _, _, hrest => hrest.token .true
  | .bool false, _, _, _, _, hrest => hrest.token .false
  | .number n, _, _, _, hfit, hrest => hrest.token (.number hfit)
  | .text s, _, _, _, _, hrest => by
    rw [write, quote]
    exact hrest.token (.text (areEscaped_flatMap_escape s.toList))
  | .list [], _, _, _, _, hrest => (hrest.mark .closeList).mark .openList
  | .list (item :: items), depth, _, _, hfit, hrest => by
    have hne : item :: items ≠ [] := List.cons_ne_nil item items
    rw [write_list hne]
    exact (areTokens_itemsText hs (item :: items) depth hne hfit hrest).mark .openList
  | .object [], _, _, _, _, hrest => (hrest.mark .closeObject).mark .openObject
  | .object (field :: fields), depth, _, _, hfit, hrest => by
    have hne : field :: fields ≠ [] := List.cons_ne_nil field fields
    rw [write_object hne]
    exact (areTokens_fieldsText hs (field :: fields) depth hne hfit hrest).mark .openObject

/-- The items of a list are written to its end. -/
theorem areTokens_itemsText (hs : spacing.IsBlank) :
    ∀ (items : List Json) (depth : Nat) {ts : List Token} {rest : List Char}, items ≠ [] →
      ItemsFit items → AreTokens ts rest →
        AreTokens (itemTokens items ++ ts) (itemsText spacing depth items ++ rest)
  | [item], depth, _, _, _, hfit, hrest => by
    simp only [itemsText, writeItems, itemTokens, List.append_assoc]
    have hclose := (hrest.mark .closeList).pad (hs.line depth)
    exact (areTokens_write hs item (depth + 1) hfit.1 hclose).pad (hs.line (depth + 1))
  | item :: next :: items, depth, _, _, _, hfit, hrest => by
    have hne : next :: items ≠ [] := List.cons_ne_nil next items
    rw [itemsText, writeItems_of_ne_nil hne, itemTokens]
    simp only [List.append_assoc]
    have hmore := (areTokens_itemsText hs (next :: items) depth hne hfit.2 hrest).mark .comma
    exact (areTokens_write hs item (depth + 1) hfit.1 hmore).pad (hs.line (depth + 1))

/-- The fields of an object are written to its end. -/
theorem areTokens_fieldsText (hs : spacing.IsBlank) :
    ∀ (fields : List (String × Json)) (depth : Nat) {ts : List Token} {rest : List Char},
      fields ≠ [] → FieldsFit fields → AreTokens ts rest →
        AreTokens (fieldTokens fields ++ ts) (fieldsText spacing depth fields ++ rest)
  | [(key, value)], depth, _, _, _, hfit, hrest => by
    simp only [fieldsText, writeFields, fieldTokens, List.append_assoc, List.cons_append]
    have hclose := (hrest.mark .closeObject).pad (hs.line depth)
    have hvalue := areTokens_write hs value (depth + 1) hfit.1 hclose
    exact areTokens_key hs ((hvalue.pad hs.afterColon).mark .colon)
  | (key, value) :: next :: fields, depth, _, _, _, hfit, hrest => by
    have hne : next :: fields ≠ [] := List.cons_ne_nil next fields
    rw [fieldsText, writeFields_of_ne_nil hne, fieldTokens]
    simp only [List.append_assoc, List.cons_append]
    have hmore := (areTokens_fieldsText hs (next :: fields) depth hne hfit.2 hrest).mark .comma
    have hvalue := areTokens_write hs value (depth + 1) hfit.1 hmore
    exact areTokens_key hs ((hvalue.pad hs.afterColon).mark .colon)

end

/-! ## Whole texts -/

variable {α : Type} {j : Json}

/-- **What is written of a value is a text of it.** -/
theorem isText_write (hs : spacing.IsBlank) (hfit : j.NumbersFit) :
    j.IsText (j.write spacing 0) := by
  have hwrite : AreTokens (j.tokens ++ []) (j.write spacing 0 ++ []) :=
    areTokens_write hs j 0 hfit (.nil Blanks.nil)
  rwa [List.append_nil, List.append_nil] at hwrite

/-- Decoding a written value is decoding its reading. -/
theorem decode_write (hs : spacing.IsBlank) (hfit : j.NumbersFit)
    (value : Reading → Except DecodeError α) :
    decode value (String.ofList (j.write spacing 0)) = value j.reading :=
  (isText_write hs hfit).decode value

theorem decode_compact (hfit : j.NumbersFit) (value : Reading → Except DecodeError α) :
    decode value j.compact = value j.reading :=
  decode_write Spacing.isBlank_none hfit value

theorem decode_pretty (hfit : j.NumbersFit) (value : Reading → Except DecodeError α) :
    decode value j.pretty = value j.reading :=
  decode_write Spacing.isBlank_lines hfit value

end DatePartition.Json
