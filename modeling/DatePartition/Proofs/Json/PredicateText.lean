import DatePartition.Proofs.Json.Request
import DatePartition.Proofs.Json.Written

/-!
# The texts of clauses and predicates

- `Clause.decode_of_hasNumbers`, `Clause.decode_of_not_hasNumbers`: **a clause is decoded by
  building it**, or refused for the first number in the text that is none of the calendar.
- `Predicate.decode_listText_of_ok`, `Predicate.decode_listText_of_error`: **a list is decoded
  clause by clause.**
- `Clause.ofReading_of_hasStrayKey`: an object with an unknown or a repeated key is no clause.
- `Predicate.decode_of_texts`: all of this for all texts.
-/

namespace DatePartition

open Json Selection

/-! ## Clauses -/

/-- The characters are a text of a clause, whatever its numbers are. -/
def IsClauseText (cs : List Char) : Prop :=
  ∃ (n : Numbers) (j : Json) (fields : List Field), n.IsWritten j fields ∧ j.IsText cs

namespace Clause

variable {n : Numbers} {j : Json} {fields : List Field} {cs : List Char}

/-- **A clause is decoded by building it**, if its numbers are those of a request. -/
theorem decode_of_hasNumbers {sel : Selection} (h : n.IsWritten j fields) (htext : j.IsText cs)
    (hsel : sel.HasNumbers n) :
    decode ofReading (String.ofList cs) = (ofSelection sel).mapError .predicate := by
  rw [htext.decode]
  show Selection.ofReading j.reading >>= _ = _
  rw [h.ofReading_of_hasNumbers hsel]
  rfl

/-- **A clause is refused for its first number that is none of the calendar**, if its numbers are
those of no request. -/
theorem decode_of_not_hasNumbers (h : n.IsWritten j fields) (htext : j.IsText cs)
    (hnone : ¬ ∃ sel : Selection, sel.HasNumbers n) :
    ∃ e, (fields.flatMap Field.entries).findSome? Entry.fault? = some e ∧
      decode ofReading (String.ofList cs) = .error (.date e) := by
  cases hfault : (fields.flatMap Field.entries).findSome? Entry.fault? with
  | none => exact absurd (h.exists_hasNumbers hfault) hnone
  | some e =>
    refine ⟨e, rfl, ?_⟩
    rw [htext.decode]
    show Selection.ofReading j.reading >>= _ = _
    rw [h.ofReading_of_fault hfault]
    rfl

/-- The keys of a clause. -/
def keys : List String := ["year", "months", "days"]

/-- An object with an unknown or a repeated key is no clause. -/
theorem ofReading_of_hasStrayKey {fields : List (Option String × Reading)}
    (h : HasStrayKey keys (Reading.keys fields)) : ∃ e, ofReading (.object fields) = .error e := by
  obtain ⟨e, he⟩ := Reading.record_of_hasStrayKey Selection.Draft.apart "struct ClauseRepr" {}
    Selection.Draft.finish h
  refine ⟨e, ?_⟩
  show Selection.ofReading _ >>= _ = _
  rw [Selection.ofReading, he]
  rfl

end Clause

/-! ## Predicates -/

namespace Predicate

section

variable {texts : List (List Char)} {before behind : List Char}

theorem decode_listText (hne : texts ≠ []) (h : ∀ cs ∈ texts, IsClauseText cs)
    (hbefore : Blanks before) (hbehind : Blanks behind) :
    decode ofReading (String.ofList (listText before texts behind)) =
      texts.mapM (fun cs => decode Clause.ofReading (String.ofList cs)) >>= fun clauses =>
        (ofClauses clauses).mapError .predicate :=
  Json.decode_listText hne (fun cs hcs => let ⟨_, j, _, _, hj⟩ := h cs hcs; ⟨j, hj⟩) hbefore
    hbehind Clause.ofReading fun clauses => (ofClauses clauses).mapError .predicate

/-- **Clauses that are decoded are a predicate**, in the order of the text. -/
theorem decode_listText_of_ok {clauses : List Clause} (hne : texts ≠ [])
    (h : ∀ cs ∈ texts, IsClauseText cs) (hbefore : Blanks before) (hbehind : Blanks behind)
    (hclauses : texts.map (fun cs => decode Clause.ofReading (String.ofList cs)) =
      clauses.map .ok) :
    ∃ p : Predicate, p.clauses = clauses ∧
      decode ofReading (String.ofList (listText before texts behind)) = .ok p := by
  have hmapM : texts.mapM (fun cs => decode Clause.ofReading (String.ofList cs)) = .ok clauses := by
    calc
      _ = (texts.map fun cs => decode Clause.ofReading (String.ofList cs)).mapM id :=
        List.mapM_map.symm
      _ = clauses.mapM fun c => .ok (id c) := by rw [hclauses, List.mapM_map]; rfl
      _ = .ok (clauses.map id) := List.mapM_pure
      _ = .ok clauses := by rw [List.map_id]
  have hsome : clauses ≠ [] := by
    rintro rfl
    exact hne (List.map_eq_nil_iff.1 hclauses)
  refine ⟨⟨clauses, hsome⟩, rfl, ?_⟩
  rw [decode_listText hne h hbefore hbehind, hmapM]
  exact congrArg (Except.mapError _) (ofClauses_clauses ⟨clauses, hsome⟩)

/-- **Clauses are refused for the first one that is.** -/
theorem decode_listText_of_error {front back : List (List Char)} {cs : List Char} {e : DecodeError}
    (htexts : texts = front ++ cs :: back) (h : ∀ cs ∈ texts, IsClauseText cs)
    (hbefore : Blanks before) (hbehind : Blanks behind)
    (hfront : ∀ t ∈ front, ∃ c, decode Clause.ofReading (String.ofList t) = .ok c)
    (herror : decode Clause.ofReading (String.ofList cs) = .error e) :
    decode ofReading (String.ofList (listText before texts behind)) = .error e := by
  have hfault : fault? (texts.mapM fun cs => decode Clause.ofReading (String.ofList cs)) =
      some e := by
    have hnone : front.findSome? (fun t =>
        fault? (decode Clause.ofReading (String.ofList t))) = none :=
      List.findSome?_eq_none_iff.2 fun t ht => fault?_eq_none_iff.2 (hfront t ht)
    rw [fault?_mapM, htexts, List.findSome?_append, hnone, List.findSome?_cons, herror]
    rfl
  have hne : texts ≠ [] := by
    rw [htexts]
    exact List.append_ne_nil_of_right_ne_nil front (List.cons_ne_nil cs back)
  rw [decode_listText hne h hbefore hbehind, fault?_eq_some_iff.1 hfault]
  rfl

/-- **A list without clauses is refused.** -/
theorem decode_of_isText_nil {cs : List Char} (h : (Json.list []).IsText cs) :
    decode ofReading (String.ofList cs) = .error (.predicate .noClauses) := by
  rw [h.decode]
  rfl

end

/-- **Decoding a clause is building it, whatever the spelling.**

A text of a clause is decoded by building the clause from its numbers, or else refused for the first
number in the text that is none of the calendar. A list of such texts is decoded clause by clause:
it is the predicate with the clauses in their order, or refused for the first clause that is
refused, or refused because there is none. An object with an unknown or a repeated key is no clause,
even if the text stops being JSON inside of it, and it is no part of a predicate. -/
theorem decode_of_texts :
    (∀ (n : Numbers) (j : Json) (fields : List Field) (cs : List Char),
      n.IsWritten j fields → j.IsText cs →
        (∀ sel : Selection, sel.HasNumbers n →
          decode Clause.ofReading (String.ofList cs) =
            (Clause.ofSelection sel).mapError .predicate) ∧
        ((¬ ∃ sel : Selection, sel.HasNumbers n) →
          ∃ e, (fields.flatMap Field.entries).findSome? Entry.fault? = some e ∧
            decode Clause.ofReading (String.ofList cs) = .error (.date e))) ∧
    (∀ (texts : List (List Char)) (before behind : List Char), texts ≠ [] →
      (∀ cs ∈ texts, IsClauseText cs) → Blanks before → Blanks behind →
        (∀ clauses : List Clause,
          texts.map (fun cs => decode Clause.ofReading (String.ofList cs)) = clauses.map .ok →
            ∃ p : Predicate, p.clauses = clauses ∧
              decode ofReading (String.ofList (listText before texts behind)) = .ok p) ∧
        (∀ (front back : List (List Char)) (cs : List Char) (e : DecodeError),
          texts = front ++ cs :: back →
          (∀ t ∈ front, ∃ c, decode Clause.ofReading (String.ofList t) = .ok c) →
          decode Clause.ofReading (String.ofList cs) = .error e →
            decode ofReading (String.ofList (listText before texts behind)) = .error e)) ∧
    (∀ cs : List Char, (Json.list []).IsText cs →
      decode ofReading (String.ofList cs) = .error (.predicate .noClauses)) ∧
    (∀ (fields : List (String × Json)) (cs : List Char), (Json.object fields).IsText cs →
      HasStrayKey Clause.keys (fields.map Prod.fst) →
        ∃ e, decode Clause.ofReading (String.ofList cs) = .error e) ∧
    (∀ (s : String) (fields : List (Option String × Reading)) (rest : List Char),
      HasStrayKey Clause.keys (Reading.keys fields) →
        (Reading.ofChars s.toList = (.object fields, rest) →
          ∃ e, decode Clause.ofReading s = .error e) ∧
        (∀ items, Reading.ofChars s.toList = (.list items, rest) → .object fields ∈ items →
          ∃ e, decode ofReading s = .error e)) := by
  refine ⟨fun n j fields cs h htext => ⟨fun sel hsel => ?_, fun hnone => ?_⟩,
    fun texts before behind hne h hbefore hbehind => ⟨fun clauses hclauses => ?_, ?_⟩,
    fun cs h => decode_of_isText_nil h, fun fields cs htext hstray => ?_,
    fun s fields rest hstray => ⟨fun hread => ?_, ?_⟩⟩
  · exact Clause.decode_of_hasNumbers h htext hsel
  · exact Clause.decode_of_not_hasNumbers h htext hnone
  · exact decode_listText_of_ok hne h hbefore hbehind hclauses
  · intro front back cs e htexts hfront herror
    exact decode_listText_of_error htexts h hbefore hbehind hfront herror
  · rw [htext.decode]
    exact Clause.ofReading_of_hasStrayKey (by rwa [Reading.keys_fieldReadings])
  · obtain ⟨e, he⟩ := Clause.ofReading_of_hasStrayKey hstray
    exact ⟨e, decode_of_error hread he⟩
  · intro items hread hmem
    obtain ⟨e, he⟩ := exists_mapM_eq_error hmem (Clause.ofReading_of_hasStrayKey hstray)
    refine ⟨e, decode_of_error hread ?_⟩
    show items.mapM Clause.ofReading >>= _ = _
    rw [he]
    rfl

/-- A clause with its fields in another order, one with two faults, lists of them, a list without
clauses, and an object with a repeated key. -/
theorem decode_of_texts_samples :
    let october : Month := ⟨10, by decide, by decide⟩
    let days : List Day := [⟨22, by decide, by decide⟩, ⟨23, by decide, by decide⟩]
    let clause : Clause := ⟨⟨2019, by decide, by decide⟩, .daysOf october days, by decide⟩
    let first := "\x7b\"days\":[23,22],\"months\":[10],\"year\":2019\x7d"
    let second := "\x7b\"months\":[13],\"year\":0\x7d"
    let third := "\x7b\"year\":2019,\"year\":2020\x7d"
    decode Clause.ofReading first = .ok clause ∧
    decode Clause.ofReading second = .error (.date (.invalidMonth 13)) ∧
    decode ofReading ("[" ++ first ++ "]") = .ok ⟨[clause], by decide⟩ ∧
    decode ofReading ("[" ++ first ++ "," ++ second ++ "]") = .error (.date (.invalidMonth 13)) ∧
    decode ofReading "[]" = .error (.predicate .noClauses) ∧
    (∃ e, decode Clause.ofReading third = .error e) ∧
    (∃ e, decode ofReading ("[" ++ third ++ "]") = .error e) := by
  intro october days clause first second third
  obtain ⟨hclause, hlist, hempty, hstray, hread⟩ := decode_of_texts
  -- the texts are those that the writer makes of these values
  let fields₁ : List Field := [.days (.items [23, 22]), .months (.items [10]), .year 2019]
  let fields₂ : List Field := [.months (.items [13]), .year 0]
  let value₁ : Json := .object (fields₁.map fun f => (f.name, f.json))
  let value₂ : Json := .object (fields₂.map fun f => (f.name, f.json))
  let value₃ : Json := .object [("year", .number 2019), ("year", .number 2020)]
  have h₁ : Numbers.IsWritten ⟨2019, [10], [23, 22]⟩ value₁ fields₁ :=
    @Numbers.IsWritten.object _ (some (.items [10])) (some (.items [23, 22])) _ rfl rfl
      (show fields₁.Perm _ by decide)
  have h₂ : Numbers.IsWritten ⟨0, [13], []⟩ value₂ fields₂ :=
    @Numbers.IsWritten.object _ (some (.items [13])) none _ rfl rfl
      (show fields₂.Perm _ by decide)
  have htext₁ : value₁.IsText (value₁.write .none 0) := isText_write Spacing.isBlank_none
    (by simp [value₁, fields₁, Field.json, Listing.json, NumbersFit, FieldsFit, ItemsFit,
      Significand.greatest])
  have htext₂ : value₂.IsText (value₂.write .none 0) := isText_write Spacing.isBlank_none
    (by simp [value₂, fields₂, Field.json, Listing.json, NumbersFit, FieldsFit, ItemsFit,
      Significand.greatest])
  have htext₃ : value₃.IsText (value₃.write .none 0) := isText_write Spacing.isBlank_none
    (by simp [value₃, NumbersFit, FieldsFit, Significand.greatest])
  have hclause₁ : decode Clause.ofReading value₁.compact = .ok clause :=
    (hclause _ _ _ _ h₁ htext₁).1 ⟨clause.year, [october], days.reverse⟩ ⟨rfl, rfl, rfl⟩
  have hclause₂ : decode Clause.ofReading value₂.compact = .error (.date (.invalidMonth 13)) := by
    have hnone : ¬ ∃ sel : Selection, sel.HasNumbers ⟨0, [13], []⟩ := by
      rintro ⟨sel, hyear, -⟩
      exact absurd (hyear ▸ sel.year.one_le) (by decide)
    obtain ⟨e, he, herror⟩ := (hclause _ _ _ _ h₂ htext₂).2 hnone
    cases he
    exact herror
  have htexts : ∀ cs ∈ [value₁.write .none 0, value₂.write .none 0], IsClauseText cs := by
    intro cs hcs
    rcases List.mem_cons.1 hcs with rfl | hcs
    · exact ⟨_, _, _, h₁, htext₁⟩
    · rw [List.mem_singleton.1 hcs]
      exact ⟨_, _, _, h₂, htext₂⟩
  obtain ⟨p, hp, hlist₁⟩ := (hlist [value₁.write .none 0] [] [] (by decide)
    (fun cs hcs => htexts cs (List.mem_append_left _ hcs)) Blanks.nil Blanks.nil).1 [clause]
    (congrArg ([·]) hclause₁)
  have hlist₂ := (hlist _ [] [] (by decide) htexts Blanks.nil Blanks.nil).2
    [value₁.write .none 0] [] _ _ rfl (by simpa using ⟨clause, hclause₁⟩) hclause₂
  have hitem : (Json.list [value₃]).IsText ((Json.list [value₃]).write .none 0) :=
    isText_write Spacing.isBlank_none
      (by simp [value₃, NumbersFit, FieldsFit, ItemsFit, Significand.greatest])
  obtain ⟨afterList, hreadList, -⟩ := hitem.ofChars
  refine ⟨hclause₁, hclause₂, hlist₁.trans ?_, hlist₂, ?_, ?_, ?_⟩
  · exact congrArg Except.ok (Predicate.ext hp)
  · exact hempty _ (isText_write Spacing.isBlank_none trivial)
  · exact hstray _ _ htext₃ (.inr (by decide))
  · have hcompact : "[" ++ third ++ "]" = (Json.list [value₃]).compact := rfl
    rw [hcompact]
    exact (hread _ (fieldReadings [("year", .number 2019), ("year", .number 2020)]) afterList
      (.inr (by decide))).2 _ (by rwa [compact, String.toList_ofList]) (List.mem_cons_self ..)

end Predicate

end DatePartition
