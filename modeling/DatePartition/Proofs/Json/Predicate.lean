import DatePartition.Json.Codec
import DatePartition.Proofs.Json.Record
import DatePartition.Proofs.Json.Written
import DatePartition.Proofs.Predicate.Selection

/-!
# Predicates as JSON

Each kind of value is followed from what is written to what is decoded.

- `Year.ofReading_toJson` and its siblings: the numbers of the calendar, which fit their bounds.
- `Reading.items_map`, `Reading.optional_items_map`: lists item by item.
- `Reading.fillFields_list`: records field by field; a list may be left out if it is empty.
- `Selection.ofReading_toJson`: a request is read as it was written.
- `Clause.ofSelection_selection`: **the request that a clause is written as is granted as that
  clause**.
- `Predicate.decode_json`: **a predicate and a clause are decoded from their text**, with blanks or
  without.
-/

namespace DatePartition

open Json

/-! ## Numbers -/

/-- A number within its bound is taken to the calendar. -/
theorem Reading.natural_bind_of_le {α : Type} {ofNumber : Nat → Except DateError α}
    {n greatest : Nat} (hle : n ≤ greatest) (expected : String) :
    (do (ofNumber (← (number (.natural n)).natural greatest expected)).mapError DecodeError.date) =
      (ofNumber n).mapError DecodeError.date := by
  have hnatural : (number (.natural n)).natural greatest expected = .ok n := if_pos hle
  rw [hnatural]
  rfl

theorem Year.ofReading_natural {n : Nat} (h : n ≤ 65535) :
    ofReading (.number (.natural n)) = (ofNumber n).mapError .date :=
  Reading.natural_bind_of_le h "u16"

theorem Month.ofReading_natural {n : Nat} (h : n ≤ 255) :
    ofReading (.number (.natural n)) = (ofNumber n).mapError .date :=
  Reading.natural_bind_of_le h "u8"

theorem Day.ofReading_natural {n : Nat} (h : n ≤ 255) :
    ofReading (.number (.natural n)) = (ofNumber n).mapError .date :=
  Reading.natural_bind_of_le h "u8"

theorem Year.ofReading_toJson (y : Year) : ofReading y.toJson.reading = .ok y := by
  rw [toJson, reading, ofReading_natural (Nat.le_trans y.number_le (by decide)), ofNumber_number]
  rfl

theorem Month.ofReading_toJson (m : Month) : ofReading m.toJson.reading = .ok m := by
  rw [toJson, reading, ofReading_natural (Nat.le_trans m.number_le (by decide)), ofNumber_number]
  rfl

theorem Day.ofReading_toJson (d : Day) : ofReading d.toJson.reading = .ok d := by
  rw [toJson, reading, ofReading_natural (Nat.le_trans d.number_le (by decide)), ofNumber_number]
  rfl

/-! ## Lists and records -/

/-- What is decoded item by item is decoded as a list. -/
theorem Reading.items_map {α : Type} {toJson : α → Json}
    {item : Reading → Except DecodeError α} (h : ∀ a, item (toJson a).reading = .ok a)
    (as : List α) : (Json.list (as.map toJson)).reading.items item = .ok as := by
  induction as with
  | nil => rfl
  | cons a as ih =>
    change (readings (as.map toJson)).mapM item = .ok as at ih
    show ((toJson a).reading :: readings (as.map toJson)).mapM item = .ok (a :: as)
    rw [List.mapM_cons, h, ih]
    rfl

/-- A list is read also where `null` could stand for it. -/
theorem Reading.optional_items_map {α : Type} {toJson : α → Json}
    {item : Reading → Except DecodeError α} (h : ∀ a, item (toJson a).reading = .ok a)
    (as : List α) :
    (Json.list (as.map toJson)).reading.optional (fun r => r.items item) = .ok (some as) := by
  show ((Json.list (as.map toJson)).reading.items item).map some = .ok (some as)
  rw [items_map h]
  rfl

/-- A list that is left out if it is empty is read either way. -/
theorem Reading.fillFields_list {σ α : Type} {slots : List (Slot σ)} {slot : Slot σ} {s s' : σ}
    {name : String} {toJson : α → Json} {items : List α} [Decidable (items = [])]
    {fields : List (String × Json)} (hfind : (slots.find? fun slot => slot.name = name) = some slot)
    (hfree : slot.isFilled s = false) (hnone : items = [] → s = s')
    (hfill : items ≠ [] → slot.fill s (Json.list (items.map toJson)).reading = .ok s') :
    fillFields slots s (fieldReadings
      ((if items = [] then [] else [(name, Json.list (items.map toJson))]) ++ fields)) =
    fillFields slots s' (fieldReadings fields) := by
  split
  · next h => rw [List.nil_append, hnone h]
  · next h => exact fillFields_cons hfind hfree (hfill h)

namespace Selection

namespace Draft

theorem fill_yearSlot (s : Draft) (y : Year) :
    yearSlot.fill s y.toJson.reading = .ok { s with year := some y } := by
  unfold yearSlot
  dsimp only
  rw [Year.ofReading_toJson]
  rfl

theorem fill_monthsSlot (s : Draft) (months : List Month) :
    monthsSlot.fill s (Json.list (months.map Month.toJson)).reading =
      .ok { s with months := some months } := by
  unfold monthsSlot
  dsimp only
  rw [Reading.optional_items_map Month.ofReading_toJson]
  rfl

theorem fill_daysSlot (s : Draft) (days : List Day) :
    daysSlot.fill s (Json.list (days.map Day.toJson)).reading =
      .ok { s with days := some days } := by
  unfold daysSlot
  dsimp only
  rw [Reading.optional_items_map Day.ofReading_toJson]
  rfl

end Draft

/-- What is known of a request once its fields were read. Lists that were left out are unknown. -/
def draft (s : Selection) : Draft where
  year := some s.year
  months := if s.months = [] then none else some s.months
  days := if s.days = [] then none else some s.days

/-- A list that is unknown when it is empty is empty when it is unknown. -/
theorem getD_ite_nil {α : Type} (as : List α) [Decidable (as = [])] :
    (if as = [] then none else some as).getD [] = as := by
  split
  · next hnil => rw [hnil]; rfl
  · rfl

/-- Nothing but a year has to be known. -/
theorem ofReading_of_fillFields {s : Selection} {fields : List (Option String × Reading)}
    (h : Reading.fillFields Draft.slots {} fields = .ok s.draft) :
    ofReading (.object fields) = .ok s := by
  show (do Draft.finish true (← Reading.fillFields Draft.slots {} fields)) = .ok s
  rw [h]
  show Except.ok (⟨s.year, Option.getD (ite ..) [], Option.getD (ite ..) []⟩ : Selection) = .ok s
  rw [getD_ite_nil, getD_ite_nil]

/-- **A request is read as it was written**, field by field. -/
theorem ofReading_toJson (s : Selection) : ofReading s.toJson.reading = .ok s := by
  -- the year is there always; each list is read unless it is empty
  have hmonths : ∀ fields, Reading.fillFields Draft.slots { year := some s.year } (fieldReadings
      ((if s.months = [] then [] else [("months", .list (s.months.map Month.toJson))]) ++ fields)) =
      Reading.fillFields Draft.slots { s.draft with days := none } (fieldReadings fields) := by
    intro fields
    refine Reading.fillFields_list rfl rfl (fun h => ?_) fun h => ?_
    · simp [draft, h]
    · rw [Draft.fill_monthsSlot]
      simp [draft, h]
  have hdays : Reading.fillFields Draft.slots { s.draft with days := none } (fieldReadings
      ((if s.days = [] then [] else [("days", .list (s.days.map Day.toJson))]) ++ [])) =
      Reading.fillFields Draft.slots s.draft (fieldReadings []) := by
    refine Reading.fillFields_list rfl rfl (fun h => ?_) fun h => ?_
    · simp [draft, h]
    · rw [Draft.fill_daysSlot]
      simp [draft, h]
  rw [List.append_nil] at hdays
  refine ofReading_of_fillFields ?_
  calc
    _ = Reading.fillFields Draft.slots { year := some s.year } (fieldReadings (_ ++ _)) :=
      Reading.fillFields_cons rfl rfl (Draft.fill_yearSlot {} s.year)
    _ = Reading.fillFields Draft.slots { s.draft with days := none } (fieldReadings _) := hmonths _
    _ = .ok s.draft := hdays

end Selection

/-! ## Clauses and predicates -/

namespace Clause

/-- The lists of a clause ascend, and its days are days of its one month. -/
theorem isNormal_selection (c : Clause) : c.selection.IsNormal := by
  obtain ⟨y, s, hfits⟩ := c
  cases s with
  | wholeYear => exact ⟨.nil, .nil, fun h => absurd rfl h⟩
  | wholeMonth m => exact ⟨List.pairwise_singleton _ m, .nil, fun h => absurd rfl h⟩
  | wholeMonths ms => exact ⟨hfits.2, .nil, fun h => absurd rfl h⟩
  | daysOf m ds => exact ⟨List.pairwise_singleton _ m, hfits.2.1, fun _ => ⟨m, rfl, hfits.2.2⟩⟩

/-- **A clause is what its own request is granted as.** -/
theorem ofSelection_selection (c : Clause) : ofSelection c.selection = .ok c := by
  -- what is granted lists the same as `c`, and a clause is known by its lists
  obtain ⟨b, hb, hsel⟩ := Selection.exists_ofSelection c.isNormal_selection
  have hyear : b.year = c.year := congrArg Selection.year hsel
  have hscope : b.scope = c.scope := by
    rw [← scope_selection b, hsel, scope_selection c]
  rw [hb, Clause.ext hyear hscope]

/-- The checks of the builder are made again, and pass. -/
theorem ofReading_toJson (c : Clause) : ofReading c.toJson.reading = .ok c := by
  show (do (ofSelection (← Selection.ofReading c.selection.toJson.reading)).mapError _) = _
  rw [Selection.ofReading_toJson]
  show (ofSelection c.selection).mapError _ = _
  rw [ofSelection_selection]
  rfl

end Clause

/-! ## Whole texts -/

theorem itemsFit_map {α : Type} {toJson : α → Json} (h : ∀ a, (toJson a).NumbersFit)
    (as : List α) : ItemsFit (as.map toJson) := by
  induction as with
  | nil => trivial
  | cons a as ih => exact ⟨h a, ih⟩

theorem Year.numbersFit_toJson (y : Year) : y.toJson.NumbersFit :=
  Nat.le_trans y.number_le (by decide)

theorem Month.numbersFit_toJson (m : Month) : m.toJson.NumbersFit :=
  Nat.le_trans m.number_le (by decide)

theorem Day.numbersFit_toJson (d : Day) : d.toJson.NumbersFit :=
  Nat.le_trans d.number_le (by decide)

theorem Selection.numbersFit_toJson (s : Selection) : s.toJson.NumbersFit := by
  have hyear := s.year.numbersFit_toJson
  have hmonths := itemsFit_map Month.numbersFit_toJson s.months
  have hdays := itemsFit_map Day.numbersFit_toJson s.days
  unfold toJson
  dsimp only
  split <;> split <;> simp_all [NumbersFit, FieldsFit]

theorem Clause.numbersFit_toJson (c : Clause) : c.toJson.NumbersFit :=
  c.selection.numbersFit_toJson

theorem Predicate.numbersFit_toJson (p : Predicate) : p.toJson.NumbersFit :=
  itemsFit_map Clause.numbersFit_toJson p.clauses

/-- A predicate is not empty, so its list of clauses is accepted. -/
theorem Predicate.ofReading_toJson (p : Predicate) : ofReading p.toJson.reading = .ok p := by
  show (do (ofClauses (← p.toJson.reading.items Clause.ofReading)).mapError _) = _
  rw [toJson, Reading.items_map Clause.ofReading_toJson]
  show (ofClauses p.clauses).mapError _ = _
  rw [ofClauses_clauses]
  rfl

/-- **Predicates and clauses are decoded from their own text**, whether it is written without blanks
or with every element on a line of its own. -/
theorem Predicate.decode_json :
    (∀ p : Predicate, decode Predicate.ofReading p.toJson.compact = .ok p ∧
      decode Predicate.ofReading p.toJson.pretty = .ok p) ∧
    (∀ c : Clause, decode Clause.ofReading c.toJson.compact = .ok c ∧
      decode Clause.ofReading c.toJson.pretty = .ok c) := by
  constructor
  · intro p
    have hfit := p.numbersFit_toJson
    rw [decode_compact hfit, decode_pretty hfit]
    exact ⟨p.ofReading_toJson, p.ofReading_toJson⟩
  · intro c
    have hfit := c.numbersFit_toJson
    rw [decode_compact hfit, decode_pretty hfit]
    exact ⟨c.ofReading_toJson, c.ofReading_toJson⟩

end DatePartition
