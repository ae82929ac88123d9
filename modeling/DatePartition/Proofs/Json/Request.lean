import DatePartition.Proofs.Json.Predicate
import DatePartition.Proofs.Json.Record

/-!
# Requests in all their forms

A request can be made with any numbers, and in many ways: as an object with its fields in any order
or as a list of them, with empty lists written as such, as `null` or not at all.

- `Selection.Numbers`, `Numbers.IsWritten`: the numbers of a request, and the values that stand for
  it.
- `Entry.fault?`: why a number is none of the calendar.
- `Selection.Draft.apart`: the fields of a request keep out of each other's way.
- `Field.fault_fill`: a field is refused for its first number that is none of the calendar;
  `Selection.Draft.fillFields_of_fault`: so are all fields together, in the order of the text.
- `IsWritten.ofReading_of_hasNumbers`: numbers of the calendar are read, however they are written.
- `IsWritten.ofReading_of_fault`: other numbers are refused for the first one in the text that is
  none of the calendar; `IsWritten.exists_hasNumbers`: there is one.
-/

namespace DatePartition

open Json

/-! ## Numbers of the calendar -/

theorem Year.number_of_ofNumber {n : Nat} {y : Year} (h : ofNumber n = .ok y) : y.number = n := by
  unfold ofNumber at h
  split at h
  · next hsome => exact ofNumber?_eq_some.1 (Except.ok.inj h ▸ hsome)
  · cases h

theorem Month.number_of_ofNumber {n : Nat} {m : Month} (h : ofNumber n = .ok m) :
    m.number = n := by
  unfold ofNumber at h
  split at h
  · next hsome => exact ofNumber?_eq_some.1 (Except.ok.inj h ▸ hsome)
  · cases h

theorem Day.number_of_ofNumber {n : Nat} {d : Day} (h : ofNumber n = .ok d) : d.number = n := by
  unfold ofNumber at h
  split at h
  · next hsome => exact ofNumber?_eq_some.1 (Except.ok.inj h ▸ hsome)
  · cases h

/-- Numbers that each belong to a value are those of a list of values. -/
theorem exists_map_number {α : Type} {number : α → Nat} {ns : List UInt8}
    (h : ∀ n ∈ ns, ∃ a, number a = n.toNat) :
    ∃ as : List α, as.map number = ns.map UInt8.toNat := by
  induction ns with
  | nil => exact ⟨[], rfl⟩
  | cons n ns ih =>
    obtain ⟨a, ha⟩ := h n (List.mem_cons_self ..)
    obtain ⟨as, has⟩ := ih fun k hk => h k (List.mem_cons_of_mem _ hk)
    exact ⟨a :: as, by rw [List.map_cons, List.map_cons, ha, has]⟩

namespace Selection

/-! ## Requests by their numbers -/

/-- The numbers of a request, which need not be numbers of the calendar. -/
structure Numbers where
  year : UInt16
  months : List UInt8 := []
  days : List UInt8 := []
deriving DecidableEq, Repr

/-- The request is the one with these numbers. -/
def HasNumbers (s : Selection) (n : Numbers) : Prop :=
  s.year.number = n.year.toNat ∧ s.months.map Month.number = n.months.map UInt8.toNat ∧
    s.days.map Day.number = n.days.map UInt8.toNat

/-- A number at a place of a request. -/
inductive Entry where
  | year (n : UInt16)
  | month (n : UInt8)
  | day (n : UInt8)
deriving DecidableEq, Repr

/-- Why the number is none of the calendar, if it is none. Days are not taken to belong to a
month. -/
def Entry.fault? : Entry → Option DateError
  | year n => DatePartition.fault? (Year.ofNumber n.toNat)
  | month n => DatePartition.fault? (Month.ofNumber n.toNat)
  | day n => DatePartition.fault? (Day.ofNumber n.toNat)

/-- A list of numbers as it is written. -/
inductive Listing where
  | items (numbers : List UInt8)
  | null
deriving DecidableEq, Repr

/-- The numbers that are listed. -/
def Listing.numbers : Listing → List UInt8
  | items ns => ns
  | null => []

/-- The value that is written. -/
def Listing.json : Listing → Json
  | items ns => .list (ns.map fun n => .number n.toNat)
  | null => .null

/-- The numbers that are listed if a list is written at all. -/
def listed (l : Option Listing) : List UInt8 := (l.map Listing.numbers).getD []

/-- A field of a request as it is written. -/
inductive Field where
  | year (n : UInt16)
  | months (l : Listing)
  | days (l : Listing)
deriving DecidableEq, Repr

namespace Field

/-- The key of a field. -/
def name : Field → String
  | year _ => "year"
  | months _ => "months"
  | days _ => "days"

/-- The value of a field. -/
def json : Field → Json
  | year n => .number n.toNat
  | months l => l.json
  | days l => l.json

/-- The numbers in a field, in the order of the text. -/
def entries : Field → List Entry
  | year n => [.year n]
  | months l => l.numbers.map .month
  | days l => l.numbers.map .day

/-- Where a field is read into. -/
def slot : Field → Slot Draft
  | year _ => Draft.yearSlot
  | months _ => Draft.monthsSlot
  | days _ => Draft.daysSlot

/-- A field as it is read. -/
def reading (f : Field) : Option String × Reading := (some f.name, f.json.reading)

theorem slot_mem (f : Field) : f.slot ∈ Draft.slots := by
  cases f <;> simp [slot, Draft.slots]

theorem name_slot (f : Field) : f.slot.name = f.name := by
  cases f <;> rfl

end Field

/-- The fields of a request in their order. -/
def fieldsOf (year : UInt16) (months days : Option Listing) : List Field :=
  .year year :: (months.toList.map .months ++ days.toList.map .days)

/-- The value asks for the request with these numbers. The fields are in the order of the text. -/
inductive Numbers.IsWritten (n : Numbers) : Json → List Field → Prop where
  /-- An object has its fields in any order. -/
  | object {months days : Option Listing} {fields : List Field} (hmonths : listed months = n.months)
    (hdays : listed days = n.days) (hperm : fields.Perm (fieldsOf n.year months days)) :
    IsWritten n (.object (fields.map fun f => (f.name, f.json))) fields
  /-- A list has them in their own order, and leaves none out that stands before another one. -/
  | list {months days : Option Listing} (hmonths : listed months = n.months)
    (hdays : listed days = n.days) (hleading : days.isSome → months.isSome) :
    IsWritten n (.list ((fieldsOf n.year months days).map Field.json))
      (fieldsOf n.year months days)

/-! ## Numbers of the calendar -/

/-- A list is refused for its first number that is none of the calendar. -/
theorem Listing.fault_optional {α : Type} {item : Reading → Except DecodeError α}
    {ofNumber : Nat → Except DateError α}
    (hitem : ∀ n ≤ 255, item (.number (.natural n)) = (ofNumber n).mapError .date) (l : Listing) :
    fault? (l.json.reading.optional (·.items item)) =
      (l.numbers.findSome? fun n => fault? (ofNumber n.toNat)).map DecodeError.date := by
  cases l with
  | null => rfl
  | items ns =>
    have hfault : ∀ n : UInt8, fault? (item (Json.number n.toNat).reading) =
        (fault? (ofNumber n.toNat)).map DecodeError.date := by
      intro n
      rw [Json.reading, hitem _ (Nat.le_of_lt_succ n.toNat_lt), fault?_mapError]
    show fault? (((readings (ns.map _)).mapM item).map some) = _
    rw [fault?_map, fault?_mapM, readings_eq_map, List.map_map, List.findSome?_map,
      List.map_findSome?]
    exact congrArg (List.findSome? · ns) (funext hfault)

/-- A list of numbers of the calendar is what they are written as. -/
theorem Listing.json_eq_list {α : Type} {number : α → Nat} {ns : List UInt8} {as : List α}
    (h : as.map number = ns.map UInt8.toNat) :
    (items ns).json = .list (as.map fun a => .number (number a)) := by
  have hmap : ns.map (fun n => Json.number n.toNat) = (ns.map UInt8.toNat).map Json.number := by
    rw [List.map_map]
    rfl
  rw [json, hmap, ← h, List.map_map]
  rfl

/-! ## Fields -/

namespace Draft

theorem fill_yearSlot_eq_ok {s s' : Draft} {r : Reading} : yearSlot.fill s r = .ok s' ↔
    ∃ y, Year.ofReading r = .ok y ∧ s' = { s with year := some y } :=
  Except.bind_return_eq_ok_iff

theorem fill_monthsSlot_eq_ok {s s' : Draft} {r : Reading} : monthsSlot.fill s r = .ok s' ↔
    ∃ ms, r.optional (·.items Month.ofReading) = .ok ms ∧
      s' = { s with months := some (ms.getD []) } :=
  Except.bind_return_eq_ok_iff

theorem fill_daysSlot_eq_ok {s s' : Draft} {r : Reading} : daysSlot.fill s r = .ok s' ↔
    ∃ ds, r.optional (·.items Day.ofReading) = .ok ds ∧
      s' = { s with days := some (ds.getD []) } :=
  Except.bind_return_eq_ok_iff

/-- The fields of a request keep out of each other's way. -/
theorem apart : Slot.Apart slots where
  names := by decide
  isFilled_fill := by
    intro a ha b hb s s' r h
    simp only [slots, List.mem_cons, List.not_mem_nil, or_false] at ha hb
    rcases ha with rfl | rfl | rfl
    · obtain ⟨y, -, rfl⟩ := fill_yearSlot_eq_ok.1 h
      rcases hb with rfl | rfl | rfl <;> simp [yearSlot, monthsSlot, daysSlot]
    · obtain ⟨ms, -, rfl⟩ := fill_monthsSlot_eq_ok.1 h
      rcases hb with rfl | rfl | rfl <;> simp [yearSlot, monthsSlot, daysSlot]
    · obtain ⟨ds, -, rfl⟩ := fill_daysSlot_eq_ok.1 h
      rcases hb with rfl | rfl | rfl <;> simp [yearSlot, monthsSlot, daysSlot]
  fill_comm := by
    intro a ha b hb hne s s₁ s₂ x y h₁ h₂
    simp only [slots, List.mem_cons, List.not_mem_nil, or_false] at ha hb
    -- every field keeps what it reads in a place of its own
    rcases ha with rfl | rfl | rfl <;> rcases hb with rfl | rfl | rfl <;>
      simp only [fill_yearSlot_eq_ok, fill_monthsSlot_eq_ok, fill_daysSlot_eq_ok] at h₁ h₂ ⊢ <;>
      grind

end Draft

/-- A field is refused for its first number that is none of the calendar, and for nothing else. -/
theorem Field.fault_fill (f : Field) (s : Draft) :
    fault? (f.slot.fill s f.json.reading) =
      (f.entries.findSome? Entry.fault?).map DecodeError.date := by
  cases f with
  | year n =>
    show fault? ((Year.ofReading (.number (.natural n.toNat))).map fun y =>
      ({ s with year := some y } : Draft)) = _
    rw [fault?_map, Year.ofReading_natural (Nat.le_of_lt_succ n.toNat_lt), fault?_mapError]
    simp [entries, Entry.fault?]
  | months l =>
    show fault? ((l.json.reading.optional (·.items Month.ofReading)).map fun ms =>
      ({ s with months := some (ms.getD []) } : Draft)) = _
    rw [fault?_map, Listing.fault_optional fun n hn => Month.ofReading_natural hn, entries,
      List.findSome?_map]
    rfl
  | days l =>
    show fault? ((l.json.reading.optional (·.items Day.ofReading)).map fun ds =>
      ({ s with days := some (ds.getD []) } : Draft)) = _
    rw [fault?_map, Listing.fault_optional fun n hn => Day.ofReading_natural hn, entries,
      List.findSome?_map]
    rfl

/-- **Fields are refused for their first number that is none of the calendar**, in the order of the
text. -/
theorem Draft.fillFields_of_fault {fields : List Field} {s : Draft} {e : DateError}
    (hnames : (fields.map Field.name).Nodup)
    (hfree : ∀ f ∈ fields, f.slot.isFilled s = false)
    (hfault : (fields.flatMap Field.entries).findSome? Entry.fault? = some e) :
    Reading.fillFields slots s (fields.map Field.reading) = .error (.date e) := by
  induction fields generalizing s with
  | nil => cases hfault
  | cons f fields ih =>
    rw [List.map_cons, List.nodup_cons] at hnames
    rw [List.flatMap_cons, List.findSome?_append] at hfault
    have hfill := f.fault_fill s
    rw [List.map_cons, Field.reading, ← f.name_slot]
    cases hfirst : f.entries.findSome? Entry.fault? with
    | some e' =>
      -- the first number is in this field
      rw [hfirst] at hfault hfill
      cases hfault
      exact Reading.fillFields_of_fault apart f.slot_mem (hfree f (List.mem_cons_self ..))
        (fault?_eq_some_iff.1 hfill)
    | none =>
      -- the field is read, and the others are still free
      rw [hfirst] at hfault hfill
      obtain ⟨s₁, hs₁⟩ := fault?_eq_none_iff.1 hfill
      have hrest : ∀ g ∈ fields, g.slot.isFilled s₁ = false := by
        intro g hg
        have hne : g.name ≠ f.name := fun heq => hnames.1 (heq ▸ List.mem_map_of_mem hg)
        rw [apart.isFilled_fill f.slot f.slot_mem g.slot g.slot_mem hs₁,
          hfree g (List.mem_cons_of_mem _ hg), g.name_slot, f.name_slot]
        simpa using hne
      rw [Reading.fillFields_cons (apart.find?_name f.slot_mem)
        (hfree f (List.mem_cons_self ..)) hs₁]
      exact ih hnames.2 hrest hfault

/-! ## Fields with numbers of the calendar -/

variable {sel : Selection} {n : Numbers} {s : Draft} {fields : List Field} {j : Json}

theorem Draft.fill_months_listing {l : Listing}
    (h : sel.months.map Month.number = l.numbers.map UInt8.toNat) (s : Draft) :
    monthsSlot.fill s l.json.reading = .ok { s with months := some sel.months } := by
  cases l with
  | null =>
    have hnil : sel.months = [] := List.map_eq_nil_iff.1 h
    rw [hnil]
    rfl
  | items ns =>
    rw [Listing.json_eq_list (show _ = ns.map UInt8.toNat from h)]
    exact fill_monthsSlot s sel.months

theorem Draft.fill_days_listing {l : Listing}
    (h : sel.days.map Day.number = l.numbers.map UInt8.toNat) (s : Draft) :
    daysSlot.fill s l.json.reading = .ok { s with days := some sel.days } := by
  cases l with
  | null =>
    have hnil : sel.days = [] := List.map_eq_nil_iff.1 h
    rw [hnil]
    rfl
  | items ns =>
    rw [Listing.json_eq_list (show _ = ns.map UInt8.toNat from h)]
    exact fill_daysSlot s sel.days

/-- A list of months is read, or it is not there and nothing is read. -/
theorem Draft.exists_fillFields_months {months : Option Listing}
    (h : sel.months.map Month.number = (listed months).map UInt8.toNat) (hfree : s.months = none) :
    ∃ ms : Option (List Month), ms.getD [] = sel.months ∧ ∀ rest,
      Reading.fillFields slots s ((months.toList.map .months).map Field.reading ++ rest) =
        Reading.fillFields slots { s with months := ms } rest := by
  cases months with
  | none => exact ⟨none, (List.map_eq_nil_iff.1 h).symm, fun rest => by rw [← hfree]; rfl⟩
  | some l =>
    refine ⟨some sel.months, rfl, fun rest => ?_⟩
    exact Reading.fillFields_cons rfl (by simp [monthsSlot, hfree]) (fill_months_listing h s)

/-- A list of days is read, or it is not there and nothing is read. -/
theorem Draft.exists_fillFields_days {days : Option Listing}
    (h : sel.days.map Day.number = (listed days).map UInt8.toNat) (hfree : s.days = none) :
    ∃ ds : Option (List Day), ds.getD [] = sel.days ∧
      Reading.fillFields slots s ((days.toList.map .days).map Field.reading) =
        .ok { s with days := ds } := by
  cases days with
  | none => exact ⟨none, (List.map_eq_nil_iff.1 h).symm, by rw [← hfree]; rfl⟩
  | some l =>
    refine ⟨some sel.days, rfl, ?_⟩
    exact Reading.fillFields_cons rfl (by simp [daysSlot, hfree]) (fill_days_listing h s)

/-- The fields of a request are read in their order. -/
theorem Draft.exists_fillFields_fieldsOf {months days : Option Listing} (h : sel.HasNumbers n)
    (hmonths : listed months = n.months) (hdays : listed days = n.days) :
    ∃ d : Draft, Reading.fillFields slots {} ((fieldsOf n.year months days).map Field.reading) =
      .ok d ∧ ∀ fromObject, d.finish fromObject = .ok sel := by
  obtain ⟨hyear, hmonthNumbers, hdayNumbers⟩ := h
  rw [← hmonths] at hmonthNumbers
  rw [← hdays] at hdayNumbers
  have hfill : yearSlot.fill {} (Field.year n.year).json.reading =
      .ok { year := some sel.year } := by
    rw [Field.json, ← hyear]
    exact fill_yearSlot {} sel.year
  obtain ⟨ms, hms, hfillMonths⟩ :=
    exists_fillFields_months (s := { year := some sel.year }) hmonthNumbers rfl
  obtain ⟨ds, hds, hfillDays⟩ :=
    exists_fillFields_days (s := { year := some sel.year, months := ms }) hdayNumbers rfl
  refine ⟨⟨some sel.year, ms, ds⟩, ?_, fun fromObject => ?_⟩
  · rw [fieldsOf, List.map_cons, List.map_append]
    exact (Reading.fillFields_cons rfl rfl hfill).trans ((hfillMonths _).trans hfillDays)
  · rw [finish, hms, hds]

/-! ## Requests in all their forms -/

namespace Numbers.IsWritten

/-- An object and a list are read by the same fields. -/
theorem ofReading_eq (h : n.IsWritten j fields) : ∃ fromObject, ofReading j.reading =
    Reading.fillFields Draft.slots {} (fields.map Field.reading) >>= Draft.finish fromObject := by
  cases h with
  | object _ _ _ =>
    refine ⟨true, ?_⟩
    have hfields : fieldReadings (fields.map fun f => (f.name, f.json)) =
        fields.map Field.reading := by
      rw [fieldReadings_eq_map, List.map_map]
      rfl
    show Reading.fillFields Draft.slots {} (fieldReadings _) >>= Draft.finish true = _
    rw [hfields]
  | @list months days _ _ hleading =>
    refine ⟨false, ?_⟩
    show Reading.fillItems {} Draft.slots (readings _) >>= Draft.finish false = _
    rw [Reading.fillItems_eq_fillFields Draft.apart]
    · -- a field has the name of its place
      cases months with
      | none =>
        cases days with
        | none => rfl
        | some d => cases hleading rfl
      | some m => cases days <;> rfl
    · cases months <;> cases days <;> simp [fieldsOf, readings_eq_map, Draft.slots]
    · simp [Draft.slots, Draft.yearSlot, Draft.monthsSlot, Draft.daysSlot]

/-- The fields are those of the numbers, in some order. -/
theorem perm_fieldsOf (h : n.IsWritten j fields) : ∃ months days, listed months = n.months ∧
    listed days = n.days ∧ fields.Perm (fieldsOf n.year months days) := by
  cases h with
  | object hmonths hdays hperm => exact ⟨_, _, hmonths, hdays, hperm⟩
  | list hmonths hdays _ => exact ⟨_, _, hmonths, hdays, .refl _⟩

/-- **Numbers of the calendar are read, however they are written.** -/
theorem ofReading_of_hasNumbers (h : n.IsWritten j fields) (hsel : sel.HasNumbers n) :
    ofReading j.reading = .ok sel := by
  obtain ⟨fromObject, hread⟩ := h.ofReading_eq
  obtain ⟨months, days, hmonths, hdays, hperm⟩ := h.perm_fieldsOf
  obtain ⟨d, hfill, hfinish⟩ := Draft.exists_fillFields_fieldsOf hsel hmonths hdays
  have hfields : Reading.fillFields Draft.slots {} (fields.map Field.reading) = .ok d :=
    Reading.fillFields_perm Draft.apart (hperm.map Field.reading).symm hfill
  rw [hread, hfields]
  exact hfinish fromObject

/-- Every field is there once. -/
theorem nodup_names (h : n.IsWritten j fields) : (fields.map Field.name).Nodup := by
  obtain ⟨months, days, -, -, hperm⟩ := h.perm_fieldsOf
  refine (hperm.map Field.name).nodup_iff.2 ?_
  cases months <;> cases days <;> simp [fieldsOf, Field.name]

/-- **Numbers of which one is none of the calendar are refused for the first of them.** -/
theorem ofReading_of_fault {e : DateError} (h : n.IsWritten j fields)
    (hfault : (fields.flatMap Field.entries).findSome? Entry.fault? = some e) :
    ofReading j.reading = .error (.date e) := by
  obtain ⟨fromObject, hread⟩ := h.ofReading_eq
  have hfree : ∀ f ∈ fields, f.slot.isFilled ({} : Draft) = false := by
    intro f _
    cases f <;> rfl
  rw [hread, Draft.fillFields_of_fault h.nodup_names hfree hfault]
  rfl

/-- The numbers in the text are those of the request. -/
theorem mem_entries (h : n.IsWritten j fields) {entry : Entry} :
    entry ∈ fields.flatMap Field.entries ↔ entry = .year n.year ∨
      (∃ m ∈ n.months, entry = .month m) ∨ ∃ d ∈ n.days, entry = .day d := by
  obtain ⟨months, days, hmonths, hdays, hperm⟩ := h.perm_fieldsOf
  rw [(hperm.flatMap_right Field.entries).mem_iff, ← hmonths, ← hdays]
  cases months <;> cases days <;> simp [fieldsOf, Field.entries, listed, eq_comm]

/-- Numbers without a fault are those of a request. -/
theorem exists_hasNumbers (h : n.IsWritten j fields)
    (hnone : (fields.flatMap Field.entries).findSome? Entry.fault? = none) :
    ∃ sel : Selection, sel.HasNumbers n := by
  rw [List.findSome?_eq_none_iff] at hnone
  obtain ⟨y, hy⟩ := fault?_eq_none_iff.1 (hnone (.year n.year) (h.mem_entries.2 (.inl rfl)))
  have hmonth : ∀ k ∈ n.months, ∃ m : Month, m.number = k.toNat := by
    intro k hk
    obtain ⟨m, hm⟩ := fault?_eq_none_iff.1
      (hnone (.month k) (h.mem_entries.2 (.inr (.inl ⟨k, hk, rfl⟩))))
    exact ⟨m, Month.number_of_ofNumber hm⟩
  have hday : ∀ k ∈ n.days, ∃ d : Day, d.number = k.toNat := by
    intro k hk
    obtain ⟨d, hd⟩ := fault?_eq_none_iff.1
      (hnone (.day k) (h.mem_entries.2 (.inr (.inr ⟨k, hk, rfl⟩))))
    exact ⟨d, Day.number_of_ofNumber hd⟩
  obtain ⟨ms, hms⟩ := exists_map_number hmonth
  obtain ⟨ds, hds⟩ := exists_map_number hday
  exact ⟨⟨y, ms, ds⟩, Year.number_of_ofNumber hy, hms, hds⟩

end Numbers.IsWritten

end Selection

end DatePartition
