import DatePartition.Json.Codec
import DatePartition.Proofs.Json.Record
import DatePartition.Proofs.Json.Written

/-!
# Settings as JSON

Settings are given one by one: each of the three names of columns and the layout can be there or be
left out.

- `RenderOptions.Given`, `Given.overlay`: settings of which only some are given, over others.
- `Given.IsWritten`: the objects that give exactly these settings, in any order.
- `Columns.Draft.apart`, `RenderOptions.Draft.apart`: the fields keep out of each other's way.
- `Given.IsWritten.decode`: **what a text gives replaces the defaults, and nothing else does.**
- `RenderOptions.decode_toJson`: settings are decoded as they were written.
- `RenderOptions.HasStrayKeys`, `RenderOptions.ofReading_of_hasStrayKeys`: **objects with an unknown
  or a repeated key are refused**, also where they stand for the columns.
-/

namespace DatePartition

open Json

/-! ## Given settings -/

namespace RenderOptions

/-- Settings of which only some are given. -/
structure Given where
  year : Option String := none
  month : Option String := none
  day : Option String := none
  layout : Option Layout := none
deriving DecidableEq, Repr

namespace Given

/-- Each setting is the given one, or else the other one. -/
def overlay (g : Given) (base : RenderOptions) : RenderOptions where
  columns :=
    { year := g.year.getD base.columns.year
      month := g.month.getD base.columns.month
      day := g.day.getD base.columns.day }
  layout := g.layout.getD base.layout

/-- The settings with all of them given. -/
def ofOptions (o : RenderOptions) : Given :=
  ⟨some o.columns.year, some o.columns.month, some o.columns.day, some o.layout⟩

theorem overlay_ofOptions (o base : RenderOptions) : (ofOptions o).overlay base = o := rfl

/-- The fields of the columns that are given names. -/
def columnFields (g : Given) : List (String × Json) :=
  (g.year.map fun name => ("year", .text name)).toList ++
    ((g.month.map fun name => ("month", .text name)).toList ++
      (g.day.map fun name => ("day", .text name)).toList)

end Given

end RenderOptions

/-- A layout as it is given: not at all, by its name, or by its name as a key without a value. -/
inductive Layout.IsGiven : Option Layout → Option Json → Prop where
  | absent : IsGiven none none
  | name (l : Layout) : IsGiven (some l) (some (.text l.name))
  | key (l : Layout) : IsGiven (some l) (some (.object [(l.name, .null)]))

/-- An object that gives exactly these settings, in any order. -/
inductive RenderOptions.Given.IsWritten (g : Given) : Json → Prop where
  | object {columns : Option (List (String × Json))} {layout : Option Json}
    {fields : List (String × Json)} (hcolumns : (columns.getD []).Perm g.columnFields)
    (hlayout : Layout.IsGiven g.layout layout)
    (hfields : fields.Perm ((columns.map fun c => ("columns", .object c)).toList ++
      (layout.map fun l => ("layout", l)).toList)) :
    IsWritten g (.object fields)

/-! ## Columns -/

namespace Columns

namespace Draft

theorem fill_yearSlot_eq_ok {s s' : Draft} {r : Reading} : yearSlot.fill s r = .ok s' ↔
    ∃ name, r.string "a string" = .ok name ∧ s' = { s with year := some name } :=
  Except.bind_return_eq_ok_iff

theorem fill_monthSlot_eq_ok {s s' : Draft} {r : Reading} : monthSlot.fill s r = .ok s' ↔
    ∃ name, r.string "a string" = .ok name ∧ s' = { s with month := some name } :=
  Except.bind_return_eq_ok_iff

theorem fill_daySlot_eq_ok {s s' : Draft} {r : Reading} : daySlot.fill s r = .ok s' ↔
    ∃ name, r.string "a string" = .ok name ∧ s' = { s with day := some name } :=
  Except.bind_return_eq_ok_iff

/-- The three names keep out of each other's way. -/
theorem apart : Slot.Apart slots where
  names := by decide
  isFilled_fill := by
    intro a ha b hb s s' r h
    simp only [slots, List.mem_cons, List.not_mem_nil, or_false] at ha hb
    rcases ha with rfl | rfl | rfl
    · obtain ⟨name, -, rfl⟩ := fill_yearSlot_eq_ok.1 h
      rcases hb with rfl | rfl | rfl <;> simp [yearSlot, monthSlot, daySlot]
    · obtain ⟨name, -, rfl⟩ := fill_monthSlot_eq_ok.1 h
      rcases hb with rfl | rfl | rfl <;> simp [yearSlot, monthSlot, daySlot]
    · obtain ⟨name, -, rfl⟩ := fill_daySlot_eq_ok.1 h
      rcases hb with rfl | rfl | rfl <;> simp [yearSlot, monthSlot, daySlot]
  fill_comm := by
    intro a ha b hb hne s s₁ s₂ x y h₁ h₂
    simp only [slots, List.mem_cons, List.not_mem_nil, or_false] at ha hb
    rcases ha with rfl | rfl | rfl <;> rcases hb with rfl | rfl | rfl <;>
      simp only [fill_yearSlot_eq_ok, fill_monthSlot_eq_ok, fill_daySlot_eq_ok] at h₁ h₂ ⊢ <;>
      grind

/-- The names that are given are read in their order. -/
theorem fillFields_columnFields (g : RenderOptions.Given) :
    Reading.fillFields slots {} (fieldReadings g.columnFields) = .ok ⟨g.year, g.month, g.day⟩ := by
  obtain ⟨year, month, day, layout⟩ := g
  cases year <;> cases month <;> cases day <;> rfl

end Draft

/-- **Names are read in any order**, and those that are not given keep their defaults. -/
theorem ofReading_of_perm {g : RenderOptions.Given} {fields : List (String × Json)}
    (h : fields.Perm g.columnFields) :
    ofReading (Json.object fields).reading = .ok (g.overlay {}).columns := by
  have hfill := Reading.fillFields_perm Draft.apart (fieldReadings_perm h.symm)
    (Draft.fillFields_columnFields g)
  show Reading.fillFields Draft.slots {} (fieldReadings fields) >>= _ = _
  rw [hfill]
  rfl

/-- The keys of column names. -/
def keys : List String := ["year", "month", "day"]

/-- An object with an unknown or a repeated key gives no names. -/
theorem ofReading_of_hasStrayKey {fields : List (Option String × Reading)}
    (h : HasStrayKey keys (Reading.keys fields)) : ∃ e, ofReading (.object fields) = .error e :=
  Reading.record_of_hasStrayKey Draft.apart _ _ _ h

end Columns

theorem Layout.ofReading_of_isGiven {l : Layout} {j : Json} (h : IsGiven (some l) (some j)) :
    ofReading j.reading = .ok l := by
  cases h with
  | name => cases l <;> rfl
  | key => cases l <;> rfl

/-! ## Settings -/

namespace RenderOptions

namespace Draft

theorem fill_columnsSlot_eq_ok {s s' : Draft} {r : Reading} : columnsSlot.fill s r = .ok s' ↔
    ∃ c, Columns.ofReading r = .ok c ∧ s' = { s with columns := some c } :=
  Except.bind_return_eq_ok_iff

theorem fill_layoutSlot_eq_ok {s s' : Draft} {r : Reading} : layoutSlot.fill s r = .ok s' ↔
    ∃ l, Layout.ofReading r = .ok l ∧ s' = { s with layout := some l } :=
  Except.bind_return_eq_ok_iff

/-- The columns and the layout keep out of each other's way. -/
theorem apart : Slot.Apart slots where
  names := by decide
  isFilled_fill := by
    intro a ha b hb s s' r h
    simp only [slots, List.mem_cons, List.not_mem_nil, or_false] at ha hb
    rcases ha with rfl | rfl
    · obtain ⟨c, -, rfl⟩ := fill_columnsSlot_eq_ok.1 h
      rcases hb with rfl | rfl <;> simp [columnsSlot, layoutSlot]
    · obtain ⟨l, -, rfl⟩ := fill_layoutSlot_eq_ok.1 h
      rcases hb with rfl | rfl <;> simp [columnsSlot, layoutSlot]
  fill_comm := by
    intro a ha b hb hne s s₁ s₂ x y h₁ h₂
    simp only [slots, List.mem_cons, List.not_mem_nil, or_false] at ha hb
    rcases ha with rfl | rfl <;> rcases hb with rfl | rfl <;>
      simp only [fill_columnsSlot_eq_ok, fill_layoutSlot_eq_ok] at h₁ h₂ ⊢ <;>
      grind

end Draft

variable {g : Given} {j : Json} {cs : List Char}

/-- Columns without a given name are the default ones. -/
theorem Given.columns_of_columnFields_eq_nil (h : g.columnFields = []) :
    (g.overlay {}).columns = {} := by
  obtain ⟨year, month, day, layout⟩ := g
  cases year <;> cases month <;> cases day <;> first | rfl | cases h

/-- A layout is read, or it is not there and nothing is read. -/
theorem Draft.fillFields_layout {s : Draft} {l : Option Layout} {layout : Option Json}
    (h : Layout.IsGiven l layout) (hfree : s.layout = none) :
    Reading.fillFields slots s (fieldReadings (layout.map fun j => ("layout", j)).toList) =
      .ok { s with layout := l } := by
  cases h with
  | absent =>
    rw [← hfree]
    rfl
  | name l =>
    exact Reading.fillFields_cons rfl (by simp [layoutSlot, hfree])
      (fill_layoutSlot_eq_ok.2 ⟨l, Layout.ofReading_of_isGiven (.name l), rfl⟩)
  | key l =>
    exact Reading.fillFields_cons rfl (by simp [layoutSlot, hfree])
      (fill_layoutSlot_eq_ok.2 ⟨l, Layout.ofReading_of_isGiven (.key l), rfl⟩)

/-- **What an object gives replaces the defaults**, and what it does not give keeps them. -/
theorem Given.IsWritten.ofReading_eq (h : g.IsWritten j) :
    ofReading j.reading = .ok (g.overlay {}) := by
  cases h with
  | @object columns layout fields hcolumns hlayout hfields =>
    -- the fields are read in the order of their slots
    have hfill : ∃ d : Draft, Reading.fillFields Draft.slots {} (fieldReadings fields) = .ok d ∧
        d.overlay {} = g.overlay {} := by
      cases columns with
      | none =>
        refine ⟨⟨none, g.layout⟩, ?_, ?_⟩
        · exact Reading.fillFields_perm Draft.apart (fieldReadings_perm hfields.symm)
            (Draft.fillFields_layout hlayout rfl)
        · have hnone := g.columns_of_columnFields_eq_nil hcolumns.nil_eq.symm
          show RenderOptions.mk {} (g.overlay {}).layout =
            RenderOptions.mk (g.overlay {}).columns (g.overlay {}).layout
          rw [hnone]
      | some c =>
        refine ⟨⟨some (g.overlay {}).columns, g.layout⟩, ?_, rfl⟩
        refine Reading.fillFields_perm Draft.apart (fieldReadings_perm hfields.symm) ?_
        exact (Reading.fillFields_cons rfl rfl (Draft.fill_columnsSlot_eq_ok.2
          ⟨_, Columns.ofReading_of_perm hcolumns, rfl⟩)).trans (Draft.fillFields_layout hlayout rfl)
    obtain ⟨d, hfill, hover⟩ := hfill
    show Reading.fillFields Draft.slots {} (fieldReadings fields) >>= _ = _
    rw [hfill, ← hover]
    rfl

/-- **What a text gives replaces the defaults**, and what it does not give keeps them. -/
theorem Given.IsWritten.decode (h : g.IsWritten j) (htext : j.IsText cs) :
    Json.decode ofReading (String.ofList cs) = .ok (g.overlay {}) := by
  rw [htext.decode, h.ofReading_eq]

theorem isWritten_toJson (o : RenderOptions) : (Given.ofOptions o).IsWritten o.toJson :=
  @Given.IsWritten.object _ (some _) (some _) _ (.refl _) (.name o.layout) (.refl _)

/-- **Settings are decoded as they were written**, whatever the names of the columns are. -/
theorem decode_toJson (o : RenderOptions) :
    Json.decode ofReading o.toJson.compact = .ok o ∧
      Json.decode ofReading o.toJson.pretty = .ok o := by
  have hfit : o.toJson.NumbersFit := by
    simp [toJson, Columns.toJson, Layout.toJson, NumbersFit, FieldsFit]
  rw [decode_compact hfit, decode_pretty hfit, o.isWritten_toJson.ofReading_eq,
    Given.overlay_ofOptions]
  exact ⟨rfl, rfl⟩

/-- The keys of settings. -/
def keys : List String := ["columns", "layout"]

/-- A key of the settings or of their columns is unknown or repeated. -/
def HasStrayKeys (fields : List (Option String × Reading)) : Prop :=
  HasStrayKey keys (Reading.keys fields) ∨
    ∃ inner, (some "columns", .object inner) ∈ fields ∧
      HasStrayKey Columns.keys (Reading.keys inner)

/-- Columns that give no names leave no settings. -/
theorem ofReading_of_columns {fields inner : List (Option String × Reading)}
    (h : HasStrayKey Columns.keys (Reading.keys inner))
    (hmem : (some "columns", .object inner) ∈ fields) :
    ∃ e, ofReading (.object fields) = .error e := by
  cases hread : ofReading (.object fields) with
  | error e => exact ⟨e, rfl⟩
  | ok o =>
    obtain ⟨d, hfill, -⟩ := Except.bind_eq_ok_iff.1 hread
    obtain ⟨slot, hslot, hname, s₁, s₂, hvalue⟩ := Reading.fill_of_fillFields Draft.apart hfill hmem
    have hcolumns : slot = Draft.columnsSlot := by
      rcases List.mem_cons.1 hslot with rfl | hslot
      · rfl
      · rw [List.mem_singleton.1 hslot] at hname
        exact absurd (Option.some.inj hname) (by decide)
    rw [hcolumns] at hvalue
    obtain ⟨c, hc, -⟩ := Draft.fill_columnsSlot_eq_ok.1 hvalue
    obtain ⟨e, he⟩ := Columns.ofReading_of_hasStrayKey h
    rw [hc] at he
    cases he

/-- **An object with an unknown or a repeated key gives no settings**, nor does one whose columns
are given by such an object. -/
theorem ofReading_of_hasStrayKeys {fields : List (Option String × Reading)}
    (h : HasStrayKeys fields) : ∃ e, ofReading (.object fields) = .error e := by
  rcases h with h | ⟨inner, hmem, hinner⟩
  · exact Reading.record_of_hasStrayKey Draft.apart _ _ _ h
  · exact ofReading_of_columns hinner hmem

end RenderOptions

end DatePartition
