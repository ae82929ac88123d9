import DatePartition.Proofs.CommandLine.Run
import DatePartition.Proofs.Json.Options
import DatePartition.Proofs.Toml.Keys

/-!
# Settings from defaults, files and arguments

Each setting is found by itself: in the arguments, else in the file, else among the defaults.

- `Toml.Entries.given`, `Toml.Entries.GiveSettings`: the settings that a document gives, and the
  documents that give settings and nothing else.
- `Columns.ofToml?_eq_some_iff`, `RenderOptions.ofToml?_eq_some_iff`: **what is in a document
  replaces the defaults**, and nothing else does.
- `Arguments.given`, `Arguments.overlay_eq`: the settings that are given as arguments.
- `Arguments.settings_eq_ok_iff`: the settings of a run with a file.
- `settings_overlay`: **settings are an overlay**, in their text and in a run.
-/

namespace DatePartition

open Json

/-! ## What a document gives -/

namespace Toml

/-- The text that a value is. -/
def Value.text? : Value → Option String
  | .text s => some s
  | _ => none

/-- The name of a column, at its key in a table or at its place in a list. -/
def Value.column? (key : String) (place : Nat) : Value → Option String
  | .table _ es => (es.lookup key).bind text?
  | .list items => items[place]?.bind text?
  | _ => none

/-- The value gives names to columns and nothing else. The items of a list behind the third are not
looked at. -/
def Value.GivesColumns : Value → Prop
  | .table _ es => ∀ e ∈ es, e.1 ∈ Columns.keys ∧ e.2.text?.isSome
  | .list items => ∀ v ∈ items.take 3, v.text?.isSome
  | _ => False

instance : (v : Value) → Decidable v.GivesColumns
  | .table _ es => inferInstanceAs (Decidable (∀ e ∈ es, e.1 ∈ Columns.keys ∧ e.2.text?.isSome))
  | .list items => inferInstanceAs (Decidable (∀ v ∈ items.take 3, v.text?.isSome))
  | .text _ | .scalar | .tables _ => inferInstanceAs (Decidable False)

namespace Entries

/-- The settings that a document gives. -/
def given (es : Entries) : RenderOptions.Given where
  year := (es.lookup "columns").bind (·.column? "year" 0)
  month := (es.lookup "columns").bind (·.column? "month" 1)
  day := (es.lookup "columns").bind (·.column? "day" 2)
  layout := (es.lookup "layout").bind Layout.ofToml?

/-- The document gives settings and nothing else. -/
def GiveSettings (es : Entries) : Prop :=
  ∀ e ∈ es, (e.1 = "columns" ∧ e.2.GivesColumns) ∨ (e.1 = "layout" ∧ (Layout.ofToml? e.2).isSome)

instance (es : Entries) : Decidable es.GiveSettings :=
  inferInstanceAs (Decidable (∀ e ∈ es,
    (e.1 = "columns" ∧ e.2.GivesColumns) ∨ (e.1 = "layout" ∧ (Layout.ofToml? e.2).isSome)))

/-- A key that is not there twice is not found behind itself. -/
theorem lookup_of_not_mem {es : Entries} {key : String} (h : key ∉ es.map Prod.fst) :
    es.lookup key = none := by
  rw [List.lookup_eq_none_iff]
  intro e he
  have hne : key ≠ e.1 := fun heq => h (heq ▸ List.mem_map_of_mem he)
  simpa using hne

/-- What is found at a key is what is found behind the first entry, or in it. -/
theorem lookup_bind_cons {β : Type} {es : Entries} {key : String} (h : key ∉ es.map Prod.fst)
    (v : Value) (f : Value → Option β) (k : String) (b : Option β) :
    ((es.lookup k).bind f).or ((([(key, v)].lookup k).bind f).or b) =
      ((((key, v) :: es).lookup k).bind f).or b := by
  by_cases hk : k = key
  · rw [hk, lookup_of_not_mem h]
    simp
  · have hne : (k == key) = false := by simpa using hk
    simp [List.lookup_cons, hne]

/-- **The entries of a table are put into a record one by one.** If each entry has its effect on the
record, and entries with other keys have theirs besides it, then all of them have theirs. -/
theorem foldlM_eq_some_iff {σ : Type} {put? : String → Value → σ → Option σ}
    {fits : String × Value → Prop} {filled : Entries → σ → σ}
    (hput : ∀ {key v s s'}, put? key v s = some s' ↔ fits (key, v) ∧ s' = filled [(key, v)] s)
    (hnil : ∀ s, filled [] s = s)
    (hcons : ∀ {key v es s}, key ∉ es.map Prod.fst →
      filled es (filled [(key, v)] s) = filled ((key, v) :: es) s)
    {es : Entries} {s s' : σ} (hkeys : (es.map Prod.fst).Nodup) :
    es.foldlM (fun s e => put? e.1 e.2 s) s = some s' ↔ (∀ e ∈ es, fits e) ∧ s' = filled es s := by
  induction es generalizing s with
  | nil =>
    rw [hnil]
    exact ⟨fun h => ⟨nofun, (Option.some.inj h).symm⟩, fun ⟨_, h⟩ => congrArg some h.symm⟩
  | cons e es ih =>
    rw [List.map_cons, List.nodup_cons] at hkeys
    rw [List.foldlM_cons, Option.bind_eq_bind, Option.bind_eq_some_iff, List.forall_mem_cons]
    constructor
    · rintro ⟨s₁, hfirst, hrest⟩
      obtain ⟨hfits, rfl⟩ := hput.1 hfirst
      obtain ⟨hfit, rfl⟩ := (ih hkeys.2).1 hrest
      exact ⟨⟨hfits, hfit⟩, hcons hkeys.1⟩
    · rintro ⟨⟨hfits, hfit⟩, rfl⟩
      exact ⟨_, hput.2 ⟨hfits, rfl⟩, (ih hkeys.2).2 ⟨hfit, (hcons hkeys.1).symm⟩⟩

end Entries

end Toml

open Toml (Entries)

/-- A draft is turned into what it is finished to. -/
theorem map_eq_some_iff_of_iff {σ β : Type} {x : Option σ} {p : Prop} {s : σ} {finish : σ → β}
    {b : β} (h : ∀ s', x = some s' ↔ p ∧ s' = s) :
    (do return finish (← x)) = some b ↔ p ∧ b = finish s := by
  show x.bind (fun s => some (finish s)) = some b ↔ _
  rw [Option.bind_eq_some_iff]
  constructor
  · rintro ⟨s', hs', hb⟩
    obtain ⟨hp, rfl⟩ := (h s').1 hs'
    exact ⟨hp, (Option.some.inj hb).symm⟩
  · rintro ⟨hp, rfl⟩
    exact ⟨s, (h s).2 ⟨hp, rfl⟩, rfl⟩

/-! ## Columns in a document -/

namespace Columns

namespace Draft

variable {s s' : Draft} {key : String} {v : Toml.Value} {es : Entries}

/-- The names in a table, and else those that are known. -/
def filled (es : Entries) (s : Draft) : Draft where
  year := ((es.lookup "year").bind (·.text?)).or s.year
  month := ((es.lookup "month").bind (·.text?)).or s.month
  day := ((es.lookup "day").bind (·.text?)).or s.day

/-- A name is put in its place, and nothing else is. -/
theorem put?_eq_some_iff :
    s.put? key v = some s' ↔ (key ∈ keys ∧ v.text?.isSome) ∧ s' = filled [(key, v)] s := by
  unfold put?
  split
  · simp [keys, Toml.Value.text?, filled, List.lookup_cons, eq_comm]
  · simp [keys, Toml.Value.text?, filled, List.lookup_cons, eq_comm]
  · simp [keys, Toml.Value.text?, filled, List.lookup_cons, eq_comm]
  · next hyear hmonth hday =>
    refine iff_of_false (Option.some_ne_none _).symm ?_
    rintro ⟨⟨hkey, htext⟩, -⟩
    cases v with
    | text name =>
      simp only [keys, List.mem_cons, List.not_mem_nil, or_false] at hkey
      rcases hkey with rfl | rfl | rfl
      · exact hyear name rfl rfl
      · exact hmonth name rfl rfl
      · exact hday name rfl rfl
    | _ => cases htext

/-- The entries of a table are names, each at the key of a column. -/
theorem foldlM_put?_eq_some_iff (hkeys : (es.map Prod.fst).Nodup) :
    es.foldlM (fun s e => s.put? e.1 e.2) s = some s' ↔
      (∀ e ∈ es, e.1 ∈ keys ∧ e.2.text?.isSome) ∧ s' = filled es s := by
  refine Entries.foldlM_eq_some_iff put?_eq_some_iff (fun s => rfl) (fun h => ?_) hkeys
  simp only [filled, Entries.lookup_bind_cons h]

theorem putItems?_cons_eq_some_iff {keys : List String} {items : List Toml.Value} :
    s.putItems? (key :: keys) (v :: items) = some s' ↔
      ∃ s₁, s.put? key v = some s₁ ∧ s₁.putItems? keys items = some s' :=
  Option.bind_eq_some_iff

theorem putItems?_nil {keys : List String} : s.putItems? keys [] = some s := by
  cases keys <;> rfl

/-- The first items of a list are the names of the year, the month and the day. -/
theorem putItems?_eq_some_iff {items : List Toml.Value} :
    ({} : Draft).putItems? keys items = some s ↔ (∀ v ∈ items.take 3, v.text?.isSome) ∧
      s = ⟨items[0]?.bind (·.text?), items[1]?.bind (·.text?), items[2]?.bind (·.text?)⟩ := by
  have hend : ∀ {keys : List String} (t : Draft), t.putItems? keys [] = some s ↔ s = t := by
    intro keys t
    rw [putItems?_nil, Option.some.injEq, eq_comm]
  have hmore : ∀ t : Draft, ∀ items, t.putItems? [] items = some s ↔ s = t := by
    intro t items
    exact ⟨fun h => (Option.some.inj h).symm, fun h => congrArg some h.symm⟩
  rcases items with _ | ⟨a, _ | ⟨b, _ | ⟨c, items⟩⟩⟩ <;>
    simp only [keys, putItems?_cons_eq_some_iff, put?_eq_some_iff, hend, hmore] <;>
    simp [filled, List.lookup_cons, and_assoc]

end Draft

/-- **A value gives names to columns** if there are names and nothing else. Columns without a name
keep their own. -/
theorem ofToml?_eq_some_iff {v : Toml.Value} {c : Columns} (h : v.Unambiguous) :
    ofToml? v = some c ↔ v.GivesColumns ∧
      c = ⟨(v.column? "year" 0).getD "year", (v.column? "month" 1).getD "month",
        (v.column? "day" 2).getD "day"⟩ := by
  unfold ofToml?
  split
  · next es =>
    refine (map_eq_some_iff_of_iff fun s =>
      Draft.foldlM_put?_eq_some_iff h.entries.keys).trans ?_
    simp [Toml.Value.GivesColumns, Toml.Value.column?, Draft.overlay, Draft.filled]
  · refine (map_eq_some_iff_of_iff fun s => Draft.putItems?_eq_some_iff).trans ?_
    simp [Toml.Value.GivesColumns, Toml.Value.column?, Draft.overlay]
  · next htable hlist =>
    refine iff_of_false (Option.some_ne_none _).symm ?_
    rintro ⟨hgives, -⟩
    cases v with
    | table origin es => exact htable origin es rfl
    | list items => exact hlist items rfl
    | _ => exact hgives

theorem isSome_ofToml?_iff {v : Toml.Value} (h : v.Unambiguous) :
    (ofToml? v).isSome ↔ v.GivesColumns := by
  rw [Option.isSome_iff_exists]
  exact ⟨fun ⟨_, hc⟩ => ((ofToml?_eq_some_iff h).1 hc).1, fun hgives =>
    ⟨_, (ofToml?_eq_some_iff h).2 ⟨hgives, rfl⟩⟩⟩

end Columns

/-! ## Settings in a document -/

namespace RenderOptions

namespace Draft

variable {s s' : Draft} {key : String} {v : Toml.Value} {es : Entries}

/-- The settings in a document, and else those that are known. -/
def filled (es : Entries) (s : Draft) : Draft where
  columns := ((es.lookup "columns").bind Columns.ofToml?).or s.columns
  layout := ((es.lookup "layout").bind Layout.ofToml?).or s.layout

/-- A setting is put in its place, and nothing else is. -/
theorem put?_eq_some_iff : s.put? key v = some s' ↔
    ((key = "columns" ∧ (Columns.ofToml? v).isSome) ∨
      (key = "layout" ∧ (Layout.ofToml? v).isSome)) ∧ s' = filled [(key, v)] s := by
  unfold put?
  split
  · cases hc : Columns.ofToml? v <;> simp [filled, List.lookup_cons, hc, eq_comm (a := s')]
  · cases hl : Layout.ofToml? v <;> simp [filled, List.lookup_cons, hl, eq_comm (a := s')]
  · next hcolumns hlayout =>
    refine iff_of_false (Option.some_ne_none _).symm ?_
    rintro ⟨⟨rfl, -⟩ | ⟨rfl, -⟩, -⟩
    · exact hcolumns rfl
    · exact hlayout rfl

theorem foldlM_put?_eq_some_iff (hkeys : (es.map Prod.fst).Nodup) :
    es.foldlM (fun s e => s.put? e.1 e.2) s = some s' ↔
      (∀ e ∈ es, (e.1 = "columns" ∧ (Columns.ofToml? e.2).isSome) ∨
        (e.1 = "layout" ∧ (Layout.ofToml? e.2).isSome)) ∧ s' = filled es s := by
  refine Entries.foldlM_eq_some_iff put?_eq_some_iff (fun s => rfl) (fun h => ?_) hkeys
  simp only [filled, Entries.lookup_bind_cons h]

end Draft

variable {es : Entries} {o : RenderOptions}

/-- A document gives settings if each of its entries is read as one. -/
theorem giveSettings_iff (h : es.Unambiguous) : es.GiveSettings ↔
    ∀ e ∈ es, (e.1 = "columns" ∧ (Columns.ofToml? e.2).isSome) ∨
      (e.1 = "layout" ∧ (Layout.ofToml? e.2).isSome) := by
  refine forall_congr' fun e => forall_congr' fun he => ?_
  rw [Columns.isSome_ofToml?_iff (h.values e he)]

/-- The columns in a document are those of its one entry for them, or the default ones. -/
theorem columns_of_giveSettings (h : es.Unambiguous) (hgives : es.GiveSettings) :
    ((es.lookup "columns").bind Columns.ofToml?).getD {} = (es.given.overlay {}).columns := by
  cases hlookup : es.lookup "columns" with
  | none => simp [Given.overlay, Entries.given, hlookup]
  | some v =>
    have hv : v.GivesColumns := by
      rcases hgives _ (Entries.mem_of_lookup hlookup) with ⟨-, hv⟩ | ⟨hkey, -⟩
      · exact hv
      · exact absurd hkey (show ¬ "columns" = "layout" by decide)
    rw [Option.bind_some, (Columns.ofToml?_eq_some_iff (h.lookup hlookup)).2 ⟨hv, rfl⟩]
    simp [Given.overlay, Entries.given, hlookup]

/-- **A document gives settings** if there are settings and nothing else. Those that are not there
keep their defaults. -/
theorem ofToml?_eq_some_iff (h : es.Unambiguous) :
    ofToml? es = some o ↔ es.GiveSettings ∧ o = es.given.overlay {} := by
  unfold ofToml?
  refine (map_eq_some_iff_of_iff fun s => Draft.foldlM_put?_eq_some_iff h.keys).trans ?_
  rw [← giveSettings_iff h]
  refine and_congr_right fun hgives => ?_
  have hoverlay : (Draft.filled es {}).overlay {} = es.given.overlay {} := by
    show _ = RenderOptions.mk (es.given.overlay {}).columns (es.given.overlay {}).layout
    rw [← columns_of_giveSettings h hgives]
    simp [Draft.overlay, Draft.filled, Given.overlay, Entries.given]
  rw [hoverlay]

/-- **The text of a file gives settings** if it is a document that does. -/
theorem parseToml?_eq_some_iff {s : String} :
    parseToml? s = some o ↔ ∃ es, Toml.parse? s = some es ∧ es.GiveSettings ∧
      o = es.given.overlay {} := by
  show (Toml.parse? s).bind ofToml? = some o ↔ _
  rw [Option.bind_eq_some_iff]
  refine exists_congr fun es => and_congr_right fun hparse => ?_
  exact ofToml?_eq_some_iff (Toml.parse?_unambiguous hparse)

end RenderOptions

/-! ## A run -/

namespace CommandLine

namespace Arguments

/-- The settings that are given as arguments. -/
def given (a : Arguments) : RenderOptions.Given where
  year := a.yearColumn
  month := a.monthColumn
  day := a.dayColumn
  layout := if a.singleLine then some .singleLine else none

/-- The settings of the arguments are over the others, each by itself. -/
theorem overlay_eq (a : Arguments) (o : RenderOptions) : a.overlay o = a.given.overlay o := by
  unfold overlay RenderOptions.Given.overlay given
  cases a.singleLine <;> rfl

variable {files : Files} {a : Arguments} {path : String} {o : RenderOptions}

theorem fileSettings_eq_ok_iff : fileSettings files path = .ok o ↔
    ∃ text es, files path = .ok text ∧ Toml.parse? text = some es ∧ es.GiveSettings ∧
      o = es.given.overlay {} := by
  unfold fileSettings
  constructor
  · intro h
    obtain ⟨text, htext, h⟩ := Except.bind_eq_ok_iff.1 h
    have hfile : files path = .ok text := by
      cases hfile : files path with
      | error e => rw [hfile] at htext; cases htext
      | ok _ => rw [hfile] at htext; cases htext; rfl
    split at h
    · next options hoptions =>
      cases h
      obtain ⟨es, hes⟩ := RenderOptions.parseToml?_eq_some_iff.1 hoptions
      exact ⟨text, es, hfile, hes⟩
    · cases h
  · rintro ⟨text, es, hfile, hes⟩
    rw [hfile]
    refine Except.bind_eq_ok_iff.2 ⟨text, rfl, ?_⟩
    rw [RenderOptions.parseToml?_eq_some_iff.2 ⟨es, hes⟩]

/-- **The settings of a run with a file** are those of the arguments, else those of the file, else
the defaults. There are none if the file is not readable or gives something else. -/
theorem settings_eq_ok_iff (hconfig : a.config = some path) : a.settings files = .ok o ↔
    ∃ text es, files path = .ok text ∧ Toml.parse? text = some es ∧ es.GiveSettings ∧
      o = a.given.overlay (es.given.overlay {}) := by
  unfold settings
  rw [hconfig]
  dsimp only
  rw [Except.bind_return_eq_ok_iff]
  constructor
  · rintro ⟨options, hoptions, rfl⟩
    obtain ⟨text, es, hfile, hparse, hgives, rfl⟩ := fileSettings_eq_ok_iff.1 hoptions
    exact ⟨text, es, hfile, hparse, hgives, a.overlay_eq _⟩
  · rintro ⟨text, es, hfile, hparse, hgives, rfl⟩
    exact ⟨_, fileSettings_eq_ok_iff.2 ⟨text, es, hfile, hparse, hgives, rfl⟩,
      (a.overlay_eq _).symm⟩

/-- What the log holds has no part in the settings. -/
theorem yields_options_iff {result : Except RunError RenderOptions} :
    (a.options files).Yields result ↔ a.settings files = result := by
  have hyields := yields_options files a
  exact ⟨fun h => (hyields []).symm.trans (h []), fun h => h ▸ hyields⟩

end Arguments

/-- **Settings are an overlay.**

They are decoded as they were written. A text that gives some of them, in any order and spelling,
leaves the others at their defaults, and one with an unknown or a repeated key is refused, even if
it stops being JSON behind. In a run each setting is by itself the one of the arguments, else the
one of the file, else the default; a file that is not readable or gives anything else leaves no
settings. -/
theorem settings_overlay :
    (∀ o : RenderOptions,
      decode RenderOptions.ofReading o.toJson.compact = .ok o ∧
        decode RenderOptions.ofReading o.toJson.pretty = .ok o) ∧
    (∀ (g : RenderOptions.Given) (j : Json) (cs : List Char), g.IsWritten j → j.IsText cs →
      decode RenderOptions.ofReading (String.ofList cs) = .ok
        { columns :=
            { year := g.year.getD "year"
              month := g.month.getD "month"
              day := g.day.getD "day" }
          layout := g.layout.getD .multiLine }) ∧
    (∀ (fields : List (String × Json)) (cs : List Char), (Json.object fields).IsText cs →
      RenderOptions.HasStrayKeys (fieldReadings fields) →
        ∃ e, decode RenderOptions.ofReading (String.ofList cs) = .error e) ∧
    (∀ (s : String) (fields : List (Option String × Reading)) (rest : List Char),
      Reading.ofChars s.toList = (.object fields, rest) → RenderOptions.HasStrayKeys fields →
        ∃ e, decode RenderOptions.ofReading s = .error e) ∧
    (∀ (files : Files) (a : Arguments), a.config = none →
      (a.options files).Yields (.ok
        { columns :=
            { year := a.yearColumn.getD "year"
              month := a.monthColumn.getD "month"
              day := a.dayColumn.getD "day" }
          layout := if a.singleLine then .singleLine else .multiLine })) ∧
    (∀ (files : Files) (a : Arguments) (path : String) (o : RenderOptions),
      a.config = some path →
        ((a.options files).Yields (.ok o) ↔ ∃ text es, files path = .ok text ∧
          Toml.parse? text = some es ∧ es.GiveSettings ∧ o =
            { columns :=
                { year := a.yearColumn.getD (es.given.year.getD "year")
                  month := a.monthColumn.getD (es.given.month.getD "month")
                  day := a.dayColumn.getD (es.given.day.getD "day") }
              layout := if a.singleLine then .singleLine
                else es.given.layout.getD .multiLine })) := by
  refine ⟨RenderOptions.decode_toJson, fun g j cs h htext => h.decode htext,
    fun fields cs htext hstray => ?_, fun s fields rest hread hstray => ?_,
    fun files a hconfig => ?_, fun files a path o hconfig => ?_⟩
  · rw [htext.decode]
    exact RenderOptions.ofReading_of_hasStrayKeys hstray
  · obtain ⟨e, he⟩ := RenderOptions.ofReading_of_hasStrayKeys hstray
    exact ⟨e, decode_of_error hread he⟩
  · rw [Arguments.yields_options_iff, Arguments.settings, hconfig]
    rfl
  · rw [Arguments.yields_options_iff, Arguments.settings_eq_ok_iff hconfig]
    simp only [← Arguments.overlay_eq]
    rfl

/-- Settings with some of them left out, texts with a repeated key and with an unknown one, and runs
without a file and with one. -/
theorem settings_overlay_samples :
    let left := "\x7b\"layout\":\"single_line\",\"columns\":\x7b\"day\":\"dd\"\x7d\x7d"
    let repeated := "\x7b\"columns\":\x7b\"day\":\"dd\",\"day\":\"dd\"\x7d\x7d"
    let unknown := "\x7b\"layuot\":\"single_line\"\x7d"
    let file := "layout = 'single_line'\n[columns]\nyear = 'yr'\nday = 'dd'"
    let files : Files := fun _ => .ok file
    let bare : Arguments := { first := "2019", last := "2020", monthColumn := some "mm" }
    let full : Arguments := { bare with config := some "options.toml", dayColumn := some "d" }
    decode RenderOptions.ofReading left =
      .ok { columns := { day := "dd" }, layout := .singleLine } ∧
    (∃ e, decode RenderOptions.ofReading repeated = .error e) ∧
    (∃ e, decode RenderOptions.ofReading unknown = .error e) ∧
    (bare.options files).Yields (.ok { columns := { month := "mm" } }) ∧
    (full.options files).Yields
      (.ok { columns := { year := "yr", month := "mm", day := "d" }, layout := .singleLine }) := by
  intro left repeated unknown file files bare full
  obtain ⟨-, hgiven, hstray, hread, hbare, hfull⟩ := settings_overlay
  -- the texts are those that the writer makes of these values
  let value₁ : Json :=
    .object [("layout", .text "single_line"), ("columns", .object [("day", .text "dd")])]
  let fields₂ : List (String × Json) :=
    [("columns", .object [("day", .text "dd"), ("day", .text "dd")])]
  let fields₃ : List (String × Json) := [("layuot", .text "single_line")]
  have h₁ : RenderOptions.Given.IsWritten ⟨none, none, some "dd", some .singleLine⟩ value₁ :=
    @RenderOptions.Given.IsWritten.object _ (some [("day", .text "dd")]) (some _) _ (.refl _)
      (.name .singleLine) (.swap ..)
  have htext₁ : value₁.IsText (value₁.write .none 0) := isText_write Spacing.isBlank_none
    (by simp [value₁, NumbersFit, FieldsFit])
  have htext₂ : (Json.object fields₂).IsText ((Json.object fields₂).write .none 0) :=
    isText_write Spacing.isBlank_none (by simp [fields₂, NumbersFit, FieldsFit])
  have htext₃ : (Json.object fields₃).IsText ((Json.object fields₃).write .none 0) :=
    isText_write Spacing.isBlank_none (by simp [fields₃, NumbersFit, FieldsFit])
  obtain ⟨rest, hread₃, -⟩ := htext₃.ofChars
  have hfile : (Toml.parse? file).any (fun es =>
      es.GiveSettings ∧ es.given = ⟨some "yr", none, some "dd", some .singleLine⟩) := by
    decide +kernel
  obtain ⟨es, hparse, hes⟩ := (Option.any_eq_true ..).1 hfile
  obtain ⟨hgives, hes⟩ := of_decide_eq_true hes
  refine ⟨hgiven _ _ _ h₁ htext₁, hstray _ _ htext₂ (.inr ⟨_, List.mem_cons_self .., .inr ?_⟩),
    hread unknown (fieldReadings fields₃) rest ?_ (.inl (.inl ?_)), hbare files bare rfl,
    (hfull files full "options.toml" _ rfl).2 ⟨file, es, rfl, hparse, hgives, ?_⟩⟩
  · decide
  · have hcompact : unknown = (Json.object fields₃).compact := rfl
    rwa [hcompact, compact, String.toList_ofList]
  · decide
  · rw [hes]
    rfl

end CommandLine

end DatePartition
