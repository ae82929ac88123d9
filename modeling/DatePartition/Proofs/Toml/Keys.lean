import DatePartition.Toml.Reader

/-!
# No key of a document is there twice

Every table of a document has each of its keys once, however the lines that fill it are ordered, and
so has every table in a list or in braces.

- `Value.Unambiguous`, `Entries.Unambiguous`: no key is there twice, at any depth.
- `Entries.Unambiguous.put` and its siblings: what one change of a table preserves.
- `Entries.unambiguous_descend`: a change of the table at the end of a path preserves what it
  preserves there.
- `Draft.Unambiguous.insert`, `Draft.Unambiguous.openTable`: one line of a document.
- `readValue?_unambiguous`, `readLines?_unambiguous`: values and documents.
- `parse?_unambiguous`: **no key of a document is there twice.**
-/

namespace DatePartition.Toml

/-! ## What is preserved -/

/-- No key is there twice in a value, at any depth. -/
inductive Value.Unambiguous : Value → Prop where
  | text (s : String) : Unambiguous (.text s)
  | scalar : Unambiguous .scalar
  | list {items : List Value} (h : ∀ v ∈ items, v.Unambiguous) : Unambiguous (.list items)
  | tables {elements : List Entries} (hkeys : ∀ es ∈ elements, (es.map Prod.fst).Nodup)
    (h : ∀ es ∈ elements, ∀ e ∈ es, e.2.Unambiguous) : Unambiguous (.tables elements)
  | table {origin : Origin} {es : Entries} (hkeys : (es.map Prod.fst).Nodup)
    (h : ∀ e ∈ es, e.2.Unambiguous) : Unambiguous (.table origin es)

/-- No key is there twice in a table, at any depth. -/
structure Entries.Unambiguous (es : Entries) : Prop where
  keys : (es.map Prod.fst).Nodup
  values : ∀ e ∈ es, e.2.Unambiguous

/-- No key is there twice in a document so far. -/
structure Draft.Unambiguous (d : Draft) : Prop where
  root : d.root.Unambiguous
  current : d.current.Unambiguous

variable {es es' : Entries} {key : String} {v : Value} {origin : Origin}
  {elems : List Entries}

theorem Value.Unambiguous.entries (h : (Value.table origin es).Unambiguous) :
    Entries.Unambiguous es := by
  cases h with
  | table hkeys h => exact ⟨hkeys, h⟩

theorem Value.Unambiguous.elements (h : (Value.tables elems).Unambiguous) :
    ∀ es ∈ elems, Entries.Unambiguous es := by
  cases h with
  | tables hkeys h => exact fun es hes => ⟨hkeys es hes, h es hes⟩

namespace Entries

theorem Unambiguous.nil : Unambiguous [] := ⟨.nil, nofun⟩

theorem Unambiguous.table (h : es.Unambiguous) (origin : Origin) :
    (Value.table origin es).Unambiguous := .table h.keys h.values

theorem unambiguous_tables (h : ∀ es ∈ elems, Entries.Unambiguous es) :
    (Value.tables elems).Unambiguous :=
  .tables (fun es hes => (h es hes).keys) fun es hes => (h es hes).values

/-! ## Changes of one table -/

theorem mem_of_lookup (h : es.lookup key = some v) : (key, v) ∈ es := by
  obtain ⟨l₁, l₂, rfl, -⟩ := List.lookup_eq_some_iff.1 h
  exact List.mem_append_right l₁ (List.mem_cons_self ..)

theorem Unambiguous.lookup (h : es.Unambiguous) (hlookup : es.lookup key = some v) :
    v.Unambiguous := h.values _ (mem_of_lookup hlookup)

theorem mem_keys_put {k : String} :
    k ∈ (es.put key v).map Prod.fst ↔ k = key ∨ k ∈ es.map Prod.fst := by
  induction es with
  | nil => simp [Entries.put]
  | cons e es ih =>
    unfold put
    split
    · next heq => simp [heq]
    · rw [List.map_cons, List.mem_cons, ih, List.map_cons, List.mem_cons]
      exact or_left_comm

theorem Unambiguous.put (h : es.Unambiguous) (key : String) (hv : v.Unambiguous) :
    (es.put key v).Unambiguous := by
  induction es with
  | nil => exact ⟨by simp [Entries.put], by simpa [Entries.put] using hv⟩
  | cons e es ih =>
    obtain ⟨hkeys, hvalues⟩ := h
    rw [List.map_cons, List.nodup_cons] at hkeys
    have hrest : Unambiguous es := ⟨hkeys.2, fun e he => hvalues e (List.mem_cons_of_mem _ he)⟩
    unfold Entries.put
    split
    · refine ⟨List.nodup_cons.2 hkeys, fun e he => ?_⟩
      rcases List.mem_cons.1 he with rfl | he
      · exact hv
      · exact hrest.values e he
    · next hne =>
      obtain ⟨hputKeys, hputValues⟩ := ih hrest
      refine ⟨List.nodup_cons.2 ⟨fun hmem => ?_, hputKeys⟩, fun e he => ?_⟩
      · exact (mem_keys_put.1 hmem).elim hne hkeys.1
      · rcases List.mem_cons.1 he with rfl | he
        · exact hvalues _ (List.mem_cons_self ..)
        · exact hputValues e he

theorem Unambiguous.remove (h : es.Unambiguous) (key : String) : (es.remove key).Unambiguous :=
  ⟨((List.filter_sublist ..).map Prod.fst).nodup h.keys, fun e he =>
    h.values e (List.mem_filter.1 he).1⟩

theorem Unambiguous.append_new (h : es.Unambiguous) (hnew : es.lookup key = none)
    (hv : v.Unambiguous) : Entries.Unambiguous (es ++ [(key, v)]) := by
  have hkey : ∀ e ∈ es, e.1 ≠ key := fun e he heq => by
    simpa [heq] using List.lookup_eq_none_iff.1 hnew e he
  constructor
  · rw [List.map_append, List.nodup_append]
    refine ⟨h.keys, List.pairwise_singleton _ key, fun a ha b hb => ?_⟩
    obtain ⟨e, he, rfl⟩ := List.mem_map.1 ha
    rw [List.mem_singleton.1 hb]
    exact hkey e he
  · intro e he
    rcases List.mem_append.1 he with he | he
    · exact h.values e he
    · rw [List.mem_singleton.1 he]
      exact hv

/-! ## Changes at the end of a path -/

/-- What a change of a table preserves at the end of a path is preserved along the path. -/
theorem unambiguous_descend {α : Type} {dotted : Bool}
    {change : Origin → Entries → Option (α × Entries)} {P : α → Prop}
    (hchange : ∀ {origin es a es'}, Entries.Unambiguous es → change origin es = some (a, es') →
      P a ∧ Entries.Unambiguous es')
    {path : List String} {a : α} (h : es.Unambiguous)
    (hdescend : es.descend dotted change path origin = some (a, es')) :
    P a ∧ es'.Unambiguous := by
  induction path generalizing origin es a es' with
  | nil => exact hchange h hdescend
  | cons key path ih =>
    rw [descend] at hdescend
    split at hdescend
    · -- a new table begins without entries
      obtain ⟨⟨b, inner⟩, hinner, heq⟩ := Option.bind_eq_some_iff.1 hdescend
      cases heq
      obtain ⟨hP, hinner⟩ := ih .nil hinner
      exact ⟨hP, h.put key (hinner.table _)⟩
    · next hlookup =>
      split at hdescend
      · cases hdescend
      · obtain ⟨⟨b, inner⟩, hinner, heq⟩ := Option.bind_eq_some_iff.1 hdescend
        cases heq
        obtain ⟨hP, hinner⟩ := ih (h.lookup hlookup).entries hinner
        exact ⟨hP, h.put key (hinner.table _)⟩
    · next elements hlookup =>
      split at hdescend
      · cases hdescend
      · next last hlast =>
        obtain ⟨⟨b, inner⟩, hinner, heq⟩ := Option.bind_eq_some_iff.1 hdescend
        cases heq
        have helements := (h.lookup hlookup).elements
        obtain ⟨hP, hinner⟩ := ih (helements last (List.mem_of_getLast? hlast)) hinner
        refine ⟨hP, h.put key (unambiguous_tables fun es hes => ?_)⟩
        rcases List.mem_append.1 hes with hes | hes
        · exact helements es ((List.dropLast_sublist elements).subset hes)
        · rw [List.mem_singleton.1 hes]
          exact hinner
    · cases hdescend

/-- A new key is no second one. -/
theorem unambiguous_addNew {path : List String} {u : Unit} (hv : v.Unambiguous)
    (h : es.Unambiguous) (hadd : addNew path key v origin es = some (u, es')) :
    es'.Unambiguous := by
  unfold addNew at hadd
  split at hadd
  · cases hadd
  split at hadd
  · cases hadd
  · next hnew =>
    cases hadd
    exact h.append_new (Option.not_isSome_iff_eq_none.1 hnew) hv

/-- **A line `path.key = value` adds no second key.** -/
theorem Unambiguous.insert {path : List String} (h : es.Unambiguous) (hv : v.Unambiguous)
    (hinsert : es.insert path key v = some es') : es'.Unambiguous := by
  obtain ⟨⟨u, _⟩, hdescend, rfl⟩ := Option.map_eq_some_iff.1 hinsert
  exact (unambiguous_descend (P := fun _ => True)
    (fun h hadd => ⟨trivial, unambiguous_addNew hv h hadd⟩) h hdescend).2

end Entries

/-! ## Documents -/

namespace Draft

open Entries

variable {current : Entries} {d d' : Draft}

theorem unambiguous_placeElement {u : Unit} (hcurrent : current.Unambiguous) (h : es.Unambiguous)
    (hplace : placeElement key current es = some (u, es')) : es'.Unambiguous := by
  unfold placeElement at hplace
  split at hplace
  · cases hplace
    refine h.put key (unambiguous_tables fun es hes => ?_)
    rw [List.mem_singleton.1 hes]
    exact hcurrent
  · next hlookup =>
    cases hplace
    refine h.put key (unambiguous_tables fun es hes => ?_)
    rcases List.mem_append.1 hes with hes | hes
    · exact (h.lookup hlookup).elements es hes
    · rw [List.mem_singleton.1 hes]
      exact hcurrent
  · cases hplace

theorem unambiguous_placeTable {u : Unit} (hcurrent : current.Unambiguous) (h : es.Unambiguous)
    (hplace : placeTable key current es = some (u, es')) : es'.Unambiguous := by
  unfold placeTable at hplace
  split at hplace <;> cases hplace <;> exact h.put key (hcurrent.table _)

/-- The current table is put in its place. -/
theorem Unambiguous.close (h : d.Unambiguous) (hclose : d.close = some es) : es.Unambiguous := by
  unfold Draft.close at hclose
  split at hclose
  · cases hclose
    exact h.current
  · next key _ =>
    obtain ⟨⟨u, _⟩, hdescend, rfl⟩ := Option.map_eq_some_iff.1 hclose
    refine (unambiguous_descend (P := fun _ => True) (fun h' hplace => ⟨trivial, ?_⟩) h.root
      hdescend).2
    split at hplace
    · exact unambiguous_placeElement h.current h' hplace
    · exact unambiguous_placeTable h.current h' hplace

theorem unambiguous_takeOut (h : es.Unambiguous)
    (htake : takeOut key es = some (current, es')) : current.Unambiguous ∧ es'.Unambiguous := by
  unfold takeOut at htake
  split at htake
  · cases htake
    exact ⟨.nil, h⟩
  · next hlookup =>
    cases htake
    exact ⟨(h.lookup hlookup).entries, h.remove key⟩
  · cases htake

theorem unambiguous_makeRoom (h : es.Unambiguous)
    (hmake : makeRoom key es = some (current, es')) : current.Unambiguous ∧ es'.Unambiguous := by
  unfold makeRoom at hmake
  split at hmake
  · cases hmake
    exact ⟨.nil, h.put key (unambiguous_tables nofun)⟩
  · cases hmake
    exact ⟨.nil, h⟩
  · cases hmake

/-- **A header makes no second key.** -/
theorem Unambiguous.openTable {isElement : Bool} {path : List String} (h : d.Unambiguous)
    (hopen : d.openTable isElement path key = some d') : d'.Unambiguous := by
  obtain ⟨root, hclose, hopen⟩ := Option.bind_eq_some_iff.1 hopen
  obtain ⟨⟨current, root'⟩, hdescend, heq⟩ := Option.bind_eq_some_iff.1 hopen
  cases heq
  obtain ⟨hcurrent, hroot⟩ := unambiguous_descend (P := Entries.Unambiguous)
    (fun h' hstart => by
      split at hstart
      · exact unambiguous_makeRoom h' hstart
      · exact unambiguous_takeOut h' hstart) (h.close hclose) hdescend
  exact ⟨hroot, hcurrent⟩

/-- **A line `path.key = value` of a document makes no second key.** -/
theorem Unambiguous.insert {path : List String} (h : d.Unambiguous) (hv : v.Unambiguous)
    (hinsert : d.insert path key v = some d') : d'.Unambiguous := by
  obtain ⟨current, hcurrent, heq⟩ := Option.bind_eq_some_iff.1 hinsert
  cases heq
  exact ⟨h.root, h.current.insert hv hcurrent⟩

end Draft

/-! ## Reading -/

mutual

theorem readValue?_unambiguous : ∀ (fuel : Nat) {depth : Nat} {cs rest : List Char} {v : Value},
    readValue? fuel depth cs = some (v, rest) → v.Unambiguous
  | fuel + 1, depth, cs, rest, v, h => by
    unfold readValue? at h
    split at h
    · dsimp only at h
      split at h
      · cases h
      obtain ⟨⟨items, _⟩, hitems, heq⟩ := Option.bind_eq_some_iff.1 h
      cases heq
      exact .list (readItems?_unambiguous fuel hitems)
    · dsimp only at h
      split at h
      · cases h
      split at h
      · cases h
        exact Entries.Unambiguous.nil.table _
      · obtain ⟨⟨entries, _⟩, hentries, heq⟩ := Option.bind_eq_some_iff.1 h
        cases heq
        exact (readEntries?_unambiguous fuel .nil hentries).table _
    · split at h
      · cases h
        exact .text _
      · obtain ⟨_, _, heq⟩ := Option.map_eq_some_iff.1 h
        cases heq
        exact .scalar

theorem readItems?_unambiguous : ∀ (fuel : Nat) {depth : Nat} {cs rest : List Char}
    {items : List Value}, readItems? fuel depth cs = some (items, rest) →
      ∀ v ∈ items, v.Unambiguous
  | fuel + 1, depth, cs, rest, items, h => by
    unfold readItems? at h
    obtain ⟨_, _, h⟩ := Option.bind_eq_some_iff.1 h
    split at h
    · cases h
      exact nofun
    · obtain ⟨⟨item, _⟩, hitem, h⟩ := Option.bind_eq_some_iff.1 h
      have hitem := readValue?_unambiguous fuel hitem
      obtain ⟨_, _, h⟩ := Option.bind_eq_some_iff.1 h
      split at h
      · obtain ⟨⟨more, _⟩, hmore, heq⟩ := Option.bind_eq_some_iff.1 h
        cases heq
        intro v hv
        rcases List.mem_cons.1 hv with rfl | hv
        · exact hitem
        · exact readItems?_unambiguous fuel hmore v hv
      · cases h
        intro v hv
        rw [List.mem_singleton.1 hv]
        exact hitem
      · cases h

theorem readEntries?_unambiguous : ∀ (fuel : Nat) {depth : Nat} {cs rest : List Char}
    {es es' : Entries}, es.Unambiguous → readEntries? fuel depth es cs = some (es', rest) →
      es'.Unambiguous
  | fuel + 1, depth, cs, rest, es, es', hes, h => by
    unfold readEntries? at h
    obtain ⟨⟨⟨path, key⟩, _⟩, _, h⟩ := Option.bind_eq_some_iff.1 h
    obtain ⟨_, _, h⟩ := Option.bind_eq_some_iff.1 h
    obtain ⟨⟨value, _⟩, hvalue, h⟩ := Option.bind_eq_some_iff.1 h
    obtain ⟨entries, hinsert, h⟩ := Option.bind_eq_some_iff.1 h
    have hentries := hes.insert (readValue?_unambiguous fuel hvalue) hinsert
    split at h
    · exact readEntries?_unambiguous fuel hentries h
    · cases h
      exact hentries
    · cases h

end

/-- One line of a document makes no second key. -/
theorem readEntry?_unambiguous {d d' : Draft} {cs rest : List Char} (hd : d.Unambiguous)
    (h : readEntry? d cs = some (d', rest)) : d'.Unambiguous := by
  obtain ⟨⟨⟨path, key⟩, _⟩, _, h⟩ := Option.bind_eq_some_iff.1 h
  obtain ⟨_, _, h⟩ := Option.bind_eq_some_iff.1 h
  obtain ⟨⟨value, _⟩, hvalue, h⟩ := Option.bind_eq_some_iff.1 h
  obtain ⟨_, _, h⟩ := Option.bind_eq_some_iff.1 h
  obtain ⟨_, hinsert, heq⟩ := Option.bind_eq_some_iff.1 h
  cases heq
  exact hd.insert (readValue?_unambiguous _ hvalue) hinsert

theorem readHeader?_unambiguous {isElement : Bool} {d d' : Draft} {cs rest : List Char}
    (hd : d.Unambiguous) (h : readHeader? isElement d cs = some (d', rest)) : d'.Unambiguous := by
  obtain ⟨⟨⟨path, key⟩, _⟩, _, h⟩ := Option.bind_eq_some_iff.1 h
  obtain ⟨_, _, h⟩ := Option.bind_eq_some_iff.1 h
  -- the header of an element of a list has one more bracket
  have hopen : d.openTable isElement path key = some d' := by
    dsimp only at h
    split at h
    all_goals
      obtain ⟨_, _, h⟩ := Option.bind_eq_some_iff.1 h
      obtain ⟨_, _, h⟩ := Option.bind_eq_some_iff.1 h
      obtain ⟨_, hopen, heq⟩ := Option.bind_eq_some_iff.1 h
      cases heq
      exact hopen
  exact hd.openTable hopen

theorem readLines?_unambiguous {fuel : Nat} {d d' : Draft} {cs : List Char} (hd : d.Unambiguous)
    (h : readLines? fuel d cs = some d') : d'.Unambiguous := by
  induction fuel generalizing d cs with
  | zero => cases h
  | succ fuel ih =>
    unfold readLines? at h
    split at h
    · cases h
      exact hd
    · obtain ⟨_, _, h⟩ := Option.bind_eq_some_iff.1 h
      exact ih hd h
    · obtain ⟨_, _, h⟩ := Option.bind_eq_some_iff.1 h
      exact ih hd h
    · obtain ⟨_, _, h⟩ := Option.bind_eq_some_iff.1 h
      exact ih hd h
    · obtain ⟨⟨_, _⟩, hheader, h⟩ := Option.bind_eq_some_iff.1 h
      exact ih (readHeader?_unambiguous hd hheader) h
    · obtain ⟨⟨_, _⟩, hheader, h⟩ := Option.bind_eq_some_iff.1 h
      exact ih (readHeader?_unambiguous hd hheader) h
    · obtain ⟨⟨_, _⟩, hentry, h⟩ := Option.bind_eq_some_iff.1 h
      exact ih (readEntry?_unambiguous hd hentry) h

/-- **No key of a document is there twice**, neither in the document nor in any table in it. -/
theorem parse?_unambiguous {s : String} {es : Entries} (h : parse? s = some es) :
    es.Unambiguous := by
  obtain ⟨d, hread, hclose⟩ := Option.bind_eq_some_iff.1 h
  exact (readLines?_unambiguous ⟨.nil, .nil⟩ hread).close hclose

end DatePartition.Toml
