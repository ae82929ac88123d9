import DatePartition.Json.Decode

/-!
# Records

An object is read field by field. The order of its fields does not matter, and every key must be a
known one that was not there before.

- `Slot.Apart`: the fields of a record keep out of each other's way.
- `Reading.fillFields_cons_iff`: **one field is read**, inverted; `Reading.fillFields_of_fault`: the
  first field that is refused.
- `HasStrayKey`, `Reading.record_of_hasStrayKey`: **an object with an unknown or a repeated key is
  refused.**
- `Reading.fillFields_perm`: **the fields can be in any order.**
- `Reading.fillItems_eq_fillFields`: a list of fields is read as the object with the same fields.
-/

namespace DatePartition

/-! ## Results -/

/-- What a computation gives is computed from what its first part gives. -/
theorem Except.bind_eq_ok_iff {ε α β : Type} {x : Except ε α} {f : α → Except ε β} {b : β} :
    (x >>= f) = .ok b ↔ ∃ a, x = .ok a ∧ f a = .ok b := by
  cases x with
  | error e => exact ⟨nofun, fun ⟨_, h, _⟩ => nomatch h⟩
  | ok a => exact ⟨fun h => ⟨a, rfl, h⟩, fun ⟨_, h, hf⟩ => Except.ok.inj h ▸ hf⟩

/-- What is made of a result is there if the result is. -/
theorem Except.bind_return_eq_ok_iff {ε α β : Type} {x : Except ε α} {f : α → β} {b : β} :
    (do return f (← x)) = Except.ok b ↔ ∃ a, x = .ok a ∧ b = f a := by
  rw [Except.bind_eq_ok_iff]
  exact exists_congr fun a => and_congr_right fun _ =>
    ⟨fun h => (Except.ok.inj h).symm, fun h => congrArg Except.ok h.symm⟩

/-- Why a computation fails, if it does. -/
def fault? {ε α : Type} : Except ε α → Option ε
  | .ok _ => none
  | .error e => some e

section Faults

variable {ε κ α β : Type} {x : Except ε α} {e : ε}

theorem fault?_eq_some_iff : fault? x = some e ↔ x = .error e := by
  cases x <;> simp [fault?]

theorem fault?_eq_none_iff : fault? x = none ↔ ∃ a, x = .ok a := by
  cases x <;> simp [fault?]

@[simp] theorem fault?_map (f : α → β) : fault? (x.map f) = fault? x := by
  cases x <;> rfl

@[simp] theorem fault?_mapError (f : ε → κ) : fault? (x.mapError f) = (fault? x).map f := by
  cases x <;> rfl

/-- A list is refused for its first item that is refused. -/
theorem fault?_mapM (f : α → Except ε β) (as : List α) :
    fault? (as.mapM f) = as.findSome? fun a => fault? (f a) := by
  induction as with
  | nil => rfl
  | cons a as ih =>
    rw [List.mapM_cons, List.findSome?_cons, ← ih]
    cases f a with
    | error e => rfl
    | ok b =>
      show fault? ((as.mapM f).map fun bs => b :: bs) = _
      rw [fault?_map]
      rfl

/-- A list with an item that is refused is refused. -/
theorem exists_mapM_eq_error {f : α → Except ε β} {as : List α} {a : α}
    (hmem : a ∈ as) (h : ∃ e, f a = .error e) : ∃ e, as.mapM f = .error e := by
  obtain ⟨e, he⟩ := h
  have hsome : (as.findSome? fun a => fault? (f a)).isSome = true :=
    List.findSome?_isSome_iff.2 ⟨a, hmem, by rw [he]; rfl⟩
  rw [← fault?_mapM] at hsome
  obtain ⟨e', he'⟩ := Option.isSome_iff_exists.1 hsome
  exact ⟨e', fault?_eq_some_iff.1 he'⟩

end Faults

/-! ## Readings of values -/

theorem Json.readings_eq_map (items : List Json) :
    Json.readings items = items.map Json.reading := by
  induction items with
  | nil => rfl
  | cons item items ih => rw [Json.readings, ih, List.map_cons]

theorem Json.fieldReadings_eq_map (fields : List (String × Json)) :
    Json.fieldReadings fields = fields.map fun field => (some field.1, field.2.reading) := by
  induction fields with
  | nil => rfl
  | cons field fields ih => rw [Json.fieldReadings, ih, List.map_cons]

theorem Json.fieldReadings_perm {fields others : List (String × Json)} (h : fields.Perm others) :
    (Json.fieldReadings fields).Perm (Json.fieldReadings others) := by
  rw [Json.fieldReadings_eq_map, Json.fieldReadings_eq_map]
  exact h.map _

/-! ## Fields -/

variable {σ : Type}

/-- The fields of a record keep out of each other's way. -/
structure Slot.Apart (slots : List (Slot σ)) : Prop where
  /-- Every field has a name of its own. -/
  names : (slots.map Slot.name).Nodup
  /-- Reading a field fills it and no other one. -/
  isFilled_fill : ∀ a ∈ slots, ∀ b ∈ slots, ∀ {s s' : σ} {r : Reading}, a.fill s r = .ok s' →
    b.isFilled s' = (b.isFilled s || b.name = a.name)
  /-- Two fields can be read in either order. -/
  fill_comm : ∀ a ∈ slots, ∀ b ∈ slots, a.name ≠ b.name → ∀ {s s₁ s₂ : σ} {x y : Reading},
    a.fill s x = .ok s₁ → b.fill s₁ y = .ok s₂ →
      ∃ s', b.fill s y = .ok s' ∧ a.fill s' x = .ok s₂

/-- The field with a name is found by it. -/
theorem Slot.Apart.find?_name {slots : List (Slot σ)} (h : Apart slots) {slot : Slot σ}
    (hslot : slot ∈ slots) : (slots.find? fun other => other.name = slot.name) = some slot := by
  have hnames := h.names
  clear h
  induction slots with
  | nil => cases hslot
  | cons first slots ih =>
    rw [List.map_cons, List.nodup_cons] at hnames
    rcases List.mem_cons.1 hslot with rfl | hmem
    · exact List.find?_cons_of_pos (by simp)
    · have hne : first.name ≠ slot.name := fun heq =>
        hnames.1 (heq ▸ List.mem_map_of_mem hmem)
      rw [List.find?_cons_of_neg (by simpa using hne)]
      exact ih hmem hnames.2

/-- A key of an object is none of the known ones, or it is there twice. -/
def HasStrayKey (known keys : List String) : Prop := (∃ key ∈ keys, key ∉ known) ∨ ¬ keys.Nodup

namespace Reading

variable {slots : List (Slot σ)} {s s' : σ} {slot : Slot σ} {key : Option String} {value : Reading}
  {fields others : List (Option String × Reading)} {e : DecodeError}

/-! ## One field -/

/-- A field that was not read before is read into its slot. -/
theorem fillFields_cons {name : String}
    (hfind : (slots.find? fun slot => slot.name = name) = some slot)
    (hfree : slot.isFilled s = false) (hfill : slot.fill s value = .ok s') :
    fillFields slots s ((some name, value) :: fields) = fillFields slots s' fields := by
  rw [fillFields, hfind]
  dsimp only
  rw [hfree, if_neg Bool.false_ne_true, hfill]
  rfl

/-- **A field is read** if its key is known, it was not read before, and its value fits. -/
theorem fillFields_cons_iff (h : Slot.Apart slots) :
    fillFields slots s ((key, value) :: fields) = .ok s' ↔
      ∃ slot ∈ slots, key = some slot.name ∧ slot.isFilled s = false ∧
        ∃ s₁, slot.fill s value = .ok s₁ ∧ fillFields slots s₁ fields = .ok s' := by
  constructor
  · intro hfill
    cases key with
    | none => cases hfill
    | some name =>
      rw [fillFields] at hfill
      split at hfill
      · cases hfill
      · next slot hfind =>
        have hname : slot.name = name := by simpa using List.find?_some hfind
        split at hfill
        · cases hfill
        · next hfree =>
          exact ⟨slot, List.mem_of_find?_eq_some hfind, congrArg some hname.symm,
            Bool.not_eq_true _ ▸ hfree, Except.bind_eq_ok_iff.1 hfill⟩
  · rintro ⟨slot, hslot, rfl, hfree, s₁, hvalue, hfill⟩
    rw [fillFields_cons (h.find?_name hslot) hfree hvalue, hfill]

/-- A field whose value does not fit is refused, whatever follows. -/
theorem fillFields_of_fault (h : Slot.Apart slots) (hslot : slot ∈ slots)
    (hfree : slot.isFilled s = false) (hvalue : slot.fill s value = .error e) :
    fillFields slots s ((some slot.name, value) :: fields) = .error e := by
  rw [fillFields, h.find?_name hslot]
  dsimp only
  rw [hfree, if_neg Bool.false_ne_true, hvalue]
  rfl

/-! ## Known keys, once each -/

/-- What was read of an object has known keys only, each of them once. -/
theorem keys_of_fillFields (h : Slot.Apart slots) (hfill : fillFields slots s fields = .ok s') :
    (fields.map Prod.fst).Nodup ∧
      ∀ key ∈ fields.map Prod.fst, ∃ slot ∈ slots, key = some slot.name ∧
        slot.isFilled s = false := by
  induction fields generalizing s with
  | nil => exact ⟨.nil, nofun⟩
  | cons field fields ih =>
    obtain ⟨key, value⟩ := field
    obtain ⟨slot, hslot, rfl, hfree, s₁, hvalue, hrest⟩ := (fillFields_cons_iff h).1 hfill
    obtain ⟨hnodup, hkeys⟩ := ih hrest
    -- a later field was free also before this one, and is another one
    have hlater : ∀ other ∈ slots, other.isFilled s₁ = false →
        other.isFilled s = false ∧ other.name ≠ slot.name := by
      intro other hother hnot
      rw [h.isFilled_fill slot hslot other hother hvalue] at hnot
      simpa using hnot
    refine ⟨List.nodup_cons.2 ⟨fun hmem => ?_, hnodup⟩, fun key hkey => ?_⟩
    · obtain ⟨other, hother, hname, hnot⟩ := hkeys _ hmem
      exact (hlater other hother hnot).2 (Option.some.inj hname).symm
    · rcases List.mem_cons.1 hkey with rfl | hmem
      · exact ⟨slot, hslot, rfl, hfree⟩
      · obtain ⟨other, hother, hname, hnot⟩ := hkeys key hmem
        exact ⟨other, hother, hname, (hlater other hother hnot).1⟩

/-- What was read of an object was read field by field. -/
theorem fill_of_fillFields (h : Slot.Apart slots) (hfill : fillFields slots s fields = .ok s')
    (hmem : (key, value) ∈ fields) : ∃ slot ∈ slots, key = some slot.name ∧
      ∃ s₁ s₂, slot.fill s₁ value = .ok s₂ := by
  induction fields generalizing s with
  | nil => cases hmem
  | cons field fields ih =>
    obtain ⟨slot, hslot, hkey, -, s₁, hvalue, hrest⟩ := (fillFields_cons_iff h).1 hfill
    rcases List.mem_cons.1 hmem with rfl | hmem
    · exact ⟨slot, hslot, hkey, s, s₁, hvalue⟩
    · exact ih hrest hmem

/-- The keys of the fields of an object, as far as there are any. -/
def keys (fields : List (Option String × Reading)) : List String := fields.filterMap Prod.fst

theorem keys_fieldReadings (fields : List (String × Json)) :
    keys (Json.fieldReadings fields) = fields.map Prod.fst := by
  rw [Json.fieldReadings_eq_map, keys, List.filterMap_map]
  exact congrFun List.filterMap_eq_map fields

/-- **An object with an unknown or a repeated key is refused**, whatever its values are. -/
theorem record_of_hasStrayKey {α : Type} (h : Slot.Apart slots) (expected : String) (start : σ)
    (finish : Bool → σ → Except DecodeError α)
    (hstray : HasStrayKey (slots.map Slot.name) (keys fields)) :
    ∃ e, (object fields).record expected slots start finish = .error e := by
  have hkeys : keys fields = (fields.map Prod.fst).filterMap id := by
    rw [keys, List.filterMap_map]
    rfl
  show ∃ e, (do finish true (← fillFields slots start fields)) = .error e
  cases hfill : fillFields slots start fields with
  | error e => exact ⟨e, rfl⟩
  | ok s' =>
    obtain ⟨hnodup, hknown⟩ := keys_of_fillFields h hfill
    rcases hstray with ⟨key, hmem, hunknown⟩ | hrepeated
    · rw [hkeys, List.mem_filterMap] at hmem
      obtain ⟨_, hmem, rfl⟩ := hmem
      obtain ⟨slot, hslot, hname, -⟩ := hknown _ hmem
      exact absurd (Option.some.inj hname ▸ List.mem_map_of_mem hslot) hunknown
    · refine absurd ?_ hrepeated
      rw [hkeys]
      refine List.Pairwise.filterMap id (fun a b hne c hc d hd hcd => hne ?_) hnodup
      rw [show a = some c from hc, show b = some d from hd, hcd]

/-! ## Any order -/

/-- **The fields of an object can be in any order.** -/
theorem fillFields_perm (h : Slot.Apart slots) (hperm : fields.Perm others)
    (hfill : fillFields slots s fields = .ok s') : fillFields slots s others = .ok s' := by
  induction hperm generalizing s with
  | nil => exact hfill
  | cons field _ ih =>
    obtain ⟨slot, hslot, hkey, hfree, s₁, hvalue, hrest⟩ := (fillFields_cons_iff h).1 hfill
    exact (fillFields_cons_iff h).2 ⟨slot, hslot, hkey, hfree, s₁, hvalue, ih hrest⟩
  | swap b a rest =>
    obtain ⟨first, hfirst, hfirstKey, hfirstFree, s₁, hfirstValue, hfill⟩ :=
      (fillFields_cons_iff h).1 hfill
    obtain ⟨second, hsecond, hsecondKey, hsecondFree, s₂, hsecondValue, hrest⟩ :=
      (fillFields_cons_iff h).1 hfill
    -- the second one was free after the first one, so they are not the same
    have hapart := h.isFilled_fill first hfirst second hsecond hfirstValue
    rw [hsecondFree, eq_comm, Bool.or_eq_false_iff, decide_eq_false_iff_not] at hapart
    obtain ⟨hfree, hne⟩ := hapart
    obtain ⟨s₃, hvalue₃, hvalue₂⟩ :=
      h.fill_comm first hfirst second hsecond (Ne.symm hne) hfirstValue hsecondValue
    have hfree₃ : first.isFilled s₃ = false := by
      rw [h.isFilled_fill second hsecond first hfirst hvalue₃, hfirstFree]
      simpa using Ne.symm hne
    exact (fillFields_cons_iff h).2 ⟨second, hsecond, hsecondKey, hfree, s₃, hvalue₃,
      (fillFields_cons_iff h).2 ⟨first, hfirst, hfirstKey, hfree₃, s₂, hvalue₂, hrest⟩⟩
  | trans _ _ ih₁ ih₂ => exact ih₂ (ih₁ hfill)

/-! ## Lists of fields -/

/-- The fields of a record by their places in a list. -/
def placed (slots : List (Slot σ)) (items : List Reading) : List (Option String × Reading) :=
  List.zipWith (fun slot item => (some slot.name, item)) slots items

/-- A list of the last fields is read as the object with these fields. -/
theorem fillItems_eq_fillFields_of_suffix (h : Slot.Apart slots) {items : List Reading}
    {last : List (Slot σ)} (hlast : last <:+ slots) (hlength : items.length ≤ last.length)
    (hfree : ∀ slot ∈ last, slot.isFilled s = false) :
    fillItems s last items = fillFields slots s (placed last items) := by
  induction last generalizing s items with
  | nil =>
    cases items with
    | nil => rfl
    | cons item items => cases hlength
  | cons slot last ih =>
    cases items with
    | nil => rfl
    | cons item items =>
      have hslot : slot ∈ slots := hlast.subset (List.mem_cons_self ..)
      have hsuffix : last <:+ slots := (List.suffix_cons slot last).trans hlast
      rw [fillItems, placed, List.zipWith_cons_cons]
      cases hvalue : slot.fill s item with
      | error e =>
        exact (fillFields_of_fault h hslot (hfree slot (List.mem_cons_self ..)) hvalue).symm
      | ok s₁ =>
        -- the other fields are still free
        have hrest : ∀ other ∈ last, other.isFilled s₁ = false := by
          intro other hother
          have hne : other.name ≠ slot.name := by
            have hnames := (hlast.sublist.map Slot.name).nodup h.names
            rw [List.map_cons, List.nodup_cons] at hnames
            exact fun heq => hnames.1 (heq ▸ List.mem_map_of_mem hother)
          rw [h.isFilled_fill slot hslot other (hsuffix.subset hother) hvalue,
            hfree other (List.mem_cons_of_mem _ hother)]
          simpa using hne
        rw [fillFields_cons (h.find?_name hslot) (hfree slot (List.mem_cons_self ..)) hvalue]
        exact ih hsuffix (Nat.le_of_succ_le_succ hlength) hrest

/-- **A list of fields is read as the object with the same fields**, if it is not too long. -/
theorem fillItems_eq_fillFields (h : Slot.Apart slots) {items : List Reading}
    (hlength : items.length ≤ slots.length) (hfree : ∀ slot ∈ slots, slot.isFilled s = false) :
    fillItems s slots items = fillFields slots s (placed slots items) :=
  fillItems_eq_fillFields_of_suffix h List.suffix_rfl hlength hfree

end Reading

end DatePartition
