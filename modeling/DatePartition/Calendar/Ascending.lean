import DatePartition.Calendar.Basic

/-!
# Ascending lists

Lists of months and days are kept in ascending order without repetitions, so that a set has one
list and equality of lists is equality of sets.

- `Ascending key xs`: each element's key is smaller than those of all later elements.
- `ascending key xs`: the elements of `xs` in that form.
- `ascending_eq_of_mem_iff`: the form depends on the set of elements only.
- `Ascending.le_of_find?_eq_some`: a search from the start finds the least element of a kind.
- `map_ascending`, `search_map`: the same can be done on the keys alone.
- `search key k xs`: looks for a key by halving the list, which is membership (`search_iff`) because
  the list ascends.
-/

namespace DatePartition

variable {α : Type} {key : α → Nat}

/-- The keys strictly ascend. -/
def Ascending (key : α → Nat) (xs : List α) : Prop := xs.Pairwise fun a b => key a < key b

instance (key : α → Nat) (xs : List α) : Decidable (Ascending key xs) :=
  inferInstanceAs (Decidable (xs.Pairwise _))

/-- Puts an element at its place in an ascending list, unless its key is there already. -/
def insertAscending (key : α → Nat) (x : α) : List α → List α
  | [] => [x]
  | y :: ys =>
    if key x < key y then x :: y :: ys
    else if key x = key y then y :: ys
    else y :: insertAscending key x ys

/-- The elements of a list in ascending order, each once. -/
def ascending (key : α → Nat) (xs : List α) : List α := xs.foldr (insertAscending key) []

/-- Nothing occurs twice in an ascending list. -/
theorem Ascending.nodup {xs : List α} (h : Ascending key xs) : xs.Nodup := by
  refine List.nodup_iff_pairwise_ne.2 (List.Pairwise.imp (fun {a b} hlt heq => ?_) h)
  rw [heq] at hlt
  exact Nat.lt_irrefl _ hlt

theorem mem_insertAscending (inj : ∀ a b, key a = key b → a = b) {x z : α} {ys : List α} :
    z ∈ insertAscending key x ys ↔ z = x ∨ z ∈ ys := by
  induction ys with
  | nil => simp [insertAscending]
  | cons y ys ih =>
    unfold insertAscending
    split
    · simp
    · split
      · next h => rw [inj x y h]; simp
      · simp [ih, or_left_comm]

/-- No element is lost and none is added. -/
theorem mem_ascending (inj : ∀ a b, key a = key b → a = b) {z : α} {xs : List α} :
    z ∈ ascending key xs ↔ z ∈ xs := by
  induction xs with
  | nil => simp [ascending]
  | cons x xs ih =>
    have step : ascending key (x :: xs) = insertAscending key x (ascending key xs) := rfl
    rw [step, mem_insertAscending inj, ih, List.mem_cons]

theorem ascending_insertAscending (inj : ∀ a b, key a = key b → a = b) {x : α} {ys : List α}
    (h : Ascending key ys) : Ascending key (insertAscending key x ys) := by
  induction ys with
  | nil => simp [insertAscending, Ascending]
  | cons y ys ih =>
    rw [Ascending, List.pairwise_cons] at h
    unfold insertAscending
    split
    · next hxy =>
      rw [Ascending, List.pairwise_cons, List.pairwise_cons]
      refine ⟨fun z hz => ?_, h⟩
      rcases List.mem_cons.1 hz with rfl | hz
      · exact hxy
      · exact Nat.lt_trans hxy (h.1 z hz)
    · split
      · rw [Ascending, List.pairwise_cons]; exact h
      · next hlt hne =>
        rw [Ascending, List.pairwise_cons]
        refine ⟨fun z hz => ?_, ih h.2⟩
        rcases (mem_insertAscending inj).1 hz with rfl | hz
        · omega
        · exact h.1 z hz

/-- The result is in ascending order. -/
theorem ascending_ascending (inj : ∀ a b, key a = key b → a = b) (xs : List α) :
    Ascending key (ascending key xs) := by
  induction xs with
  | nil => exact List.Pairwise.nil
  | cons x xs ih => exact ascending_insertAscending inj ih

/-- Two ascending lists with the same elements are equal. -/
theorem Ascending.eq_of_mem_iff {xs ys : List α} (hx : Ascending key xs) (hy : Ascending key ys)
    (h : ∀ z, z ∈ xs ↔ z ∈ ys) : xs = ys := by
  induction xs generalizing ys with
  | nil =>
    cases ys with
    | nil => rfl
    | cons y ys => exact absurd ((h y).2 (List.mem_cons_self ..)) List.not_mem_nil
  | cons x xs ih =>
    cases ys with
    | nil => exact absurd ((h x).1 (List.mem_cons_self ..)) List.not_mem_nil
    | cons y ys =>
      rw [Ascending, List.pairwise_cons] at hx hy
      have hxy : x = y := by
        rcases List.mem_cons.1 ((h x).1 (List.mem_cons_self ..)) with e | hm
        · exact e
        · rcases List.mem_cons.1 ((h y).2 (List.mem_cons_self ..)) with e | hm'
          · exact e.symm
          · exact absurd (Nat.lt_trans (hx.1 y hm') (hy.1 x hm)) (Nat.lt_irrefl _)
      subst hxy
      refine congrArg (x :: ·) (ih hx.2 hy.2 fun z => ⟨fun hz => ?_, fun hz => ?_⟩)
      · rcases List.mem_cons.1 ((h z).1 (List.mem_cons_of_mem _ hz)) with rfl | hm
        · exact absurd (hx.1 z hz) (Nat.lt_irrefl _)
        · exact hm
      · rcases List.mem_cons.1 ((h z).2 (List.mem_cons_of_mem _ hz)) with rfl | hm
        · exact absurd (hy.1 z hz) (Nat.lt_irrefl _)
        · exact hm

/-- The ascending form depends on the set of elements only. -/
theorem ascending_eq_of_mem_iff (inj : ∀ a b, key a = key b → a = b) {xs ys : List α}
    (h : ∀ z, z ∈ xs ↔ z ∈ ys) : ascending key xs = ascending key ys :=
  (ascending_ascending inj xs).eq_of_mem_iff (ascending_ascending inj ys) fun z => by
    rw [mem_ascending inj, mem_ascending inj, h z]

/-- An ascending list is its own ascending form. -/
theorem ascending_eq_self (inj : ∀ a b, key a = key b → a = b) {xs : List α}
    (h : Ascending key xs) : ascending key xs = xs :=
  (ascending_ascending inj xs).eq_of_mem_iff h fun _ => mem_ascending inj

theorem ascending_eq_nil_iff (inj : ∀ a b, key a = key b → a = b) {xs : List α} :
    ascending key xs = [] ↔ xs = [] := by
  simp only [List.eq_nil_iff_forall_not_mem, mem_ascending inj]

/-- One element is left if the list holds no other, however often it holds that one. -/
theorem ascending_eq_singleton_iff (inj : ∀ a b, key a = key b → a = b) {a : α} {xs : List α} :
    ascending key xs = [a] ↔ ∀ b, b ∈ xs ↔ b = a := by
  constructor
  · intro h b
    rw [← mem_ascending inj, h, List.mem_singleton]
  · intro h
    refine (ascending_ascending inj xs).eq_of_mem_iff (List.pairwise_singleton _ a) fun b => ?_
    rw [mem_ascending inj, h, List.mem_singleton]

/-- The first element of a kind in an ascending list is the least of its kind. -/
theorem Ascending.le_of_find?_eq_some {p : α → Bool} {a : α} {xs : List α}
    (h : Ascending key xs) (hfind : xs.find? p = some a) :
    ∀ b ∈ xs, p b = true → key a ≤ key b := by
  obtain ⟨-, before, after, rfl, hbefore⟩ := List.find?_eq_some_iff_append.1 hfind
  rw [Ascending, List.pairwise_append, List.pairwise_cons] at h
  intro b hb hp
  rcases List.mem_append.1 hb with hb | hb
  · -- what stands before was looked at and passed over
    have hnot := hbefore b hb
    rw [hp] at hnot
    cases hnot
  · rcases List.mem_cons.1 hb with rfl | hb
    · exact Nat.le_refl _
    · exact Nat.le_of_lt (h.2.1.1 b hb)

/-! ## Keys -/

theorem map_insertAscending (key : α → Nat) (x : α) (ys : List α) :
    (insertAscending key x ys).map key = insertAscending id (key x) (ys.map key) := by
  induction ys with
  | nil => rfl
  | cons y ys ih =>
    simp only [insertAscending, List.map_cons, id]
    split
    · rfl
    · split
      · rfl
      · rw [List.map_cons, ih]

/-- Only the keys matter for the order and for what is a repetition. -/
theorem map_ascending (key : α → Nat) (xs : List α) :
    (ascending key xs).map key = ascending id (xs.map key) := by
  induction xs with
  | nil => rfl
  | cons x xs ih =>
    show (insertAscending key x (ascending key xs)).map key
      = insertAscending id (key x) (ascending id (xs.map key))
    rw [map_insertAscending, ih]

/-! ## Searching -/

/-- Looks for a key by halving the list. The fuel bounds the number of halvings. -/
def searchWithin (key : α → Nat) (k : Nat) : Nat → List α → Bool
  | 0, _ => false
  | fuel + 1, xs =>
    match xs[xs.length / 2]? with
    | none => false
    | some x =>
      if key x = k then true
      else if key x < k then searchWithin key k fuel (xs.drop (xs.length / 2 + 1))
      else searchWithin key k fuel (xs.take (xs.length / 2))

/-- Looks for a key in an ascending list. -/
def search (key : α → Nat) (k : Nat) (xs : List α) : Bool := searchWithin key k xs.length xs

theorem searchWithin_iff {k fuel : Nat} {xs : List α} (hx : Ascending key xs)
    (hfuel : xs.length ≤ fuel) :
    searchWithin key k fuel xs = true ↔ ∃ x ∈ xs, key x = k := by
  induction fuel generalizing xs with
  | zero =>
    have hnil : xs = [] := List.eq_nil_of_length_eq_zero (Nat.le_zero.mp hfuel)
    simp [hnil, searchWithin]
  | succ fuel ih =>
    unfold searchWithin
    generalize hn : xs.length / 2 = n
    cases hget : xs[n]? with
    | none =>
      have hlen : xs.length ≤ n := List.getElem?_eq_none_iff.mp hget
      have hnil : xs = [] := List.eq_nil_of_length_eq_zero (by omega)
      simp [hnil]
    | some x =>
      obtain ⟨hlt, hx'⟩ := List.getElem?_eq_some_iff.mp hget
      -- the middle element parts the list, with the smaller keys before it and the greater behind
      have hparts : xs = xs.take n ++ x :: xs.drop (n + 1) := by
        rw [← hx', ← List.drop_eq_getElem_cons hlt, List.take_append_drop]
      have hmem : ∀ z, z ∈ xs ↔ z ∈ xs.take n ∨ z = x ∨ z ∈ xs.drop (n + 1) := by
        intro z
        rw [← List.mem_cons, ← List.mem_append, ← hparts]
      rw [Ascending, hparts, List.pairwise_append, List.pairwise_cons] at hx
      obtain ⟨htake, ⟨hafter, hdrop⟩, hbefore⟩ := hx
      simp only [hmem, or_and_right, exists_or, exists_eq_left]
      by_cases heq : key x = k
      · simp [heq]
      · rw [if_neg heq]
        by_cases hlow : key x < k
        · have hno : ¬ ∃ z, z ∈ xs.take n ∧ key z = k := by
            rintro ⟨z, hz, rfl⟩
            exact Nat.lt_asymm hlow (hbefore z hz x (List.mem_cons_self ..))
          rw [if_pos hlow, ih hdrop (by rw [List.length_drop]; omega)]
          simp [heq, hno]
        · have hno : ¬ ∃ z, z ∈ xs.drop (n + 1) ∧ key z = k := by
            rintro ⟨z, hz, rfl⟩
            exact hlow (hafter z hz)
          rw [if_neg hlow, ih htake (by rw [List.length_take]; omega)]
          simp [heq, hno]

/-- In an ascending list a key is found exactly if some element has it. -/
theorem search_iff {k : Nat} {xs : List α} (hx : Ascending key xs) :
    search key k xs = true ↔ ∃ x ∈ xs, key x = k :=
  searchWithin_iff hx (Nat.le_refl _)

theorem searchWithin_map (key : α → Nat) (k fuel : Nat) (xs : List α) :
    searchWithin id k fuel (xs.map key) = searchWithin key k fuel xs := by
  induction fuel generalizing xs with
  | zero => rfl
  | succ fuel ih =>
    simp only [searchWithin, List.length_map, List.getElem?_map, ← List.map_drop, ← List.map_take,
      ih]
    cases xs[xs.length / 2]? with
    | none => rfl
    | some x => rfl

/-- Only the keys are looked at. -/
theorem search_map (key : α → Nat) (k : Nat) (xs : List α) :
    search id k (xs.map key) = search key k xs := by
  rw [search, List.length_map, searchWithin_map]
  rfl

/-! ## Years, months and days -/

/-- Whatever has consecutive numbers ascends. -/
theorem ascending_of_map_eq {xs : List α} {a b : Nat} (h : xs.map key = numbersThrough a b) :
    Ascending key xs := by
  rw [Ascending, ← List.pairwise_map (R := (· < ·)), h]
  exact List.pairwise_lt_range'

theorem Year.ascending_through (first last : Year) :
    Ascending Year.number (first.through last) :=
  ascending_of_map_eq (Year.map_number_through first last)

theorem Month.ascending_through (first last : Month) :
    Ascending Month.number (first.through last) :=
  ascending_of_map_eq (Month.map_number_through first last)

theorem Day.ascending_through (first last : Day) :
    Ascending Day.number (first.through last) :=
  ascending_of_map_eq (Day.map_number_through first last)

/-- The months of a list in ascending order, each once. -/
def Month.ascending (ms : List Month) : List Month := DatePartition.ascending Month.number ms

/-- The days of a list in ascending order, each once. -/
def Day.ascending (ds : List Day) : List Day := DatePartition.ascending Day.number ds

@[simp] theorem Month.mem_ascending {m : Month} {ms : List Month} :
    m ∈ Month.ascending ms ↔ m ∈ ms :=
  DatePartition.mem_ascending fun _ _ => Month.ext

@[simp] theorem Day.mem_ascending {d : Day} {ds : List Day} : d ∈ Day.ascending ds ↔ d ∈ ds :=
  DatePartition.mem_ascending fun _ _ => Day.ext

theorem Month.ascending_ascending (ms : List Month) :
    Ascending Month.number (Month.ascending ms) :=
  DatePartition.ascending_ascending (fun _ _ => Month.ext) ms

theorem Day.ascending_ascending (ds : List Day) : Ascending Day.number (Day.ascending ds) :=
  DatePartition.ascending_ascending (fun _ _ => Day.ext) ds

theorem Month.ascending_eq_nil_iff {ms : List Month} : Month.ascending ms = [] ↔ ms = [] :=
  DatePartition.ascending_eq_nil_iff fun _ _ => Month.ext

theorem Day.ascending_eq_nil_iff {ds : List Day} : Day.ascending ds = [] ↔ ds = [] :=
  DatePartition.ascending_eq_nil_iff fun _ _ => Day.ext

theorem Month.ascending_eq_singleton_iff {m : Month} {ms : List Month} :
    Month.ascending ms = [m] ↔ ∀ m', m' ∈ ms ↔ m' = m :=
  DatePartition.ascending_eq_singleton_iff fun _ _ => Month.ext

theorem Month.search_iff {m : Month} {ms : List Month} (h : Ascending Month.number ms) :
    search Month.number m.number ms = true ↔ m ∈ ms := by
  rw [DatePartition.search_iff h]
  constructor
  · rintro ⟨m', hm', heq⟩
    exact Month.ext heq ▸ hm'
  · intro hm
    exact ⟨m, hm, rfl⟩

theorem Day.search_iff {d : Day} {ds : List Day} (h : Ascending Day.number ds) :
    search Day.number d.number ds = true ↔ d ∈ ds := by
  rw [DatePartition.search_iff h]
  constructor
  · rintro ⟨d', hd', heq⟩
    exact Day.ext heq ▸ hd'
  · intro hd
    exact ⟨d, hd, rfl⟩

end DatePartition
