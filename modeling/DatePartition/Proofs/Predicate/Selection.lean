import DatePartition.Predicate.Basic

/-!
# Requests and their clauses

What a request for a clause asks for, told apart from how its clause stores it.

- `Selection.Selects`: the dates that a request asks for. An empty list asks for everything.
- `Selection.IsNormal`: the lists ascend, and days stand beside one month that has them all.
- `Clause.mem_iff_selects`: a clause selects the dates that its lists ask for.
- `Clause.exists_mem`: no clause is empty.
- `Selection.exists_ofSelection`: **a request in normal form is granted as it stands**; no check of
  the builder refuses it and nothing is rearranged.
-/

namespace DatePartition

/-! ## What is asked for -/

namespace Selection

/-- The request asks for the date. -/
def Selects (s : Selection) (d : Date) : Prop :=
  d.year = s.year ∧ (s.months = [] ∨ d.month ∈ s.months) ∧ (s.days = [] ∨ d.day ∈ s.days)

/-- The request spells out a clause: its lists ascend, and its days are days of its one month. -/
structure IsNormal (s : Selection) : Prop where
  months_ascend : Ascending Month.number s.months
  days_ascend : Ascending Day.number s.days
  days_exist : s.days ≠ [] → ∃ m, s.months = [m] ∧ ∀ d ∈ s.days, d.ExistsIn s.year m

/-- The scope that a request in normal form spells out. -/
def scope (s : Selection) : Scope :=
  match s.months, s.days with
  | [m], d :: ds => .daysOf m (d :: ds)
  | ms, _ => .ofMonths ms

/-- Without days, whole months are spelled out. -/
theorem scope_ofMonths (y : Year) (ms : List Month) :
    (⟨y, ms, []⟩ : Selection).scope = .ofMonths ms := by
  match ms with
  | [] => rfl
  | [_] => rfl
  | _ :: _ :: _ => rfl

end Selection

namespace Clause

/-- The lists of a clause spell out its scope. -/
theorem scope_selection (c : Clause) : c.selection.scope = c.scope := by
  obtain ⟨y, s, hfits⟩ := c
  cases s with
  | wholeYear => rfl
  | wholeMonth m => rfl
  | wholeMonths ms =>
    match ms, hfits with
    | _ :: _ :: _, _ => rfl
  | daysOf m ds =>
    match ds, hfits with
    | _ :: _, _ => rfl

/-- A clause selects the dates that its lists ask for. -/
theorem mem_iff_selects {c : Clause} {d : Date} : d ∈ c ↔ c.selection.Selects d := by
  obtain ⟨y, s, hfits⟩ := c
  rw [mem_def]
  unfold selection Selection.Selects
  cases s with
  | wholeYear => simp [Scope.AdmitsMonth, Scope.AdmitsDay, Scope.months, Scope.days]
  | wholeMonth m => simp [Scope.AdmitsMonth, Scope.AdmitsDay, Scope.months, Scope.days]
  | wholeMonths ms =>
    have hne : ms ≠ [] := hfits.months_ne_nil
    simp [Scope.AdmitsMonth, Scope.AdmitsDay, Scope.months, Scope.days, hne]
  | daysOf m ds =>
    have hne : ds ≠ [] := hfits.1
    simp [Scope.AdmitsMonth, Scope.AdmitsDay, Scope.months, Scope.days, hne]

/-- No clause is empty. -/
theorem exists_mem (c : Clause) : ∃ d : Date, d ∈ c := by
  obtain ⟨y, s, hfits⟩ := c
  cases s with
  | wholeYear => exact ⟨Date.firstOf y Month.january, rfl, trivial, trivial⟩
  | wholeMonth m => exact ⟨Date.firstOf y m, rfl, rfl, trivial⟩
  | wholeMonths ms =>
    match ms, hfits with
    | m :: _ :: _, _ => exact ⟨Date.firstOf y m, rfl, List.mem_cons_self .., trivial⟩
  | daysOf m ds =>
    match ds, hfits with
    | d :: _, hfits =>
      have hd : d.ExistsIn y m := hfits.2.2 d (List.mem_cons_self ..)
      exact ⟨⟨y, m, d, hd⟩, rfl, rfl, List.mem_cons_self ..⟩

/-- **A clause that selects dates of two months selects all of either**: days stand beside one month
only. -/
theorem mem_of_two_months {c : Clause} {a b d : Date} (ha : a ∈ c) (hb : b ∈ c)
    (hab : a.month ≠ b.month) (hy : d.year = a.year) (hm : d.month = a.month) : d ∈ c := by
  obtain ⟨y, s, hfits⟩ := c
  rw [mem_def] at ha hb ⊢
  cases s with
  | wholeYear => exact ⟨hy.trans ha.1, trivial, trivial⟩
  | wholeMonth m => exact absurd (ha.2.1.trans hb.2.1.symm) hab
  | wholeMonths ms => exact ⟨hy.trans ha.1, hm ▸ ha.2.1, trivial⟩
  | daysOf m ds => exact absurd (ha.2.1.trans hb.2.1.symm) hab

end Clause

/-! ## Granting a request -/

/-- If each element is granted as something that gives it back, then so is the list. -/
theorem exists_mapM_ok {α β ε : Type} {f : α → Except ε β} {g : β → α} {xs : List α}
    (h : ∀ x ∈ xs, ∃ y, f x = .ok y ∧ g y = x) : ∃ ys, xs.mapM f = .ok ys ∧ ys.map g = xs := by
  induction xs with
  | nil => exact ⟨[], rfl, rfl⟩
  | cons x xs ih =>
    obtain ⟨y, hy, hg⟩ := h x (List.mem_cons_self ..)
    obtain ⟨ys, hys, hgs⟩ := ih fun z hz => h z (List.mem_cons_of_mem _ hz)
    refine ⟨y :: ys, ?_, by rw [List.map_cons, hg, hgs]⟩
    rw [List.mapM_cons, hy, hys]
    rfl

theorem Clause.exists_ofDays {y : Year} {m : Month} {ds : List Day} (hne : ds ≠ [])
    (hasc : Ascending Day.number ds) (hexist : ∀ d ∈ ds, d.ExistsIn y m) :
    ∃ c, ofDays y m ds hne hasc = .ok c ∧ c.selection = ⟨y, [m], ds⟩ := by
  unfold ofDays
  split
  · next d hfind =>
    have hnot := List.find?_some hfind
    exact absurd (hexist d (List.mem_of_find?_eq_some hfind)) (by simpa using hnot)
  · exact ⟨_, rfl, rfl⟩

/-- **A request in normal form is granted as it stands.** -/
theorem Selection.exists_ofSelection {s : Selection} (h : s.IsNormal) :
    ∃ c, Clause.ofSelection s = .ok c ∧ c.selection = s := by
  have hmonths : Month.ascending s.months = s.months :=
    ascending_eq_self (fun _ _ => Month.ext) h.months_ascend
  have hdays : Day.ascending s.days = s.days :=
    ascending_eq_self (fun _ _ => Day.ext) h.days_ascend
  unfold Clause.ofSelection
  split
  · -- no days: the months are taken as they stand
    next hnil =>
    refine ⟨_, rfl, ?_⟩
    show (⟨s.year, (Scope.ofMonths _).months, (Scope.ofMonths _).days⟩ : Selection) = s
    rw [Scope.months_ofMonths, Scope.days_ofMonths, hmonths, ← hnil, hdays]
  · -- days: a request in normal form has one month for them
    next d ds hcons =>
    rw [hdays] at hcons
    obtain ⟨m, hm, hexist⟩ := h.days_exist (by rw [hcons]; exact List.cons_ne_nil d ds)
    rw [hcons] at hexist
    split
    · next hnil => rw [hmonths, hm] at hnil; cases hnil
    · next m' hone =>
      rw [hmonths, hm] at hone
      cases hone
      obtain ⟨c, hc, hsel⟩ := Clause.exists_ofDays (List.cons_ne_nil d ds) (hcons ▸ h.days_ascend)
        hexist
      refine ⟨c, hc, ?_⟩
      rw [hsel, ← hm, ← hcons]
    · next hmany => rw [hmonths, hm] at hmany; cases hmany

end DatePartition
