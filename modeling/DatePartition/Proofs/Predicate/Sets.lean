import DatePartition.Proofs.Predicate.Selection

/-!
# Requests as sets

The lists of a request are put in order before anything is decided, so that only the year, the set
of months and the set of days matter: for whether the request is granted, for the cause of a refusal
and for the clause.

- `Selection.IsLegal`, `Selection.Violates`: which requests can be granted, and what each refusal
  says of a request, in terms of membership only.
- `Clause.ofSelection_cases`: the two ways in which a request can end, with all that is known then.
- `Selection.SameSets`: the requests agree up to order and repetitions.
- `Clause.ofSelection_by_sets`: **the builder is a function of sets.**
-/

namespace DatePartition

namespace Selection

/-! ## What can be granted -/

/-- No month but `m` is listed, and `m` is listed at least once. -/
def OnlyMonth (s : Selection) (m : Month) : Prop := ∀ m', m' ∈ s.months ↔ m' = m

/-- There are no days, or there is one month that has them all. -/
def IsLegal (s : Selection) : Prop :=
  s.days = [] ∨ ∃ m, s.OnlyMonth m ∧ ∀ d ∈ s.days, d.ExistsIn s.year m

/-- What a violation says of the request that is refused for it. -/
def Violates (s : Selection) : ShapeViolation → Prop
  | .daysWithMultipleMonths => s.days ≠ [] ∧ ∃ m ∈ s.months, ∃ m' ∈ s.months, m ≠ m'
  | .daysWithoutMonth => s.days ≠ [] ∧ s.months = []
  | .dayPastMonthEnd k => ∃ m, s.OnlyMonth m ∧ k ∈ s.days ∧ ¬ k.ExistsIn s.year m ∧
      ∀ d ∈ s.days, ¬ d.ExistsIn s.year m → k.number ≤ d.number

variable {s t : Selection}

theorem OnlyMonth.eq_of_mem {m a b : Month} (h : s.OnlyMonth m) (ha : a ∈ s.months)
    (hb : b ∈ s.months) : a = b :=
  ((h a).1 ha).trans ((h b).1 hb).symm

theorem OnlyMonth.months_ne_nil {m : Month} (h : s.OnlyMonth m) : s.months ≠ [] :=
  List.ne_nil_of_mem ((h m).2 rfl)

theorem OnlyMonth.unique {m m' : Month} (h : s.OnlyMonth m) (h' : s.OnlyMonth m') : m = m' :=
  h.eq_of_mem ((h m).2 rfl) ((h' m').2 rfl)

/-- What violates a rule cannot be granted. -/
theorem Violates.not_isLegal {v : ShapeViolation} (h : s.Violates v) : ¬ s.IsLegal := by
  rintro (hnil | ⟨m, hm, hexist⟩)
  · -- each violation is one of days
    cases v with
    | daysWithMultipleMonths => exact h.1 hnil
    | daysWithoutMonth => exact h.1 hnil
    | dayPastMonthEnd k =>
      obtain ⟨-, -, hk, -⟩ := h
      exact List.ne_nil_of_mem hk hnil
  · cases v with
    | daysWithMultipleMonths =>
      obtain ⟨-, a, ha, b, hb, hne⟩ := h
      exact hne (hm.eq_of_mem ha hb)
    | daysWithoutMonth => exact hm.months_ne_nil h.2
    | dayPastMonthEnd k =>
      obtain ⟨m', hm', hk, hnot, -⟩ := h
      exact hnot (hm'.unique hm ▸ hexist k hk)

/-- A request violates at most one rule: no month, one month and several exclude each other. -/
theorem Violates.unique {v w : ShapeViolation} (hv : s.Violates v) (hw : s.Violates w) :
    v = w := by
  cases v with
  | daysWithMultipleMonths =>
    obtain ⟨-, a, ha, b, hb, hne⟩ := hv
    cases w with
    | daysWithMultipleMonths => rfl
    | daysWithoutMonth => exact absurd hw.2 (List.ne_nil_of_mem ha)
    | dayPastMonthEnd k =>
      obtain ⟨m, hm, -⟩ := hw
      exact absurd (hm.eq_of_mem ha hb) hne
  | daysWithoutMonth =>
    cases w with
    | daysWithMultipleMonths =>
      obtain ⟨-, a, ha, -⟩ := hw
      exact absurd hv.2 (List.ne_nil_of_mem ha)
    | daysWithoutMonth => rfl
    | dayPastMonthEnd k =>
      obtain ⟨m, hm, -⟩ := hw
      exact absurd hv.2 hm.months_ne_nil
  | dayPastMonthEnd k =>
    obtain ⟨m, hm, hk, hnot, hleast⟩ := hv
    cases w with
    | daysWithMultipleMonths =>
      obtain ⟨-, a, ha, b, hb, hne⟩ := hw
      exact absurd (hm.eq_of_mem ha hb) hne
    | daysWithoutMonth => exact absurd hw.2 hm.months_ne_nil
    | dayPastMonthEnd k' =>
      -- each of the two days is the least
      obtain ⟨m', hm', hk', hnot', hleast'⟩ := hw
      rw [hm'.unique hm] at hnot' hleast'
      have heq : k = k' :=
        Day.ext (Nat.le_antisymm (hleast k' hk' hnot') (hleast' k hk hnot))
      rw [heq]

/-! ## Order and repetitions -/

/-- The request with its lists in ascending order, each element once. -/
def normal (s : Selection) : Selection :=
  ⟨s.year, Month.ascending s.months, Day.ascending s.days⟩

/-- Putting the lists in order does not change what is asked for. -/
theorem selects_normal {d : Date} : s.normal.Selects d ↔ s.Selects d := by
  simp only [Selects, normal, Month.ascending_eq_nil_iff, Day.ascending_eq_nil_iff,
    Month.mem_ascending, Day.mem_ascending]

/-- The requests list the same months and the same days of one year. -/
structure SameSets (s t : Selection) : Prop where
  year : s.year = t.year
  months : ∀ m, m ∈ s.months ↔ m ∈ t.months
  days : ∀ d, d ∈ s.days ↔ d ∈ t.days

namespace SameSets

theorem days_eq_nil (h : s.SameSets t) : s.days = [] ↔ t.days = [] := by
  simp only [List.eq_nil_iff_forall_not_mem, h.days]

theorem isLegal (h : s.SameSets t) : s.IsLegal ↔ t.IsLegal := by
  simp only [IsLegal, OnlyMonth, h.days_eq_nil, h.year, h.months, h.days]

theorem violates (h : s.SameSets t) (v : ShapeViolation) : s.Violates v ↔ t.Violates v := by
  have hnil : s.months = [] ↔ t.months = [] := by
    simp only [List.eq_nil_iff_forall_not_mem, h.months]
  cases v with
  | daysWithMultipleMonths => simp only [Violates, ne_eq, h.days_eq_nil, h.months]
  | daysWithoutMonth => simp only [Violates, ne_eq, h.days_eq_nil, hnil]
  | dayPastMonthEnd k => simp only [Violates, OnlyMonth, h.year, h.months, h.days]

theorem normal_eq (h : s.SameSets t) : s.normal = t.normal := by
  rw [normal, normal, h.year]
  congr 1
  · exact ascending_eq_of_mem_iff (fun _ _ => Month.ext) h.months
  · exact ascending_eq_of_mem_iff (fun _ _ => Day.ext) h.days

end SameSets

end Selection

/-! ## Building -/

namespace Clause

/-- A clause is known from its lists. -/
theorem eq_of_selection_eq {a b : Clause} (h : a.selection = b.selection) : a = b :=
  ext (congrArg Selection.year h) (by rw [← scope_selection a, ← scope_selection b, h])

/-- The days of one month are granted, or the least that the month does not have is named. -/
theorem ofDays_cases (y : Year) (m : Month) {ds : List Day} (hne : ds ≠ [])
    (hasc : Ascending Day.number ds) :
    ((∀ d ∈ ds, d.ExistsIn y m) ∧
      ∃ c, ofDays y m ds hne hasc = .ok c ∧ c.selection = ⟨y, [m], ds⟩) ∨
    ∃ k ∈ ds, ¬ k.ExistsIn y m ∧ (∀ d ∈ ds, ¬ d.ExistsIn y m → k.number ≤ d.number) ∧
      ofDays y m ds hne hasc = .error (.illegalShape y (.dayPastMonthEnd k)) := by
  by_cases hexist : ∀ d ∈ ds, d.ExistsIn y m
  · exact .inl ⟨hexist, exists_ofDays hne hasc hexist⟩
  · right
    unfold ofDays
    split
    · next k hfind =>
      have hk := List.find?_some hfind
      have hleast := hasc.le_of_find?_eq_some hfind
      simp only [decide_eq_true_eq] at hk hleast
      exact ⟨k, List.mem_of_find?_eq_some hfind, hk, hleast, rfl⟩
    · next hfind =>
      refine absurd (fun d hd => ?_) hexist
      simpa using List.find?_eq_none.1 hfind d hd

/-- A request is granted as a clause that lists what was asked for, in order, or refused for the
rule that it violates. -/
theorem ofSelection_cases (s : Selection) :
    (s.IsLegal ∧ ∃ c, ofSelection s = .ok c ∧ c.selection = s.normal) ∨
    ∃ v, s.Violates v ∧ ofSelection s = .error (.illegalShape s.year v) := by
  unfold ofSelection
  split
  · next hnil =>
    left
    refine ⟨.inl (Day.ascending_eq_nil_iff.1 hnil), _, rfl, ?_⟩
    show (⟨s.year, (Scope.ofMonths _).months, (Scope.ofMonths _).days⟩ : Selection) = s.normal
    rw [Scope.months_ofMonths, Scope.days_ofMonths, Selection.normal, hnil]
  · next d ds hcons =>
    have hdays : s.days ≠ [] := fun h => by
      rw [Day.ascending_eq_nil_iff.2 h] at hcons
      cases hcons
    split
    · next hnil =>
      exact .inr ⟨.daysWithoutMonth, ⟨hdays, Month.ascending_eq_nil_iff.1 hnil⟩, rfl⟩
    · next m hone =>
      -- from here on the days are those of the request, in order
      have honly : s.OnlyMonth m := Month.ascending_eq_singleton_iff.1 hone
      have hmem : ∀ k, k ∈ d :: ds ↔ k ∈ s.days := fun k => by rw [← hcons, Day.mem_ascending]
      rcases ofDays_cases s.year m (List.cons_ne_nil d ds) (hcons ▸ Day.ascending_ascending s.days)
        with ⟨hexist, c, hc, hsel⟩ | ⟨k, hk, hnot, hleast, he⟩
      · refine .inl ⟨.inr ⟨m, honly, fun k hk => hexist k ((hmem k).2 hk)⟩, c, hc, ?_⟩
        rw [hsel, Selection.normal, hone, hcons]
      · refine .inr ⟨.dayPastMonthEnd k, ⟨m, honly, (hmem k).1 hk, hnot, fun k' hk' => ?_⟩, he⟩
        exact hleast k' ((hmem k').2 hk')
    · next a b ms hmany =>
      have hasc := Month.ascending_ascending s.months
      have hmem : ∀ m, m ∈ a :: b :: ms ↔ m ∈ s.months := fun m => by
        rw [← hmany, Month.mem_ascending]
      rw [hmany] at hasc
      have hne : a ≠ b := fun h => by
        have hnodup := hasc.nodup
        rw [h] at hnodup
        simp at hnodup
      exact .inr ⟨.daysWithMultipleMonths,
        ⟨hdays, a, (hmem a).1 (by simp), b, (hmem b).1 (by simp), hne⟩, rfl⟩

variable {s t : Selection}

theorem exists_ofSelection_of_isLegal (h : s.IsLegal) :
    ∃ c, ofSelection s = .ok c ∧ c.selection = s.normal := by
  rcases ofSelection_cases s with ⟨-, hc⟩ | ⟨v, hv, -⟩
  · exact hc
  · exact absurd h hv.not_isLegal

theorem ofSelection_of_violates {v : ShapeViolation} (h : s.Violates v) :
    ofSelection s = .error (.illegalShape s.year v) := by
  rcases ofSelection_cases s with ⟨hlegal, -⟩ | ⟨w, hw, he⟩
  · exact absurd hlegal h.not_isLegal
  · rw [he, hw.unique h]

theorem exists_ofSelection_iff : (∃ c, ofSelection s = .ok c) ↔ s.IsLegal := by
  constructor
  · rintro ⟨c, hc⟩
    rcases ofSelection_cases s with ⟨hlegal, -⟩ | ⟨v, -, he⟩
    · exact hlegal
    · rw [hc] at he
      cases he
  · intro h
    obtain ⟨c, hc, -⟩ := exists_ofSelection_of_isLegal h
    exact ⟨c, hc⟩

theorem ofSelection_eq_error_iff {e : CompileError} :
    ofSelection s = .error e ↔ ∃ v, s.Violates v ∧ e = .illegalShape s.year v := by
  constructor
  · intro h
    rcases ofSelection_cases s with ⟨-, c, hc, -⟩ | ⟨v, hv, he⟩
    · rw [h] at hc
      cases hc
    · rw [h] at he
      exact ⟨v, hv, Except.error.inj he⟩
  · rintro ⟨v, hv, rfl⟩
    exact ofSelection_of_violates hv

/-- A clause that was asked for accepts the dates that were asked for. -/
theorem accepts_iff_of_ofSelection {c : Clause} (h : ofSelection s = .ok c) (d : Date) :
    c.accepts d = true ↔ s.Selects d := by
  rcases ofSelection_cases s with ⟨-, c', hc', hsel⟩ | ⟨v, -, he⟩
  · rw [h] at hc'
    cases hc'
    rw [accepts_iff, mem_iff_selects, hsel, Selection.selects_normal]
  · rw [h] at he
    cases he

theorem ofSelection_eq_of_sameSets (h : s.SameSets t) : ofSelection s = ofSelection t := by
  rcases ofSelection_cases s with ⟨hlegal, c, hc, hsel⟩ | ⟨v, hv, he⟩
  · obtain ⟨c', hc', hsel'⟩ := exists_ofSelection_of_isLegal (h.isLegal.1 hlegal)
    rw [hc, hc', eq_of_selection_eq (hsel.trans (h.normal_eq.trans hsel'.symm))]
  · rw [he, ofSelection_of_violates ((h.violates v).1 hv), h.year]

/-- **The builder is a function of sets.** A request is granted exactly if it has no days, or one
month in any number of copies that has all of its days. Otherwise it is refused for its year and the
one rule that it violates: days with several months, days with no month, or the least of the days
that its month does not have. A clause that is granted accepts a date exactly if the request asks
for it. Requests with the same year and the same sets of months and days come to the same. -/
theorem ofSelection_by_sets (s : Selection) :
    ((∃ c, ofSelection s = .ok c) ↔ s.IsLegal) ∧
    (∀ e, ofSelection s = .error e ↔ ∃ v, s.Violates v ∧ e = .illegalShape s.year v) ∧
    (∀ c, ofSelection s = .ok c → ∀ d, c.accepts d = true ↔ s.Selects d) ∧
    (∀ t, s.SameSets t → ofSelection s = ofSelection t) :=
  ⟨exists_ofSelection_iff, fun _ => ofSelection_eq_error_iff,
    fun _ h d => accepts_iff_of_ofSelection h d, fun _ h => ofSelection_eq_of_sameSets h⟩

/-- February twice is one month. Of two days that it does not have the least is named, though it
stands last, and days that it has are granted in any order. -/
theorem ofSelection_by_sets_february :
    ofSelection ⟨⟨2019, by decide, by decide⟩, [Month.february, Month.february],
        [⟨31, by decide, by decide⟩, ⟨4, by decide, by decide⟩, ⟨29, by decide, by decide⟩]⟩
      = .error (.illegalShape ⟨2019, by decide, by decide⟩
          (.dayPastMonthEnd ⟨29, by decide, by decide⟩)) ∧
    ∃ c, ofSelection ⟨⟨2019, by decide, by decide⟩, [Month.february, Month.february],
        [⟨4, by decide, by decide⟩, Day.first, ⟨4, by decide, by decide⟩]⟩ = .ok c ∧
      c.accepts ⟨⟨2019, by decide, by decide⟩, Month.february, ⟨4, by decide, by decide⟩,
        by decide⟩ = true := by
  constructor
  · have hviolates : Selection.Violates ⟨⟨2019, by decide, by decide⟩,
        [Month.february, Month.february],
        [⟨31, by decide, by decide⟩, ⟨4, by decide, by decide⟩, ⟨29, by decide, by decide⟩]⟩
        (.dayPastMonthEnd ⟨29, by decide, by decide⟩) :=
      ⟨Month.february, by simp [Selection.OnlyMonth], by decide, by decide, by decide⟩
    exact ((ofSelection_by_sets _).2.1 _).2 ⟨_, hviolates, rfl⟩
  · have hlegal : Selection.IsLegal ⟨⟨2019, by decide, by decide⟩,
        [Month.february, Month.february],
        [⟨4, by decide, by decide⟩, Day.first, ⟨4, by decide, by decide⟩]⟩ :=
      .inr ⟨Month.february, by simp [Selection.OnlyMonth], by decide⟩
    obtain ⟨c, hc⟩ := (ofSelection_by_sets _).1.2 hlegal
    exact ⟨c, hc, ((ofSelection_by_sets _).2.2.1 c hc _).2 ⟨rfl, by decide, by decide⟩⟩

end Clause

end DatePartition
