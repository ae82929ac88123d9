import DatePartition.Proofs.Predicate.Partition

/-!
# No predicate needs fewer clauses

The clauses of a compiled range are as few as they can be. The argument picks a date from each piece
of the range and shows that a predicate for the same dates needs a clause for each of them.

- `DateRange.selects_part_of_mem`: a clause within the range that selects a date of a partial month
  cannot leave that month, for else it would select all of it.
- `DateRange.pairwise_apart_selections`: **no clause within the range selects dates of two pieces**.
- `length_le_of_pairwise`: elements that choose from a list and never agree are no more than the
  list has.
- `compile_length_le`: **a predicate for the same dates has at least as many clauses**.
-/

namespace DatePartition

/-- No clause within the range selects dates of both requests. -/
def Selection.Apart (r : DateRange) (s t : Selection) : Prop :=
  ∀ c : Clause, (∀ d ∈ c, d ∈ r) →
    ∀ a b : Date, s.Selects a → t.Selects b → a ∈ c → b ∉ c

namespace DateRange

variable {r : DateRange} {y : Year} {m : Month} {run ms : List Month} {days : List Day}
  {s t : Selection} {a b : Date} {c : Clause}

/-! ## Within a year -/

/-- A clause within the range that selects a date of a partial month selects dates of that month
only. -/
theorem selects_part_of_mem (hr : ¬ r.InOneMonth) (hreach : r.Reaches y m)
    (hcov : r.coverage y m = .partly days) (hc : ∀ d ∈ c, d ∈ r)
    (hsel : (⟨y, [m], days⟩ : Selection).Selects a) (ha : a ∈ c) (hb : b ∈ c) :
    (⟨y, [m], days⟩ : Selection).Selects b := by
  obtain ⟨hay, ham, -⟩ := (selects_part_iff hr hreach hcov).1 hsel
  have hby : b.year = y := hb.1.trans (ha.1.symm.trans hay)
  refine (selects_part_iff hr hreach hcov).2 ⟨hby, ?_, hc b hb⟩
  by_cases hmonth : b.month = m
  · exact hmonth
  · -- the clause would select the date of the month that is not in the range
    obtain ⟨-, -, -, -, d, hdy, hdm, hout⟩ := describes_of_coverage_eq hr hreach hcov
    have hab : a.month ≠ b.month := by
      rw [ham]
      exact fun heq => hmonth heq.symm
    have hd : d ∈ c :=
      Clause.mem_of_two_months ha hb hab (hdy.trans hay.symm) (hdm.trans ham.symm)
    exact absurd (hc d hd) hout

/-- A part of a month and another piece are apart. -/
theorem IsPiece.apart (hr : ¬ r.InOneMonth) (hs : IsPiece r y s) (ht : IsPiece r y t)
    (hbefore : s.Before t) (hdays : s.days ≠ [] ∨ t.days ≠ []) : s.Apart r t := by
  intro c hc a b hsa htb ha hb
  rcases hdays with hdays | hdays
  · cases hs with
    | run ms hasc => exact hdays rfl
    | part m days hreach hcov =>
      have hsb := selects_part_of_mem hr hreach hcov hc hsa ha hb
      exact Date.not_lt.2 b.le_refl (hbefore b b hsb htb)
  · cases ht with
    | run ms hasc => exact hdays rfl
    | part m days hreach hcov =>
      have hta := selects_part_of_mem hr hreach hcov hc htb hb ha
      exact Date.not_lt.2 a.le_refl (hbefore a a hsa hta)

/-- All but one of the pieces of a year are parts of a month. -/
theorem pairwise_days_pieces (hr : ¬ r.InOneMonth) (h : Pending r y run ms) :
    (r.pieces y run ms).Pairwise fun s t => s.days ≠ [] ∨ t.days ≠ [] := by
  induction ms generalizing run with
  | nil => exact pairwise_wholeMonths y run
  | cons m ms ih =>
    cases hcov : r.coverage y m with
    | whole =>
      rw [pieces_whole hcov]
      exact ih (h.push hcov)
    | partly days =>
      have hdays : days ≠ [] := (describes_of_coverage_eq hr h.reaches_head hcov).1
      rw [pieces_partly h hcov, List.pairwise_append, List.pairwise_cons]
      refine ⟨pairwise_wholeMonths y run, ⟨fun t _ => .inl hdays, ih h.flush⟩, ?_⟩
      intro s hs t ht
      rcases List.mem_cons.1 ht with rfl | ht
      · exact .inr hdays
      · -- what follows a partial month is empty unless nothing waited for it
        by_cases hms : ms = []
        · subst hms
          exact absurd ht List.not_mem_nil
        · have hnil : run = [] := h.run_eq_nil hcov hms
          subst hnil
          exact absurd hs List.not_mem_nil

/-! ## The whole range -/

theorem pairwise_apart_selectionsIn (hy : y ∈ r.first.year.through r.last.year) :
    (r.selectionsIn y).Pairwise (Selection.Apart r) := by
  rcases selectionsIn_cases hy with ⟨-, -, heq⟩ | ⟨hr, hpend, heq⟩
  · rw [heq]
    exact List.pairwise_singleton _ _
  · rw [heq]
    have hboth := (pairwise_before_pieces hr hpend).and (pairwise_days_pieces hr hpend)
    refine hboth.imp_of_mem ?_
    intro s t hs ht ⟨hbefore, hdays⟩
    exact IsPiece.apart hr (isPiece_of_mem_pieces hpend hs) (isPiece_of_mem_pieces hpend ht)
      hbefore hdays

/-- **No clause within the range selects dates of two pieces.** -/
theorem pairwise_apart_selections (r : DateRange) :
    r.selections.Pairwise (Selection.Apart r) := by
  refine pairwise_selections (fun y hy => pairwise_apart_selectionsIn hy) ?_
  intro s _ t _ hlt c _ a b hsa htb ha hb
  have hyear : s.year = t.year := by
    rw [← hsa.1, ← htb.1, ha.1, hb.1]
  rw [hyear] at hlt
  exact Nat.lt_irrefl _ hlt

end DateRange

/-! ## Counting -/

/-- Elements that each choose from a list, no two of them the same, are no more than the list
has. -/
theorem length_le_of_pairwise {α β : Type} {R : α → β → Prop} {xs : List α} {ys : List β}
    (hchoice : ∀ x ∈ xs, ∃ y ∈ ys, R x y)
    (hapart : xs.Pairwise fun x x' => ∀ y, R x y → ¬ R x' y) : xs.length ≤ ys.length := by
  have hchosen : ∃ zs : List β,
      zs.length = xs.length ∧ zs.Nodup ∧ zs ⊆ ys ∧ ∀ z ∈ zs, ∃ x ∈ xs, R x z := by
    induction xs with
    | nil =>
      refine ⟨[], rfl, List.nodup_nil, List.nil_subset _, ?_⟩
      intro z hz
      exact absurd hz List.not_mem_nil
    | cons x xs ih =>
      obtain ⟨hx, hxs⟩ := List.pairwise_cons.1 hapart
      obtain ⟨zs, hlen, hnodup, hsub, hfrom⟩ :=
        ih (fun x' hx' => hchoice x' (List.mem_cons_of_mem _ hx')) hxs
      obtain ⟨y, hy, hxy⟩ := hchoice x (List.mem_cons_self ..)
      have hnew : y ∉ zs := by
        intro hmem
        obtain ⟨x', hx', hxy'⟩ := hfrom y hmem
        exact hx x' hx' y hxy hxy'
      refine ⟨y :: zs, by rw [List.length_cons, List.length_cons, hlen],
        List.nodup_cons.2 ⟨hnew, hnodup⟩, List.cons_subset.2 ⟨hy, hsub⟩, ?_⟩
      intro z hz
      rcases List.mem_cons.1 hz with rfl | hz
      · exact ⟨x, List.mem_cons_self .., hxy⟩
      · obtain ⟨x', hx', hxz⟩ := hfrom z hz
        exact ⟨x', List.mem_cons_of_mem _ hx', hxz⟩
  obtain ⟨zs, hlen, hnodup, hsub, -⟩ := hchosen
  rw [← hlen]
  exact hnodup.length_le_of_subset hsub

/-- **A predicate for the same dates has at least as many clauses.** -/
theorem compile_length_le {first last : Date} (h : first ≤ last) :
    ∃ p, compile first last = .ok p ∧
      ∀ q : Predicate, (∀ d : Date, q.accepts d = p.accepts d) →
        p.clauses.length ≤ q.clauses.length := by
  obtain ⟨p, hp, hmap⟩ := exists_compile_of_le h
  refine ⟨p, hp, fun q hq => ?_⟩
  have hqr : ∀ d : Date, d ∈ q ↔ d ∈ (⟨first, last, h⟩ : DateRange) := by
    intro d
    rw [← Predicate.accepts_iff, hq d]
    exact DateRange.accepts_iff_mem hmap
  -- every clause of `q` is within the range
  have hwithin : ∀ c ∈ q.clauses, ∀ d ∈ c, d ∈ (⟨first, last, h⟩ : DateRange) :=
    fun c hc d hd => (hqr d).1 ⟨c, hc, hd⟩
  have hapart := DateRange.pairwise_apart_selections ⟨first, last, h⟩
  rw [← hmap, List.pairwise_map] at hapart
  refine length_le_of_pairwise
    (R := fun a c => c ∈ q.clauses ∧ ∃ d : Date, d ∈ a ∧ d ∈ c) ?_ (hapart.imp ?_)
  · intro a ha
    obtain ⟨d, hd⟩ := a.exists_mem
    have hdp : d ∈ p := ⟨a, ha, hd⟩
    have hdq : d ∈ q := by
      rw [← Predicate.accepts_iff, hq d, Predicate.accepts_iff]
      exact hdp
    obtain ⟨c, hc, hdc⟩ := hdq
    exact ⟨c, hc, hc, d, hd, hdc⟩
  · rintro a b hab c ⟨hc, d, hda, hdc⟩ ⟨-, e, heb, hec⟩
    have hsd : a.selection.Selects d := Clause.mem_iff_selects.1 hda
    have hse : b.selection.Selects e := Clause.mem_iff_selects.1 heb
    exact hab c (hwithin c hc) d e hsd hse hdc hec

/-- From the end of one month over a whole one into a third. -/
theorem compile_length_le_within_year :
    Date.mk (.mk 2024) (.mk 2) (.mk 29) ≤ Date.mk (.mk 2024) (.mk 4) (.mk 1) ∧
      ∃ p, compile (.mk (.mk 2024) (.mk 2) (.mk 29)) (.mk (.mk 2024) (.mk 4) (.mk 1)) = .ok p ∧
        ∀ q : Predicate, (∀ d : Date, q.accepts d = p.accepts d) →
          p.clauses.length ≤ q.clauses.length := by
  have hle : Date.mk (.mk 2024) (.mk 2) (.mk 29) ≤ Date.mk (.mk 2024) (.mk 4) (.mk 1) := by
    decide
  exact ⟨hle, compile_length_le hle⟩

end DatePartition
