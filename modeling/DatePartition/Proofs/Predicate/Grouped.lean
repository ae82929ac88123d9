import DatePartition.Proofs.Predicate.Groups
import DatePartition.Proofs.Predicate.Pieces

/-!
# The compiler agrees with counting days

The compiler computes the pieces of a range from its bounds. `DateRange.grouped` looks at nothing
but the enumerated dates. Both give the same clauses.

- `Piece.ofGroups_append`, `Piece.ofGroups_append_part`: nothing is joined across years, nor across
  an incomplete month.
- `DateRange.scopes_pieces`: **the walk through a year joins what counting its days joins**,
  whatever waits.
- `DateRange.compile_scopes`: **every range compiles to the clauses of its groups**, in order and
  scope by scope.
-/

namespace DatePartition

/-! ## Joining -/

namespace Piece

variable {y : Year} {ms : List Month} {g : MonthDays} {gs hs : List MonthDays} {ps qs : List Piece}

theorem add_ne_nil (g : MonthDays) (ps : List Piece) : add g ps ≠ [] := by
  unfold add
  by_cases hg : g.IsComplete
  · rw [if_pos hg]
    split
    · split
      · exact List.cons_ne_nil _ _
      · exact List.cons_ne_nil _ _
    · exact List.cons_ne_nil _ _
  · rw [if_neg hg]
    exact List.cons_ne_nil _ _

/-- A group is joined with the first piece at most. -/
theorem add_append (hne : ps ≠ []) : add g (ps ++ qs) = add g ps ++ qs := by
  obtain ⟨p, ps, rfl⟩ := List.exists_cons_of_ne_nil hne
  unfold add
  by_cases hg : g.IsComplete
  · rw [if_pos hg, if_pos hg]
    cases p with
    | part h => rfl
    | run y ms =>
      by_cases hy : y = g.year
      · simp [hy]
      · simp [hy]
  · rw [if_neg hg, if_neg hg]
    rfl

/-- What a group is joined with is a run of its year. -/
theorem year_eq_of_head?_add (h : (add g ps).head? = some (run y ms)) : y = g.year := by
  unfold add at h
  by_cases hg : g.IsComplete
  · rw [if_pos hg] at h
    split at h
    · split at h
      · next hz =>
        injection h with h
        injection h with hy
        rw [← hy, hz]
      · injection h with h
        injection h with hy
        exact hy.symm
    · injection h with h
      injection h with hy
      exact hy.symm
  · rw [if_neg hg] at h
    injection h with h
    cases h

/-- A group is not joined with a run of another year. -/
theorem add_of_ne (hqs : ∀ y ms, qs.head? = some (run y ms) → y ≠ g.year) :
    add g qs = add g [] ++ qs := by
  unfold add
  by_cases hg : g.IsComplete
  · rw [if_pos hg, if_pos hg]
    match qs, hqs with
    | [], _ => rfl
    | part h :: rest, _ => rfl
    | run y ms :: rest, hqs =>
      have hy : y ≠ g.year := hqs y ms rfl
      simp [hy]
  · rw [if_neg hg, if_neg hg]
    rfl

/-- Groups are not joined with a run of another year. -/
theorem foldr_add_of_ne (hqs : ∀ y ms, qs.head? = some (run y ms) → ∀ g ∈ gs, y ≠ g.year) :
    gs.foldr add qs = ofGroups gs ++ qs := by
  induction gs with
  | nil => rfl
  | cons g gs ih =>
    have hg : ∀ y ms, qs.head? = some (run y ms) → y ≠ g.year := fun y ms hrun =>
      hqs y ms hrun g (List.mem_cons_self ..)
    have hgs : gs.foldr add qs = ofGroups gs ++ qs :=
      ih fun y ms hrun h hh => hqs y ms hrun h (List.mem_cons_of_mem _ hh)
    show add g (gs.foldr add qs) = add g (ofGroups gs) ++ qs
    rw [hgs]
    -- only the last of the groups meets the pieces that are there
    cases gs with
    | nil => exact add_of_ne hg
    | cons h gs => exact add_append (add_ne_nil h _)

/-- Nothing is joined across years. -/
theorem ofGroups_append (hne : ∀ g ∈ gs, ∀ h ∈ hs, h.year ≠ g.year) :
    ofGroups (gs ++ hs) = ofGroups gs ++ ofGroups hs := by
  show (gs ++ hs).foldr add [] = _
  rw [List.foldr_append]
  refine foldr_add_of_ne fun y ms hrun g hg => ?_
  cases hs with
  | nil => cases hrun
  | cons h hs =>
    have hy : y = h.year := year_eq_of_head?_add hrun
    rw [hy]
    exact hne g hg h (List.mem_cons_self ..)

/-- Nothing is joined across an incomplete month. -/
theorem ofGroups_append_part (hg : ¬ g.IsComplete) :
    ofGroups (gs ++ g :: hs) = ofGroups gs ++ part g :: ofGroups hs := by
  have hpart : ofGroups (g :: hs) = part g :: ofGroups hs := if_neg hg
  show (gs ++ g :: hs).foldr add [] = _
  rw [List.foldr_append, ← hpart]
  refine foldr_add_of_ne fun y ms hrun => ?_
  have hhead : (ofGroups (g :: hs)).head? = some (part g) := by
    rw [hpart]
    rfl
  have hno : some (run y ms) = some (part g) := hrun.symm.trans hhead
  cases hno

/-- Complete months of one year are a run. -/
theorem ofGroups_of_forall_complete (hne : gs ≠ [])
    (hgs : ∀ g ∈ gs, g.year = y ∧ g.IsComplete) :
    ofGroups gs = [run y (gs.map MonthDays.month)] := by
  induction gs with
  | nil => exact absurd rfl hne
  | cons g gs ih =>
    obtain ⟨rfl, hg⟩ := hgs g (List.mem_cons_self ..)
    show add g (ofGroups gs) = _
    by_cases hnil : gs = []
    · subst hnil
      exact if_pos hg
    · rw [ih hnil fun h hh => hgs h (List.mem_cons_of_mem _ hh), add, if_pos hg]
      exact if_pos rfl

end Piece

/-! ## The walk and the groups -/

namespace DateRange

variable {r : DateRange} {y : Year} {m : Month} {run ms : List Month}

/-- A run of whole months is a run of complete groups. -/
theorem scopes_wholeMonths (hr : ¬ r.InOneMonth) (h : Pending r y run ms) :
    (wholeMonths y run).map (fun s => (s.year, s.scope)) =
      (Piece.ofGroups (run.map fun m => r.monthDays (y, m))).map Piece.scope := by
  by_cases hnil : run = []
  · subst hnil
    rfl
  · have hcomplete : ∀ g ∈ run.map fun m => r.monthDays (y, m), g.year = y ∧ g.IsComplete := by
      intro g hg
      obtain ⟨m, hm, rfl⟩ := List.mem_map.1 hg
      have hreach := h.reaches m (List.mem_append_left _ hm)
      exact ⟨rfl, (isComplete_monthDays_iff hr hreach).2 (h.whole m hm)⟩
    have hmonths : (run.map fun m => r.monthDays (y, m)).map MonthDays.month = run := by
      rw [List.map_map]
      exact List.map_id run
    have hne : (run.map fun m => r.monthDays (y, m)) ≠ [] := fun hmap =>
      hnil (List.map_eq_nil_iff.1 hmap)
    rw [Piece.ofGroups_of_forall_complete hne hcomplete, hmonths, wholeMonths, if_neg hnil]
    by_cases hlen : run.length = Month.perYear
    · have hyear : (Piece.run y run).scope = (y, .wholeYear) := congrArg (y, ·) (if_pos hlen)
      rw [if_pos hlen, List.map_singleton, List.map_singleton, hyear]
      rfl
    · have hsome : (Piece.run y run).scope = (y, .ofMonths run) := congrArg (y, ·) (if_neg hlen)
      rw [if_neg hlen, List.map_singleton, List.map_singleton, hsome, Selection.scope_ofMonths]

/-- **The walk joins what counting joins**, whatever waits. -/
theorem scopes_pieces (hr : ¬ r.InOneMonth) (h : Pending r y run ms) :
    (r.pieces y run ms).map (fun s => (s.year, s.scope)) =
      (Piece.ofGroups ((run ++ ms).map fun m => r.monthDays (y, m))).map Piece.scope := by
  induction ms generalizing run with
  | nil =>
    rw [List.append_nil, pieces]
    exact scopes_wholeMonths hr h
  | cons m ms ih =>
    cases hcov : r.coverage y m with
    | whole =>
      rw [pieces_whole hcov, List.append_cons run m ms]
      exact ih (h.push hcov)
    | partly days =>
      have hpart : ¬ (r.monthDays (y, m)).IsComplete := by
        rw [isComplete_monthDays_iff hr h.reaches_head, hcov]
        intro heq
        cases heq
      have hdays := monthDays_of_partly hr h.reaches_head hcov
      have hne : days ≠ [] := (describes_of_coverage_eq hr h.reaches_head hcov).1
      have hscope : (⟨y, [m], days⟩ : Selection).scope = .daysOf m days := by
        obtain ⟨day, rest, rfl⟩ := List.exists_cons_of_ne_nil hne
        rfl
      rw [pieces_partly h hcov, List.map_append, List.map_cons, List.map_append, List.map_cons,
        Piece.ofGroups_append_part hpart, List.map_append, List.map_cons, scopes_wholeMonths hr h,
        ih h.flush, hdays, hscope]
      rfl

/-- Years are joined one by one. -/
theorem ofGroups_years {ys : List Year} (hys : ys.Nodup) (months : Year → List Month) :
    Piece.ofGroups (ys.flatMap fun y => (months y).map fun m => r.monthDays (y, m)) =
      ys.flatMap fun y => Piece.ofGroups ((months y).map fun m => r.monthDays (y, m)) := by
  induction ys with
  | nil => rfl
  | cons y ys ih =>
    obtain ⟨hnew, hys⟩ := List.nodup_cons.1 hys
    rw [List.flatMap_cons, List.flatMap_cons, ← ih hys]
    refine Piece.ofGroups_append ?_
    intro g hg h hh
    obtain ⟨m, -, rfl⟩ := List.mem_map.1 hg
    obtain ⟨z, hz, hh⟩ := List.mem_flatMap.1 hh
    obtain ⟨n, -, rfl⟩ := List.mem_map.1 hh
    intro heq
    have hzy : z = y := heq
    exact hnew (hzy ▸ hz)

/-- The groups of a range, year by year. -/
theorem group_dates_years (r : DateRange) :
    MonthDays.group r.dates = (r.first.year.through r.last.year).flatMap fun y =>
      (r.monthsOf y).map fun m => r.monthDays (y, m) := by
  rw [group_dates, reached, List.map_flatMap]
  simp only [List.map_map, Function.comp_def]

/-- A range that leaves its first month has more than one group. -/
theorem grouped_of_not_inOneMonth (hr : ¬ r.InOneMonth) :
    r.grouped = (Piece.ofGroups (MonthDays.group r.dates)).map Piece.scope := by
  unfold grouped
  split
  · next g hone =>
    rw [group_dates] at hone
    obtain ⟨k, hk, -⟩ := List.map_eq_singleton_iff.1 hone
    have hfirst : (r.first.year, r.first.month) ∈ r.reached :=
      mem_reached.2 (reaches_of_mem r.first_mem)
    have hlast : (r.last.year, r.last.month) ∈ r.reached :=
      mem_reached.2 (reaches_of_mem r.last_mem)
    rw [hk, List.mem_singleton] at hfirst hlast
    have hsame := hfirst.trans hlast.symm
    injection hsame with hy hm
    exact absurd ⟨hy, hm⟩ hr
  · rfl

/-- A range that stays within one month has one group. -/
theorem grouped_of_inOneMonth (hr : r.InOneMonth) :
    r.grouped = [(r.first.year, .daysOf r.first.month (r.first.day.through r.last.day))] := by
  have hall : r.datesIn (r.first.year, r.first.month) = r.dates := by
    refine List.filter_eq_self.2 fun d hd => decide_eq_true ?_
    obtain ⟨hy, hm, -⟩ := (mem_iff_of_inOneMonth hr).1 (mem_dates.1 hd)
    exact ⟨hy, hm⟩
  have hgroup : MonthDays.group (r.datesIn (r.first.year, r.first.month) ++ []) =
      [r.monthDays (r.first.year, r.first.month)] :=
    MonthDays.group_append (datesIn_ne_nil (reaches_of_mem r.first_mem))
      (fun d hd => (mem_datesIn.1 hd).2) fun d hd => absurd hd List.not_mem_nil
  have hdays : (r.monthDays (r.first.year, r.first.month)).days =
      r.first.day.through r.last.day := by
    refine days_monthDays_eq (Day.ascending_through _ _)
      (fun day hday => existsIn_of_inOneMonth hr hday) fun d hy hm => ?_
    rw [mem_iff_of_inOneMonth hr]
    exact ⟨fun hd => ⟨hy, hm, hd⟩, fun hd => hd.2.2⟩
  rw [List.append_nil, hall] at hgroup
  unfold grouped
  rw [hgroup, ← hdays]
  rfl

/-- **The pieces are what counting days finds.** -/
theorem scopes_selections (r : DateRange) :
    r.selections.map (fun s => (s.year, s.scope)) = r.grouped := by
  by_cases hr : r.InOneMonth
  · have hyears : r.first.year.through r.last.year = [r.first.year] := by
      refine (Year.ascending_through _ _).eq_of_mem_iff (List.pairwise_singleton _ _) fun y => ?_
      rw [Year.mem_through, List.mem_singleton, ← hr.1, Year.ext_iff]
      omega
    have hy : r.first.year ∈ r.first.year.through r.last.year := by
      rw [hyears]
      exact List.mem_singleton.2 rfl
    have hne : r.first.day.through r.last.day ≠ [] :=
      List.ne_nil_of_mem ((mem_iff_of_inOneMonth hr).1 r.first_mem).2.2
    obtain ⟨day, rest, hdays⟩ := List.exists_cons_of_ne_nil hne
    rw [selections, hyears, List.flatMap_singleton, (selectionsIn_of_inOneMonth hr hy).2,
      grouped_of_inOneMonth hr, hdays]
    rfl
  · rw [grouped_of_not_inOneMonth hr, group_dates_years,
      ofGroups_years (Year.ascending_through _ _).nodup, selections, List.map_flatMap,
      List.map_flatMap]
    refine congrArg List.flatten (List.map_congr_left fun y hy => ?_)
    rw [selectionsIn_eq_pieces hr]
    exact scopes_pieces hr (.init hy)

/-- **Every range compiles to the clauses of its groups**, in order and scope by scope. -/
theorem compile_scopes (r : DateRange) :
    ∃ p, r.compile = .ok p ∧ p.clauses.map (fun c => (c.year, c.scope)) = r.grouped := by
  obtain ⟨p, hp, hmap⟩ := r.exists_compile
  refine ⟨p, hp, ?_⟩
  have hscopes : p.clauses.map (fun c => (c.year, c.scope)) =
      (p.clauses.map Clause.selection).map fun s => (s.year, s.scope) := by
    rw [List.map_map]
    refine List.map_congr_left fun c _ => ?_
    show (c.year, c.scope) = (c.selection.year, c.selection.scope)
    rw [Clause.scope_selection]
    rfl
  rw [hscopes, hmap, scopes_selections]

end DateRange

end DatePartition
