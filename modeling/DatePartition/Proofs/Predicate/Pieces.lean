import DatePartition.Proofs.Predicate.Coverage
import DatePartition.Proofs.Predicate.Selection

/-!
# The walk through a range

`DateRange.pieces` walks through the months of a year. Whole months wait in a buffer; a partial
month is a piece of its own, and only a partial last month lets the buffer go first.

- `DateRange.Pending`: the invariant of the walk. The months that wait are whole, and they come
  before the months that are left.
- `DateRange.pieces_whole`, `DateRange.pieces_partly`: the two steps of the walk. Nothing waits when
  a partial month is not the last one, so **no piece overtakes another**.
- `DateRange.exists_mem_pieces`, `DateRange.pairwise_before_pieces`: what a walk hands out are the
  dates of the range in its months, piece after piece in order.
- `DateRange.exists_mem_selections`, `DateRange.pairwise_before_selections`: the same for the whole
  range.
- `DateRange.exists_compile`: **every range compiles**, to one clause for each piece.
-/

namespace DatePartition

/-- All dates of the one request come before all dates of the other. -/
def Selection.Before (s t : Selection) : Prop := ∀ d e : Date, s.Selects d → t.Selects e → d < e

namespace DateRange

variable {r : DateRange} {y : Year} {m : Month} {run ms : List Month} {days : List Day}
  {s : Selection} {d : Date}

/-! ## The invariant -/

/-- The months of `run` wait while the months of `ms` are left: together they ascend and are reached
by the range, and those that wait are whole. -/
structure Pending (r : DateRange) (y : Year) (run ms : List Month) : Prop where
  reaches : ∀ m ∈ run ++ ms, r.Reaches y m
  ascends : Ascending Month.number (run ++ ms)
  whole : ∀ m ∈ run, r.coverage y m = .whole

namespace Pending

/-- At the beginning of a year nothing waits. -/
theorem init (hy : y ∈ r.first.year.through r.last.year) : Pending r y [] (r.monthsOf y) where
  reaches := fun _ hm => reaches_iff.2 ⟨hy, hm⟩
  ascends := Month.ascending_through _ _
  whole := fun _ hm => absurd hm List.not_mem_nil

theorem reaches_head (h : Pending r y run (m :: ms)) : r.Reaches y m :=
  h.reaches m (List.mem_append_right _ (List.mem_cons_self ..))

/-- The months that wait come before the next one, and that before the others. -/
theorem number_lt (h : Pending r y run (m :: ms)) :
    (∀ a ∈ run, a.number < m.number) ∧ (∀ b ∈ ms, m.number < b.number) ∧
      ∀ a ∈ run, ∀ b ∈ ms, a.number < b.number := by
  have hasc := h.ascends
  rw [Ascending, List.pairwise_append, List.pairwise_cons] at hasc
  obtain ⟨-, ⟨hafter, -⟩, hbefore⟩ := hasc
  exact ⟨fun a ha => hbefore a ha m (List.mem_cons_self ..), hafter,
    fun a ha b hb => hbefore a ha b (List.mem_cons_of_mem _ hb)⟩

theorem run_ascends (h : Pending r y run ms) : Ascending Month.number run :=
  (List.pairwise_append.1 h.ascends).1

/-- A whole month joins those that wait. -/
theorem push (h : Pending r y run (m :: ms)) (hcov : r.coverage y m = .whole) :
    Pending r y (run ++ [m]) ms := by
  refine ⟨List.append_cons run m ms ▸ h.reaches, List.append_cons run m ms ▸ h.ascends, ?_⟩
  intro a ha
  rcases List.mem_append.1 ha with ha | ha
  · exact h.whole a ha
  · rw [List.mem_singleton.1 ha]
    exact hcov

/-- After a partial month nothing waits. -/
theorem flush (h : Pending r y run (m :: ms)) : Pending r y [] ms where
  reaches := fun a ha => h.reaches a (List.mem_append_right _ (List.mem_cons_of_mem _ ha))
  ascends := (List.pairwise_cons.1 (List.pairwise_append.1 h.ascends).2.1).2
  whole := fun _ ha => absurd ha List.not_mem_nil

/-- If a partial month is not the last of its year then it opens the range, and no month of the
range comes before it. -/
theorem run_eq_nil (h : Pending r y run (m :: ms)) (hcov : r.coverage y m = .partly days)
    (hms : ms ≠ []) : run = [] := by
  obtain ⟨hrun, hleft, -⟩ := h.number_lt
  rcases month_eq_of_coverage_partly hcov with ⟨rfl, rfl⟩ | ⟨rfl, rfl⟩
  · -- the opening month: what waits would lie before the range
    refine List.eq_nil_iff_forall_not_mem.2 ?_
    intro a ha
    have hreach := (h.reaches a (List.mem_append_left _ ha)).1
    have hlt := hrun a ha
    omega
  · -- the closing month: what is left would lie behind it
    obtain ⟨b, hb⟩ := List.exists_mem_of_ne_nil ms hms
    have hreach := (h.reaches b (List.mem_append_right _ (List.mem_cons_of_mem _ hb))).2
    have hlt := hleft b hb
    omega

end Pending

/-! ## The steps -/

/-- A whole month waits. -/
theorem pieces_whole (hcov : r.coverage y m = .whole) :
    r.pieces y run (m :: ms) = r.pieces y (run ++ [m]) ms := by
  rw [pieces, hcov]

/-- A partial month follows whatever waits, and precedes all else. -/
theorem pieces_partly (h : Pending r y run (m :: ms)) (hcov : r.coverage y m = .partly days) :
    r.pieces y run (m :: ms) = wholeMonths y run ++ ⟨y, [m], days⟩ :: r.pieces y [] ms := by
  rw [pieces, hcov]
  by_cases hms : ms = []
  · exact if_pos hms
  · have hnil : run = [] := h.run_eq_nil hcov hms
    subst hnil
    exact if_neg hms

/-! ## Runs of whole months -/

theorem mem_wholeMonths : s ∈ wholeMonths y run ↔
    run ≠ [] ∧ s = ⟨y, if run.length = Month.perYear then [] else run, []⟩ := by
  unfold wholeMonths
  by_cases hnil : run = []
  · simp [hnil]
  · by_cases hlen : run.length = Month.perYear
    · simp [hnil, hlen]
    · simp [hnil, hlen]

/-- A run is one piece at most. -/
theorem pairwise_wholeMonths {R : Selection → Selection → Prop} (y : Year) (run : List Month) :
    (wholeMonths y run).Pairwise R := by
  unfold wholeMonths
  by_cases hnil : run = []
  · rw [if_pos hnil]
    exact List.Pairwise.nil
  · rw [if_neg hnil]
    split
    · exact List.pairwise_singleton _ _
    · exact List.pairwise_singleton _ _

/-- Twelve months in order are all months. -/
theorem mem_of_length_eq_perYear (hasc : Ascending Month.number run)
    (hlen : run.length = Month.perYear) (m : Month) : m ∈ run := by
  by_cases hm : m ∈ run
  · exact hm
  · -- with one more there would be thirteen
    have hnodup : (m :: run).Nodup := List.nodup_cons.2 ⟨hm, hasc.nodup⟩
    have hsub : (m :: run) ⊆ Month.january.through Month.december := fun a _ =>
      Month.mem_through.2 ⟨a.one_le, a.number_le⟩
    have hle : (m :: run).length ≤ Month.perYear := hnodup.length_le_of_subset hsub
    rw [List.length_cons, hlen] at hle
    exact absurd hle (Nat.not_succ_le_self _)

/-- A run hands out the dates of its months, also if it is a whole year. -/
theorem exists_mem_wholeMonths (hasc : Ascending Month.number run) :
    (∃ s ∈ wholeMonths y run, s.Selects d) ↔ d.year = y ∧ d.month ∈ run := by
  constructor
  · rintro ⟨s, hs, hd⟩
    obtain ⟨hne, rfl⟩ := mem_wholeMonths.1 hs
    refine ⟨hd.1, ?_⟩
    by_cases hlen : run.length = Month.perYear
    · exact mem_of_length_eq_perYear hasc hlen d.month
    · have hmonth := hd.2.1
      rw [if_neg hlen] at hmonth
      exact hmonth.resolve_left hne
  · rintro ⟨hy, hm⟩
    refine ⟨_, mem_wholeMonths.2 ⟨List.ne_nil_of_mem hm, rfl⟩, hy, ?_, .inl rfl⟩
    by_cases hlen : run.length = Month.perYear
    · exact .inl (if_pos hlen)
    · right
      rw [if_neg hlen]
      exact hm

/-! ## The pieces of a year -/

/-- What the walk through a year hands out. -/
inductive IsPiece (r : DateRange) (y : Year) : Selection → Prop where
  | run (ms : List Month) (hasc : Ascending Month.number ms) : IsPiece r y ⟨y, ms, []⟩
  | part (m : Month) (days : List Day) (hreach : r.Reaches y m)
      (hcov : r.coverage y m = .partly days) : IsPiece r y ⟨y, [m], days⟩

theorem isPiece_of_mem_wholeMonths (hasc : Ascending Month.number run)
    (hs : s ∈ wholeMonths y run) : IsPiece r y s := by
  obtain ⟨-, rfl⟩ := mem_wholeMonths.1 hs
  by_cases hlen : run.length = Month.perYear
  · rw [if_pos hlen]
    exact .run [] List.Pairwise.nil
  · rw [if_neg hlen]
    exact .run run hasc

theorem isPiece_of_mem_pieces (h : Pending r y run ms) (hs : s ∈ r.pieces y run ms) :
    IsPiece r y s := by
  induction ms generalizing run with
  | nil => exact isPiece_of_mem_wholeMonths h.run_ascends hs
  | cons m ms ih =>
    cases hcov : r.coverage y m with
    | whole =>
      rw [pieces_whole hcov] at hs
      exact ih (h.push hcov) hs
    | partly days =>
      rw [pieces_partly h hcov, List.mem_append, List.mem_cons] at hs
      rcases hs with hs | rfl | hs
      · exact isPiece_of_mem_wholeMonths h.run_ascends hs
      · exact .part m days h.reaches_head hcov
      · exact ih h.flush hs

theorem IsPiece.year_eq (h : IsPiece r y s) : s.year = y := by
  cases h with
  | run => rfl
  | part => rfl

/-- A piece spells out a clause. -/
theorem IsPiece.isNormal (hr : ¬ r.InOneMonth) (h : IsPiece r y s) : s.IsNormal := by
  cases h with
  | run ms hasc => exact ⟨hasc, List.Pairwise.nil, fun hne => absurd rfl hne⟩
  | part m days hreach hcov =>
    obtain ⟨-, hasc, hexist, -⟩ := describes_of_coverage_eq hr hreach hcov
    exact ⟨List.pairwise_singleton _ _, hasc, fun _ => ⟨m, rfl, hexist⟩⟩

/-- A part hands out the dates of the range in its month. -/
theorem selects_part_iff (hr : ¬ r.InOneMonth) (hreach : r.Reaches y m)
    (hcov : r.coverage y m = .partly days) :
    (⟨y, [m], days⟩ : Selection).Selects d ↔ d.year = y ∧ d.month = m ∧ d ∈ r := by
  obtain ⟨hne, -, -, hdays, -⟩ := describes_of_coverage_eq hr hreach hcov
  constructor
  · rintro ⟨hy, hm, hd⟩
    have hmonth : d.month = m := by simpa using hm
    exact ⟨hy, hmonth, (hdays d hy hmonth).1 (hd.resolve_left hne)⟩
  · rintro ⟨hy, hm, hd⟩
    exact ⟨hy, .inr (by simp [hm]), .inr ((hdays d hy hm).2 hd)⟩

/-- The months that wait hand out the dates of the range in them. -/
theorem exists_mem_waiting (hr : ¬ r.InOneMonth) (h : Pending r y run ms) :
    (∃ s ∈ wholeMonths y run, s.Selects d) ↔ d.year = y ∧ d.month ∈ run ∧ d ∈ r := by
  rw [exists_mem_wholeMonths h.run_ascends]
  refine and_congr_right fun hy => ⟨fun hm => ⟨hm, ?_⟩, fun hm => hm.1⟩
  have hreach := h.reaches d.month (List.mem_append_left _ hm)
  exact (coverage_eq_whole_iff hr hreach).1 (h.whole d.month hm) d hy rfl

/-- **The walk hands out the dates of the range in its months**, those that wait included. -/
theorem exists_mem_pieces (hr : ¬ r.InOneMonth) (h : Pending r y run ms) :
    (∃ s ∈ r.pieces y run ms, s.Selects d) ↔
      d.year = y ∧ d.month ∈ run ++ ms ∧ d ∈ r := by
  induction ms generalizing run with
  | nil =>
    rw [List.append_nil]
    exact exists_mem_waiting hr h
  | cons m ms ih =>
    cases hcov : r.coverage y m with
    | whole =>
      rw [pieces_whole hcov, List.append_cons run m ms]
      exact ih (h.push hcov)
    | partly days =>
      have hwaiting := exists_mem_waiting (d := d) hr h
      have hpart := selects_part_iff (d := d) hr h.reaches_head hcov
      have hrest := ih h.flush
      rw [pieces_partly h hcov]
      simp only [List.mem_append, List.mem_cons, or_and_right, exists_or, exists_eq_left]
      rw [hwaiting, hpart, hrest, List.nil_append]
      simp only [← and_or_left, ← or_and_right]

/-- **The walk hands out its pieces in order.** -/
theorem pairwise_before_pieces (hr : ¬ r.InOneMonth) (h : Pending r y run ms) :
    (r.pieces y run ms).Pairwise Selection.Before := by
  -- pieces of one year are in order if their months are
  have hlt : ∀ {d e : Date}, d.year = y → e.year = y → d.month.number < e.month.number →
      d < e := by
    intro d e hd he hm
    exact Date.lt_def.2 (.inr ⟨by rw [hd, he], .inl hm⟩)
  induction ms generalizing run with
  | nil => exact pairwise_wholeMonths y run
  | cons m ms ih =>
    cases hcov : r.coverage y m with
    | whole =>
      rw [pieces_whole hcov]
      exact ih (h.push hcov)
    | partly days =>
      obtain ⟨hbefore, hafter, hacross⟩ := h.number_lt
      have hpart : ∀ {d : Date}, (⟨y, [m], days⟩ : Selection).Selects d →
          d.year = y ∧ d.month = m := fun hd =>
        have hd := (selects_part_iff hr h.reaches_head hcov).1 hd
        ⟨hd.1, hd.2.1⟩
      rw [pieces_partly h hcov, List.pairwise_append, List.pairwise_cons]
      refine ⟨pairwise_wholeMonths y run, ⟨?_, ih h.flush⟩, ?_⟩
      · -- the partial month comes before the months that are left
        intro t ht d e hd he
        obtain ⟨hdy, hdm⟩ := hpart hd
        obtain ⟨hey, hem, -⟩ := (exists_mem_pieces hr h.flush).1 ⟨t, ht, he⟩
        exact hlt hdy hey (by rw [hdm]; exact hafter e.month hem)
      · -- the months that waited come before both
        intro s hs t ht d e hd he
        obtain ⟨hdy, hdm⟩ := (exists_mem_wholeMonths h.run_ascends).1 ⟨s, hs, hd⟩
        rcases List.mem_cons.1 ht with rfl | ht
        · obtain ⟨hey, hem⟩ := hpart he
          exact hlt hdy hey (by rw [hem]; exact hbefore d.month hdm)
        · obtain ⟨hey, hem, -⟩ := (exists_mem_pieces hr h.flush).1 ⟨t, ht, he⟩
          exact hlt hdy hey (hacross d.month hdm e.month hem)

/-! ## Year by year -/

/-- The walk through whole months only joins them. -/
theorem pieces_of_forall_whole (hwhole : ∀ m ∈ ms, r.coverage y m = .whole) :
    r.pieces y run ms = wholeMonths y (run ++ ms) := by
  induction ms generalizing run with
  | nil => rw [List.append_nil, pieces]
  | cons m ms ih =>
    have hrest : ∀ a ∈ ms, r.coverage y a = .whole := fun a ha =>
      hwhole a (List.mem_cons_of_mem _ ha)
    rw [pieces_whole (hwhole m (List.mem_cons_self ..)), ih hrest, ← List.append_cons]

/-- A year between the bounds is one piece, as if it had been walked through. -/
theorem pieces_of_between (hlow : r.first.year.number < y.number)
    (hhigh : y.number < r.last.year.number) :
    r.pieces y [] (r.monthsOf y) = [⟨y, [], []⟩] := by
  have hfirst : y ≠ r.first.year := by
    rintro rfl
    exact Nat.lt_irrefl _ hlow
  have hlast : y ≠ r.last.year := by
    rintro rfl
    exact Nat.lt_irrefl _ hhigh
  have hall : r.monthsOf y = Month.january.through Month.december := by
    rw [monthsOf, if_neg hfirst, if_neg hlast]
  have hwhole : ∀ m ∈ r.monthsOf y, r.coverage y m = .whole := by
    intro m _
    cases hcov : r.coverage y m with
    | whole => rfl
    | partly days =>
      rcases month_eq_of_coverage_partly hcov with ⟨hy, -⟩ | ⟨hy, -⟩
      · exact absurd hy hfirst
      · exact absurd hy hlast
  rw [pieces_of_forall_whole hwhole, List.nil_append, hall]
  rfl

/-- A range that leaves its first month is walked through, year by year. -/
theorem selectionsIn_eq_pieces (hr : ¬ r.InOneMonth) :
    r.selectionsIn y = r.pieces y [] (r.monthsOf y) := by
  unfold selectionsIn
  by_cases hinner : r.first.year.number < y.number ∧ y.number < r.last.year.number
  · rw [if_pos hinner, pieces_of_between hinner.1 hinner.2]
  · rw [if_neg hinner, if_neg hr]

/-- A range that stays within one month is one piece. -/
theorem selectionsIn_of_inOneMonth (hr : r.InOneMonth)
    (hy : y ∈ r.first.year.through r.last.year) :
    y = r.first.year ∧
      r.selectionsIn y = [⟨y, [r.first.month], r.first.day.through r.last.day⟩] := by
  have hbounds := Year.mem_through.1 hy
  rw [← hr.1] at hbounds
  have hyear : y = r.first.year := Year.ext (Nat.le_antisymm hbounds.2 hbounds.1)
  have hnot : ¬ (r.first.year.number < y.number ∧ y.number < r.last.year.number) := by
    rw [hyear]
    exact fun h => Nat.lt_irrefl _ h.1
  exact ⟨hyear, by rw [selectionsIn, if_neg hnot, if_pos hr]⟩

/-- The two ways to cut a year: the range stays within one of its months, or the walk goes through
its months. -/
theorem selectionsIn_cases (hy : y ∈ r.first.year.through r.last.year) :
    (r.InOneMonth ∧ y = r.first.year ∧
      r.selectionsIn y = [⟨y, [r.first.month], r.first.day.through r.last.day⟩]) ∨
    (¬ r.InOneMonth ∧ Pending r y [] (r.monthsOf y) ∧
      r.selectionsIn y = r.pieces y [] (r.monthsOf y)) := by
  by_cases hr : r.InOneMonth
  · exact .inl ⟨hr, selectionsIn_of_inOneMonth hr hy⟩
  · exact .inr ⟨hr, .init hy, selectionsIn_eq_pieces hr⟩

theorem year_eq_of_mem_selectionsIn (hy : y ∈ r.first.year.through r.last.year)
    (hs : s ∈ r.selectionsIn y) : s.year = y := by
  rcases selectionsIn_cases hy with ⟨-, -, heq⟩ | ⟨-, hpend, heq⟩
  · rw [heq, List.mem_singleton] at hs
    rw [hs]
  · rw [heq] at hs
    exact (isPiece_of_mem_pieces hpend hs).year_eq

/-- The days of a range that stays within one month. -/
theorem mem_iff_of_inOneMonth (hr : r.InOneMonth) :
    d ∈ r ↔ d.year = r.first.year ∧ d.month = r.first.month ∧
      d.day ∈ r.first.day.through r.last.day := by
  rw [Day.mem_through, mem_def, Date.le_def, Date.le_def, ← hr.1, ← hr.2, Year.ext_iff,
    Month.ext_iff]
  omega

theorem existsIn_of_inOneMonth (hr : r.InOneMonth) {day : Day}
    (hday : day ∈ r.first.day.through r.last.day) :
    day.ExistsIn r.first.year r.first.month := by
  have hexist : r.last.day.number ≤ r.last.month.lengthIn r.last.year := r.last.existsIn
  rw [← hr.1, ← hr.2] at hexist
  exact Nat.le_trans (Day.mem_through.1 hday).2 hexist

/-- A piece of a year spells out a clause. -/
theorem isNormal_of_mem_selectionsIn (hy : y ∈ r.first.year.through r.last.year)
    (hs : s ∈ r.selectionsIn y) : s.IsNormal := by
  rcases selectionsIn_cases hy with ⟨hr, rfl, heq⟩ | ⟨hr, hpend, heq⟩
  · rw [heq, List.mem_singleton] at hs
    subst hs
    exact ⟨List.pairwise_singleton _ _, Day.ascending_through _ _,
      fun _ => ⟨_, rfl, fun day hday => existsIn_of_inOneMonth hr hday⟩⟩
  · rw [heq] at hs
    exact (isPiece_of_mem_pieces hpend hs).isNormal hr

/-- The pieces of a year hand out the dates of the range in it. -/
theorem exists_mem_selectionsIn (hy : y ∈ r.first.year.through r.last.year) :
    (∃ s ∈ r.selectionsIn y, s.Selects d) ↔ d.year = y ∧ d ∈ r := by
  rcases selectionsIn_cases hy with ⟨hr, rfl, heq⟩ | ⟨hr, hpend, heq⟩
  · have hlen : r.first.day.through r.last.day ≠ [] := by
      have hfirst := ((mem_iff_of_inOneMonth hr).1 r.first_mem).2.2
      exact List.ne_nil_of_mem hfirst
    rw [heq, mem_iff_of_inOneMonth hr]
    simp only [List.mem_singleton, exists_eq_left, Selection.Selects, hlen, false_or,
      reduceCtorEq]
    exact ⟨fun h => ⟨h.1, h⟩, fun h => h.2⟩
  · rw [heq, exists_mem_pieces hr hpend, List.nil_append]
    refine and_congr_right fun hyear => ⟨fun h => h.2, fun h => ⟨?_, h⟩⟩
    have hreach := (reaches_iff.1 (reaches_of_mem h)).2
    rwa [hyear] at hreach

theorem pairwise_before_selectionsIn (hy : y ∈ r.first.year.through r.last.year) :
    (r.selectionsIn y).Pairwise Selection.Before := by
  rcases selectionsIn_cases hy with ⟨-, -, heq⟩ | ⟨hr, hpend, heq⟩
  · rw [heq]
    exact List.pairwise_singleton _ _
  · rw [heq]
    exact pairwise_before_pieces hr hpend

/-! ## The whole range -/

theorem mem_selections :
    s ∈ r.selections ↔ ∃ y ∈ r.first.year.through r.last.year, s ∈ r.selectionsIn y :=
  List.mem_flatMap

/-- **The pieces hand out exactly the dates of the range.** -/
theorem exists_mem_selections : (∃ s ∈ r.selections, s.Selects d) ↔ d ∈ r := by
  constructor
  · rintro ⟨s, hs, hd⟩
    obtain ⟨y, hy, hs⟩ := mem_selections.1 hs
    exact ((exists_mem_selectionsIn hy).1 ⟨s, hs, hd⟩).2
  · intro hd
    have hy := (reaches_iff.1 (reaches_of_mem hd)).1
    obtain ⟨s, hs, hsel⟩ := (exists_mem_selectionsIn hy).2 ⟨rfl, hd⟩
    exact ⟨s, mem_selections.2 ⟨d.year, hy, hs⟩, hsel⟩

/-- Pieces that are related within each year, and across years, are related. -/
theorem pairwise_selections {R : Selection → Selection → Prop}
    (hwithin : ∀ y ∈ r.first.year.through r.last.year, (r.selectionsIn y).Pairwise R)
    (hacross : ∀ s ∈ r.selections, ∀ t ∈ r.selections, s.year.number < t.year.number → R s t) :
    r.selections.Pairwise R := by
  refine List.pairwise_flatMap.2 ⟨hwithin, ?_⟩
  refine (Year.ascending_through r.first.year r.last.year).imp_of_mem ?_
  intro y z hy hz hyz s hs t ht
  refine hacross s (mem_selections.2 ⟨y, hy, hs⟩) t (mem_selections.2 ⟨z, hz, ht⟩) ?_
  rw [year_eq_of_mem_selectionsIn hy hs, year_eq_of_mem_selectionsIn hz ht]
  exact hyz

/-- **The pieces come in order.** -/
theorem pairwise_before_selections (r : DateRange) : r.selections.Pairwise Selection.Before := by
  refine pairwise_selections (fun y hy => pairwise_before_selectionsIn hy) ?_
  intro s _ t _ hlt d e hd he
  refine Date.lt_def.2 (.inl ?_)
  rw [hd.1, he.1]
  exact hlt

/-- **Every range compiles**, to one clause for each piece and with the lists of the piece. -/
theorem exists_compile (r : DateRange) :
    ∃ p, r.compile = .ok p ∧ p.clauses.map Clause.selection = r.selections := by
  have hgranted : ∀ s ∈ r.selections,
      ∃ c, Clause.ofSelection s = .ok c ∧ c.selection = s := by
    intro s hs
    obtain ⟨y, hy, hs⟩ := mem_selections.1 hs
    exact Selection.exists_ofSelection (isNormal_of_mem_selectionsIn hy hs)
  obtain ⟨cs, hcs, hmap⟩ := exists_mapM_ok hgranted
  obtain ⟨s, hs, -⟩ := exists_mem_selections.2 r.first_mem
  have hne : cs ≠ [] := by
    rintro rfl
    rw [← hmap] at hs
    exact List.not_mem_nil hs
  refine ⟨⟨cs, hne⟩, ?_, hmap⟩
  unfold compile
  rw [hcs]
  exact dif_pos hne

end DateRange

/-- Two dates in order compile to what their range compiles to. -/
theorem exists_compile_of_le {first last : Date} (h : first ≤ last) :
    ∃ p, compile first last = .ok p ∧
      p.clauses.map Clause.selection = DateRange.selections ⟨first, last, h⟩ := by
  obtain ⟨p, hp, hmap⟩ := DateRange.exists_compile ⟨first, last, h⟩
  refine ⟨p, ?_, hmap⟩
  unfold compile DateRange.ofBounds
  rw [dif_pos h]
  exact hp

end DatePartition
