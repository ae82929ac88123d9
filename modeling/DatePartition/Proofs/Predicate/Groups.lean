import DatePartition.Predicate.Grouping
import DatePartition.Proofs.Predicate.Coverage
import DatePartition.Proofs.Range.Enumeration

/-!
# The dates of a range by month

Grouping the enumerated dates of a range by month gives one group for each month that the range
reaches, in order, and the group holds the days of the month that lie in the range.

- `MonthDays.group_append`: dates of one month, followed by dates of others, are a group.
- `DateRange.dates_eq_flatMap`: the enumeration goes through the reached months one by one.
- `DateRange.group_dates`: **the groups of the enumeration are the reached months**.
- `DateRange.isComplete_monthDays_iff`, `DateRange.monthDays_of_partly`: what a group holds is
  what the compiler says that the range covers.
-/

namespace DatePartition

/-! ## Dates of one month -/

namespace MonthDays

variable {y : Year} {m : Month} {xs ds : List Date}

/-- The first group is of the month of the first date. -/
theorem exists_group_cons (d : Date) (ds : List Date) :
    ∃ days gs, group (d :: ds) = ⟨d.year, d.month, days⟩ :: gs := by
  have hstep : group (d :: ds) = add d (group ds) := rfl
  rw [hstep]
  cases group ds with
  | nil => exact ⟨_, _, rfl⟩
  | cons g gs =>
    by_cases hsame : g.year = d.year ∧ g.month = d.month
    · rw [add, if_pos hsame, hsame.1, hsame.2]
      exact ⟨_, _, rfl⟩
    · rw [add, if_neg hsame]
      exact ⟨_, _, rfl⟩

/-- A date opens a group before dates of other months. -/
theorem add_group (d : Date) (hds : ∀ e ∈ ds, ¬ (e.year = d.year ∧ e.month = d.month)) :
    add d (group ds) = ⟨d.year, d.month, [d.day]⟩ :: group ds := by
  cases ds with
  | nil => rfl
  | cons e ds =>
    obtain ⟨days, gs, hgroup⟩ := exists_group_cons e ds
    rw [hgroup, add, if_neg (hds e (List.mem_cons_self ..))]

/-- Dates of one month, followed by dates of others, are a group. -/
theorem group_append (hne : xs ≠ []) (hxs : ∀ x ∈ xs, x.year = y ∧ x.month = m)
    (hds : ∀ d ∈ ds, ¬ (d.year = y ∧ d.month = m)) :
    group (xs ++ ds) = ⟨y, m, xs.map Date.day⟩ :: group ds := by
  induction xs with
  | nil => exact absurd rfl hne
  | cons x xs ih =>
    have hstep : group (x :: xs ++ ds) = add x (group (xs ++ ds)) := rfl
    obtain ⟨rfl, rfl⟩ := hxs x (List.mem_cons_self ..)
    rw [hstep]
    -- the last date of the month opens the group, and the others join it
    by_cases hnil : xs = []
    · subst hnil
      exact add_group x hds
    · rw [ih hnil fun z hz => hxs z (List.mem_cons_of_mem _ hz)]
      exact if_pos ⟨rfl, rfl⟩

/-- Blocks of dates, each of a month of its own, are the groups. -/
theorem group_flatMap {ks : List (Year × Month)} {block : Year × Month → List Date}
    (hks : ks.Nodup) (hne : ∀ k ∈ ks, block k ≠ [])
    (hblock : ∀ k ∈ ks, ∀ d ∈ block k, d.year = k.1 ∧ d.month = k.2) :
    group (ks.flatMap block) = ks.map fun k => ⟨k.1, k.2, (block k).map Date.day⟩ := by
  induction ks with
  | nil => rfl
  | cons k ks ih =>
    obtain ⟨hnew, hks⟩ := List.nodup_cons.1 hks
    have hhead := hblock k (List.mem_cons_self ..)
    have hrest : ∀ d ∈ ks.flatMap block, ¬ (d.year = k.1 ∧ d.month = k.2) := by
      intro d hd ⟨hy, hm⟩
      obtain ⟨l, hl, hd⟩ := List.mem_flatMap.1 hd
      obtain ⟨hly, hlm⟩ := hblock l (List.mem_cons_of_mem _ hl) d hd
      have heq : k = l := Prod.ext (hy.symm.trans hly) (hm.symm.trans hlm)
      exact hnew (heq ▸ hl)
    rw [List.flatMap_cons, group_append (hne k (List.mem_cons_self ..)) hhead hrest,
      ih hks (fun l hl => hne l (List.mem_cons_of_mem _ hl))
        fun l hl => hblock l (List.mem_cons_of_mem _ hl)]
    rfl

end MonthDays

/-! ## The months of a range -/

namespace DateRange

variable {r : DateRange} {y : Year} {m : Month} {days : List Day} {k : Year × Month}

/-- The months that the range reaches, in order. -/
def reached (r : DateRange) : List (Year × Month) :=
  (r.first.year.through r.last.year).flatMap fun y => (r.monthsOf y).map fun m => (y, m)

theorem mem_reached : k ∈ r.reached ↔ r.Reaches k.1 k.2 := by
  rw [reached, List.mem_flatMap, reaches_iff]
  constructor
  · rintro ⟨y, hy, hk⟩
    obtain ⟨m, hm, rfl⟩ := List.mem_map.1 hk
    exact ⟨hy, hm⟩
  · rintro ⟨hy, hm⟩
    exact ⟨k.1, hy, List.mem_map.2 ⟨k.2, hm, rfl⟩⟩

theorem pairwise_reached (r : DateRange) :
    r.reached.Pairwise fun k l => k.1.number < l.1.number ∨
      k.1.number = l.1.number ∧ k.2.number < l.2.number := by
  refine List.pairwise_flatMap.2 ⟨fun y _ => ?_, ?_⟩
  · rw [List.pairwise_map]
    refine (Month.ascending_through _ _).imp ?_
    intro m n hmn
    exact .inr ⟨rfl, hmn⟩
  · refine (Year.ascending_through _ _).imp ?_
    intro y z hyz k hk l hl
    obtain ⟨m, -, rfl⟩ := List.mem_map.1 hk
    obtain ⟨n, -, rfl⟩ := List.mem_map.1 hl
    exact .inl hyz

theorem nodup_reached (r : DateRange) : r.reached.Nodup := by
  refine List.nodup_iff_pairwise_ne.2 (r.pairwise_reached.imp ?_)
  rintro k l hkl rfl
  omega

/-- The dates of the range in a month. -/
def datesIn (r : DateRange) (k : Year × Month) : List Date :=
  r.dates.filter fun d => d.year = k.1 ∧ d.month = k.2

theorem mem_datesIn : d ∈ r.datesIn k ↔ d ∈ r ∧ d.year = k.1 ∧ d.month = k.2 := by
  rw [datesIn, List.mem_filter, mem_dates, decide_eq_true_iff]

theorem datesIn_ne_nil (hreach : r.Reaches k.1 k.2) : r.datesIn k ≠ [] := by
  by_cases hbegins : r.BeginsInside k.1 k.2
  · have hfirst := mem_datesIn.2 ⟨r.first_mem, hbegins.1.symm, hbegins.2.1.symm⟩
    exact List.ne_nil_of_mem hfirst
  · -- the first of any other month is in the range
    have hfirst : r.first ≤ Date.firstOf k.1 k.2 := first_le_of_not_beginsInside hreach hbegins
    have hlast : Date.firstOf k.1 k.2 ≤ r.last := by
      have hbefore := hreach.2
      have hone : Day.first.number ≤ r.last.day.number := r.last.day.one_le
      rw [Date.le_def]
      simp only [Date.firstOf]
      omega
    exact List.ne_nil_of_mem (mem_datesIn.2 ⟨⟨hfirst, hlast⟩, rfl, rfl⟩)

/-- The enumeration goes through the months one by one. -/
theorem dates_eq_flatMap (r : DateRange) : r.dates = r.reached.flatMap r.datesIn := by
  have hasc : Ascending Date.dayNumber (r.reached.flatMap r.datesIn) := by
    refine List.pairwise_flatMap.2 ⟨fun k _ => r.ascending_dates.filter _, ?_⟩
    refine r.pairwise_reached.imp ?_
    intro k l hkl d hd e he
    obtain ⟨-, hdy, hdm⟩ := mem_datesIn.1 hd
    obtain ⟨-, hey, hem⟩ := mem_datesIn.1 he
    rw [Date.dayNumber_lt_iff, Date.lt_def, hdy, hdm, hey, hem]
    omega
  refine r.ascending_dates.eq_of_mem_iff hasc fun d => ?_
  rw [mem_dates, List.mem_flatMap]
  constructor
  · intro hd
    exact ⟨(d.year, d.month), mem_reached.2 (reaches_of_mem hd), mem_datesIn.2 ⟨hd, rfl, rfl⟩⟩
  · rintro ⟨k, -, hd⟩
    exact (mem_datesIn.1 hd).1

/-- The days of a month that lie in the range. -/
def monthDays (r : DateRange) (k : Year × Month) : MonthDays :=
  ⟨k.1, k.2, (r.datesIn k).map Date.day⟩

/-- **The groups of the enumeration are the months that the range reaches.** -/
theorem group_dates (r : DateRange) : MonthDays.group r.dates = r.reached.map r.monthDays := by
  rw [dates_eq_flatMap]
  exact MonthDays.group_flatMap r.nodup_reached (fun k hk => datesIn_ne_nil (mem_reached.1 hk))
    fun k _ d hd => (mem_datesIn.1 hd).2

/-! ## What a group holds -/

theorem mem_days_monthDays {day : Day} :
    day ∈ (r.monthDays (y, m)).days ↔ ∃ d ∈ r, d.year = y ∧ d.month = m ∧ d.day = day := by
  show day ∈ (r.datesIn (y, m)).map Date.day ↔ _
  rw [List.mem_map]
  constructor
  · rintro ⟨d, hd, hday⟩
    obtain ⟨hmem, hy, hm⟩ := mem_datesIn.1 hd
    exact ⟨d, hmem, hy, hm, hday⟩
  · rintro ⟨d, hmem, hy, hm, hday⟩
    exact ⟨d, mem_datesIn.2 ⟨hmem, hy, hm⟩, hday⟩

theorem ascending_days_monthDays (r : DateRange) (k : Year × Month) :
    Ascending Day.number (r.monthDays k).days := by
  show Ascending Day.number ((r.datesIn k).map Date.day)
  rw [Ascending, List.pairwise_map]
  have hasc : (r.datesIn k).Pairwise fun d e => d.dayNumber < e.dayNumber :=
    r.ascending_dates.filter _
  refine hasc.imp_of_mem ?_
  intro d e hd he hlt
  obtain ⟨-, hdy, hdm⟩ := mem_datesIn.1 hd
  obtain ⟨-, hey, hem⟩ := mem_datesIn.1 he
  rw [Date.dayNumber_lt_iff, Date.lt_def, hdy, hdm, hey, hem] at hlt
  omega

/-- A list of days is what a group holds if it ascends and has the days of the month that are in the
range. -/
theorem days_monthDays_eq (hasc : Ascending Day.number days)
    (hexist : ∀ day ∈ days, day.ExistsIn y m)
    (hmem : ∀ d : Date, d.year = y → d.month = m → (d.day ∈ days ↔ d ∈ r)) :
    (r.monthDays (y, m)).days = days := by
  refine (r.ascending_days_monthDays (y, m)).eq_of_mem_iff hasc fun day => ?_
  rw [mem_days_monthDays, Coverage.mem_days_iff hexist hmem]

/-- A group is complete exactly if the range covers its month. -/
theorem isComplete_monthDays_iff (hr : ¬ r.InOneMonth) (hreach : r.Reaches y m) :
    (r.monthDays (y, m)).IsComplete ↔ r.coverage y m = .whole := by
  rw [coverage_eq_whole_iff hr hreach]
  constructor
  · rintro hall d rfl rfl
    have hday : d.day ∈ Day.first.through (Day.lastOf d.year d.month) :=
      Day.mem_through.2 ⟨d.day.one_le, d.existsIn⟩
    obtain ⟨e, he, hy, hm, hd⟩ := mem_days_monthDays.1 (hall d.day hday)
    exact Date.ext hy hm hd ▸ he
  · intro hall day hday
    have hexist : day.ExistsIn y m := (Day.mem_through.1 hday).2
    exact mem_days_monthDays.2 ⟨⟨y, m, day, hexist⟩, hall _ rfl rfl, rfl, rfl, rfl⟩

/-- A group of a partial month holds the days that the range covers. -/
theorem monthDays_of_partly (hr : ¬ r.InOneMonth) (hreach : r.Reaches y m)
    (hcov : r.coverage y m = .partly days) : r.monthDays (y, m) = ⟨y, m, days⟩ := by
  obtain ⟨-, hasc, hexist, hmem, -⟩ := describes_of_coverage_eq hr hreach hcov
  have hdays := days_monthDays_eq hasc hexist hmem
  rw [← hdays]
  rfl

end DateRange

end DatePartition
