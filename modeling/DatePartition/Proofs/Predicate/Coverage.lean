import DatePartition.Predicate.Compile

/-!
# Months of a range

What `DateRange.coverage` says about a month, compared with the dates of the month that lie in the
range. It tests for the beginning of the range first and for the end only after that, so it is right
as long as the range is not cut at both ends of one month.

- `DateRange.Reaches`: the month lies between the months of the bounds.
- `DateRange.reaches_iff`: these are the months that the compiler walks through.
- `Coverage.Describes`: what a coverage claims. A month counts as whole only if all of it is in the
  range, and as partial only if some of it is not.
- `DateRange.BeginsInside`, `DateRange.EndsInside`: the month is cut by a bound of the range.
  `DateRange.first_le_of_not_beginsInside`, `DateRange.le_last_of_not_endsInside`: a bound that does
  not cut the month leaves no date of it outside.
- `DateRange.coverage_describes_iff`: **the claim holds of every month that the range reaches unless
  both bounds cut it**. `DateRange.describes_of_coverage_eq` is the form to use for a range that
  leaves its first month.
- `DateRange.coverage_by_dates`: **whole and partial months are told apart exactly**, and a partial
  month comes with the days of its dates in the range.
-/

namespace DatePartition

namespace DateRange

/-! ## The months that are reached -/

/-- Month `m` of year `y` lies between the months of the bounds. -/
def Reaches (r : DateRange) (y : Year) (m : Month) : Prop :=
  (r.first.year.number < y.number ∨
    r.first.year.number = y.number ∧ r.first.month.number ≤ m.number) ∧
  (y.number < r.last.year.number ∨
    y.number = r.last.year.number ∧ m.number ≤ r.last.month.number)

/-- The months that are reached are those of the walk through the years. -/
theorem reaches_iff {r : DateRange} {y : Year} {m : Month} :
    r.Reaches y m ↔ y ∈ r.first.year.through r.last.year ∧ m ∈ r.monthsOf y := by
  have hlow : 1 ≤ m.number := m.one_le
  have hhigh : m.number ≤ 12 := m.number_le
  have hfirst : (if y = r.first.year then r.first.month else Month.january).number ≤ m.number ↔
      (y.number = r.first.year.number → r.first.month.number ≤ m.number) := by
    by_cases hy : y = r.first.year
    · simp [hy]
    · have hne : y.number ≠ r.first.year.number := fun h => hy (Year.ext h)
      simp [hy, hne, Month.january, hlow]
  have hlast : m.number ≤ (if y = r.last.year then r.last.month else Month.december).number ↔
      (y.number = r.last.year.number → m.number ≤ r.last.month.number) := by
    by_cases hy : y = r.last.year
    · simp [hy]
    · have hne : y.number ≠ r.last.year.number := fun h => hy (Year.ext h)
      simp [hy, hne, Month.december, hhigh]
  rw [Reaches, monthsOf, Year.mem_through, Month.mem_through, hfirst, hlast]
  omega

/-- Every date of a range lies in a month that the range reaches. -/
theorem reaches_of_mem {r : DateRange} {d : Date} (h : d ∈ r) : r.Reaches d.year d.month := by
  have hfirst := Date.le_def.1 h.1
  have hlast := Date.le_def.1 h.2
  unfold Reaches
  omega

end DateRange

/-! ## What a coverage claims -/

/-- What a coverage says of the dates of month `m` in year `y`. -/
def Coverage.Describes (r : DateRange) (y : Year) (m : Month) : Coverage → Prop
  | .whole => ∀ d : Date, d.year = y → d.month = m → d ∈ r
  | .partly days =>
    days ≠ [] ∧ Ascending Day.number days ∧ (∀ day ∈ days, day.ExistsIn y m) ∧
      (∀ d : Date, d.year = y → d.month = m → (d.day ∈ days ↔ d ∈ r)) ∧
      ∃ d : Date, d.year = y ∧ d.month = m ∧ d ∉ r

/-- A list of days that exist, described by the dates of their month, is described day by day. -/
theorem Coverage.mem_days_iff {r : DateRange} {y : Year} {m : Month} {days : List Day}
    (hexist : ∀ day ∈ days, day.ExistsIn y m)
    (hmem : ∀ d : Date, d.year = y → d.month = m → (d.day ∈ days ↔ d ∈ r)) {day : Day} :
    day ∈ days ↔ ∃ d ∈ r, d.year = y ∧ d.month = m ∧ d.day = day := by
  constructor
  · intro hday
    have hd := (hmem ⟨y, m, day, hexist day hday⟩ rfl rfl).1 hday
    exact ⟨_, hd, rfl, rfl, rfl⟩
  · rintro ⟨d, hd, hy, hm, rfl⟩
    exact (hmem d hy hm).2 hd

namespace DateRange

variable {r : DateRange} {y : Year} {m : Month} {d : Date}

/-! ## Months that are cut -/

/-- The range begins in the month, after its first day. -/
def BeginsInside (r : DateRange) (y : Year) (m : Month) : Prop :=
  y = r.first.year ∧ m = r.first.month ∧ ¬ r.first.IsFirstOfMonth

/-- The range ends in the month, before its last day. -/
def EndsInside (r : DateRange) (y : Year) (m : Month) : Prop :=
  y = r.last.year ∧ m = r.last.month ∧ ¬ r.last.IsLastOfMonth

/-- The first test looks at the beginning of the range only. -/
theorem coverage_of_beginsInside (h : r.BeginsInside y m) :
    r.coverage y m = .partly (r.first.day.through (Day.lastOf y m)) :=
  if_pos h

/-- The second test is not made if the first one succeeds. -/
theorem coverage_of_endsInside (hbegins : ¬ r.BeginsInside y m) (h : r.EndsInside y m) :
    r.coverage y m = .partly (Day.first.through r.last.day) :=
  (if_neg hbegins).trans (if_pos h)

theorem coverage_of_neither (hbegins : ¬ r.BeginsInside y m) (hends : ¬ r.EndsInside y m) :
    r.coverage y m = .whole :=
  (if_neg hbegins).trans (if_neg hends)

/-- A range is cut at both ends of one month only if it does not leave that month. -/
theorem inOneMonth_of_both_inside (hbegins : r.BeginsInside y m) (hends : r.EndsInside y m) :
    r.InOneMonth :=
  ⟨hbegins.1.symm.trans hends.1, hbegins.2.1.symm.trans hends.2.1⟩

/-- The range begins at or before each date of a month that its beginning does not cut. -/
theorem first_le_of_not_beginsInside (hreach : r.Reaches d.year d.month)
    (h : ¬ r.BeginsInside d.year d.month) : r.first ≤ d := by
  have hone := d.day.one_le
  have hafter := hreach.1
  have hopen : r.first.year.number = d.year.number →
      r.first.month.number = d.month.number → r.first.day.number = 1 := by
    intro hy hm
    by_cases hfirst : r.first.IsFirstOfMonth
    · exact hfirst
    · exact absurd ⟨Year.ext hy.symm, Month.ext hm.symm, hfirst⟩ h
  rw [Date.le_def]
  omega

/-- The range ends at or behind each date of a month that its end does not cut. -/
theorem le_last_of_not_endsInside (hreach : r.Reaches d.year d.month)
    (h : ¬ r.EndsInside d.year d.month) : d ≤ r.last := by
  have hbefore := hreach.2
  have hclose : d.year.number = r.last.year.number →
      d.month.number = r.last.month.number → d.day.number ≤ r.last.day.number := by
    intro hy hm
    by_cases hlast : r.last.IsLastOfMonth
    · have hd : d.day.number ≤ d.month.lengthIn d.year := d.existsIn
      rw [Year.ext hy, Month.ext hm] at hd
      exact Nat.le_trans hd (Nat.le_of_eq (Eq.symm hlast))
    · exact absurd ⟨Year.ext hy, Month.ext hm, hlast⟩ h
  rw [Date.le_def]
  omega

/-- The first of a month that the beginning of the range cuts lies before the range. -/
theorem firstOf_not_mem (h : r.BeginsInside y m) : Date.firstOf y m ∉ r := by
  obtain ⟨rfl, rfl, hfirst⟩ := h
  intro hmem
  have hle := Date.le_def.1 hmem.1
  refine hfirst (Nat.le_antisymm ?_ r.first.day.one_le)
  show r.first.day.number ≤ Day.first.number
  simp only [Date.firstOf] at hle
  omega

/-- The last of a month that the end of the range cuts lies behind the range. -/
theorem lastOf_not_mem (h : r.EndsInside y m) : ⟨y, m, Day.lastOf y m, Nat.le_refl _⟩ ∉ r := by
  obtain ⟨rfl, rfl, hlast⟩ := h
  intro hmem
  have hle := Date.le_def.1 hmem.2
  refine hlast (Nat.le_antisymm r.last.existsIn ?_)
  show (Day.lastOf r.last.year r.last.month).number ≤ r.last.day.number
  simp only at hle
  omega

/-! ## Coverage is what it says -/

/-- The month in which a range begins after its first day. -/
theorem describes_of_beginsInside (hreach : r.Reaches y m) (hbegins : r.BeginsInside y m)
    (hends : ¬ r.EndsInside y m) :
    Coverage.Describes r y m (.partly (r.first.day.through (Day.lastOf y m))) := by
  have hout : ∃ d : Date, d.year = y ∧ d.month = m ∧ d ∉ r :=
    ⟨_, rfl, rfl, firstOf_not_mem hbegins⟩
  obtain ⟨rfl, rfl, -⟩ := hbegins
  have hlen : r.first.day.number ≤ (Day.lastOf r.first.year r.first.month).number :=
    r.first.existsIn
  refine ⟨?_, Day.ascending_through _ _, ?_, ?_, hout⟩
  · exact List.ne_nil_of_mem (Day.mem_through.2 ⟨Nat.le_refl _, hlen⟩)
  · intro day hday
    exact (Day.mem_through.1 hday).2
  · intro d hy hm
    have hexist : d.day.number ≤ (Day.lastOf r.first.year r.first.month).number := by
      rw [← hy, ← hm]
      exact d.existsIn
    have hlast : d ≤ r.last := by
      rw [← hy, ← hm] at hreach hends
      exact le_last_of_not_endsInside hreach hends
    rw [Day.mem_through, mem_def, and_iff_left hexist, and_iff_left hlast, Date.le_def, hy, hm]
    omega

/-- The month in which a range ends before its last day. -/
theorem describes_of_endsInside (hreach : r.Reaches y m) (hbegins : ¬ r.BeginsInside y m)
    (hends : r.EndsInside y m) :
    Coverage.Describes r y m (.partly (Day.first.through r.last.day)) := by
  have hout : ∃ d : Date, d.year = y ∧ d.month = m ∧ d ∉ r := ⟨_, rfl, rfl, lastOf_not_mem hends⟩
  obtain ⟨rfl, rfl, -⟩ := hends
  refine ⟨?_, Day.ascending_through _ _, ?_, ?_, hout⟩
  · exact List.ne_nil_of_mem (Day.mem_through.2 ⟨r.last.day.one_le, Nat.le_refl _⟩)
  · intro day hday
    exact Nat.le_trans (Day.mem_through.1 hday).2 r.last.existsIn
  · intro d hy hm
    have hone : Day.first.number ≤ d.day.number := d.day.one_le
    have hfirst : r.first ≤ d := by
      rw [← hy, ← hm] at hreach hbegins
      exact first_le_of_not_beginsInside hreach hbegins
    rw [Day.mem_through, mem_def, and_iff_right hone, and_iff_right hfirst, Date.le_def, hy, hm]
    omega

/-- **Coverage is what it says of a month that the range reaches, unless the range is cut at both
ends of it.** Then the days up to the end of the month are listed, though the range stops before. -/
theorem coverage_describes_iff (hreach : r.Reaches y m) :
    (r.coverage y m).Describes r y m ↔ ¬ (r.BeginsInside y m ∧ r.EndsInside y m) := by
  by_cases hbegins : r.BeginsInside y m
  · rw [coverage_of_beginsInside hbegins]
    by_cases hends : r.EndsInside y m
    · refine iff_of_false ?_ fun h => h ⟨hbegins, hends⟩
      rintro ⟨-, -, -, hmem, -⟩
      refine lastOf_not_mem hends ((hmem _ rfl rfl).1 (Day.mem_through.2 ⟨?_, Nat.le_refl _⟩))
      obtain ⟨rfl, rfl, -⟩ := hbegins
      exact r.first.existsIn
    · exact iff_of_true (describes_of_beginsInside hreach hbegins hends) fun h => hends h.2
  · refine iff_of_true ?_ fun h => hbegins h.1
    by_cases hends : r.EndsInside y m
    · rw [coverage_of_endsInside hbegins hends]
      exact describes_of_endsInside hreach hbegins hends
    · rw [coverage_of_neither hbegins hends]
      rintro d rfl rfl
      exact ⟨first_le_of_not_beginsInside hreach hbegins, le_last_of_not_endsInside hreach hends⟩

/-- A range that leaves its first month is never cut at both ends of a month. -/
theorem coverage_describes (h : ¬ r.InOneMonth) (hreach : r.Reaches y m) :
    (r.coverage y m).Describes r y m :=
  (coverage_describes_iff hreach).2 fun hboth => h (inOneMonth_of_both_inside hboth.1 hboth.2)

/-- What is known of a month once its coverage is. -/
theorem describes_of_coverage_eq (h : ¬ r.InOneMonth) (hreach : r.Reaches y m) {cov : Coverage}
    (hcov : r.coverage y m = cov) : cov.Describes r y m := by
  rw [← hcov]
  exact coverage_describes h hreach

/-- A month that the range reaches is whole exactly if all its dates lie in the range. -/
theorem coverage_eq_whole_iff (h : ¬ r.InOneMonth) (hreach : r.Reaches y m) :
    r.coverage y m = .whole ↔ ∀ d : Date, d.year = y → d.month = m → d ∈ r := by
  cases hcov : r.coverage y m with
  | whole => exact iff_of_true rfl (describes_of_coverage_eq h hreach hcov)
  | partly days =>
    obtain ⟨-, -, -, -, d, hy, hm, hout⟩ := describes_of_coverage_eq h hreach hcov
    refine iff_of_false ?_ fun hall => hout (hall d hy hm)
    intro heq
    cases heq

/-- Only the first and the last month can be partial. -/
theorem month_eq_of_coverage_partly {days : List Day} (h : r.coverage y m = .partly days) :
    (y = r.first.year ∧ m = r.first.month) ∨ (y = r.last.year ∧ m = r.last.month) := by
  by_cases hbegins : r.BeginsInside y m
  · exact .inl ⟨hbegins.1, hbegins.2.1⟩
  · by_cases hends : r.EndsInside y m
    · exact .inr ⟨hends.1, hends.2.1⟩
    · rw [coverage_of_neither hbegins hends] at h
      cases h

/-! ## Months by their dates -/

/-- **A month is classified by its dates.** In a range that leaves its first month, each month from
the first to the last is whole exactly if all its dates lie in the range. Any other is partial, and
its list is the one that ascends and holds the days of those dates of the month that lie in the
range. It has at least one day, and every day exists. -/
theorem coverage_by_dates (h : ¬ r.InOneMonth) (hreach : r.Reaches y m) :
    (r.coverage y m = .whole ↔ ∀ d : Date, d.year = y → d.month = m → d ∈ r) ∧
    ((¬ ∀ d : Date, d.year = y → d.month = m → d ∈ r) →
      ∃ days, r.coverage y m = .partly days ∧ Ascending Day.number days ∧ days.Nodup ∧
        (∀ day, day ∈ days ↔ ∃ d ∈ r, d.year = y ∧ d.month = m ∧ d.day = day) ∧
        days ≠ [] ∧ ∀ day ∈ days, day.ExistsIn y m) := by
  have hwhole := coverage_eq_whole_iff h hreach
  refine ⟨hwhole, fun hout => ?_⟩
  cases hcov : r.coverage y m with
  | whole => exact absurd (hwhole.1 hcov) hout
  | partly days =>
    obtain ⟨hne, hasc, hexist, hmem, -⟩ := describes_of_coverage_eq h hreach hcov
    exact ⟨days, rfl, hasc, hasc.nodup, fun _ => Coverage.mem_days_iff hexist hmem, hne, hexist⟩

/-- A leap February that the range enters late, and a March that it leaves on its last day. -/
theorem coverage_by_dates_leap_february :
    let r : DateRange :=
      ⟨.mk (.mk 2024) (.mk 2) (.mk 10), .mk (.mk 2024) (.mk 3) (.mk 31), by decide⟩
    ¬ r.InOneMonth ∧ r.Reaches (.mk 2024) (.mk 2) ∧ r.Reaches (.mk 2024) (.mk 3) ∧
      (∃ days, r.coverage (.mk 2024) (.mk 2) = .partly days ∧ .mk 29 ∈ days ∧ .mk 9 ∉ days) ∧
      r.coverage (.mk 2024) (.mk 3) = .whole := by
  intro r
  have hr : ¬ r.InOneMonth := by decide
  have hfebruary : r.Reaches (.mk 2024) (.mk 2) := ⟨.inr (by decide), .inr (by decide)⟩
  have hmarch : r.Reaches (.mk 2024) (.mk 3) := ⟨.inr (by decide), .inr (by decide)⟩
  refine ⟨hr, hfebruary, hmarch, ?_, (coverage_by_dates hr hmarch).1.2 fun d hy hm => ?_⟩
  · obtain ⟨days, hcov, -, -, hmem, -⟩ := (coverage_by_dates hr hfebruary).2 fun hall =>
      absurd (hall (.mk (.mk 2024) (.mk 2) (.mk 9)) rfl rfl) (by decide)
    refine ⟨days, hcov, (hmem _).2 ⟨.mk (.mk 2024) (.mk 2) (.mk 29), by decide, rfl, rfl, rfl⟩, ?_⟩
    intro hday
    obtain ⟨d, hd, hy, hm, hday⟩ := (hmem _).1 hday
    rw [show d = .mk (.mk 2024) (.mk 2) (.mk 9) from Date.ext hy hm hday] at hd
    exact absurd hd (by decide)
  · have hlast := d.day.number_le
    rw [mem_def, Date.le_def, Date.le_def, hy, hm]
    exact ⟨.inr ⟨rfl, .inl (by decide)⟩, .inr ⟨rfl, .inr ⟨rfl, hlast⟩⟩⟩

end DateRange

end DatePartition
