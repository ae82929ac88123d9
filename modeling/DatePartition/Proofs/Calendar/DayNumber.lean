import DatePartition.Calendar.Date

/-!
# Day numbers count days

`Date.dayNumber` is a closed form: it multiplies years by 365, corrects for leap years by division
and adds the lengths of months. Here it is tied to the calendar that it numbers.

- `Date.dayNumber_lt_iff`, `Date.dayNumber_inj`: the order of day numbers is the order of dates, so
  that a date is known from its number.
- `Date.next?_eq_some`, `Date.next?_eq_none`: everything that stepping to the following day can do.
- `Date.dayNumber_next?`: **the following day has the following number**, at the end of a month, of
  a leap February and of a year as within a month.
-/

namespace DatePartition

namespace Date

/-! ## Months and years -/

theorem daysBeforeMonth_succ (y : Nat) {m : Nat} (hm : 1 ≤ m) :
    daysBeforeMonth y (m + 1) = daysBeforeMonth y m + monthLength y m := by
  obtain ⟨k, rfl⟩ : ∃ k, m = k + 1 := ⟨m - 1, by omega⟩
  have hrun : numbersThrough 1 (k + 1) = numbersThrough 1 k ++ [k + 1] := by
    show List.range' 1 (k + 1) = List.range' 1 k ++ [k + 1]
    rw [List.range'_1_concat, Nat.add_comm 1 k]
  show (numbersThrough 1 (k + 1)).foldl (fun n k => n + monthLength y k) 0
    = (numbersThrough 1 k).foldl (fun n k => n + monthLength y k) 0 + monthLength y (k + 1)
  rw [hrun, List.foldl_append]
  rfl

/-- A month is over before any later month of its year begins. -/
theorem daysBeforeMonth_add_le (y : Nat) {m n : Nat} (hm : 1 ≤ m) (hmn : m < n) :
    daysBeforeMonth y m + monthLength y m ≤ daysBeforeMonth y n := by
  induction hmn with
  | refl => exact Nat.le_of_eq (daysBeforeMonth_succ y hm).symm
  | @step n hmn ih =>
    have hn : 1 ≤ n := Nat.le_trans hm (Nat.le_of_lt hmn)
    rw [daysBeforeMonth_succ y hn]
    omega

/-- Twelve months make 365 days, or 366 in a leap year. -/
theorem daysBeforeMonth_thirteen (y : Nat) :
    daysBeforeMonth y 13 = if IsLeapYear y then 366 else 365 := by
  have hmonths : daysBeforeMonth y 13 = 337 + monthLength y 2 := by
    simp [daysBeforeMonth, numbersThrough, List.range', monthLength]
    omega
  rw [hmonths, monthLength]
  split <;> rfl

/-- The closed form for years grows by the days of a year. -/
theorem daysBeforeYear_succ {y : Nat} (hy : 1 ≤ y) :
    daysBeforeYear (y + 1) = daysBeforeYear y + daysBeforeMonth y 13 := by
  obtain ⟨k, rfl⟩ : ∃ k, y = k + 1 := ⟨y - 1, by omega⟩
  have hleap : IsLeapYear (k + 1) ↔ (4 ∣ k + 1 ∧ ¬ 100 ∣ k + 1) ∨ 400 ∣ k + 1 := by
    simp only [IsLeapYear, Nat.dvd_iff_mod_eq_zero, ne_eq]
  have h100 : 100 ∣ k + 1 → 4 ∣ k + 1 := Nat.dvd_trans (by decide)
  have h400 : 400 ∣ k + 1 → 100 ∣ k + 1 := Nat.dvd_trans (by decide)
  have hle : k / 100 ≤ k := Nat.div_le_self k 100
  show 365 * (k + 1) + (k + 1) / 4 - (k + 1) / 100 + (k + 1) / 400
    = 365 * k + k / 4 - k / 100 + k / 400 + daysBeforeMonth (k + 1) 13
  rw [daysBeforeMonth_thirteen, Nat.succ_div, Nat.succ_div, Nat.succ_div]
  -- the quotients only matter as numbers from here on
  generalize k / 4 = a
  generalize k / 100 = b at hle
  generalize k / 400 = c
  by_cases d4 : 4 ∣ k + 1
  · by_cases d100 : 100 ∣ k + 1
    · by_cases d400 : 400 ∣ k + 1
      · rw [if_pos d4, if_pos d100, if_pos d400, if_pos (hleap.2 (.inr d400))]
        omega
      · rw [if_pos d4, if_pos d100, if_neg d400, if_neg (by simp [hleap, d100, d400])]
        omega
    · have d400 : ¬ 400 ∣ k + 1 := fun h => d100 (h400 h)
      rw [if_pos d4, if_neg d100, if_neg d400, if_pos (hleap.2 (.inl ⟨d4, d100⟩))]
      omega
  · have d100 : ¬ 100 ∣ k + 1 := fun h => d4 (h100 h)
    have d400 : ¬ 400 ∣ k + 1 := fun h => d100 (h400 h)
    rw [if_neg d4, if_neg d100, if_neg d400, if_neg (by simp [hleap, d4, d400])]
    omega

/-- A year is over before any later year begins. -/
theorem daysBeforeYear_add_le {y z : Nat} (hy : 1 ≤ y) (hyz : y < z) :
    daysBeforeYear y + daysBeforeMonth y 13 ≤ daysBeforeYear z := by
  induction hyz with
  | refl => exact Nat.le_of_eq (daysBeforeYear_succ hy).symm
  | @step z hyz ih =>
    have hz : 1 ≤ z := Nat.le_trans hy (Nat.le_of_lt hyz)
    rw [daysBeforeYear_succ hz]
    omega

/-! ## Order -/

/-- A date lies in its year. -/
theorem dayNumber_le_year (d : Date) :
    d.dayNumber ≤ daysBeforeYear d.year.number + daysBeforeMonth d.year.number 13 := by
  have hday : d.day.number ≤ monthLength d.year.number d.month.number := d.existsIn
  have hlt : d.month.number < 13 := Nat.lt_succ_of_le d.month.number_le
  have hmonth := daysBeforeMonth_add_le d.year.number d.month.one_le hlt
  show _ + _ + _ ≤ _
  omega

theorem dayNumber_lt {a b : Date} (h : a < b) : a.dayNumber < b.dayNumber := by
  have hb := b.day.one_le
  show _ < _ + _ + b.day.number
  rcases lt_def.1 h with hy | ⟨hy, hm | ⟨hm, hd⟩⟩
  · have ha := dayNumber_le_year a
    have hyear := daysBeforeYear_add_le a.year.one_le hy
    omega
  · have ha : a.day.number ≤ monthLength a.year.number a.month.number := a.existsIn
    have hmonth := daysBeforeMonth_add_le a.year.number a.month.one_le hm
    show _ + _ + a.day.number < _
    rw [← hy]
    omega
  · show _ + _ + a.day.number < _
    rw [← hy, ← hm]
    omega

/-- **Later dates have greater numbers**, and only they have. -/
theorem dayNumber_lt_iff {a b : Date} : a.dayNumber < b.dayNumber ↔ a < b := by
  refine ⟨fun h => ?_, dayNumber_lt⟩
  rw [← not_le]
  intro hba
  by_cases hab : a ≤ b
  · have heq := le_antisymm hba hab
    rw [heq] at h
    exact Nat.lt_irrefl _ h
  · exact Nat.lt_asymm h (dayNumber_lt (not_le.1 hab))

theorem dayNumber_le_iff {a b : Date} : a.dayNumber ≤ b.dayNumber ↔ a ≤ b := by
  rw [← Nat.not_lt, dayNumber_lt_iff, not_lt]

/-- A date is known from its number. -/
theorem dayNumber_inj {a b : Date} (h : a.dayNumber = b.dayNumber) : a = b :=
  le_antisymm (dayNumber_le_iff.1 (Nat.le_of_eq h)) (dayNumber_le_iff.1 (Nat.le_of_eq h.symm))

/-! ## The following day -/

/-- The following day is the next of the month, the first of the next month or the first of the next
year. -/
theorem next?_eq_some {d e : Date} (h : d.next? = some e) :
    (e.year = d.year ∧ e.month = d.month ∧ e.day.number = d.day.number + 1) ∨
    (d.IsLastOfMonth ∧ e.year = d.year ∧ e.month.number = d.month.number + 1 ∧
      e.day.number = 1) ∨
    (d.IsLastOfMonth ∧ d.month.number = 12 ∧ e.year.number = d.year.number + 1 ∧
      e.month.number = 1 ∧ e.day.number = 1) := by
  have hlast : ¬ d.day.number < d.month.lengthIn d.year → d.IsLastOfMonth := fun hd =>
    Nat.le_antisymm d.existsIn (Nat.le_of_not_lt hd)
  unfold next? at h
  by_cases hd : d.day.number < d.month.lengthIn d.year
  · rw [dif_pos hd] at h
    cases h
    exact .inl ⟨rfl, rfl, rfl⟩
  · rw [dif_neg hd] at h
    by_cases hm : d.month.number < 12
    · rw [dif_pos hm] at h
      cases h
      exact .inr (.inl ⟨hlast hd, rfl, rfl, rfl⟩)
    · rw [dif_neg hm] at h
      have h12 : d.month.number = 12 := Nat.le_antisymm d.month.number_le (Nat.le_of_not_lt hm)
      by_cases hy : d.year.number < 9999
      · rw [dif_pos hy] at h
        cases h
        exact .inr (.inr ⟨hlast hd, h12, rfl, rfl, rfl⟩)
      · rw [dif_neg hy] at h
        cases h

/-- Only the last day of the last year has no following day. -/
theorem next?_eq_none {d : Date} (h : d.next? = none) :
    d.IsLastOfMonth ∧ d.month.number = 12 ∧ d.year.number = 9999 := by
  unfold next? at h
  by_cases hd : d.day.number < d.month.lengthIn d.year
  · rw [dif_pos hd] at h
    cases h
  · rw [dif_neg hd] at h
    by_cases hm : d.month.number < 12
    · rw [dif_pos hm] at h
      cases h
    · rw [dif_neg hm] at h
      by_cases hy : d.year.number < 9999
      · rw [dif_pos hy] at h
        cases h
      · have hmonth := d.month.number_le
        have hyear := d.year.number_le
        exact ⟨Nat.le_antisymm d.existsIn (Nat.le_of_not_lt hd), by omega, by omega⟩

/-- A date without a following day is the last of all. -/
theorem le_of_next?_eq_none {d : Date} (h : d.next? = none) (e : Date) : e ≤ d := by
  obtain ⟨hday, hmonth, hyear⟩ := next?_eq_none h
  have hy := e.year.number_le
  have hm := e.month.number_le
  rw [le_def]
  by_cases hsame : e.year.number = d.year.number ∧ e.month.number = d.month.number
  · have he : e.day.number ≤ monthLength e.year.number e.month.number := e.existsIn
    rw [hsame.1, hsame.2] at he
    have hd : d.day.number = monthLength d.year.number d.month.number := hday
    omega
  · omega

/-- **The following day has the following number.** -/
theorem dayNumber_next? {d e : Date} (h : d.next? = some e) : e.dayNumber = d.dayNumber + 1 := by
  show _ + _ + e.day.number = _ + _ + d.day.number + 1
  rcases next?_eq_some h with ⟨hy, hm, hd⟩ | ⟨hlast, hy, hm, hd⟩ | ⟨hlast, h12, hy, hm, hd⟩
  · rw [hy, hm, hd]
    omega
  · -- the days of the month that ends move into the months before
    have hlen : d.day.number = monthLength d.year.number d.month.number := hlast
    rw [hy, hm, hd, daysBeforeMonth_succ _ d.month.one_le]
    omega
  · -- and at the end of December all twelve months move into the years before
    have hlen : d.day.number = monthLength d.year.number 12 := h12 ▸ hlast
    have hyear : daysBeforeMonth d.year.number 13
        = daysBeforeMonth d.year.number 12 + monthLength d.year.number 12 :=
      daysBeforeMonth_succ _ (by decide)
    have hjanuary : daysBeforeMonth (d.year.number + 1) 1 = 0 := rfl
    rw [hy, hm, hd, h12, daysBeforeYear_succ d.year.one_le, hjanuary]
    omega

end Date

end DatePartition
