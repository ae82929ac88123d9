import DatePartition.Calendar.Ascending
import DatePartition.Range.Basic
import DatePartition.Proofs.Calendar.DayNumber

/-!
# Enumerating a range

`DateRange.take` steps from the first date of a range to the following day until it has as many
dates as were asked for, or the next one lies behind the range.

- `DateRange.map_dayNumber_take`: the dates that it collects have consecutive day numbers, no more
  of them than the closed form counts.
- `DateRange.mem_dates`, `DateRange.ascending_dates`: **the walk meets every date of the range and
  no other**, each once and in order.
- `DateRange.Walk`: a walk that goes on for as long as it can, with no count to stop it.
  `DateRange.walk_iff`: it ends, and has met what the counted walk collects.
- `DateRange.dates_enumerate`: the enumeration of a range as a whole.
-/

namespace DatePartition

namespace DateRange

/-- The walk adds dates with consecutive numbers, latest first, until the fuel or the range is used
up. -/
theorem map_dayNumber_pushFollowing {last d : Date} (hd : d ≤ last) (n : Nat)
    (seen : List Date) :
    (Date.pushFollowing (fun e => decide (e ≤ last)) n d seen).map Date.dayNumber
      = (List.range' (d.dayNumber + 1) (min n (last.dayNumber - d.dayNumber))).reverse
        ++ seen.map Date.dayNumber := by
  induction n generalizing d seen with
  | zero => simp [Date.pushFollowing]
  | succ n ih =>
    unfold Date.pushFollowing
    cases hnext : d.next? with
    | none =>
      -- the calendar ends, and no range goes on behind it
      have hlast := Date.dayNumber_le_iff.2 (Date.le_of_next?_eq_none hnext last)
      have hzero : min (n + 1) (last.dayNumber - d.dayNumber) = 0 := by omega
      rw [hzero]
      rfl
    | some e =>
      have hnumber := Date.dayNumber_next? hnext
      show (if decide (e ≤ last) = true then _ else seen).map Date.dayNumber = _
      by_cases he : e ≤ last
      · have hle := Date.dayNumber_le_iff.2 he
        have hcount : min (n + 1) (last.dayNumber - d.dayNumber)
            = min n (last.dayNumber - e.dayNumber) + 1 := by omega
        rw [if_pos (decide_eq_true he), ih he, hcount, List.range'_succ, List.reverse_cons,
          List.append_assoc, ← hnumber]
        rfl
      · have hlt := Date.dayNumber_lt_iff.2 (Date.not_le.1 he)
        have hzero : min (n + 1) (last.dayNumber - d.dayNumber) = 0 := by omega
        rw [if_neg (by simpa using he), hzero]
        rfl

/-- The first `n` dates of a range have the numbers from that of its first date on. -/
theorem map_dayNumber_take (r : DateRange) (n : Nat) :
    (r.take n).map Date.dayNumber = List.range' r.first.dayNumber (min n r.dayCount) := by
  cases n with
  | zero => simp [take]
  | succ n =>
    have hle := Date.dayNumber_le_iff.2 r.first_le_last
    have hcount : min (n + 1) r.dayCount
        = min n (r.last.dayNumber - r.first.dayNumber) + 1 := by
      unfold dayCount
      omega
    show (Date.pushFollowing _ n r.first [r.first]).reverse.map Date.dayNumber = _
    rw [List.map_reverse, map_dayNumber_pushFollowing r.first_le_last, List.reverse_append,
      List.reverse_reverse, hcount, List.range'_succ]
    rfl

theorem map_dayNumber_dates (r : DateRange) :
    r.dates.map Date.dayNumber = List.range' r.first.dayNumber r.dayCount := by
  rw [dates, map_dayNumber_take, Nat.min_self]

/-- The dates come in order, each once. -/
theorem ascending_dates (r : DateRange) : Ascending Date.dayNumber r.dates := by
  rw [Ascending, ← List.pairwise_map (R := (· < ·)), map_dayNumber_dates]
  exact List.pairwise_lt_range'

/-- **The walk meets exactly the dates of the range.** -/
theorem mem_dates {r : DateRange} {d : Date} : d ∈ r.dates ↔ d ∈ r := by
  have hle := Date.dayNumber_le_iff.2 r.first_le_last
  have hnumber : d.dayNumber ∈ r.dates.map Date.dayNumber ↔ d ∈ r := by
    rw [map_dayNumber_dates, List.mem_range'_1, mem_def, ← Date.dayNumber_le_iff,
      ← Date.dayNumber_le_iff]
    unfold dayCount
    omega
  rw [← hnumber, List.mem_map]
  constructor
  · intro hd
    exact ⟨d, hd, rfl⟩
  · rintro ⟨e, he, heq⟩
    exact Date.dayNumber_inj heq ▸ he

/-! ## Without a count -/

/-- A walk from `d` that goes on until the following day lies behind `last`, or there is none, with
the dates that it meets. -/
inductive Walk (last : Date) : Date → List Date → Prop where
  | ends {d : Date} (h : ∀ e, d.next? = some e → last < e) : Walk last d [d]
  | goes {d e : Date} {ds : List Date} (h : d.next? = some e) (hle : e ≤ last)
      (rest : Walk last e ds) : Walk last d (d :: ds)

/-- A walk meets dates with consecutive numbers, up to that of the last. -/
theorem Walk.map_dayNumber {last d : Date} {ds : List Date} (h : Walk last d ds) (hd : d ≤ last) :
    ds.map Date.dayNumber = List.range' d.dayNumber (last.dayNumber + 1 - d.dayNumber) := by
  have hnumber := Date.dayNumber_le_iff.2 hd
  induction h with
  | @ends d hend =>
    -- a walk that has not arrived could go on
    have hlast : last.dayNumber = d.dayNumber := by
      cases hnext : d.next? with
      | none =>
        have hle := Date.dayNumber_le_iff.2 (Date.le_of_next?_eq_none hnext last)
        omega
      | some e =>
        have hlt := Date.dayNumber_lt_iff.2 (hend e hnext)
        have he := Date.dayNumber_next? hnext
        omega
    rw [hlast, Nat.add_sub_cancel_left]
    rfl
  | @goes d e ds hnext hle rest ih =>
    have he := Date.dayNumber_next? hnext
    have hcount : last.dayNumber + 1 - d.dayNumber = last.dayNumber + 1 - e.dayNumber + 1 := by
      have hlast := Date.dayNumber_le_iff.2 hle
      omega
    rw [List.map_cons, ih hle (Date.dayNumber_le_iff.2 hle), hcount, List.range'_succ, he]

/-- A walk ends, however far the last date is: each step brings it nearer. -/
theorem exists_walk {last d : Date} (hd : d ≤ last) : ∃ ds, Walk last d ds := by
  have hnumber := Date.dayNumber_le_iff.2 hd
  obtain ⟨n, hn⟩ : ∃ n, last.dayNumber = d.dayNumber + n := ⟨_, (Nat.add_sub_of_le hnumber).symm⟩
  induction n generalizing d with
  | zero =>
    refine ⟨[d], .ends fun e he => Date.dayNumber_lt_iff.1 ?_⟩
    rw [Date.dayNumber_next? he]
    omega
  | succ n ih =>
    cases hnext : d.next? with
    | none =>
      have hle := Date.dayNumber_le_iff.2 (Date.le_of_next?_eq_none hnext last)
      omega
    | some e =>
      have he := Date.dayNumber_next? hnext
      have hle : e ≤ last := Date.dayNumber_le_iff.1 (by omega)
      obtain ⟨ds, hds⟩ := ih hle (Date.dayNumber_le_iff.2 hle) (by omega)
      exact ⟨d :: ds, .goes hnext hle hds⟩

/-- There is one walk through a range, and it meets the dates that are collected by their count. -/
theorem walk_iff {r : DateRange} {ds : List Date} :
    Walk r.last r.first ds ↔ ds = r.dates := by
  have hunique : ∀ {ds : List Date}, Walk r.last r.first ds → ds = r.dates := by
    intro ds h
    refine (List.map_inj_right fun _ _ => Date.dayNumber_inj).1 ?_
    rw [h.map_dayNumber r.first_le_last, map_dayNumber_dates, dayCount]
  constructor
  · exact hunique
  · rintro rfl
    obtain ⟨ds, hds⟩ := exists_walk r.first_le_last
    exact hunique hds ▸ hds

/-! ## All of it -/

theorem dayCount_eq (r : DateRange) :
    r.dayCount = r.last.dayNumber - r.first.dayNumber + 1 :=
  Nat.sub_add_comm (Date.dayNumber_le_iff.2 r.first_le_last)

theorem dayCount_ne_zero (r : DateRange) : r.dayCount ≠ 0 := by
  rw [dayCount_eq]
  exact Nat.succ_ne_zero _

theorem length_dates (r : DateRange) : r.dates.length = r.dayCount := by
  rw [← List.length_map (f := Date.dayNumber), map_dayNumber_dates, List.length_range']

theorem head?_dates (r : DateRange) : r.dates.head? = some r.first := by
  refine Option.map_injective (fun _ _ => Date.dayNumber_inj) ?_
  rw [← List.head?_map, map_dayNumber_dates, List.head?_range', if_neg r.dayCount_ne_zero]
  rfl

theorem getLast?_dates (r : DateRange) : r.dates.getLast? = some r.last := by
  have hle := Date.dayNumber_le_iff.2 r.first_le_last
  have hlast : r.first.dayNumber + r.dayCount - 1 = r.last.dayNumber := by
    rw [dayCount_eq]
    omega
  refine Option.map_injective (fun _ _ => Date.dayNumber_inj) ?_
  rw [← List.getLast?_map, map_dayNumber_dates, List.getLast?_range', if_neg r.dayCount_ne_zero,
    hlast]
  rfl

/-- **A range is enumerated from its first date to its last.** Stepping from the first date to the
following day, for as long as that lies in the range, comes to an end, also where the calendar ends
with the range. What is met then is in strict order, begins and ends with the bounds and is every
date of the range, each once, as many as the day numbers of the bounds tell. -/
theorem dates_enumerate (r : DateRange) :
    (∀ ds, Walk r.last r.first ds ↔ ds = r.dates) ∧
    r.dates.Pairwise (· < ·) ∧
    r.dates.head? = some r.first ∧ r.dates.getLast? = some r.last ∧
    (∀ d, d ∈ r.dates ↔ d ∈ r) ∧ r.dates.Nodup ∧
    (r.dates.length : Int) = r.last.dayNumber - r.first.dayNumber + 1 := by
  refine ⟨fun ds => walk_iff, r.ascending_dates.imp Date.dayNumber_lt_iff.1, r.head?_dates,
    r.getLast?_dates, fun d => mem_dates, r.ascending_dates.nodup, ?_⟩
  have hle := Date.dayNumber_le_iff.2 r.first_le_last
  rw [length_dates, dayCount_eq]
  omega

end DateRange

end DatePartition
