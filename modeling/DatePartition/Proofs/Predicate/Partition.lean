import DatePartition.Proofs.Predicate.Pieces

/-!
# A compiled range is a partition

The clauses of a compiled range select its dates, each date once, in the order of the calendar.
Both statements are about `Predicate.accepts` and `Clause.accepts`, which search the lists of a
clause by halving.

- `compile_accepts_iff`: **exact coverage**. No date of the range is lost, and no other is selected.
- `compile_clauses_in_order`: **no clause is empty, none overtakes another**, and no date is
  selected by two of them.
-/

namespace DatePartition

variable {first last : Date}

/-! ## From pieces to clauses -/

/-- A predicate accepts the dates that the lists of its clauses ask for. -/
theorem Predicate.accepts_iff_selects {p : Predicate} {d : Date} :
    p.accepts d = true ↔ ∃ s ∈ p.clauses.map Clause.selection, s.Selects d := by
  rw [Predicate.accepts_iff, Predicate.mem_def]
  constructor
  · rintro ⟨c, hc, hd⟩
    exact ⟨c.selection, List.mem_map_of_mem hc, Clause.mem_iff_selects.1 hd⟩
  · rintro ⟨s, hs, hd⟩
    obtain ⟨c, hc, rfl⟩ := List.mem_map.1 hs
    exact ⟨c, hc, Clause.mem_iff_selects.2 hd⟩

/-- The predicate of a range accepts the dates of the range. -/
theorem DateRange.accepts_iff_mem {r : DateRange} {p : Predicate}
    (hp : p.clauses.map Clause.selection = r.selections) {d : Date} :
    p.accepts d = true ↔ d ∈ r := by
  rw [Predicate.accepts_iff_selects, hp]
  exact DateRange.exists_mem_selections

/-- All dates of the one clause come before all dates of the other. -/
def Clause.Before (a b : Clause) : Prop :=
  ∀ d e : Date, a.accepts d = true → b.accepts e = true → d < e

theorem Clause.before_of_selection {a b : Clause} (h : a.selection.Before b.selection) :
    a.Before b := by
  intro d e hd he
  have hd' : a.selection.Selects d := Clause.mem_iff_selects.1 (Clause.accepts_iff.1 hd)
  have he' : b.selection.Selects e := Clause.mem_iff_selects.1 (Clause.accepts_iff.1 he)
  exact h d e hd' he'

/-- The clauses of a range come in order. -/
theorem DateRange.pairwise_before_clauses {r : DateRange} {p : Predicate}
    (hp : p.clauses.map Clause.selection = r.selections) :
    p.clauses.Pairwise Clause.Before := by
  have hpieces := r.pairwise_before_selections
  rw [← hp, List.pairwise_map] at hpieces
  exact hpieces.imp Clause.before_of_selection

/-! ## Coverage -/

/-- **Exact coverage.** Two dates in order compile, and the predicate accepts a date exactly if it
lies between them, which is to say in the range that they bound. -/
theorem compile_accepts_iff (h : first ≤ last) :
    ∃ p, compile first last = .ok p ∧
      ∀ d : Date, (p.accepts d = true ↔ first ≤ d ∧ d ≤ last) ∧
        (p.accepts d = true ↔ d ∈ (⟨first, last, h⟩ : DateRange)) := by
  obtain ⟨p, hp, hmap⟩ := exists_compile_of_le h
  refine ⟨p, hp, fun d => ?_⟩
  have hmem : p.accepts d = true ↔ d ∈ (⟨first, last, h⟩ : DateRange) :=
    DateRange.accepts_iff_mem hmap
  exact ⟨hmem.trans DateRange.mem_def, hmem⟩

/-- From a leap day to the last day of the calendar. -/
theorem compile_accepts_iff_leap_day :
    Date.mk (.mk 2024) (.mk 2) (.mk 29) ≤ Date.mk (.mk 9999) (.mk 12) (.mk 31) ∧
      ∃ p, compile (.mk (.mk 2024) (.mk 2) (.mk 29)) (.mk (.mk 9999) (.mk 12) (.mk 31)) = .ok p ∧
        p.accepts (.mk (.mk 2024) (.mk 2) (.mk 28)) = false ∧
        p.accepts (.mk (.mk 9999) (.mk 12) (.mk 31)) = true := by
  have hle : Date.mk (.mk 2024) (.mk 2) (.mk 29) ≤ Date.mk (.mk 9999) (.mk 12) (.mk 31) := by
    decide
  obtain ⟨p, hp, hiff⟩ := compile_accepts_iff hle
  refine ⟨hle, p, hp, ?_, (hiff _).1.2 (by decide)⟩
  rw [Bool.eq_false_iff]
  intro hacc
  exact absurd ((hiff _).1.1 hacc) (by decide)

/-! ## Order -/

/-- **No clause overtakes another.** Every clause accepts some date, all dates of an earlier clause
come before all dates of a later one, and so no date is accepted by two clauses. -/
theorem compile_clauses_in_order (h : first ≤ last) :
    ∃ p, compile first last = .ok p ∧
      (∀ c ∈ p.clauses, ∃ d : Date, c.accepts d = true) ∧
      (∀ (i j : Nat) (hi : i < p.clauses.length) (hj : j < p.clauses.length), i < j →
        ∀ d e : Date, p.clauses[i].accepts d = true → p.clauses[j].accepts e = true → d < e) ∧
      (∀ (i j : Nat) (hi : i < p.clauses.length) (hj : j < p.clauses.length) (d : Date),
        p.clauses[i].accepts d = true → p.clauses[j].accepts d = true → i = j) := by
  obtain ⟨p, hp, hmap⟩ := exists_compile_of_le h
  have hbefore := List.pairwise_iff_getElem.1 (DateRange.pairwise_before_clauses hmap)
  refine ⟨p, hp, fun c _ => ?_, hbefore, fun i j hi hj d hdi hdj => ?_⟩
  · obtain ⟨d, hd⟩ := c.exists_mem
    exact ⟨d, Clause.accepts_iff.2 hd⟩
  · rcases Nat.lt_trichotomy i j with hij | heq | hji
    · exact absurd (hbefore i j hi hj hij d d hdi hdj) (Date.not_lt.2 d.le_refl)
    · exact heq
    · exact absurd (hbefore j i hj hi hji d d hdj hdi) (Date.not_lt.2 d.le_refl)

/-- A partial month at either end of a year, and a whole one between them. -/
theorem compile_clauses_in_order_within_year :
    Date.mk (.mk 2023) (.mk 1) (.mk 31) ≤ Date.mk (.mk 2023) (.mk 3) (.mk 1) ∧
      ∃ p, compile (.mk (.mk 2023) (.mk 1) (.mk 31)) (.mk (.mk 2023) (.mk 3) (.mk 1)) = .ok p ∧
        ∀ (i j : Nat) (hi : i < p.clauses.length) (hj : j < p.clauses.length), i < j →
          ∀ d e : Date, p.clauses[i].accepts d = true → p.clauses[j].accepts e = true → d < e := by
  have hle : Date.mk (.mk 2023) (.mk 1) (.mk 31) ≤ Date.mk (.mk 2023) (.mk 3) (.mk 1) := by
    decide
  obtain ⟨p, hp, -, hbefore, -⟩ := compile_clauses_in_order hle
  exact ⟨hle, p, hp, hbefore⟩

end DatePartition
