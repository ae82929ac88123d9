import DatePartition.Proofs.Predicate.Pieces

/-!
# Which dates do not compile

The compiler asks for every clause and for the predicate in turn, and each of them could be refused.
Only the order of the bounds ever is a reason.

- `compile_of_lt`: reversed bounds are refused as they were given.
- `compile_eq_ok_or_reversed`: there is no third outcome.
- `compile_refuses_only_reversed`: **two dates are refused exactly if they are reversed**, with no
  other cause, and a range never is, whichever way it was made.
-/

namespace DatePartition

variable {first last : Date}

/-- Reversed bounds are refused as they were given. -/
theorem compile_of_lt (h : last < first) :
    compile first last = .error (.reversed ⟨first, last⟩) := by
  have hnot : ¬ first ≤ last := Date.not_le.2 h
  unfold compile DateRange.ofBounds
  rw [dif_neg hnot]
  rfl

/-- Two dates compile or are reversed; there is no third outcome. -/
theorem compile_eq_ok_or_reversed (first last : Date) :
    (first ≤ last ∧ ∃ p, compile first last = .ok p) ∨
      (last < first ∧ compile first last = .error (.reversed ⟨first, last⟩)) := by
  by_cases h : first ≤ last
  · obtain ⟨p, hp, -⟩ := exists_compile_of_le h
    exact .inl ⟨h, p, hp⟩
  · have hlt : last < first := Date.not_le.1 h
    exact .inr ⟨hlt, compile_of_lt hlt⟩

/-- A range compiles to what its bounds compile to. -/
theorem DateRange.compile_eq_bounds (r : DateRange) :
    r.compile = DatePartition.compile r.first r.last := by
  unfold DatePartition.compile DateRange.ofBounds
  rw [dif_pos r.first_le_last]
  rfl

/-- **Only reversed bounds are refused.** Two dates are refused exactly if the last is before the
first, and the cause then names them as they were given: no clause and no predicate that the
compiler asks for is ever refused. So every range compiles, and like its bounds: those made from two
dates, from one date, from a text or from JSON, since there are no ranges but these. -/
theorem compile_refuses_only_reversed :
    (∀ (first last : Date) (e : CompileError),
      compile first last = .error e ↔ last < first ∧ e = .reversed ⟨first, last⟩) ∧
    (∀ r : DateRange, ∃ p, r.compile = .ok p ∧ compile r.first r.last = .ok p) := by
  constructor
  · intro first last e
    rcases compile_eq_ok_or_reversed first last with ⟨hle, p, hp⟩ | ⟨hlt, herror⟩
    · -- the bounds are in order, so there is no error on either side
      rw [hp]
      refine iff_of_false (fun h => ?_) fun h => ?_
      · cases h
      · exact Date.not_lt.2 hle h.1
    · rw [herror, Except.error.injEq, eq_comm, and_iff_right hlt]
  · intro r
    rcases compile_eq_ok_or_reversed r.first r.last with ⟨-, p, hp⟩ | ⟨hlt, -⟩
    · exact ⟨p, r.compile_eq_bounds.trans hp, hp⟩
    · exact absurd r.first_le_last (Date.not_le.2 hlt)

end DatePartition
