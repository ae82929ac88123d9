import DatePartition.Proofs.Bare.Call

/-!
# Sessions

A session is a list of calls, made one after the other. What they hand out is held and can be named
by later calls, so that whatever can be obtained from the library is held at the end of a session.

- `Session.run calls`: the values that are held at the end.
- `Bare.Session.run calls`: the same for values without proofs, where calls can fault.
- `Bare.Session.step_eq`, `Bare.Session.run_eq`: **the two runs agree step by step, and the only
  fault is to ask by plain numbers for the length of a month that does not exist.**
- `Session.obtained_dates`, `Session.obtained_clauses`: what is known of all dates and ranges, and
  of all clauses and predicates, that can be obtained.
-/

namespace DatePartition

namespace Session

/-- What is held after a call. A call that hands out nothing changes nothing. -/
def step (held : List Value) (c : Call) : List Value := held ++ (c.answer held).getD []

/-- What is held after some calls. -/
def run (calls : List Call) : List Value := calls.foldl step []

end Session

namespace Bare

namespace Session

/-- What is held after a call, unless it faults. -/
def step (held : List Value) (c : Call) : Checked (List Value) := do
  let values ← (c.bareAnswer held).run
  return held ++ values.getD []

/-- What is held after some calls, unless one of them faults. -/
def run (calls : List Call) : Checked (List Value) := calls.foldlM step []

/-- A permitted call keeps the two sessions together. -/
theorem step_eq {c : Call} (h : c.IsPermitted) (held : List DatePartition.Value) :
    step (held.map (·.bare)) c = .ok ((DatePartition.Session.step held c).map (·.bare)) := by
  rw [step, (Call.bareAnswer_grants h held).run_eq, DatePartition.Session.step, List.map_append]
  cases c.answer held with
  | none => rfl
  | some values => rfl

theorem step_eq_error {c : Call} (h : ¬ c.IsPermitted) (held : List Value) :
    step held c = .error .assertion := by
  rw [step, Call.bareAnswer_of_not_isPermitted h]
  rfl

theorem foldlM_step (calls : List Call) (held : List DatePartition.Value) :
    calls.foldlM step (held.map (·.bare))
      = if ∀ c ∈ calls, c.IsPermitted then
          .ok ((calls.foldl DatePartition.Session.step held).map (·.bare))
        else .error .assertion := by
  induction calls generalizing held with
  | nil => rfl
  | cons c calls ih =>
    rw [List.foldlM_cons]
    by_cases hc : c.IsPermitted
    · rw [step_eq hc]
      show calls.foldlM step ((DatePartition.Session.step held c).map (·.bare)) = _
      rw [ih]
      simp [hc]
    · -- the later calls are not made any more
      rw [step_eq_error hc, if_neg fun h => hc (h c (List.mem_cons_self ..))]
      rfl

/-- **A session faults only where it asks by plain numbers for the length of a month that does not
exist**, and otherwise ends with the records of what the session with proofs ends with. -/
theorem run_eq (calls : List Call) :
    run calls
      = if ∀ c ∈ calls, c.IsPermitted then .ok ((DatePartition.Session.run calls).map (·.bare))
        else .error .assertion :=
  foldlM_step calls []

end Session

end Bare

/-! ## What can be obtained -/

namespace Bare

/-- What is relied on in a value. -/
def Value.WellFormed : Value → Prop
  | .date d => d.Valid
  | .range r => r.Valid
  | .clause c => c.WellFormed
  | .predicate p => p.WellFormed
  | .number _ => True
  | .truth _ => True

theorem Value.wellFormed_bare (v : DatePartition.Value) : Value.WellFormed v.bare := by
  cases v with
  | date d => exact Date.valid_bare d
  | range r => exact Range.valid_bare r
  | clause c => exact Clause.wellFormed_bare c
  | predicate p => exact Predicate.wellFormed_bare p
  | number n => trivial
  | truth b => trivial

/-- Whatever is held at the end of a session can be relied on. -/
theorem Session.wellFormed_of_mem {calls : List Call} {v : Value}
    (h : v ∈ (DatePartition.Session.run calls).map (·.bare)) : v.WellFormed := by
  obtain ⟨v, -, rfl⟩ := List.mem_map.1 h
  exact Value.wellFormed_bare v

end Bare

namespace Session

/-- **Every date and every range that can be obtained is valid, and nothing faults** but asking by
plain numbers for the length of a month that does not exist. -/
theorem obtained_dates (calls : List Call) :
    Bare.Session.run calls
        = (if ∀ c ∈ calls, c.IsPermitted then .ok ((run calls).map (·.bare))
          else .error .assertion)
      ∧ (∀ d : Bare.Date, .date d ∈ (run calls).map (·.bare) → d.Valid)
      ∧ ∀ r : Bare.Range, .range r ∈ (run calls).map (·.bare) → r.Valid := by
  refine ⟨Bare.Session.run_eq calls, ?_, ?_⟩
  · intro d hd
    exact Bare.Session.wellFormed_of_mem hd
  · intro r hr
    exact Bare.Session.wellFormed_of_mem hr

/-- **Every clause and every predicate that can be obtained is well-formed and satisfied by some day
of the calendar.** -/
theorem obtained_clauses {calls : List Call} {held : List Bare.Value}
    (h : Bare.Session.run calls = .ok held) :
    held = (run calls).map (·.bare)
      ∧ (∀ c : Bare.Clause, .clause c ∈ held →
        c.WellFormed ∧ ∃ d : Bare.Date, d.Valid ∧ c.accepts d = true)
      ∧ ∀ p : Bare.Predicate, .predicate p ∈ held →
        p.WellFormed ∧ ∃ d : Bare.Date, d.Valid ∧ p.accepts d = true := by
  -- what does not fault has only permitted calls
  obtain rfl : held = (run calls).map (·.bare) := by
    rw [Bare.Session.run_eq] at h
    split at h
    · cases h; rfl
    · cases h
  refine ⟨rfl, ?_, ?_⟩
  · intro c hc
    have hwell : c.WellFormed := Bare.Session.wellFormed_of_mem hc
    exact ⟨hwell, hwell.exists_accepts⟩
  · intro p hp
    have hwell : p.WellFormed := Bare.Session.wellFormed_of_mem hp
    exact ⟨hwell, hwell.exists_accepts⟩

/-- A predicate from two texts with its clauses, a clause from JSON, and a clause for months that
are asked for in disorder and twice. -/
theorem obtained_clauses_three_routes :
    Bare.Session.run
        [.compileTexts "12/30/2019" "2020-01-02", .clauses 0, .clauseOfJson "[2020]",
          .clause 2020 [3, 1, 3] []]
      = .ok [.predicate ⟨[⟨2019, .one 12, some [30, 31]⟩, ⟨2020, .one 1, some [1, 2]⟩]⟩,
          .clause ⟨2019, .one 12, some [30, 31]⟩, .clause ⟨2020, .one 1, some [1, 2]⟩,
          .clause ⟨2020, .all, none⟩, .clause ⟨2020, .many [1, 3], none⟩]
      ∧ (⟨2020, .many [1, 3], none⟩ : Bare.Clause).WellFormed := by
  have hrun : Bare.Session.run
        [.compileTexts "12/30/2019" "2020-01-02", .clauses 0, .clauseOfJson "[2020]",
          .clause 2020 [3, 1, 3] []]
      = .ok [.predicate ⟨[⟨2019, .one 12, some [30, 31]⟩, ⟨2020, .one 1, some [1, 2]⟩]⟩,
          .clause ⟨2019, .one 12, some [30, 31]⟩, .clause ⟨2020, .one 1, some [1, 2]⟩,
          .clause ⟨2020, .all, none⟩, .clause ⟨2020, .many [1, 3], none⟩] := rfl
  exact ⟨hrun, ((obtained_clauses hrun).2.1 _ (by simp)).1⟩

end Session

end DatePartition
