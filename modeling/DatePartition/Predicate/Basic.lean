import DatePartition.Predicate.Clause

/-!
# Predicates

A predicate is one or more clauses, of which a date has to satisfy one. It never has none: an empty
filter would be taken for one that lets everything pass.

- `Predicate.ofClauses`: refuses the empty list.
- `d ∈ p`: some clause selects the date. `Predicate.accepts p d` decides it clause by clause.
-/

namespace DatePartition

/-- One or more clauses, in the order in which they are written. -/
structure Predicate where
  clauses : List Clause
  nonempty : clauses ≠ [] := by decide
deriving DecidableEq, Repr

namespace Predicate

/-- The predicate with these clauses. -/
def ofClauses (clauses : List Clause) : Except CompileError Predicate :=
  if h : clauses ≠ [] then .ok ⟨clauses, h⟩ else .error .noClauses

instance : Membership Date Predicate where
  mem p d := ∃ c ∈ p.clauses, d ∈ c

theorem mem_def {d : Date} {p : Predicate} : d ∈ p ↔ ∃ c ∈ p.clauses, d ∈ c := Iff.rfl

/-- Whether some clause selects the date. -/
def accepts (p : Predicate) (d : Date) : Bool := p.clauses.any fun c => c.accepts d

theorem accepts_iff {p : Predicate} {d : Date} : p.accepts d = true ↔ d ∈ p := by
  rw [accepts, List.any_eq_true, mem_def]
  exact exists_congr fun c => and_congr_right fun _ => Clause.accepts_iff

instance (d : Date) (p : Predicate) : Decidable (d ∈ p) := decidable_of_iff _ accepts_iff

@[ext] theorem ext {p q : Predicate} (h : p.clauses = q.clauses) : p = q := by
  cases p; cases q; simp_all

/-- The clauses of a predicate make it up again. -/
@[simp] theorem ofClauses_clauses (p : Predicate) : ofClauses p.clauses = .ok p := by
  simp [ofClauses, p.nonempty]

end Predicate

end DatePartition
