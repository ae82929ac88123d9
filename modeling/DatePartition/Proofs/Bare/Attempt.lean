/-!
# Computations that can fault

Where numbers are held in words and tables are read by index, a step can be impossible. A refusal is
something else: it is an answer that the caller is told.

- `Fault`, `Checked`: the steps that are impossible, and computations that take such steps.
- `ensure`, `entry`, `add`, `sub`: the steps, each with the condition under which it is taken.
- `Attempt`: a computation that gives a value or a refusal, unless it faults.
- `Grants f a o`: the attempt `a` comes to `o`, seen through `f`, without a fault. `Grants.bind` and
  `Grants.mapM` carry this through a program.
-/

namespace DatePartition

namespace Bare

/-! ## Steps -/

/-- Why a computation cannot go on. -/
inductive Fault where
  /-- A condition that was asserted does not hold. -/
  | assertion
  /-- A table has no entry at an index. -/
  | outOfBounds
  /-- A sum does not fit its word, or a difference is below zero. -/
  | overflow
deriving DecidableEq, Repr

/-- A computation that can fault. -/
abbrev Checked := Except Fault

/-- Asserts a condition. -/
def ensure (p : Prop) [Decidable p] : Checked Unit := if p then .ok () else .error .assertion

/-- The entry of a table at an index. -/
def entry {α : Type} (table : List α) (i : Nat) : Checked α :=
  match table[i]? with
  | some a => .ok a
  | none => .error .outOfBounds

/-- The greatest number of a byte. -/
def greatestByte : Nat := 255

/-- The greatest number of a word of two bytes. -/
def greatestWord : Nat := 65535

/-- The sum of two numbers, which can be at most `bound`. -/
def add (bound a b : Nat) : Checked Nat :=
  if a + b ≤ bound then .ok (a + b) else .error .overflow

/-- The difference of two numbers. -/
def sub (a b : Nat) : Checked Nat := if b ≤ a then .ok (a - b) else .error .overflow

theorem add_eq {bound a b : Nat} (h : a + b ≤ bound) : add bound a b = .ok (a + b) := if_pos h

theorem sub_eq {a b : Nat} (h : b ≤ a) : sub a b = .ok (a - b) := if_pos h

/-- If each item is taken without a fault, so is the list. -/
theorem mapM_ok {α β γ : Type} {view : γ → α} {k : α → Checked β} {g : γ → β} {xs : List γ}
    (h : ∀ x ∈ xs, k (view x) = .ok (g x)) : (xs.map view).mapM k = .ok (xs.map g) := by
  induction xs with
  | nil => rfl
  | cons x xs ih =>
    rw [List.map_cons, List.mapM_cons, h x (List.mem_cons_self ..),
      ih fun z hz => h z (List.mem_cons_of_mem _ hz)]
    rfl

/-! ## Refusals -/

/-- A computation that gives a value or a refusal, unless it faults. -/
abbrev Attempt := OptionT Checked

variable {α β γ δ ε κ : Type}

/-- The attempt that gives this value, or this refusal, without a fault. -/
def grant (o : Option α) : Attempt α := OptionT.mk (.ok o)

@[simp] theorem run_grant (o : Option α) : (grant o).run = .ok o := rfl

/-- A step that can be taken does not show. -/
theorem lift_ok_bind (a : α) (f : α → Attempt β) : (liftM (.ok a : Checked α) >>= f) = f a := rfl

/-! ## What an attempt comes to -/

/-- The attempt does not fault, and it gives what `o` gives, seen through `f`. -/
def Grants (f : α → β) (a : Attempt β) (o : Option α) : Prop := a = grant (o.map f)

namespace Grants

variable {f : α → β} {g : γ → δ} {a : Attempt β} {k : β → Attempt δ}

protected theorem pure (f : α → β) (x : α) : Grants f (pure (f x)) (some x) := rfl

protected theorem failure (f : α → β) : Grants f failure none := rfl

/-- What is given as it is comes to itself. -/
theorem self (o : Option α) : Grants id (grant o) o := by
  rw [Grants, Option.map_id]
  rfl

theorem run_eq {o : Option α} (h : Grants f a o) : a.run = .ok (o.map f) := by
  rw [h, run_grant]

/-- Attempts are put together as what they come to. -/
theorem bind {o : Option α} {p : α → Option γ} (h : Grants f a o)
    (hk : ∀ x, Grants g (k (f x)) (p x)) : Grants g (a >>= k) (o >>= p) := by
  cases o with
  | none => rw [h]; rfl
  | some x => rw [h]; exact hk x

/-- A step that can be taken only hands on its result. -/
theorem liftM_bind {c : Checked α} {k : α → Attempt δ} {x : α} {o : Option γ} (h : c = .ok x)
    (hk : Grants g (k x) o) : Grants g (liftM c >>= k) o := by
  rw [h]
  exact hk

/-- The same if the plain computation knows why it refuses. -/
theorem bind_toOption {r : Except ε α} {s : α → Except ε γ} (h : Grants f a r.toOption)
    (hk : ∀ x, Grants g (k (f x)) (s x).toOption) : Grants g (a >>= k) (r >>= s).toOption := by
  cases r with
  | error e => rw [h]; rfl
  | ok x => rw [h]; exact hk x

theorem ite {p : Prop} [Decidable p] {b : Attempt β} {r s : Except ε α} (h : Grants f a r.toOption)
    (h' : Grants f b s.toOption) :
    Grants f (if p then a else b) (if p then r else s).toOption := by
  split
  · exact h
  · exact h'

/-- The cause of a refusal does not matter. -/
theorem mapError {r : Except ε α} (h : Grants f a r.toOption) (e : ε → κ) :
    Grants f a (r.mapError e).toOption := by
  cases r with
  | error _ => exact h
  | ok _ => exact h

/-- Lists are gone through item by item. -/
theorem mapM {k : γ → Attempt β} {s : γ → Except ε α} (h : ∀ x, Grants f (k x) (s x).toOption)
    (xs : List γ) : Grants (List.map f) (xs.mapM k) (xs.mapM s).toOption := by
  induction xs with
  | nil => rfl
  | cons x xs ih =>
    rw [List.mapM_cons, List.mapM_cons]
    exact (h x).bind_toOption fun y => ih.bind_toOption fun ys => Grants.pure _ (y :: ys)

theorem mapM_map {view : γ → δ} {k : δ → Attempt β} {s : γ → Except ε α}
    (h : ∀ x, Grants f (k (view x)) (s x).toOption) (xs : List γ) :
    Grants (List.map f) ((xs.map view).mapM k) (xs.mapM s).toOption := by
  rw [List.mapM_map]
  exact mapM h xs

end Grants

end Bare

end DatePartition
