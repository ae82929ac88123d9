import DatePartition.Predicate.Render
import Mathlib.Logic.Function.Defs

/-!
# The text of a predicate determines it

Column names are copied as they are, so a name can hold quotes, parentheses or the very words that
join clauses. The text can be taken apart from its beginning all the same: the names are known,
every value has a fixed length, and wherever two predicates part, the next character shows it.

- `PrefixFree f`: whatever follows it, what `f` writes is seen to end where it ends.
- `PrefixFree.flatMap_append_inj`: the elements of a list are told apart if what joins them and what
  ends the list begin differently.
- `Scope.ending_append_inj`, `Clause.prefixFree_chars`: one scope and one clause.
- `Predicate.render_injective`: **no two predicates have the same text**, with any names.
-/

namespace DatePartition

open Render

/-! ## Texts that show their end -/

section

variable {α : Type} {f : α → List Char}

/-- What is written can be taken off the front of a text in one way only. -/
def PrefixFree (f : α → List Char) : Prop :=
  ∀ (a b : α) (s t : List Char), f a ++ s = f b ++ t → a = b ∧ s = t

/-- Values of one length are told apart between their quotes. -/
theorem prefixFree_quoted {width : Nat} (hlength : ∀ a, (f a).length = width)
    (hinj : ∀ a b, f a = f b → a = b) : PrefixFree fun a => quoted (f a) := by
  intro a b s t h
  simp only [quoted, List.cons_append, List.append_assoc, List.cons.injEq, true_and] at h
  obtain ⟨hab, hst⟩ := List.append_inj h (by rw [hlength, hlength])
  exact ⟨hinj a b hab, List.tail_eq_of_cons_eq hst⟩

/-- The elements of a list are told apart if what joins them and what ends the list begin
differently. -/
theorem PrefixFree.flatMap_append_inj (hf : PrefixFree f) {c stop : Char} (hne : c ≠ stop)
    {joiner : List Char} {xs ys : List α} {s t : List Char}
    (h : xs.flatMap (fun x => c :: joiner ++ f x) ++ stop :: s =
      ys.flatMap (fun y => c :: joiner ++ f y) ++ stop :: t) : xs = ys ∧ s = t := by
  induction xs generalizing ys with
  | nil =>
    -- one list ends here: the end of it is no joiner, so the other one ends as well
    cases ys with
    | nil => exact ⟨rfl, List.tail_eq_of_cons_eq h⟩
    | cons y ys => exact absurd (List.head_eq_of_cons_eq h).symm hne
  | cons x xs ih =>
    cases ys with
    | nil => exact absurd (List.head_eq_of_cons_eq h) hne
    | cons y ys =>
      simp only [List.flatMap_cons, List.append_assoc] at h
      obtain ⟨rfl, hrest⟩ := hf x y _ _ (List.append_cancel_left h)
      obtain ⟨rfl, hst⟩ := ih hrest
      exact ⟨rfl, hst⟩

/-- The same for a list that is not empty, whose first element has no joiner before it. -/
theorem PrefixFree.intercalate_append_inj (hf : PrefixFree f) {c stop : Char} (hne : c ≠ stop)
    {joiner : List Char} {xs ys : List α} (hx : xs ≠ []) (hy : ys ≠ []) {s t : List Char}
    (h : List.intercalate (c :: joiner) (xs.map f) ++ stop :: s =
      List.intercalate (c :: joiner) (ys.map f) ++ stop :: t) : xs = ys ∧ s = t := by
  obtain ⟨x, xs, rfl⟩ := List.exists_cons_of_ne_nil hx
  obtain ⟨y, ys, rfl⟩ := List.exists_cons_of_ne_nil hy
  simp only [List.map_cons, intercalate_cons, List.flatMap_map, List.append_assoc] at h
  obtain ⟨rfl, hrest⟩ := hf x y _ _ h
  obtain ⟨rfl, hst⟩ := hf.flatMap_append_inj hne hrest
  exact ⟨rfl, hst⟩

/-! ## Conditions -/

theorem equals_append_inj (hf : PrefixFree fun a => quoted (f a)) {column : String} {a b : α}
    {s t : List Char} (h : equals column (f a) ++ s = equals column (f b) ++ t) :
    a = b ∧ s = t := by
  simp only [equals, List.append_assoc] at h
  exact hf a b s t (List.append_cancel_left (List.append_cancel_left h))

theorem oneOf_append_inj (hf : PrefixFree fun a => quoted (f a)) {column : String} {xs ys : List α}
    (hx : xs ≠ []) (hy : ys ≠ []) {s t : List Char}
    (h : oneOf column (xs.map f) ++ s = oneOf column (ys.map f) ++ t) : xs = ys ∧ s = t := by
  simp only [oneOf, List.append_assoc, List.map_map] at h
  exact hf.intercalate_append_inj (by decide) hx hy
    (List.append_cancel_left (List.append_cancel_left h))

/-- One value and several are told apart behind the name of the column. -/
theorem equals_append_ne_oneOf_append {column : String} {value s t : List Char}
    {values : List (List Char)} : equals column value ++ s ≠ oneOf column values ++ t := by
  intro h
  simp [equals, oneOf] at h

end

theorem prefixFree_year : PrefixFree fun y : Year => quoted y.chars :=
  prefixFree_quoted Year.length_chars fun _ _ => Year.chars_inj.1

theorem prefixFree_month : PrefixFree fun m : Month => quoted m.chars :=
  prefixFree_quoted Month.length_chars fun _ _ => Month.chars_inj.1

theorem prefixFree_day : PrefixFree fun d : Day => quoted d.chars :=
  prefixFree_quoted Day.length_chars fun _ _ => Day.chars_inj.1

/-! ## Clauses -/

variable {columns : Columns}

/-- What follows the condition on the year in a clause. -/
def Scope.ending (columns : Columns) (scope : Scope) : List Char :=
  (scope.conditions columns).flatMap (" and ".toList ++ ·) ++ [')']

theorem Clause.chars_eq (c : Clause) :
    c.chars columns = '(' :: (equals columns.year c.year.chars ++ c.scope.ending columns) := by
  rw [Clause.chars, intercalate_cons, Scope.ending, ← List.append_assoc]
  rfl

namespace Scope

theorem ending_wholeYear (s : List Char) : wholeYear.ending columns ++ s = ')' :: s := rfl

theorem ending_wholeMonth (m : Month) (s : List Char) :
    (wholeMonth m).ending columns ++ s =
      " and ".toList ++ (equals columns.month m.chars ++ ')' :: s) := by
  simp [ending, conditions]

theorem ending_wholeMonths (ms : List Month) (s : List Char) :
    (wholeMonths ms).ending columns ++ s =
      " and ".toList ++ (oneOf columns.month (ms.map Month.chars) ++ ')' :: s) := by
  simp [ending, conditions]

theorem ending_daysOf (m : Month) (ds : List Day) (s : List Char) :
    (daysOf m ds).ending columns ++ s =
      " and ".toList ++ (equals columns.month m.chars ++
        (" and ".toList ++ (oneOf columns.day (ds.map Day.chars) ++ ')' :: s))) := by
  simp [ending, conditions]

/-- What follows the year shows the scope: whether there is a condition at all, whether it has one
value or several, and whether another one follows. -/
theorem ending_append_inj {y z : Year} {a b : Scope} (ha : a.Fits y) (hb : b.Fits z)
    {s t : List Char} (h : a.ending columns ++ s = b.ending columns ++ t) : a = b ∧ s = t := by
  cases a with
  | wholeYear =>
    -- the clause is closed at once, where every other scope has a blank
    rw [ending_wholeYear] at h
    cases b with
    | wholeYear => exact ⟨rfl, List.tail_eq_of_cons_eq h⟩
    | wholeMonth n => simp [ending_wholeMonth] at h
    | wholeMonths ns => simp [ending_wholeMonths] at h
    | daysOf n es => simp [ending_daysOf] at h
  | wholeMonth m =>
    rw [ending_wholeMonth] at h
    cases b with
    | wholeYear => simp [ending_wholeYear] at h
    | wholeMonth n =>
      rw [ending_wholeMonth] at h
      obtain ⟨rfl, hst⟩ := equals_append_inj prefixFree_month (List.append_cancel_left h)
      exact ⟨rfl, List.tail_eq_of_cons_eq hst⟩
    | wholeMonths ns =>
      rw [ending_wholeMonths] at h
      exact absurd (List.append_cancel_left h) equals_append_ne_oneOf_append
    | daysOf n es =>
      -- the conditions on the month agree, but only one clause is closed behind them
      rw [ending_daysOf] at h
      obtain ⟨-, hst⟩ := equals_append_inj prefixFree_month (List.append_cancel_left h)
      simp at hst
  | wholeMonths ms =>
    rw [ending_wholeMonths] at h
    cases b with
    | wholeYear => simp [ending_wholeYear] at h
    | wholeMonth n =>
      rw [ending_wholeMonth] at h
      exact absurd (List.append_cancel_left h).symm equals_append_ne_oneOf_append
    | wholeMonths ns =>
      rw [ending_wholeMonths] at h
      -- neither list is empty, so both begin without a joiner
      obtain ⟨rfl, hst⟩ := oneOf_append_inj prefixFree_month ha.months_ne_nil hb.months_ne_nil
        (List.append_cancel_left h)
      exact ⟨rfl, List.tail_eq_of_cons_eq hst⟩
    | daysOf n es =>
      rw [ending_daysOf] at h
      exact absurd (List.append_cancel_left h).symm equals_append_ne_oneOf_append
  | daysOf m ds =>
    rw [ending_daysOf] at h
    cases b with
    | wholeYear => simp [ending_wholeYear] at h
    | wholeMonth n =>
      rw [ending_wholeMonth] at h
      obtain ⟨-, hst⟩ := equals_append_inj prefixFree_month (List.append_cancel_left h)
      simp at hst
    | wholeMonths ns =>
      rw [ending_wholeMonths] at h
      exact absurd (List.append_cancel_left h) equals_append_ne_oneOf_append
    | daysOf n es =>
      rw [ending_daysOf] at h
      obtain ⟨rfl, hrest⟩ := equals_append_inj prefixFree_month (List.append_cancel_left h)
      obtain ⟨rfl, hst⟩ :=
        oneOf_append_inj prefixFree_day ha.1 hb.1 (List.append_cancel_left hrest)
      exact ⟨rfl, List.tail_eq_of_cons_eq hst⟩

end Scope

/-- Clauses are told apart, whatever follows them. -/
theorem Clause.prefixFree_chars : PrefixFree (Clause.chars columns) := by
  intro a b s t h
  rw [chars_eq, chars_eq, List.cons_append, List.cons_append, List.append_assoc,
    List.append_assoc] at h
  obtain ⟨hyear, hrest⟩ := equals_append_inj prefixFree_year (List.tail_eq_of_cons_eq h)
  obtain ⟨hscope, hst⟩ := Scope.ending_append_inj a.fits b.fits hrest
  exact ⟨Clause.ext hyear hscope, hst⟩

/-! ## Predicates -/

/-- What joins clauses begins with a blank, and what ends them is none. -/
theorem Layout.exists_joiner_eq (layout : Layout) :
    ∃ c cs, layout.joiner.toList = c :: cs ∧ c ≠ ')' := by
  cases layout with
  | multiLine => exact ⟨'\n', "  or ".toList, rfl, by decide⟩
  | singleLine => exact ⟨' ', "or ".toList, rfl, by decide⟩

/-- **No two predicates have the same text**, whatever the columns are called and however clauses
are joined. -/
theorem Predicate.render_injective (options : RenderOptions) :
    Function.Injective (Predicate.render options) := by
  intro p q h
  have hchars : p.chars options = q.chars options := String.ofList_injective h
  obtain ⟨c, joiner, hjoiner, hne⟩ := options.layout.exists_joiner_eq
  rw [chars, chars, hjoiner, List.cons_append, List.cons_append] at hchars
  obtain ⟨hclauses, -⟩ := Clause.prefixFree_chars.intercalate_append_inj hne p.nonempty q.nonempty
    (List.tail_eq_of_cons_eq hchars)
  exact Predicate.ext hclauses

end DatePartition
