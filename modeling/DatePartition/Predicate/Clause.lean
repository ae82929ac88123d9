import DatePartition.Calendar.Ascending
import DatePartition.Predicate.Error

/-!
# Clauses

A clause selects dates of one year: the whole year, one whole month, several whole months, or some
days of one month. These four scopes are the only ones; days never stand beside several months.

- `Scope`, `Scope.Fits`: the four scopes, and which of them are in normal form for a year. Several
  months are at least two, lists ascend, and every listed day exists.
- `Clause`: a year with a scope that fits it.
- `d ∈ c`: the date is selected. `Clause.accepts c d` decides it by searching the ascending lists.
- `Selection`: a year, months and days as they are asked for, in any order and with repetitions.
- `Clause.ofSelection`, `Clause.selection`: from a request to a clause and back.
-/

namespace DatePartition

/-! ## Scopes -/

/-- What a clause selects of its year. -/
inductive Scope where
  | wholeYear
  | wholeMonth (month : Month)
  | wholeMonths (months : List Month)
  | daysOf (month : Month) (days : List Day)
deriving DecidableEq, Repr

namespace Scope

/-- The whole months of an ascending list, or the whole year if the list is empty. -/
def ofMonths : List Month → Scope
  | [] => wholeYear
  | [month] => wholeMonth month
  | months => wholeMonths months

/-- Dates in month `m` can be selected. -/
def AdmitsMonth : Scope → Month → Prop
  | wholeYear, _ => True
  | wholeMonth month, m => m = month
  | wholeMonths months, m => m ∈ months
  | daysOf month _, m => m = month

instance (s : Scope) (m : Month) : Decidable (s.AdmitsMonth m) := by
  cases s <;> unfold AdmitsMonth <;> infer_instance

/-- Dates on day `d` of a month can be selected. -/
def AdmitsDay : Scope → Day → Prop
  | daysOf _ days, d => d ∈ days
  | _, _ => True

instance (s : Scope) (d : Day) : Decidable (s.AdmitsDay d) := by
  cases s <;> unfold AdmitsDay <;> infer_instance

/-- Looks for a month. Lists are searched by halving. -/
def findsMonth : Scope → Month → Bool
  | wholeYear, _ => true
  | wholeMonth month, m => month = m
  | wholeMonths months, m => search Month.number m.number months
  | daysOf month _, m => month = m

/-- Looks for a day. Lists are searched by halving. -/
def findsDay : Scope → Day → Bool
  | daysOf _ days, d => search Day.number d.number days
  | _, _ => true

/-- The months that are listed, ascending; none for the whole year. -/
def months : Scope → List Month
  | wholeYear => []
  | wholeMonth month => [month]
  | wholeMonths months => months
  | daysOf month _ => [month]

/-- The days that are listed, ascending; none if whole months are selected. -/
def days : Scope → List Day
  | daysOf _ days => days
  | _ => []

/-- The scope is in normal form for year `y`. -/
def Fits (y : Year) : Scope → Prop
  | wholeYear => True
  | wholeMonth _ => True
  | wholeMonths months => 2 ≤ months.length ∧ Ascending Month.number months
  | daysOf month days =>
    days ≠ [] ∧ Ascending Day.number days ∧ ∀ d ∈ days, d.ExistsIn y month

instance (y : Year) (s : Scope) : Decidable (s.Fits y) := by
  cases s <;> unfold Fits <;> infer_instance

/-- Several months are at least one. -/
theorem Fits.months_ne_nil {y : Year} {ms : List Month} (h : (wholeMonths ms).Fits y) : ms ≠ [] :=
  List.ne_nil_of_length_pos (Nat.lt_of_lt_of_le Nat.two_pos h.1)

theorem findsMonth_iff {y : Year} {s : Scope} {m : Month} (h : s.Fits y) :
    s.findsMonth m = true ↔ s.AdmitsMonth m := by
  cases s with
  | wholeYear => exact iff_of_true rfl trivial
  | wholeMonth month => simp [findsMonth, AdmitsMonth, eq_comm]
  | wholeMonths months => exact Month.search_iff h.2
  | daysOf month days => simp [findsMonth, AdmitsMonth, eq_comm]

theorem findsDay_iff {y : Year} {s : Scope} {d : Day} (h : s.Fits y) :
    s.findsDay d = true ↔ s.AdmitsDay d := by
  cases s with
  | wholeYear => exact iff_of_true rfl trivial
  | wholeMonth month => exact iff_of_true rfl trivial
  | wholeMonths months => exact iff_of_true rfl trivial
  | daysOf month days => exact Day.search_iff h.2.1

theorem fits_ofMonths (y : Year) {ms : List Month} (h : Ascending Month.number ms) :
    (ofMonths ms).Fits y := by
  match ms, h with
  | [], _ => trivial
  | [_], _ => trivial
  | a :: b :: ms, h => exact ⟨by simp, h⟩

@[simp] theorem months_ofMonths (ms : List Month) : (ofMonths ms).months = ms := by
  match ms with
  | [] => rfl
  | [_] => rfl
  | _ :: _ :: _ => rfl

@[simp] theorem days_ofMonths (ms : List Month) : (ofMonths ms).days = [] := by
  match ms with
  | [] => rfl
  | [_] => rfl
  | _ :: _ :: _ => rfl

end Scope

/-! ## Clauses -/

/-- The dates of one year that a scope selects. -/
structure Clause where
  year : Year
  scope : Scope
  /-- The scope is in normal form for the year. -/
  fits : scope.Fits year := by decide
deriving DecidableEq, Repr

namespace Clause

instance : Membership Date Clause where
  mem c d := d.year = c.year ∧ c.scope.AdmitsMonth d.month ∧ c.scope.AdmitsDay d.day

theorem mem_def {d : Date} {c : Clause} :
    d ∈ c ↔ d.year = c.year ∧ c.scope.AdmitsMonth d.month ∧ c.scope.AdmitsDay d.day := Iff.rfl

/-- Whether the date is selected. -/
def accepts (c : Clause) (d : Date) : Bool :=
  d.year = c.year && c.scope.findsMonth d.month && c.scope.findsDay d.day

/-- The search misses nothing, since a clause lists its months and days in ascending order. -/
theorem accepts_iff {c : Clause} {d : Date} : c.accepts d = true ↔ d ∈ c := by
  rw [accepts, Bool.and_eq_true, Bool.and_eq_true, decide_eq_true_iff,
    Scope.findsMonth_iff c.fits, Scope.findsDay_iff c.fits, and_assoc, mem_def]

instance (d : Date) (c : Clause) : Decidable (d ∈ c) := decidable_of_iff _ accepts_iff

@[ext] theorem ext {a b : Clause} (hy : a.year = b.year) (hs : a.scope = b.scope) : a = b := by
  cases a; cases b; simp_all

end Clause

/-! ## Requests -/

/-- A year with lists of months and days. No months means the whole year, and no days means whole
months. -/
structure Selection where
  year : Year
  months : List Month := []
  days : List Day := []
deriving DecidableEq, Repr

namespace Clause

/-- The clause for some days of one month, if the month has them all. -/
def ofDays (year : Year) (month : Month) (days : List Day) (nonempty : days ≠ [])
    (ascends : Ascending Day.number days) : Except CompileError Clause :=
  match h : days.find? fun d => ¬ d.ExistsIn year month with
  | some d => .error (.illegalShape year (.dayPastMonthEnd d))
  | none =>
    .ok ⟨year, .daysOf month days, nonempty, ascends, fun d hd => by
      simpa using List.find?_eq_none.1 h d hd⟩

/-- The clause that a request stands for. Order and repetitions in its lists do not matter. -/
def ofSelection (s : Selection) : Except CompileError Clause :=
  match hd : Day.ascending s.days with
  | [] => .ok ⟨s.year, .ofMonths (Month.ascending s.months),
      Scope.fits_ofMonths s.year (Month.ascending_ascending s.months)⟩
  | d :: ds =>
    match Month.ascending s.months with
    | [] => .error (.illegalShape s.year .daysWithoutMonth)
    | [month] =>
      ofDays s.year month (d :: ds) (List.cons_ne_nil d ds) (hd ▸ Day.ascending_ascending s.days)
    | _ :: _ :: _ => .error (.illegalShape s.year .daysWithMultipleMonths)

/-- The request that lists what the clause lists. -/
def selection (c : Clause) : Selection := ⟨c.year, c.scope.months, c.scope.days⟩

/-- The clause selects its year as a whole. -/
def IsWholeYear (c : Clause) : Prop := c.scope = .wholeYear

instance : DecidablePred IsWholeYear := fun _ => inferInstanceAs (Decidable (_ = _))

end Clause

end DatePartition
