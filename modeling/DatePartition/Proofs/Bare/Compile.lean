import DatePartition.Proofs.Bare.Predicate
import DatePartition.Predicate.Compile

/-!
# From a range to a predicate on bare numbers

The walk through the years and months of a range, on ranges and requests without proofs. It asks for
the lengths of months where a range begins or ends, and builds a clause for each piece.

- `Range.coverage`, `Range.pieces`, `Range.requests`, `Range.compile`, `compile`, `compileTexts`:
  the steps of the walk, one for each function on ranges.
- `Range.coverage_eq`, `Range.pieces_eq`, `Range.requests_eq`: the pieces are found without a fault.
- `Range.compile_grants`, `compile_grants`, `compileTexts_grants`: **compiling does not fault**, and
  gives the record of what compiling the range gives.
-/

namespace DatePartition

/-- The days that a range covers of a month, as numbers, unless it covers all. -/
def Coverage.bare : Coverage → Option (List Nat)
  | whole => none
  | partly days => some (days.map Day.number)

namespace Bare

namespace Range

/-! ## Pieces -/

/-- The days that the range covers of month `m` of year `y`, unless it covers all. -/
def coverage (r : Range) (y m : Nat) : Checked (Option (List Nat)) := do
  if y = r.first.year ∧ m = r.first.month ∧ r.first.day ≠ 1 then
    return some (numbersThrough r.first.day (← lastOf y m))
  else if y = r.last.year ∧ m = r.last.month then
    if ← r.last.isLastOfMonth then return none
    else return some (numbersThrough 1 r.last.day)
  else return none

/-- The months of year `y` that the range reaches. -/
def monthsOf (r : Range) (y : Nat) : List Nat :=
  numbersThrough (if y = r.first.year then r.first.month else 1)
    (if y = r.last.year then r.last.month else 12)

/-- A run of whole months as a piece of its own. -/
def wholeMonths (y : Nat) (run : List Nat) : List Request :=
  if run = [] then []
  else if run.length = Month.perYear then [⟨y, [], []⟩]
  else [⟨y, run, []⟩]

/-- The pieces of a year that the range enters or leaves. The months in `run` are whole and wait. -/
def pieces (r : Range) (y : Nat) (run : List Nat) : List Nat → Checked (List Request)
  | [] => return wholeMonths y run
  | m :: ms => do
    match ← r.coverage y m with
    | none => pieces r y (run ++ [m]) ms
    | some days =>
      if ms = [] then return wholeMonths y run ++ ⟨y, [m], days⟩ :: (← pieces r y [] ms)
      else return ⟨y, [m], days⟩ :: (← pieces r y run ms)

/-- The pieces of year `y`. -/
def requestsIn (r : Range) (y : Nat) : Checked (List Request) :=
  if r.first.year < y ∧ y < r.last.year then return [⟨y, [], []⟩]
  else if r.first.year = r.last.year ∧ r.first.month = r.last.month then
    return [⟨y, [r.first.month], numbersThrough r.first.day r.last.day⟩]
  else r.pieces y [] (r.monthsOf y)

/-- The pieces of a range. -/
def requests (r : Range) : Checked (List Request) := do
  let years ← (numbersThrough r.first.year r.last.year).mapM r.requestsIn
  return years.flatten

/-- The predicate with one clause for each piece. -/
def compile (r : Range) : Attempt Predicate := do
  let clauses ← (← r.requests).mapM Clause.build
  Predicate.assemble clauses

end Range

/-- The predicate for the dates between two. -/
def compile (first last : Date) : Attempt Predicate := do
  let r ← Range.ofBounds first last
  r.compile

/-- The predicate for the dates between two texts. -/
def compileTexts (first last : String) : Attempt Predicate := do
  let first ← Date.parse first
  let last ← Date.parse last
  compile first last

/-! ## What they come to -/

namespace Range

theorem coverage_eq (r : DateRange) (y : Year) (m : Month) :
    r.bare.coverage y.number m.number = .ok (r.coverage y m).bare := by
  have hopens : (y.number = r.bare.first.year ∧ m.number = r.bare.first.month
        ∧ r.bare.first.day ≠ 1)
      ↔ (y = r.first.year ∧ m = r.first.month ∧ ¬ r.first.IsFirstOfMonth) :=
    and_congr Year.ext_iff.symm (and_congr_left' Month.ext_iff.symm)
  have hcloses : (y.number = r.bare.last.year ∧ m.number = r.bare.last.month)
      ↔ (y = r.last.year ∧ m = r.last.month) :=
    and_congr Year.ext_iff.symm Month.ext_iff.symm
  have hlast : r.bare.last.isLastOfMonth = .ok (decide r.last.IsLastOfMonth) :=
    Date.isLastOfMonth_eq r.last
  unfold coverage DateRange.coverage
  simp only [hopens, hcloses]
  by_cases h : y = r.first.year ∧ m = r.first.month ∧ ¬ r.first.IsFirstOfMonth
  · rw [if_pos h, if_pos h, lastOf_number, Coverage.bare, Day.map_number_through]
    rfl
  · -- only where the range ends is the end of a month asked for
    rw [if_neg h, if_neg h]
    by_cases hreached : y = r.last.year ∧ m = r.last.month
    · rw [if_pos hreached, hlast]
      by_cases hend : r.last.IsLastOfMonth
      · rw [if_neg fun hpart => hpart.2.2 hend, decide_eq_true hend]
        rfl
      · rw [if_pos ⟨hreached.1, hreached.2, hend⟩, decide_eq_false hend, Coverage.bare,
          Day.map_number_through]
        rfl
    · rw [if_neg hreached, if_neg fun hpart => hreached ⟨hpart.1, hpart.2.1⟩]
      rfl

theorem monthsOf_eq (r : DateRange) (y : Year) :
    r.bare.monthsOf y.number = (r.monthsOf y).map Month.number := by
  have hfirst : y.number = r.bare.first.year ↔ y = r.first.year := Year.ext_iff.symm
  have hlast : y.number = r.bare.last.year ↔ y = r.last.year := Year.ext_iff.symm
  unfold monthsOf DateRange.monthsOf
  rw [Month.map_number_through]
  simp only [hfirst, hlast, apply_ite Month.number]
  rfl

theorem wholeMonths_eq (y : Year) (run : List Month) :
    wholeMonths y.number (run.map Month.number)
      = (DateRange.wholeMonths y run).map Selection.bare := by
  unfold wholeMonths DateRange.wholeMonths
  simp only [List.map_eq_nil_iff, List.length_map]
  split
  · rfl
  · split
    · rfl
    · rfl

/-- The walk hands out the pieces of the walk on months, and nothing in it can fail. -/
theorem pieces_eq (r : DateRange) (y : Year) (run ms : List Month) :
    r.bare.pieces y.number (run.map Month.number) (ms.map Month.number)
      = .ok ((r.pieces y run ms).map Selection.bare) := by
  induction ms generalizing run with
  | nil =>
    show Except.ok (wholeMonths y.number (run.map Month.number)) = _
    rw [wholeMonths_eq]
    rfl
  | cons m ms ih =>
    rw [List.map_cons, pieces, coverage_eq, DateRange.pieces]
    cases r.coverage y m with
    | whole =>
      -- the month waits with the others
      show r.bare.pieces y.number (run.map Month.number ++ [m.number]) (ms.map Month.number) = _
      rw [← ih (run ++ [m]), List.map_append]
      rfl
    | partly days =>
      have hnil : ms.map Month.number = [] ↔ ms = [] := List.map_eq_nil_iff
      show (if ms.map Month.number = [] then
        (r.bare.pieces y.number ([].map Month.number) (ms.map Month.number) >>= fun rest =>
          pure (wholeMonths y.number (run.map Month.number) ++ _ :: rest)) else
        (r.bare.pieces y.number (run.map Month.number) (ms.map Month.number) >>= fun rest =>
          pure (_ :: rest))) = _
      simp only [hnil, ih, wholeMonths_eq]
      split
      · -- what waits goes before a partial last month
        show Except.ok (_ ++ _ :: _) = Except.ok (List.map _ (_ ++ _ :: _))
        rw [List.map_append]
        rfl
      · rfl

theorem requestsIn_eq (r : DateRange) (y : Year) :
    r.bare.requestsIn y.number = .ok ((r.selectionsIn y).map Selection.bare) := by
  have hone : (r.bare.first.year = r.bare.last.year ∧ r.bare.first.month = r.bare.last.month)
      ↔ r.InOneMonth := and_congr Year.ext_iff.symm Month.ext_iff.symm
  have hbetween : (r.bare.first.year < y.number ∧ y.number < r.bare.last.year)
      ↔ (r.first.year.number < y.number ∧ y.number < r.last.year.number) := Iff.rfl
  unfold requestsIn DateRange.selectionsIn
  simp only [hone, hbetween]
  split
  · rfl
  · split
    · rw [List.map_singleton, Selection.bare, Day.map_number_through]
      rfl
    · rw [monthsOf_eq]
      exact pieces_eq r y [] (r.monthsOf y)

/-- **The pieces of a range are found without a fault.** -/
theorem requests_eq (r : DateRange) : r.bare.requests = .ok (r.selections.map Selection.bare) := by
  have hyears : (numbersThrough r.bare.first.year r.bare.last.year).mapM r.bare.requestsIn
      = .ok ((r.first.year.through r.last.year).map fun y =>
          (r.selectionsIn y).map Selection.bare) := by
    rw [show numbersThrough r.bare.first.year r.bare.last.year
      = (r.first.year.through r.last.year).map Year.number from (Year.map_number_through _ _).symm]
    exact mapM_ok fun y _ => requestsIn_eq r y
  rw [requests, hyears, DateRange.selections, List.map_flatMap, List.flatMap_def]
  rfl

/-! ## Compiling -/

theorem compile_grants (r : DateRange) : Grants (·.bare) r.bare.compile r.compile.toOption := by
  rw [compile, requests_eq, lift_ok_bind]
  refine Grants.bind_toOption (Grants.mapM_map Clause.build_grants r.selections) fun cs => ?_
  exact Predicate.assemble_grants cs

end Range

theorem compile_grants (first last : DatePartition.Date) :
    Grants (·.bare) (compile first.bare last.bare) (DatePartition.compile first last).toOption :=
  ((Range.ofBounds_grants first last).mapError _).bind_toOption Range.compile_grants

/-- **Compiling two texts does not fault**, whatever they are. -/
theorem compileTexts_grants (first last : String) :
    Grants (·.bare) (compileTexts first last) (DatePartition.compileTexts first last).toOption := by
  refine ((Date.parse_grants first).mapError _).bind_toOption fun first => ?_
  refine ((Date.parse_grants last).mapError _).bind_toOption fun last => ?_
  exact compile_grants first last

end Bare

end DatePartition
