import DatePartition.Proofs.Bare.Compile

/-!
# Calls

What a caller of the library can ask for. A call may name values by their place among those that the
calls before it have handed out, so that any way to put calls together is a list of calls.

- `Value`, `Call`: what a caller holds and asks for. Calls that only compare, write out or take
  apart what is held are left out, unless they hand out values or search lists.
- `Call.answer held c`: the values that a call hands out, or none if it is refused or names no
  suitable value.
- `Bare.Value`, `Call.bareAnswer`: the same for values without proofs.
- `Call.IsPermitted`: the call does not ask for the length of a month that does not exist.
- `Call.bareAnswer_grants`: **a permitted call does not fault** on records of held values, and hands
  out the records of its answer. `Call.bareAnswer_of_not_isPermitted`: any other call does fault.
-/

namespace DatePartition

/-- A date, a range, a clause or a predicate of some kind, or a plain answer. -/
inductive ValueOf (D R C P : Type) where
  | date (d : D)
  | range (r : R)
  | clause (c : C)
  | predicate (p : P)
  | number (n : Nat)
  | truth (b : Bool)
deriving DecidableEq

/-- A value that a caller can hold. -/
abbrev Value := ValueOf Date DateRange Clause Predicate

/-- A value without proofs. -/
abbrev Bare.Value := ValueOf Bare.Date Bare.Range Bare.Clause Bare.Predicate

/-- What a caller can ask for. Values that are held already are named by their places. -/
inductive Call where
  /-- The date with these numbers. -/
  | date (year month day : Nat)
  | dateOfText (text : String)
  | dateOfJson (text : String)
  | nextDay (date : Nat)
  | isLastOfMonth (date : Nat)
  /-- The length of a month, by plain numbers. -/
  | monthLength (year month : Nat)
  /-- The length of a month of the calendar. -/
  | lengthIn (year month : Nat)
  /-- The last day of a month of the calendar. -/
  | lastDay (year month : Nat)
  /-- The day with this number in a month of the calendar. -/
  | dayOf (day year month : Nat)
  | range (first last : Nat)
  | rangeOfDay (date : Nat)
  | rangeOfText (text : String)
  | rangeOfJson (text : String)
  | bounds (range : Nat)
  /-- The first dates of a range. -/
  | dates (count range : Nat)
  /-- The clause for a year, months and days of the calendar, given by their numbers. -/
  | clause (year : Nat) (months days : List Nat)
  | clauseOfJson (text : String)
  /-- The predicate with these clauses. -/
  | predicate (clauses : List Nat)
  | predicateOfJson (text : String)
  /-- The clauses of a predicate. -/
  | clauses (predicate : Nat)
  | compile (first last : Nat)
  | compileTexts (first last : String)
  | compileRange (range : Nat)
  | clauseAccepts (clause date : Nat)
  | predicateAccepts (predicate date : Nat)

/-- The value at a place, if it is of a kind. -/
def heldAt {V α : Type} (kind : V → Option α) (held : List V) (i : Nat) : Option α :=
  held[i]?.bind kind

namespace ValueOf

variable {D R C P : Type}

/-- The date that the value is. -/
def date? : ValueOf D R C P → Option D
  | date d => some d
  | _ => none

/-- The range that the value is. -/
def range? : ValueOf D R C P → Option R
  | range r => some r
  | _ => none

/-- The clause that the value is. -/
def clause? : ValueOf D R C P → Option C
  | clause c => some c
  | _ => none

/-- The predicate that the value is. -/
def predicate? : ValueOf D R C P → Option P
  | predicate p => some p
  | _ => none

end ValueOf

/-- The value without its proofs. -/
def Value.bare : Value → Bare.Value
  | .date d => .date d.bare
  | .range r => .range r.bare
  | .clause c => .clause c.bare
  | .predicate p => .predicate p.bare
  | .number n => .number n
  | .truth b => .truth b

/-- The request with these numbers. -/
def Selection.ofNumbers (year : Nat) (months days : List Nat) : Except DateError Selection := do
  let y ← Year.ofNumber year
  let ms ← months.mapM Month.ofNumber
  let ds ← days.mapM Day.ofNumber
  return ⟨y, ms, ds⟩

namespace Call

/-- The values that a call hands out. -/
def answer (held : List Value) : Call → Option (List Value)
  | date y m d => do return [.date (← (Date.ofNumbers y m d).toOption)]
  | dateOfText s => do return [.date (← (Date.parse s).toOption)]
  | dateOfJson s => do return [.date (← (Json.decode Date.ofReading s).toOption)]
  | nextDay i => do
    let d ← heldAt ValueOf.date? held i
    return [.date (← d.next?)]
  | isLastOfMonth i => do
    let d ← heldAt ValueOf.date? held i
    return [.truth (decide d.IsLastOfMonth)]
  | monthLength y m => do return [.number (← monthLength? y m)]
  | lengthIn y m => do
    let year ← (Year.ofNumber y).toOption
    let month ← (Month.ofNumber m).toOption
    return [.number (month.lengthIn year)]
  | lastDay y m => do
    let year ← (Year.ofNumber y).toOption
    let month ← (Month.ofNumber m).toOption
    return [.number (Day.lastOf year month).number]
  | dayOf n y m => do
    let year ← (Year.ofNumber y).toOption
    let month ← (Month.ofNumber m).toOption
    let day ← (Day.inMonth n year month).toOption
    return [.number day.1.number]
  | range i j => do
    let first ← heldAt ValueOf.date? held i
    let last ← heldAt ValueOf.date? held j
    return [.range (← (DateRange.ofBounds first last).toOption)]
  | rangeOfDay i => do
    let d ← heldAt ValueOf.date? held i
    return [.range (DateRange.day d)]
  | rangeOfText s => do return [.range (← (DateRange.parse s).toOption)]
  | rangeOfJson s => do return [.range (← (Json.decode DateRange.ofReading s).toOption)]
  | bounds i => do
    let r ← heldAt ValueOf.range? held i
    return [.date r.first, .date r.last]
  | dates n i => do
    let r ← heldAt ValueOf.range? held i
    return (r.take n).map .date
  | clause y ms ds => do
    let s ← (Selection.ofNumbers y ms ds).toOption
    return [.clause (← (Clause.ofSelection s).toOption)]
  | clauseOfJson s => do return [.clause (← (Json.decode Clause.ofReading s).toOption)]
  | predicate is => do
    let cs := is.filterMap (heldAt ValueOf.clause? held)
    return [.predicate (← (Predicate.ofClauses cs).toOption)]
  | predicateOfJson s => do return [.predicate (← (Json.decode Predicate.ofReading s).toOption)]
  | clauses i => do
    let p ← heldAt ValueOf.predicate? held i
    return p.clauses.map .clause
  | compile i j => do
    let first ← heldAt ValueOf.date? held i
    let last ← heldAt ValueOf.date? held j
    return [.predicate (← (DatePartition.compile first last).toOption)]
  | compileTexts s t => do return [.predicate (← (DatePartition.compileTexts s t).toOption)]
  | compileRange i => do
    let r ← heldAt ValueOf.range? held i
    return [.predicate (← r.compile.toOption)]
  | clauseAccepts i j => do
    let c ← heldAt ValueOf.clause? held i
    let d ← heldAt ValueOf.date? held j
    return [.truth (c.accepts d)]
  | predicateAccepts i j => do
    let p ← heldAt ValueOf.predicate? held i
    let d ← heldAt ValueOf.date? held j
    return [.truth (p.accepts d)]

/-- If the length of a month is asked for by plain numbers, there is such a month. -/
def IsPermitted : Call → Prop
  | monthLength _ m => 1 ≤ m ∧ m ≤ 12
  | _ => True

instance : DecidablePred IsPermitted := fun c => by
  cases c <;> unfold IsPermitted <;> infer_instance

end Call

namespace Bare

/-- The request with these numbers. -/
def Request.ofNumbers (year : Nat) (months days : List Nat) : Attempt Request := do
  let y ← within 1 9999 year
  let ms ← months.mapM (within 1 12)
  let ds ← days.mapM (within 1 31)
  return ⟨y, ms, ds⟩

end Bare

namespace Call

open Bare in
/-- The values that a call hands out, on values without proofs. -/
def bareAnswer (held : List Bare.Value) : Call → Attempt (List Bare.Value)
  | date y m d => do return [.date (← Bare.Date.ofNumbers y m d)]
  | dateOfText s => do return [.date (← Bare.Date.parse s)]
  | dateOfJson s => do return [.date (← decode Bare.Date.ofReading s)]
  | nextDay i => do
    let d ← grant (heldAt ValueOf.date? held i)
    return [.date (← d.next?)]
  | isLastOfMonth i => do
    let d ← grant (heldAt ValueOf.date? held i)
    return [.truth (← d.isLastOfMonth)]
  | monthLength y m => do return [.number (← Bare.monthLength y m)]
  | lengthIn y m => do
    let year ← within 1 9999 y
    let month ← within 1 12 m
    return [.number (← Bare.monthLength year month)]
  | lastDay y m => do
    let year ← within 1 9999 y
    let month ← within 1 12 m
    return [.number (← lastOf year month)]
  | dayOf n y m => do
    let year ← within 1 9999 y
    let month ← within 1 12 m
    return [.number (← dayWithin n year month)]
  | range i j => do
    let first ← grant (heldAt ValueOf.date? held i)
    let last ← grant (heldAt ValueOf.date? held j)
    return [.range (← Range.ofBounds first last)]
  | rangeOfDay i => do
    let d ← grant (heldAt ValueOf.date? held i)
    return [.range (Range.day d)]
  | rangeOfText s => do return [.range (← Range.parse s)]
  | rangeOfJson s => do return [.range (← decode Range.ofReading s)]
  | bounds i => do
    let r ← grant (heldAt ValueOf.range? held i)
    return [.date r.first, .date r.last]
  | dates n i => do
    let r ← grant (heldAt ValueOf.range? held i)
    return (← r.take n).map .date
  | clause y ms ds => do
    let s ← Request.ofNumbers y ms ds
    return [.clause (← Bare.Clause.build s)]
  | clauseOfJson s => do return [.clause (← decode Bare.Clause.ofReading s)]
  | predicate is => do
    let cs := is.filterMap (heldAt ValueOf.clause? held)
    return [.predicate (← Bare.Predicate.assemble cs)]
  | predicateOfJson s => do return [.predicate (← decode Bare.Predicate.ofReading s)]
  | clauses i => do
    let p ← grant (heldAt ValueOf.predicate? held i)
    return p.clauses.map .clause
  | compile i j => do
    let first ← grant (heldAt ValueOf.date? held i)
    let last ← grant (heldAt ValueOf.date? held j)
    return [.predicate (← Bare.compile first last)]
  | compileTexts s t => do return [.predicate (← Bare.compileTexts s t)]
  | compileRange i => do
    let r ← grant (heldAt ValueOf.range? held i)
    return [.predicate (← r.compile)]
  | clauseAccepts i j => do
    let c ← grant (heldAt ValueOf.clause? held i)
    let d ← grant (heldAt ValueOf.date? held j)
    return [.truth (c.accepts d)]
  | predicateAccepts i j => do
    let p ← grant (heldAt ValueOf.predicate? held i)
    let d ← grant (heldAt ValueOf.date? held j)
    return [.truth (p.accepts d)]

end Call

namespace Bare

/-! ## What calls come to -/

section

variable {α β : Type} {kind : DatePartition.Value → Option α} {kind' : Value → Option β}
  {f : α → β}

/-- Values are found at the places where the values with proofs stand. -/
theorem heldAt_bare (h : ∀ v, kind' v.bare = (kind v).map f) (held : List DatePartition.Value)
    (i : Nat) :
    heldAt kind' (held.map (·.bare)) i = (heldAt kind held i).map f := by
  unfold heldAt
  rw [List.getElem?_map]
  cases held[i]? with
  | none => rfl
  | some v => exact h v

theorem heldAt_grants (h : ∀ v, kind' v.bare = (kind v).map f) (held : List DatePartition.Value)
    (i : Nat) : Grants f (grant (heldAt kind' (held.map (·.bare)) i)) (heldAt kind held i) :=
  congrArg grant (heldAt_bare h held i)

end

theorem date?_bare (v : DatePartition.Value) : v.bare.date? = v.date?.map (·.bare) := by
  cases v <;> rfl

theorem range?_bare (v : DatePartition.Value) : v.bare.range? = v.range?.map (·.bare) := by
  cases v <;> rfl

theorem clause?_bare (v : DatePartition.Value) : v.bare.clause? = v.clause?.map (·.bare) := by
  cases v <;> rfl

theorem predicate?_bare (v : DatePartition.Value) :
    v.bare.predicate? = v.predicate?.map (·.bare) := by
  cases v <;> rfl

theorem Request.ofNumbers_grants (year : Nat) (months days : List Nat) :
    Grants (·.bare) (ofNumbers year months days)
      (Selection.ofNumbers year months days).toOption := by
  refine (within_year year).bind_toOption fun y => ?_
  refine (Grants.mapM within_month months).bind_toOption fun ms => ?_
  refine (Grants.mapM within_day days).bind_toOption fun ds => ?_
  exact Grants.pure (·.bare) (⟨y, ms, ds⟩ : Selection)

end Bare

open Bare

namespace Call

/-- **A permitted call does not fault**, and hands out the records of its answer. -/
theorem bareAnswer_grants {c : Call} (h : c.IsPermitted) (held : List Value) :
    Grants (List.map Value.bare) (c.bareAnswer (held.map (·.bare))) (c.answer held) := by
  cases c with
  | date y m d => exact (Date.ofNumbers_grants y m d).bind fun d => rfl
  | dateOfText s => exact (Date.parse_grants s).bind fun d => rfl
  | dateOfJson s => exact (decode_grants Date.ofReading_grants s).bind fun d => rfl
  | nextDay i =>
    refine (heldAt_grants date?_bare held i).bind fun d => ?_
    exact (Date.next?_grants d).bind fun e => rfl
  | isLastOfMonth i =>
    exact (heldAt_grants date?_bare held i).bind fun d => .liftM_bind (Date.isLastOfMonth_eq d) rfl
  | monthLength y m =>
    obtain ⟨hpos, hle⟩ := h
    have hlength : monthLength? y m = some (DatePartition.monthLength y m) := if_pos ⟨hpos, hle⟩
    rw [answer, hlength]
    exact .liftM_bind (monthLength_eq hpos hle y) rfl
  | lengthIn y m =>
    exact (within_year y).bind fun year => (within_month m).bind fun month =>
      .liftM_bind (monthLength_number year month) rfl
  | lastDay y m =>
    exact (within_year y).bind fun year => (within_month m).bind fun month =>
      .liftM_bind (lastOf_number year month) rfl
  | dayOf n y m =>
    exact (within_year y).bind fun year => (within_month m).bind fun month =>
      (dayWithin_number n year month).bind fun day => rfl
  | range i j =>
    refine (heldAt_grants date?_bare held i).bind fun first => ?_
    refine (heldAt_grants date?_bare held j).bind fun last => ?_
    exact (Range.ofBounds_grants first last).bind fun r => rfl
  | rangeOfDay i => exact (heldAt_grants date?_bare held i).bind fun d => rfl
  | rangeOfText s => exact (Range.ofChars_grants s.toList).bind fun r => rfl
  | rangeOfJson s => exact (decode_grants Range.ofReading_grants s).bind fun r => rfl
  | bounds i => exact (heldAt_grants range?_bare held i).bind fun r => rfl
  | dates n i =>
    refine (heldAt_grants range?_bare held i).bind fun r => .liftM_bind (Range.take_eq r n) ?_
    show grant (some _) = grant (some (List.map _ (List.map _ _)))
    rw [List.map_map, List.map_map]
    rfl
  | clause y ms ds =>
    exact (Request.ofNumbers_grants y ms ds).bind fun s => (Clause.build_grants s).bind fun c => rfl
  | clauseOfJson s => exact (decode_grants Clause.ofReading_grants s).bind fun c => rfl
  | predicate is =>
    have hclauses : is.filterMap (heldAt ValueOf.clause? (held.map Value.bare))
        = (is.filterMap (heldAt ValueOf.clause? held)).map Clause.bare := by
      rw [List.map_filterMap]
      exact congrArg (is.filterMap ·) (funext fun i => heldAt_bare clause?_bare held i)
    rw [bareAnswer, hclauses]
    exact (Predicate.assemble_grants _).bind fun p => rfl
  | predicateOfJson s => exact (decode_grants Predicate.ofReading_grants s).bind fun p => rfl
  | clauses i =>
    refine (heldAt_grants predicate?_bare held i).bind fun p => ?_
    show grant (some (List.map _ (List.map _ _))) = grant (some (List.map _ (List.map _ _)))
    rw [List.map_map, List.map_map]
    rfl
  | compile i j =>
    refine (heldAt_grants date?_bare held i).bind fun first => ?_
    refine (heldAt_grants date?_bare held j).bind fun last => ?_
    exact (compile_grants first last).bind fun p => rfl
  | compileTexts s t => exact (compileTexts_grants s t).bind fun p => rfl
  | compileRange i =>
    refine (heldAt_grants range?_bare held i).bind fun r => ?_
    exact (Range.compile_grants r).bind fun p => rfl
  | clauseAccepts i j =>
    refine (heldAt_grants clause?_bare held i).bind fun c => ?_
    refine (heldAt_grants date?_bare held j).bind fun d => ?_
    rw [Clause.accepts_bare]
    rfl
  | predicateAccepts i j =>
    refine (heldAt_grants predicate?_bare held i).bind fun p => ?_
    refine (heldAt_grants date?_bare held j).bind fun d => ?_
    rw [Predicate.accepts_bare]
    rfl

/-- Any other call fails an assertion. -/
theorem bareAnswer_of_not_isPermitted {c : Call} (h : ¬ c.IsPermitted) (held : List Bare.Value) :
    (c.bareAnswer held).run = .error .assertion := by
  cases c with
  | monthLength y m =>
    show (liftM (Bare.monthLength y m) >>= fun n => pure [ValueOf.number n] : Attempt _).run = _
    rw [monthLength_eq_error h]
    rfl
  | _ => exact absurd trivial h

end Call

end DatePartition
