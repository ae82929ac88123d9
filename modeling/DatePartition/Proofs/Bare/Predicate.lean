import DatePartition.Proofs.Bare.Range
import DatePartition.Proofs.Predicate.Selection

/-!
# Clauses and predicates as bare records

Clauses that are a year, a set of months and perhaps a list of days, which need not fit each other.
The builder sorts its lists and looks at their lengths.

- `MonthSet`, `Clause`, `Predicate`: the records.
- `Clause.WellFormed`, `Predicate.WellFormed`: what is relied on. Several months are two or more in
  ascending order; days ascend, stand beside one month only, and exist in it; there is a clause.
- `DatePartition.Clause.bare`, `DatePartition.Predicate.bare`: the records of clauses and
  predicates. They are well-formed, and every well-formed record of a clause arises so.
- `Clause.build s`: the clause for a request. `Clause.accepts`: searches its lists by halving.
- `Clause.WellFormed.exists_accepts`: **some day of the calendar satisfies a well-formed clause.**
- `Clause.build_grants`, `Predicate.assemble_grants`: **building does not fault and gives
  well-formed records only**, those of what the functions for clauses and predicates give.
-/

namespace DatePartition

namespace Bare

/-! ## Records -/

/-- The months of a clause. -/
inductive MonthSet where
  | all
  | one (month : Nat)
  | many (months : List Nat)
deriving DecidableEq, Repr

/-- A year with months and perhaps days. -/
structure Clause where
  year : Nat
  months : MonthSet
  days : Option (List Nat)
deriving DecidableEq, Repr

/-- Clauses of which a date has to satisfy one. -/
structure Predicate where
  clauses : List Clause
deriving DecidableEq, Repr

/-- A year, months and days as they are asked for. -/
structure Request where
  year : Nat
  months : List Nat
  days : List Nat
deriving DecidableEq, Repr

namespace MonthSet

/-- The months that are listed. -/
def listed : MonthSet → List Nat
  | all => []
  | one month => [month]
  | many months => months

/-- The set that an ascending list stands for. -/
def ofList : List Nat → MonthSet
  | [] => all
  | [month] => one month
  | months => many months

/-- Whether the month is selected. Lists are searched by halving. -/
def contains : MonthSet → Nat → Bool
  | all, _ => true
  | one month, m => month = m
  | many months, m => search id m months

end MonthSet

/-- What is relied on in a clause. -/
structure Clause.WellFormed (c : Clause) : Prop where
  year : 1 ≤ c.year ∧ c.year ≤ 9999
  months : ∀ m ∈ c.months.listed, 1 ≤ m ∧ m ≤ 12
  many : ∀ ms, c.months = .many ms → 2 ≤ ms.length ∧ ms.Pairwise (· < ·)
  days : ∀ ds, c.days = some ds → ds ≠ [] ∧ ds.Pairwise (· < ·) ∧
    ∃ m, c.months = .one m ∧ ∀ d ∈ ds, 1 ≤ d ∧ d ≤ DatePartition.monthLength c.year m

/-- What is relied on in a predicate. -/
structure Predicate.WellFormed (p : Predicate) : Prop where
  nonempty : p.clauses ≠ []
  clauses : ∀ c ∈ p.clauses, c.WellFormed

/-- Whether the date is selected. -/
def Clause.accepts (c : Clause) (d : Date) : Bool :=
  d.year = c.year && c.months.contains d.month
    && match c.days with
      | none => true
      | some days => search id d.day days

/-- Whether some clause selects the date. -/
def Predicate.accepts (p : Predicate) (d : Date) : Bool := p.clauses.any fun c => c.accepts d

end Bare

/-! ## The records of clauses and predicates -/

/-- The months of a scope as numbers. -/
def Scope.bareMonths : Scope → Bare.MonthSet
  | wholeYear => .all
  | wholeMonth month => .one month.number
  | wholeMonths months => .many (months.map Month.number)
  | daysOf month _ => .one month.number

/-- The days of a scope as numbers. -/
def Scope.bareDays : Scope → Option (List Nat)
  | daysOf _ days => some (days.map Day.number)
  | _ => none

/-- The record of a clause. -/
def Clause.bare (c : Clause) : Bare.Clause := ⟨c.year.number, c.scope.bareMonths, c.scope.bareDays⟩

/-- The record of a predicate. -/
def Predicate.bare (p : Predicate) : Bare.Predicate := ⟨p.clauses.map Clause.bare⟩

/-- The numbers of a request. -/
def Selection.bare (s : Selection) : Bare.Request :=
  ⟨s.year.number, s.months.map Month.number, s.days.map Day.number⟩

/-- The record of a clause for whole months follows from their list. -/
theorem Clause.bare_ofMonths (y : Year) (ms : List Month) (h : (Scope.ofMonths ms).Fits y) :
    (⟨y, .ofMonths ms, h⟩ : Clause).bare = ⟨y.number, .ofList (ms.map Month.number), none⟩ := by
  match ms with
  | [] => rfl
  | [_] => rfl
  | _ :: _ :: _ => rfl

namespace Bare

/-- The keys of an ascending list ascend. -/
theorem pairwise_map_of_ascending {α : Type} {key : α → Nat} {xs : List α}
    (h : Ascending key xs) : (xs.map key).Pairwise (· < ·) := List.pairwise_map.2 h

/-- **The record of a clause is well-formed.** -/
theorem Clause.wellFormed_bare (c : DatePartition.Clause) : c.bare.WellFormed := by
  obtain ⟨y, s, hfits⟩ := c
  have hmonth : ∀ m : Month, 1 ≤ m.number ∧ m.number ≤ 12 := fun m => ⟨m.one_le, m.number_le⟩
  refine ⟨⟨y.one_le, y.number_le⟩, ?_, ?_, ?_⟩
  · -- whatever is listed is a month
    intro m hm
    cases s with
    | wholeYear => cases hm
    | wholeMonth month => exact List.mem_singleton.1 hm ▸ hmonth month
    | wholeMonths months =>
      obtain ⟨month, -, rfl⟩ := List.mem_map.1 hm
      exact hmonth month
    | daysOf month days => exact List.mem_singleton.1 hm ▸ hmonth month
  · -- only one scope holds several months
    rintro ms hms
    cases s with
    | wholeMonths months =>
      cases hms
      exact ⟨by rw [List.length_map]; exact hfits.1, pairwise_map_of_ascending hfits.2⟩
    | _ => cases hms
  · -- only one scope holds days, and it has one month for them
    rintro ds hds
    cases s with
    | daysOf month days =>
      cases hds
      obtain ⟨hne, hascends, hexist⟩ := hfits
      refine ⟨by simpa using hne, pairwise_map_of_ascending hascends, month.number, rfl, ?_⟩
      intro d hd
      obtain ⟨day, hday, rfl⟩ := List.mem_map.1 hd
      exact ⟨day.one_le, hexist day hday⟩
    | _ => cases hds

/-- Numbers of months are the numbers of a list of months. -/
theorem exists_months {ms : List Nat} (h : ∀ m ∈ ms, 1 ≤ m ∧ m ≤ 12) :
    ∃ ms' : List Month, ms'.map Month.number = ms :=
  ⟨ms.filterMap Month.ofNumber?, map_filterMap_ofNumber fun m hm =>
    ⟨⟨m, (h m hm).1, (h m hm).2⟩, Month.ofNumber?_eq_some.2 rfl, rfl⟩⟩

/-- Numbers of days are the numbers of a list of days. -/
theorem exists_days {ds : List Nat} (h : ∀ d ∈ ds, 1 ≤ d ∧ d ≤ 31) :
    ∃ ds' : List Day, ds'.map Day.number = ds :=
  ⟨ds.filterMap Day.ofNumber?, map_filterMap_ofNumber fun d hd =>
    ⟨⟨d, (h d hd).1, (h d hd).2⟩, Day.ofNumber?_eq_some.2 rfl, rfl⟩⟩

/-- Well-formed records are those of a clause. -/
theorem Clause.WellFormed.exists_bare {c : Clause} (h : c.WellFormed) :
    ∃ e : DatePartition.Clause, e.bare = c := by
  obtain ⟨⟨hyear, hyear'⟩, hmonths, hmany, hdays⟩ := h
  obtain ⟨y, set, days⟩ := c
  cases days with
  | none =>
    cases set with
    | all => exact ⟨⟨⟨y, hyear, hyear'⟩, .wholeYear, trivial⟩, rfl⟩
    | one m =>
      obtain ⟨hm, hm'⟩ := hmonths m (List.mem_singleton_self m)
      exact ⟨⟨⟨y, hyear, hyear'⟩, .wholeMonth ⟨m, hm, hm'⟩, trivial⟩, rfl⟩
    | many ms =>
      obtain ⟨hlength, hascends⟩ := hmany ms rfl
      obtain ⟨ms, rfl⟩ := exists_months hmonths
      rw [List.length_map] at hlength
      exact ⟨⟨⟨y, hyear, hyear'⟩, .wholeMonths ms, hlength, List.pairwise_map.1 hascends⟩, rfl⟩
  | some ds =>
    -- days leave no choice: their month is the only one
    obtain ⟨hne, hascends, m, hset, hexist⟩ := hdays ds rfl
    obtain ⟨hm, hm'⟩ := hmonths m (by rw [hset]; exact List.mem_singleton_self m)
    obtain ⟨ds, rfl⟩ := exists_days fun d hd =>
      ⟨(hexist d hd).1, Nat.le_trans (hexist d hd).2 (monthLength_le y m)⟩
    obtain rfl : set = .one m := hset
    refine ⟨⟨⟨y, hyear, hyear'⟩, .daysOf ⟨m, hm, hm'⟩ ds, ?_, List.pairwise_map.1 hascends, ?_⟩,
      rfl⟩
    · simpa using hne
    · exact fun d hd => (hexist d.number (List.mem_map_of_mem hd)).2

theorem Predicate.wellFormed_bare (p : DatePartition.Predicate) : p.bare.WellFormed := by
  refine ⟨by simpa [DatePartition.Predicate.bare] using p.nonempty, fun c hc => ?_⟩
  obtain ⟨c, -, rfl⟩ := List.mem_map.1 hc
  exact Clause.wellFormed_bare c

/-! ## Searching -/

theorem MonthSet.contains_bare (s : Scope) (m : Month) :
    s.bareMonths.contains m.number = s.findsMonth m := by
  cases s with
  | wholeYear => rfl
  | wholeMonth month => exact decide_eq_decide.2 Month.ext_iff.symm
  | wholeMonths months => exact search_map Month.number m.number months
  | daysOf month days => exact decide_eq_decide.2 Month.ext_iff.symm

/-- The search in the record finds what the search in the clause finds. -/
theorem Clause.accepts_bare (c : DatePartition.Clause) (d : DatePartition.Date) :
    c.bare.accepts d.bare = c.accepts d := by
  have hyear : decide (d.year.number = c.year.number) = decide (d.year = c.year) :=
    decide_eq_decide.2 Year.ext_iff.symm
  obtain ⟨y, s, hfits⟩ := c
  show (decide (d.year.number = y.number) && s.bareMonths.contains d.month.number && _) = _
  rw [hyear, MonthSet.contains_bare]
  cases s with
  | daysOf month days =>
    show (_ && _ && search id d.day.number (days.map Day.number)) = _
    rw [search_map]
    rfl
  | _ => rfl

theorem Predicate.accepts_bare (p : DatePartition.Predicate) (d : DatePartition.Date) :
    p.bare.accepts d.bare = p.accepts d := by
  show (p.clauses.map DatePartition.Clause.bare).any _ = _
  rw [List.any_map]
  exact congrArg p.clauses.any (funext fun c => Clause.accepts_bare c d)

/-- **Some day of the calendar satisfies a well-formed clause.** -/
theorem Clause.WellFormed.exists_accepts {c : Clause} (h : c.WellFormed) :
    ∃ d : Date, d.Valid ∧ c.accepts d = true := by
  obtain ⟨c, rfl⟩ := h.exists_bare
  obtain ⟨d, hd⟩ := c.exists_mem
  refine ⟨d.bare, Date.valid_bare d, ?_⟩
  rw [accepts_bare]
  exact DatePartition.Clause.accepts_iff.2 hd

/-- Some day of the calendar satisfies a well-formed predicate. -/
theorem Predicate.WellFormed.exists_accepts {p : Predicate} (h : p.WellFormed) :
    ∃ d : Date, d.Valid ∧ p.accepts d = true := by
  obtain ⟨c, hc⟩ := List.exists_mem_of_ne_nil p.clauses h.nonempty
  obtain ⟨d, hvalid, hd⟩ := (h.clauses c hc).exists_accepts
  exact ⟨d, hvalid, List.any_eq_true.2 ⟨c, hc, hd⟩⟩

/-! ## Building -/

/-- The clause for some days of one month, if the month has them all. -/
def Clause.ofDays (year month : Nat) (days : List Nat) : Attempt Clause := do
  let last ← lastOf year month
  if days.any (last < ·) then failure else return ⟨year, .one month, some days⟩

/-- The clause for a request. -/
def Clause.build (s : Request) : Attempt Clause :=
  let months := ascending id s.months
  let days := ascending id s.days
  if days ≠ [] ∧ 1 < months.length then failure
  else if months = [] ∧ days ≠ [] then failure
  else if days = [] then pure ⟨s.year, .ofList months, none⟩
  else
    match MonthSet.ofList months with
    | .one month => ofDays s.year month days
    | set => pure ⟨s.year, set, some days⟩

/-- Without days, whole months are built. -/
theorem Clause.build_of_days_eq_nil {s : Request} (h : ascending id s.days = []) :
    build s = pure ⟨s.year, .ofList (ascending id s.months), none⟩ := by
  simp [build, h]

/-- The predicate with these clauses. -/
def Predicate.assemble (clauses : List Clause) : Attempt Predicate :=
  if clauses = [] then failure else pure ⟨clauses⟩

/-- The lists of a request are put in order as numbers. -/
theorem ascending_bare (s : Selection) :
    ascending id s.bare.months = (Month.ascending s.months).map Month.number ∧
      ascending id s.bare.days = (Day.ascending s.days).map Day.number :=
  ⟨(map_ascending Month.number s.months).symm, (map_ascending Day.number s.days).symm⟩

theorem Clause.ofDays_grants (y : Year) (m : Month) {ds : List Day} (hne : ds ≠ [])
    (hascends : Ascending Day.number ds) :
    Grants (·.bare) (ofDays y.number m.number (ds.map Day.number))
      (DatePartition.Clause.ofDays y m ds hne hascends).toOption := by
  unfold DatePartition.Clause.ofDays
  split
  · -- the first day that the month does not have is behind its last one
    next d hfind =>
    have hlate : (ds.map Day.number).any ((Day.lastOf y m).number < ·) = true := by
      have hd := List.find?_some hfind
      rw [List.any_map]
      refine List.any_eq_true.2 ⟨d, List.mem_of_find?_eq_some hfind, ?_⟩
      have hlt : m.lengthIn y < d.number := by simpa [Day.ExistsIn] using hd
      exact decide_eq_true hlt
    rw [ofDays, lastOf_number, lift_ok_bind, if_pos hlate]
    rfl
  · next hfind =>
    have hnone : ¬ (ds.map Day.number).any ((Day.lastOf y m).number < ·) = true := by
      rw [List.any_map, List.any_eq_true]
      rintro ⟨d, hd, hlate⟩
      have hexists : d.ExistsIn y m := by simpa using List.find?_eq_none.1 hfind d hd
      exact Nat.not_lt.2 hexists (of_decide_eq_true hlate)
    rw [ofDays, lastOf_number, lift_ok_bind, if_neg hnone]
    rfl

/-- **Building a clause does not fault**, whatever the lists hold. -/
theorem Clause.build_grants (s : Selection) :
    Grants (·.bare) (build s.bare) (DatePartition.Clause.ofSelection s).toOption := by
  obtain ⟨hmonths, hdays⟩ := ascending_bare s
  unfold DatePartition.Clause.ofSelection
  split
  · -- no days: whole months
    next hnil =>
    rw [hnil] at hdays
    rw [build_of_days_eq_nil hdays, hmonths]
    exact congrArg (fun c => grant (some c))
      (Clause.bare_ofMonths s.year (Month.ascending s.months) _).symm
  · next d ds hcons =>
    rw [hcons] at hdays
    split
    · -- days without a month
      next hnil =>
      rw [hnil] at hmonths
      unfold build
      rw [hmonths, hdays]
      rfl
    · -- days of one month, against which they are checked
      next m hone =>
      rw [hone] at hmonths
      unfold build
      rw [hmonths, hdays]
      exact ofDays_grants s.year m (List.cons_ne_nil d ds) _
    · -- days beside several months
      next m m' ms hmany =>
      rw [hmany] at hmonths
      unfold build
      rw [hmonths, hdays]
      rfl

theorem Predicate.assemble_grants (cs : List DatePartition.Clause) :
    Grants (·.bare) (assemble (cs.map (·.bare)))
      (DatePartition.Predicate.ofClauses cs).toOption := by
  cases cs with
  | nil => rfl
  | cons c cs => rfl

/-! ## JSON -/

/-- A list of values that one decoder takes. -/
def items {α : Type} (item : Reading → Attempt α) : Reading → Attempt (List α)
  | .list rs => rs.mapM item
  | _ => failure

theorem items_grants {α β : Type} {f : α → β} {item : Reading → Attempt β}
    {item' : Reading → Except DecodeError α}
    (h : ∀ r, Grants f (item r) (item' r).toOption) (r : Reading) :
    Grants (List.map f) (items item r) (r.items item').toOption := by
  cases r with
  | list rs => exact Grants.mapM h rs
  | _ => rfl

/-- Reads a clause. -/
def Clause.ofReading (r : Reading) : Attempt Clause := do
  build (← grant ((Selection.ofReading r).toOption.map (·.bare)))

/-- Reads a predicate. -/
def Predicate.ofReading (r : Reading) : Attempt Predicate := do
  assemble (← items Clause.ofReading r)

theorem Clause.ofReading_grants (r : Reading) :
    Grants (·.bare) (ofReading r) (DatePartition.Clause.ofReading r).toOption := by
  have hrequest : Grants (·.bare) (grant ((Selection.ofReading r).toOption.map (·.bare)))
    (Selection.ofReading r).toOption := rfl
  exact hrequest.bind_toOption fun s => (build_grants s).mapError _

theorem Predicate.ofReading_grants (r : Reading) :
    Grants (·.bare) (ofReading r) (DatePartition.Predicate.ofReading r).toOption :=
  (items_grants Clause.ofReading_grants r).bind_toOption fun cs => (assemble_grants cs).mapError _

end Bare

end DatePartition
