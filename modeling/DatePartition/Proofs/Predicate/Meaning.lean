import DatePartition.Proofs.Predicate.Spelling

/-!
# The text of a predicate selects its dates

A written predicate is read by `Condition.parse?` and evaluated in the row of a date. This is
compared with `Predicate.accepts`, which searches the lists of the clauses and sees no text.

- `Clause.condition`, `Predicate.condition`: the expressions that are meant.
- `Clause.spells_chars`, `Predicate.spells_chars`: they are what is written.
- `Columns.Shows`: a row holds the year, the month and the day of a date as they are written.
- `Clause.holds_condition`, `Predicate.holds_condition`: in such a row they hold of the dates that
  are selected.
- `Predicate.render_means_accepts`: **the text is well formed and selects the same dates.**
-/

namespace DatePartition

open Condition

/-! ## What is meant -/

/-- The comparisons of the month and of the day. -/
def Scope.comparisons (columns : Columns) : Scope → List Condition
  | wholeYear => []
  | wholeMonth m => [.equals columns.month.toList m.chars]
  | wholeMonths ms => [.oneOf columns.month.toList (ms.map Month.chars)]
  | daysOf m ds =>
    [.equals columns.month.toList m.chars, .oneOf columns.day.toList (ds.map Day.chars)]

/-- The year and all else that a clause asks for. -/
def Clause.condition (columns : Columns) (c : Clause) : Condition :=
  allOf (.equals columns.year.toList c.year.chars) (c.scope.comparisons columns)

/-- Some clause. -/
def Predicate.condition (columns : Columns) (p : Predicate) : Condition :=
  anyOf ((p.clauses.head p.nonempty).condition columns)
    (p.clauses.tail.map (Clause.condition columns))

variable {columns : Columns} {row : List Char → Option (List Char)} {d : Date}

/-! ## What is written -/

/-- Numerals are no end of a quoted value. -/
theorem quote_not_mem_padded (width n : Nat) : '\'' ∉ Numeral.padded width n := by
  intro h
  exact absurd (Numeral.isDigit_of_mem_padded h) (by decide)

theorem quote_not_mem_map_month {ms : List Month} : ∀ v ∈ ms.map Month.chars, '\'' ∉ v := by
  intro v hv
  obtain ⟨m, -, rfl⟩ := List.mem_map.1 hv
  exact quote_not_mem_padded 2 m.number

theorem quote_not_mem_map_day {ds : List Day} : ∀ v ∈ ds.map Day.chars, '\'' ∉ v := by
  intro v hv
  obtain ⟨d, -, rfl⟩ := List.mem_map.1 hv
  exact quote_not_mem_padded 2 d.number

namespace Columns

theorem ArePlain.year (h : columns.ArePlain) : isPlainName columns.year.toList = true :=
  h.1 _ (by simp)

theorem ArePlain.month (h : columns.ArePlain) : isPlainName columns.month.toList = true :=
  h.1 _ (by simp)

theorem ArePlain.day (h : columns.ArePlain) : isPlainName columns.day.toList = true :=
  h.1 _ (by simp)

end Columns

theorem Scope.spells_conditions (h : columns.ArePlain) {y : Year} {s : Scope} (hfits : s.Fits y) :
    List.Forall₂ (Spells ReadsSimple) (s.conditions columns) (s.comparisons columns) := by
  cases s with
  | wholeYear => exact .nil
  | wholeMonth m => exact .cons (spells_equals h.month (quote_not_mem_padded 2 m.number)) .nil
  | wholeMonths ms =>
    have hne : ms.map Month.chars ≠ [] := fun hnil =>
      hfits.months_ne_nil (List.map_eq_nil_iff.1 hnil)
    exact .cons (spells_oneOf h.month hne quote_not_mem_map_month) .nil
  | daysOf m ds =>
    have hne : ds.map Day.chars ≠ [] := fun hnil => hfits.1 (List.map_eq_nil_iff.1 hnil)
    exact .cons (spells_equals h.month (quote_not_mem_padded 2 m.number))
      (.cons (spells_oneOf h.day hne quote_not_mem_map_day) .nil)

theorem Clause.spells_chars (h : columns.ArePlain) (c : Clause) :
    Spells ReadsSimple (c.chars columns) (c.condition columns) := by
  have hyear := spells_equals h.year (quote_not_mem_padded 4 c.year.number)
  exact (spells_allOf hyear (Scope.spells_conditions h c.fits)).either.group

theorem Predicate.spells_chars {options : RenderOptions} (h : options.columns.ArePlain)
    (p : Predicate) : Spells ReadsEither (p.chars options) (p.condition options.columns) := by
  obtain ⟨clauses, hne⟩ := p
  obtain ⟨c, cs, rfl⟩ := List.exists_cons_of_ne_nil hne
  have hothers : List.Forall₂ (Spells ReadsSimple) (cs.map (Clause.chars options.columns))
      (cs.map (Clause.condition options.columns)) := by
    rw [List.forall₂_map_left_iff, List.forall₂_map_right_iff, List.forall₂_same]
    exact fun b _ => b.spells_chars h
  -- the clauses, joined and in parentheses, are a simple expression: no `and` or `or` follows it
  exact (spells_anyOf options.layout (c.spells_chars h) hothers).group.both.either

/-! ## What holds -/

/-- The row holds the year, the month and the day of the date as they are written. -/
structure Columns.Shows (columns : Columns) (row : List Char → Option (List Char)) (d : Date) :
    Prop where
  year : row columns.year.toList = some d.year.chars
  month : row columns.month.toList = some d.month.chars
  day : row columns.day.toList = some d.day.chars

/-- The row of a date does so, since the columns have different names. -/
theorem Columns.ArePlain.shows_row (h : columns.ArePlain) (d : Date) :
    columns.Shows (columns.row d) d := by
  obtain ⟨-, hym, hyd, hmd⟩ := h
  have hym' : columns.month.toList ≠ columns.year.toList := fun heq =>
    hym (String.toList_inj.1 heq).symm
  have hyd' : columns.day.toList ≠ columns.year.toList := fun heq =>
    hyd (String.toList_inj.1 heq).symm
  have hmd' : columns.day.toList ≠ columns.month.toList := fun heq =>
    hmd (String.toList_inj.1 heq).symm
  -- the names are looked for in this order
  constructor
  · exact if_pos rfl
  · rw [row, if_neg hym', if_pos rfl]
  · rw [row, if_neg hyd', if_neg hmd', if_pos rfl]

/-- Values are equal as they are written only if they are equal. -/
theorem Scope.holds_comparisons (h : columns.Shows row d) (s : Scope) :
    (∀ x ∈ s.comparisons columns, x.Holds row) ↔ s.AdmitsMonth d.month ∧ s.AdmitsDay d.day := by
  cases s with
  | wholeYear => simp [comparisons, AdmitsMonth, AdmitsDay]
  | wholeMonth m => simp [comparisons, AdmitsMonth, AdmitsDay, Holds, h.month]
  | wholeMonths ms => simp [comparisons, AdmitsMonth, AdmitsDay, Holds, h.month]
  | daysOf m ds => simp [comparisons, AdmitsMonth, AdmitsDay, Holds, h.month, h.day]

theorem Clause.holds_condition (h : columns.Shows row d) (c : Clause) :
    (c.condition columns).Holds row ↔ d ∈ c := by
  rw [condition, holds_allOf, List.forall_mem_cons, Scope.holds_comparisons h, mem_def, Holds,
    h.year, Option.some_inj, Year.chars_inj]

theorem Predicate.holds_condition (h : columns.Shows row d) (p : Predicate) :
    (p.condition columns).Holds row ↔ p.accepts d = true := by
  rw [condition, holds_anyOf, accepts_iff, mem_def, ← List.map_cons, List.cons_head_tail]
  simp only [List.mem_map, exists_exists_and_eq_and]
  exact exists_congr fun c => and_congr_right fun _ => c.holds_condition h

/-- **The text of a predicate is well formed and selects its dates**, under any plain names and in
either layout. The default names are plain. -/
theorem Predicate.render_means_accepts :
    ({} : Columns).ArePlain ∧
    ∀ (p : Predicate) (options : RenderOptions), options.columns.ArePlain →
      ∃ x, Condition.parse? (p.render options).toList = some x ∧
        ∀ d : Date, x.Holds (options.columns.row d) ↔ p.accepts d = true := by
  refine ⟨by decide, fun p options h => ⟨p.condition options.columns, ?_, fun d => ?_⟩⟩
  · rw [render, String.toList_ofList]
    exact (p.spells_chars h).parse?_eq
  · exact p.holds_condition (h.shows_row d)

/-- Days of one month and a whole year, under names that are nearly keywords. -/
theorem Predicate.render_means_accepts_two_clauses :
    (⟨"año", "_2", "In_"⟩ : Columns).ArePlain ∧
    ∃ x, Condition.parse? (Predicate.render ⟨⟨"año", "_2", "In_"⟩, .singleLine⟩
        ⟨[⟨.mk 2019, .daysOf (.mk 12) [.mk 30, .mk 31], by decide⟩,
          ⟨.mk 2020, .wholeYear, by decide⟩], by decide⟩).toList = some x ∧
      x.Holds (Columns.row ⟨"año", "_2", "In_"⟩ (.mk (.mk 2019) (.mk 12) (.mk 31))) ∧
      ¬ x.Holds (Columns.row ⟨"año", "_2", "In_"⟩ (.mk (.mk 2019) (.mk 12) (.mk 29))) := by
  have hplain : (⟨"año", "_2", "In_"⟩ : Columns).ArePlain := by decide
  obtain ⟨x, hread, hholds⟩ := Predicate.render_means_accepts.2 _ ⟨_, .singleLine⟩ hplain
  exact ⟨hplain, x, hread, (hholds _).2 (by decide), mt (hholds _).1 (by decide)⟩

end DatePartition
