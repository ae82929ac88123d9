/-!
# Splitting text

- `fields sep cs`: the parts of a text between the occurrences of a separator. There is always one
  part more than there are separators.
- `breakAt? sep cs`: what precedes and what follows the first occurrence of a character.
- `breakAtDots? cs`: the same for the first two dots in a row.
- `takeWhile_run`, `dropWhile_run`: a run of characters ends where a character of another kind
  stands, or with the text.
-/

namespace DatePartition.Text

/-- The parts of a text between the occurrences of `sep`. -/
def fields (sep : Char) : List Char → List (List Char)
  | [] => [[]]
  | c :: cs =>
    if c = sep then [] :: fields sep cs
    else
      match fields sep cs with
      | [] => [[c]]
      | part :: parts => (c :: part) :: parts

/-- The two sides of the first `sep`. -/
def breakAt? (sep : Char) : List Char → Option (List Char × List Char)
  | [] => none
  | c :: cs =>
    if c = sep then some ([], cs)
    else (breakAt? sep cs).map fun sides => (c :: sides.1, sides.2)

/-- The two sides of the first two dots in a row. -/
def breakAtDots? : List Char → Option (List Char × List Char)
  | '.' :: '.' :: cs => some ([], cs)
  | c :: cs => (breakAtDots? cs).map fun sides => (c :: sides.1, sides.2)
  | [] => none

/-- There is one part more than there are separators. -/
theorem length_fields (sep : Char) (cs : List Char) :
    (fields sep cs).length = cs.count sep + 1 := by
  induction cs with
  | nil => rfl
  | cons c cs ih =>
    by_cases h : c = sep
    · simp [fields, h, ih]
    · cases hf : fields sep cs with
      | nil => simp [hf] at ih
      | cons part parts => simpa [fields, h, hf] using ih

/-- A text without the separator is its only part. -/
theorem fields_eq_singleton {sep : Char} {cs : List Char} (h : sep ∉ cs) :
    fields sep cs = [cs] := by
  induction cs with
  | nil => rfl
  | cons c cs ih =>
    have hc : c ≠ sep := fun e => h (by simp [e])
    have hcs : sep ∉ cs := fun m => h (by simp [m])
    simp [fields, hc, ih hcs]

/-- The first part ends at the first separator. -/
theorem fields_append_cons {sep : Char} {part : List Char} (cs : List Char) (h : sep ∉ part) :
    fields sep (part ++ sep :: cs) = part :: fields sep cs := by
  induction part with
  | nil => simp [fields]
  | cons c part ih =>
    have hc : c ≠ sep := fun e => h (by simp [e])
    have hp : sep ∉ part := fun m => h (by simp [m])
    simp [fields, hc, ih hp]

/-- The dots are found behind a text that has no dot. -/
theorem breakAtDots?_append {part : List Char} (cs : List Char) (h : '.' ∉ part) :
    breakAtDots? (part ++ '.' :: '.' :: cs) = some (part, cs) := by
  induction part with
  | nil => rfl
  | cons c part ih =>
    have hc : c ≠ '.' := fun e => h (by simp [e])
    have hp : '.' ∉ part := fun m => h (by simp [m])
    simp [breakAtDots?, hc, ih hp]

/-- A text without a dot has no two in a row. -/
theorem breakAtDots?_eq_none {cs : List Char} (h : '.' ∉ cs) : breakAtDots? cs = none := by
  induction cs with
  | nil => rfl
  | cons c cs ih =>
    have hc : c ≠ '.' := fun e => h (by simp [e])
    have hcs : '.' ∉ cs := fun m => h (by simp [m])
    simp [breakAtDots?, hc, ih hcs]

/-! ## Runs -/

section

variable {kind : Char → Bool} {run rest : List Char}

/-- A run ends where a character of another kind stands. -/
theorem takeWhile_run (hrun : ∀ c ∈ run, kind c = true)
    (hrest : ∀ c, rest.head? = some c → kind c = false) :
    (run ++ rest).takeWhile kind = run := by
  rw [List.takeWhile_append_of_pos hrun]
  cases rest with
  | nil => rw [List.takeWhile_nil, List.append_nil]
  | cons c rest => simp [hrest c rfl]

/-- Behind a run stands what does not belong to it. -/
theorem dropWhile_run (hrun : ∀ c ∈ run, kind c = true)
    (hrest : ∀ c, rest.head? = some c → kind c = false) :
    (run ++ rest).dropWhile kind = rest := by
  rw [List.dropWhile_append_of_pos hrun]
  cases rest with
  | nil => rfl
  | cons c rest => simp [hrest c rfl]

end

end DatePartition.Text
