import DatePartition.Proofs.Bare.Calendar
import DatePartition.Range.Text
import DatePartition.Json.Codec

/-!
# Ranges as bare numbers

Ranges that are two dates in numbers, without the proof that they are in order.

- `Range`, `Range.Valid`: two dates, and those that are days of the calendar in order.
- `DatePartition.DateRange.bare`: the numbers of a range. They are valid.
- `Range.take n r`: the first `n` dates of a range. Each date is looked up while the one before it
  is handed out, also where the enumeration stops.
- `decode`: reads a value from a JSON text.
- `Range.ofBounds_grants`, `Range.ofChars_grants`, `Range.take_eq`, `decode_grants`: **none of this
  faults**, and it comes to what the functions for ranges give.
-/

namespace DatePartition

namespace Bare

/-- Two dates that need not be in order. -/
structure Range where
  first : Date
  last : Date
deriving DecidableEq, Repr

end Bare

/-- The numbers of a range. -/
def DateRange.bare (r : DateRange) : Bare.Range := ⟨r.first.bare, r.last.bare⟩

namespace Bare

namespace Range

/-- The bounds are days of the calendar, and in order. -/
def Valid (r : Range) : Prop := r.first.Valid ∧ r.last.Valid ∧ r.first ≤ r.last

theorem valid_bare (r : DateRange) : r.bare.Valid :=
  ⟨Date.valid_bare r.first, Date.valid_bare r.last, r.first_le_last⟩

/-! ## Construction -/

/-- The range between two dates, unless they are reversed. -/
def ofBounds (first last : Date) : Attempt Range :=
  if first ≤ last then pure ⟨first, last⟩ else failure

/-- The range of one date. -/
def day (d : Date) : Range := ⟨d, d⟩

/-- Reads a range in either form. -/
def ofChars (cs : List Char) : Attempt Range := do
  let (first, last) ← grant (DateRange.boundTexts cs).toOption
  let first ← Date.ofChars first
  let last ← Date.ofChars last
  ofBounds first last

/-- Reads a range in either form. -/
def parse (s : String) : Attempt Range := ofChars s.toList

theorem ofBounds_grants (first last : DatePartition.Date) :
    Grants (·.bare) (ofBounds first.bare last.bare)
      (DateRange.ofBounds first last).toOption := by
  unfold ofBounds DateRange.ofBounds
  by_cases h : first ≤ last
  · rw [if_pos (Date.bare_le.2 h), dif_pos h]
    rfl
  · rw [if_neg (mt Date.bare_le.1 h), dif_neg h]
    rfl

theorem ofChars_grants (cs : List Char) :
    Grants (·.bare) (ofChars cs) (DateRange.ofChars cs).toOption := by
  refine (Grants.self _).bind_toOption fun sides => ?_
  refine ((Date.ofChars_grants sides.1).mapError _).bind_toOption fun first => ?_
  refine ((Date.ofChars_grants sides.2).mapError _).bind_toOption fun last => ?_
  exact (ofBounds_grants first last).mapError _

/-! ## Enumeration -/

/-- At most `n` dates, from one on and up to `last`. -/
def walk (last : Date) : Nat → Option Date → Checked (List Date)
  | 0, _ => .ok []
  | _ + 1, none => .ok []
  | n + 1, some d => do
    let next ← d.next?.run
    let rest ← walk last n (next.filter (· ≤ last))
    return d :: rest

/-- The first `n` dates of a range. -/
def take (n : Nat) (r : Range) : Checked (List Date) := walk r.last n (some r.first)

end Range

end Bare

namespace Date

theorem pushFollowing_append (keep : Date → Bool) (n : Nat) (d : Date) (seen : List Date) :
    pushFollowing keep n d seen = pushFollowing keep n d [] ++ seen := by
  induction n generalizing d seen with
  | zero => rfl
  | succ n ih =>
    unfold pushFollowing
    split
    · rfl
    · next e _ =>
      split
      · rw [ih e (e :: seen), ih e [e], List.append_assoc]
        rfl
      · rfl

/-- What is collected behind a date begins with the day after it. -/
theorem reverse_pushFollowing_succ {keep : Date → Bool} {n : Nat} {d e : Date}
    (h : d.next? = some e) :
    (pushFollowing keep (n + 1) d []).reverse
      = if keep e then e :: (pushFollowing keep n e []).reverse else [] := by
  rw [pushFollowing, h]
  show (if keep e then pushFollowing keep n e [e] else []).reverse = _
  split
  · rw [pushFollowing_append, List.reverse_append]
    rfl
  · rfl

end Date

namespace Bare

namespace Range

/-- The walk hands out a date and then what the enumeration of dates collects behind it. -/
theorem walk_eq (last d : DatePartition.Date) (n : Nat) :
    walk last.bare (n + 1) (some d.bare)
      = .ok ((d :: (DatePartition.Date.pushFollowing (fun e => decide (e ≤ last)) n d
          []).reverse).map (·.bare)) := by
  induction n generalizing d with
  | zero =>
    rw [walk, (Date.next?_grants d).run_eq]
    rfl
  | succ n ih =>
    rw [walk, (Date.next?_grants d).run_eq]
    cases hnext : d.next? with
    | none =>
      rw [DatePartition.Date.pushFollowing, hnext]
      rfl
    | some e =>
      rw [DatePartition.Date.reverse_pushFollowing_succ hnext]
      show (walk last.bare (n + 1) ((some e.bare).filter (· ≤ last.bare)) >>= _) = _
      by_cases he : e ≤ last
      · -- the walk goes on from the next date
        have hkeep : (some e.bare).filter (· ≤ last.bare) = some e.bare :=
          Option.filter_some_pos (decide_eq_true (Date.bare_le.2 he))
        rw [hkeep, ih e, if_pos (decide_eq_true he)]
        rfl
      · -- the next date lies behind the range
        have hdrop : (some e.bare).filter (· ≤ last.bare) = none :=
          Option.filter_some_neg (by simpa using mt Date.bare_le.1 he)
        rw [hdrop, if_neg (by simpa using he)]
        rfl

theorem take_eq (r : DateRange) (n : Nat) : r.bare.take n = .ok ((r.take n).map (·.bare)) := by
  cases n with
  | zero => rfl
  | succ n =>
    have hrest := DatePartition.Date.pushFollowing_append (fun e => decide (e ≤ r.last)) n r.first
      [r.first]
    show walk r.last.bare (n + 1) (some r.first.bare) = _
    rw [walk_eq, DateRange.take, hrest, List.reverse_append]
    rfl

end Range

/-! ## JSON -/

/-- Decodes a whole text. Only blanks may follow the value. -/
def decode {α : Type} (value : Reading → Attempt α) (s : String) : Attempt α := do
  let (r, rest) := Reading.ofChars s.toList
  let a ← value r
  if rest.all Json.Token.isBlank then return a else failure

theorem decode_grants {α β : Type} {f : α → β} {value : Reading → Attempt β}
    {value' : Reading → Except DecodeError α}
    (h : ∀ r, Grants f (value r) (value' r).toOption) (s : String) :
    Grants f (decode value s) (Json.decode value' s).toOption :=
  (h _).bind_toOption fun a => .ite (.pure f a) (.failure f)

/-- Reads a date. -/
def Date.ofReading (r : Reading) : Attempt Date := do
  parse (← grant (r.string "a string").toOption)

/-- Reads a range. -/
def Range.ofReading (r : Reading) : Attempt Range := do
  parse (← grant (r.string "a string").toOption)

theorem Date.ofReading_grants (r : Reading) :
    Grants (·.bare) (ofReading r) (DatePartition.Date.ofReading r).toOption :=
  (Grants.self _).bind_toOption fun s => (parse_grants s).mapError _

theorem Range.ofReading_grants (r : Reading) :
    Grants (·.bare) (ofReading r) (DateRange.ofReading r).toOption :=
  (Grants.self _).bind_toOption fun s => (ofChars_grants s.toList).mapError _

end Bare

end DatePartition
