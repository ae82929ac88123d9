import DatePartition.Json.Error

/-!
# Taking values out of JSON text

Decoders look at a `Reading` from left to right and stop at the first problem, whether it is a
defect of the text or a value that does not fit.

- `Reading.natural`, `Reading.string`, `Reading.items`, `Reading.nothing`, `Reading.choice`: the
  simple kinds of values.
- `Slot`, `Reading.record`: an object with named fields, or a list of the same fields in order.
- `Json.decode`: the whole text, which must end after the value.
-/

namespace DatePartition

namespace Reading

/-- The refusal of a value where another kind is expected. A defect is reported as such. -/
def unexpected {α : Type} (expected : String) : Reading → Except DecodeError α
  | null => .error (.wrongType .null expected)
  | bool b => .error (.wrongType (.bool b) expected)
  | number n => .error (.wrongType (.number n) expected)
  | text s => .error (.wrongType (.text s) expected)
  | list _ => .error (.wrongType .list expected)
  | object _ => .error (.wrongType .object expected)
  | broken => .error .malformed

/-! ## Simple values -/

/-- An integer from zero to `greatest`. -/
def natural (greatest : Nat) (expected : String) : Reading → Except DecodeError Nat
  | number (.natural n) =>
    if n ≤ greatest then .ok n else .error (.outOfRange (.natural n) expected)
  | number (.negative n) => .error (.outOfRange (.negative n) expected)
  | r => r.unexpected expected

/-- A text. -/
def string (expected : String) : Reading → Except DecodeError String
  | text s => .ok s
  | r => r.unexpected expected

/-- A list of values that one decoder takes. -/
def items {α : Type} (item : Reading → Except DecodeError α) :
    Reading → Except DecodeError (List α)
  | list rs => rs.mapM item
  | r => r.unexpected "a sequence"

/-- A value or `null`. -/
def optional {α : Type} (value : Reading → Except DecodeError α) :
    Reading → Except DecodeError (Option α)
  | null => .ok none
  | r => (value r).map some

/-- No value. -/
def nothing : Reading → Except DecodeError Unit
  | null => .ok ()
  | r => r.unexpected "unit"

/-- The value that a name stands for. -/
def named {α : Type} (choices : List (String × α)) (name : String) : Except DecodeError α :=
  match choices.lookup name with
  | some a => .ok a
  | none => .error (.unknownVariant name (choices.map Prod.fst))

/-- One of several names, alone or as the only key of an object that gives it no value. -/
def choice {α : Type} (choices : List (String × α)) : Reading → Except DecodeError α
  | text s => named choices s
  | object ((some name, value) :: fields) => do
    let a ← named choices name
    value.nothing
    if fields.isEmpty then .ok a else .error .malformed
  | _ => .error .malformed

/-! ## Records -/

end Reading

/-- A field of a record that is filled step by step. -/
structure Slot (σ : Type) where
  name : String
  /-- The field was read before. -/
  isFilled : σ → Bool
  /-- Reads the value of the field. -/
  fill : σ → Reading → Except DecodeError σ

namespace Reading

variable {σ : Type}

/-- Reads the fields of an object in any order. A key is judged before its value is looked at. -/
def fillFields (slots : List (Slot σ)) (s : σ) :
    List (Option String × Reading) → Except DecodeError σ
  | [] => .ok s
  | (some name, value) :: fields =>
    match slots.find? fun slot => slot.name = name with
    | none => .error (.unknownField name (slots.map Slot.name))
    | some slot =>
      if slot.isFilled s then .error (.duplicateField name)
      else do fillFields slots (← slot.fill s value) fields
  | _ :: _ => .error .malformed

/-- Reads the leading fields from a list. A list longer than the fields is refused. -/
def fillItems (s : σ) : List (Slot σ) → List Reading → Except DecodeError σ
  | _, [] => .ok s
  | [], _ :: _ => .error .malformed
  | slot :: slots, item :: items => do fillItems (← slot.fill s item) slots items

/-- Reads a record from an object or from a list of its fields in order. The last step sees whether
it was an object. -/
def record {α : Type} (expected : String) (slots : List (Slot σ)) (start : σ)
    (finish : Bool → σ → Except DecodeError α) : Reading → Except DecodeError α
  | object fields => do finish true (← fillFields slots start fields)
  | list items => do finish false (← fillItems start slots items)
  | r => r.unexpected expected

end Reading

/-- Decodes a whole text. Only blanks may follow the value. -/
def Json.decode {α : Type} (value : Reading → Except DecodeError α) (s : String) :
    Except DecodeError α := do
  let (r, rest) := Reading.ofChars s.toList
  let a ← value r
  if rest.all Token.isBlank then return a else throw .malformed

end DatePartition
