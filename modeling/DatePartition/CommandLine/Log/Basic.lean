/-!
# Log records and the filter on them

- `Level`, `Record`: a message with its level, its target and its fields.
- `Directive`: how much of a target is shown. A target stands for every target that begins with it;
  a directive can also ask for records with a certain field.
- `Filter`: a list of directives, of which the closest one decides about a record.
-/

namespace DatePartition

namespace Log

/-! ## Records -/

/-- How important a message is. -/
inductive Level where
  | error
  | warn
  | info
  | debug
  | trace
deriving DecidableEq, Repr

namespace Level

/-- The rank of a level: the higher, the less important. -/
def rank : Level → Nat
  | error => 1
  | warn => 2
  | info => 3
  | debug => 4
  | trace => 5

/-- The name of a level in log lines. -/
def name : Level → String
  | error => "ERROR"
  | warn => "WARN"
  | info => "INFO"
  | debug => "DEBUG"
  | trace => "TRACE"

end Level

/-- A message with what it is about. -/
structure Record where
  level : Level
  target : String
  message : String
  fields : List (String × String) := []
deriving DecidableEq, Repr

/-- The log line of a record. -/
def Record.text (r : Record) : String :=
  r.fields.foldl (fun line field => line ++ " " ++ field.1 ++ "=" ++ field.2)
    (r.level.name ++ " " ++ r.target ++ ": " ++ r.message)

/-- The names of the fields of a record. The message is one of them. -/
def Record.fieldNames (r : Record) : List String := "message" :: r.fields.map Prod.fst

/-! ## Filters -/

/-- How much is shown of the records whose target begins with `target` and that have a field
`field`: nothing, or those up to a level. What is not given is not asked for. -/
structure Directive where
  target : Option String
  field : Option String := none
  greatest : Option Level
deriving DecidableEq, Repr

namespace Directive

/-- The directive is about a record. -/
def Covers (d : Directive) (r : Record) : Prop :=
  (∀ start ∈ d.target, start.toList.isPrefixOf r.target.toList) ∧
    ∀ name ∈ d.field, name ∈ r.fieldNames

instance (d : Directive) (r : Record) : Decidable (d.Covers r) :=
  inferInstanceAs (Decidable (_ ∧ _))

/-- How closely a directive names targets. -/
def precision (d : Directive) : Nat :=
  match d.target with
  | none => 0
  | some start => start.utf8ByteSize + 1

/-- The first directive is closer than the second: it names a longer target, or as long a one and
also a field, or a field whose name comes later. -/
def IsCloser (d e : Directive) : Prop :=
  e.precision < d.precision ∨ e.precision = d.precision ∧
    match d.field, e.field with
    | some a, some b => b < a
    | some _, none => True
    | none, _ => False

instance (d e : Directive) : Decidable (d.IsCloser e) := by
  unfold IsCloser
  split <;> infer_instance

/-- The directive lets a record of this level pass. -/
def admits (d : Directive) (level : Level) : Bool :=
  match d.greatest with
  | none => false
  | some greatest => level.rank ≤ greatest.rank

end Directive

/-- Directives in the order in which they were given. -/
structure Filter where
  directives : List Directive
deriving DecidableEq, Repr

namespace Filter

/-- The closer of two directives; of equally close ones the later. -/
def closer (found : Option Directive) (d : Directive) : Option Directive :=
  match found with
  | none => some d
  | some e => if e.IsCloser d then some e else some d

/-- The directive that decides about a record. -/
def deciding? (f : Filter) (r : Record) : Option Directive :=
  (f.directives.filter (·.Covers r)).foldl closer none

/-- The record is shown. Records that no directive is about are not. -/
def admits (f : Filter) (r : Record) : Bool :=
  match f.deciding? r with
  | none => false
  | some d => d.admits r.level

end Filter

end Log

end DatePartition
