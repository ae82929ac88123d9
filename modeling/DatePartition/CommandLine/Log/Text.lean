import DatePartition.CommandLine.Log.Basic
import DatePartition.CommandLine.Log.Pattern
import DatePartition.Text.Fields

/-!
# The text of a filter

Directives stand between commas, each a level, a target or `target=level`. After the target there
may be a span in brackets, with a name or with a field in braces, of which a value may be asked for:
`target[span{field=value}]=level`.

- `Directive.parse?`: reads a directive. It is not kept if it asks for a span by its name or for a
  value, since there are no spans and values are looked at in spans only.
- `Filter.parse?`: reads a filter.
- `Filter.choose`: the filter of a run. A readable setting replaces the number of verbosity flags.
-/

namespace DatePartition

namespace Log

/-! ## Levels -/

/-- The names of the levels, and of showing nothing. -/
def levelNames : List (String × Option Level) :=
  [("off", none), ("error", some .error), ("warn", some .warn), ("info", some .info),
   ("debug", some .debug), ("trace", some .trace)]

/-- Reads a level by its name in any case, or by its rank, of which zero shows nothing. -/
def level? (cs : List Char) : Option (Option Level) :=
  match (Numeral.read? 5 cs).bind fun n => levelNames[n]? with
  | some entry => some entry.2
  | none => levelNames.lookup (String.ofList (cs.map Char.toLower))

/-- Reads the level after a target. If nothing is written, everything is shown. -/
def levelAfterTarget? (cs : List Char) : Option (Option Level) :=
  if cs = [] then some (some .trace) else level? cs

/-! ## Values -/

/-- One or more digits, maybe with a point among them. -/
def isMantissa (cs : List Char) : Bool :=
  decide (Numeral.IsDigits (cs.filter (· ≠ '.'))) && cs.count '.' ≤ 1

/-- An exponent with its mark, or nothing. -/
def isExponent : List Char → Bool
  | [] => true
  | _ :: '+' :: digits => decide (Numeral.IsDigits digits)
  | _ :: '-' :: digits => decide (Numeral.IsDigits digits)
  | _ :: digits => decide (Numeral.IsDigits digits)

/-- A number without a sign. -/
def isUnsignedNumber (cs : List Char) : Bool :=
  let isMark (c : Char) : Bool := c = 'e' || c = 'E'
  if String.ofList (cs.map Char.toLower) ∈ ["inf", "infinity", "nan"] then true
  else isMantissa (cs.takeWhile (!isMark ·)) && isExponent (cs.dropWhile (!isMark ·))

/-- A value that a directive can ask for: a pattern, or a number. Without a plus sign, every number
is a pattern too. -/
def isValue : List Char → Bool
  | '+' :: cs => isUnsignedNumber cs
  | cs => Pattern.IsUsable cs

/-! ## Directives -/

/-- How long a text is in bytes. -/
def byteCount (cs : List Char) : Nat := cs.foldl (fun n c => n + c.utf8Size) 0

/-- The text from a byte on, unless the byte is inside a character. -/
def dropBytes? : Nat → List Char → Option (List Char)
  | 0, cs => some cs
  | _ + 1, [] => some []
  | n + 1, c :: cs => if c.utf8Size ≤ n + 1 then dropBytes? (n + 1 - c.utf8Size) cs else none

/-- The text up to a byte, unless the byte is inside a character. -/
def takeBytes? : Nat → List Char → Option (List Char)
  | 0, _ => some []
  | _ + 1, [] => some []
  | n + 1, c :: cs =>
    if c.utf8Size ≤ n + 1 then (takeBytes? (n + 1 - c.utf8Size) cs).map (c :: ·) else none

/-- A character that a directive can begin with. -/
def canStart (c : Char) : Bool := c = '-' || c = ':' || c = '_' || Text.isLetterOrNumber c

/-- The parts of a directive as they are written. -/
structure Written where
  target : Option (List Char) := none
  /-- A span is asked for by its name. -/
  hasSpan : Bool := false
  /-- What stands between braces. -/
  field : Option (List Char) := none
  /-- What stands after the equals sign. -/
  level : Option (List Char) := none

namespace Written

/-- Takes the part of a directive that stands after `before`. The blanks around a directive are left
out to find its parts, but the bytes before a part are counted from where the blanks begin. -/
def cut? (cs before part : List Char) : Option (List Char) := do
  takeBytes? (byteCount part) (← dropBytes? (byteCount before) cs)

/-- Reads what may follow a target with a span: a level. -/
def readLevel? (cs before : List Char) (w : Written) : List Char → Option Written
  | [] => some w
  | '=' :: _ => do return { w with level := some (← dropBytes? (byteCount before + 1) cs) }
  | _ => none

/-- Reads a span after its opening bracket. -/
def readSpan? (cs before : List Char) (w : Written) (rest : List Char) : Option Written :=
  let name := rest.takeWhile fun c => c ≠ ']' ∧ c ≠ '\x7b'
  match rest.drop name.length with
  | ']' :: after => readLevel? cs (before ++ name ++ [']']) { w with hasSpan := true } after
  | '\x7b' :: inner => do
    let field := inner.takeWhile (· ≠ '\x7d')
    let before := before ++ name ++ ['\x7b']
    let text ← cut? cs before field
    match inner.drop field.length with
    | '\x7d' :: ']' :: after =>
      readLevel? cs (before ++ field ++ ['\x7d', ']'])
        { w with hasSpan := name ≠ [], field := some text } after
    | _ => none
  | _ => none

/-- The parts of a directive. -/
def ofChars? (cs : List Char) : Option Written :=
  let trimmed := Text.trim cs
  match trimmed with
  | [] => none
  | '[' :: rest => readSpan? cs ['['] {} rest
  | c :: _ =>
    if !canStart c then none
    else
      let target := trimmed.takeWhile fun c => c ≠ '=' ∧ c ≠ '['
      match trimmed.drop target.length with
      | [] => some { target := some cs }
      | rest => do
        let w : Written := { target := some (← cut? cs [] target) }
        match rest with
        | '[' :: rest => readSpan? cs (target ++ ['[']) w rest
        | rest => readLevel? cs target w rest

end Written

/-- The name and the value of a field that is asked for. What follows a second equals sign is not
looked at. -/
def fieldParts (cs : List Char) : List Char × Option (List Char) :=
  match Text.fields '=' cs with
  | name :: value :: _ => (name, some value)
  | _ => (cs, none)

namespace Directive

/-- A directive with its parts, if it can ever decide about a record. -/
def ofWritten? (w : Written) : Option (Option Directive) := do
  let target := w.target.map String.ofList
  match w.field with
  | none =>
    match w.level, w.hasSpan, w.target.bind level? with
    | none, false, some greatest => return some ⟨none, none, greatest⟩
    | level, hasSpan, _ =>
      let greatest ← levelAfterTarget? (level.getD [])
      return if hasSpan then none else some ⟨target, none, greatest⟩
  | some [] => none
  | some cs =>
    let greatest ← levelAfterTarget? (w.level.getD [])
    let (name, value) := fieldParts cs
    match value with
    | none => return if w.hasSpan then none else some ⟨target, some (String.ofList name), greatest⟩
    | some value => if isValue value then return none else none

/-- Reads a directive. Some are readable but can never decide. -/
def parse? (cs : List Char) : Option (Option Directive) := do ofWritten? (← Written.ofChars? cs)

end Directive

/-! ## Filters -/

namespace Filter

/-- Reads directives between commas. Empty ones are passed over. -/
def parse? (s : String) : Option Filter := do
  let ds ← ((Text.fields ',' s.toList).filter (· ≠ [])).mapM Directive.parse?
  return ⟨ds.filterMap id⟩

/-- The filter for a number of verbosity flags. -/
def ofVerbosity (target : String) : Nat → Filter
  | 0 => ⟨[⟨some target, none, some .warn⟩]⟩
  | 1 => ⟨[⟨some target, none, some .info⟩]⟩
  | 2 => ⟨[⟨some target, none, some .debug⟩]⟩
  | _ => ⟨[⟨some target, none, some .trace⟩]⟩

/-- The filter of a run. A setting that can be read replaces the verbosity flags. -/
def choose (target : String) (verbosity : Nat) (setting : Option String) : Filter :=
  match setting.bind parse? with
  | some f => f
  | none => ofVerbosity target verbosity

end Filter

end Log

end DatePartition
