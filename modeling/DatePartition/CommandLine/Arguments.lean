/-!
# Command-line arguments

- `Arguments`: what a run is asked to do.
- `Invocation`: a run, a request for help or for the version, or a misuse.
- `Invocation.ofArguments`: reads arguments from left to right. Options may stand anywhere before
  `--`. Help and version take effect where they stand, so a mistake before them comes first and one
  after them is not seen.
-/

namespace DatePartition

namespace CommandLine

/-- What a run is asked to do. -/
structure Arguments where
  /-- The text of the first date. -/
  first : String
  /-- The text of the last date. -/
  last : String
  /-- Write JSON instead of a boolean expression. -/
  json : Bool := false
  /-- Join clauses on one line. -/
  singleLine : Bool := false
  /-- The path of a file with settings. -/
  config : Option String := none
  yearColumn : Option String := none
  monthColumn : Option String := none
  dayColumn : Option String := none
  /-- The number of verbosity flags. -/
  verbosity : Nat := 0
deriving DecidableEq, Repr

/-- What the arguments stand for. -/
inductive Invocation where
  | run (arguments : Arguments)
  | help
  | version
  | misuse
deriving DecidableEq, Repr

/-! ## Options -/

/-- An option without a value. -/
inductive Switch where
  | json
  | singleLine
  | verbose
  | help
  | version
deriving DecidableEq, Repr

/-- An option with a value. -/
inductive Setting where
  | config
  | yearColumn
  | monthColumn
  | dayColumn
deriving DecidableEq, Repr

/-- An option. -/
inductive Flag where
  | switch (s : Switch)
  | setting (s : Setting)
deriving DecidableEq, Repr

/-- The options by their names after two hyphens. -/
def longFlags : List (String × Flag) :=
  [("json", .switch .json), ("single-line", .switch .singleLine), ("verbose", .switch .verbose),
   ("help", .switch .help), ("version", .switch .version), ("config", .setting .config),
   ("year-column", .setting .yearColumn), ("month-column", .setting .monthColumn),
   ("day-column", .setting .dayColumn)]

/-- The options by their letters after one hyphen. -/
def shortFlags : List (Char × Flag) :=
  [('v', .switch .verbose), ('h', .switch .help), ('V', .switch .version), ('c', .setting .config)]

/-! ## Reading -/

/-- What is known after some of the arguments. -/
structure Progress where
  json : Bool := false
  singleLine : Bool := false
  verbosity : Nat := 0
  config : Option String := none
  yearColumn : Option String := none
  monthColumn : Option String := none
  dayColumn : Option String := none
  /-- The arguments that are no options, in their order. -/
  dates : List String := []
  /-- The option whose value comes next. -/
  awaiting : Option Setting := none
  /-- No further argument is an option. -/
  optionsEnded : Bool := false

namespace Progress

/-- The arguments so far, or what they stand for regardless of the rest. -/
abbrev Step := Except Invocation Progress

/-- Turns a switch on. Only verbosity may be asked for twice. -/
def turnOn (p : Progress) : Switch → Step
  | .json => if p.json then .error .misuse else .ok { p with json := true }
  | .singleLine => if p.singleLine then .error .misuse else .ok { p with singleLine := true }
  | .verbose => .ok { p with verbosity := p.verbosity + 1 }
  | .help => .error .help
  | .version => .error .version

/-- Gives an option its value. No option has two, and a path is not empty. -/
def assign (p : Progress) (setting : Setting) (value : List Char) : Step :=
  let p := { p with awaiting := none }
  let text := String.ofList value
  match setting with
  | .config =>
    if p.config.isSome ∨ value = [] then .error .misuse else .ok { p with config := some text }
  | .yearColumn =>
    if p.yearColumn.isSome then .error .misuse else .ok { p with yearColumn := some text }
  | .monthColumn =>
    if p.monthColumn.isSome then .error .misuse else .ok { p with monthColumn := some text }
  | .dayColumn =>
    if p.dayColumn.isSome then .error .misuse else .ok { p with dayColumn := some text }

/-- Takes an argument that is no option. There are two of them at most. -/
def addDate (p : Progress) (value : List Char) : Step :=
  if p.dates.length < 2 then .ok { p with dates := p.dates ++ [String.ofList value] }
  else .error .misuse

/-- The name and the value of an option that has its value attached. -/
def splitValue (cs : List Char) : List Char × Option (List Char) :=
  match cs.dropWhile (· ≠ '=') with
  | [] => (cs, none)
  | _ :: value => (cs.takeWhile (· ≠ '='), some value)

/-- Takes an option by its name, which follows two hyphens. -/
def takeLong (p : Progress) (cs : List Char) : Step :=
  let (name, value) := splitValue cs
  match longFlags.lookup (String.ofList name), value with
  | some (.switch s), none => p.turnOn s
  | some (.setting s), none => .ok { p with awaiting := some s }
  | some (.setting s), some value => p.assign s value
  | some (.switch _), some _ => .error .misuse
  | none, _ => .error .misuse

/-- Takes options by their letters, which follow one hyphen. What follows the letter of an option
with a value is that value. -/
def takeShort (p : Progress) : List Char → Step
  | [] => .ok p
  | c :: cs =>
    match shortFlags.lookup c with
    | some (.switch s) => do (← p.turnOn s).takeShort cs
    | some (.setting s) =>
      match cs with
      | [] => .ok { p with awaiting := some s }
      | '=' :: value => p.assign s value
      | value => p.assign s value
    | none => .error .misuse

/-- Takes an argument. A value that is awaited may be a single hyphen, but begin with none. -/
def take (p : Progress) (argument : List Char) : Step :=
  if p.optionsEnded then p.addDate argument
  else
    match argument, p.awaiting with
    | ['-'], some s => p.assign s ['-']
    | ['-'], none => p.addDate ['-']
    | '-' :: _, some _ => .error .misuse
    | value, some s => p.assign s value
    | ['-', '-'], none => .ok { p with optionsEnded := true }
    | '-' :: '-' :: cs, none => p.takeLong cs
    | '-' :: cs, none => p.takeShort cs
    | value, none => p.addDate value

/-- The arguments as a whole. -/
def finish (p : Progress) : Invocation :=
  match p.awaiting, p.dates with
  | none, [first, last] =>
    .run ⟨first, last, p.json, p.singleLine, p.config, p.yearColumn, p.monthColumn, p.dayColumn,
      p.verbosity⟩
  | _, _ => .misuse

end Progress

/-- What the arguments stand for. -/
def Invocation.ofArguments (arguments : List String) : Invocation :=
  match arguments.foldlM (fun p a => Progress.take p a.toList) ({} : Progress) with
  | .ok p => p.finish
  | .error invocation => invocation

end CommandLine

end DatePartition
