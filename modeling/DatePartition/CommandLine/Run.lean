import DatePartition.CommandLine.Arguments
import DatePartition.CommandLine.Config
import DatePartition.CommandLine.Log.Text
import DatePartition.Predicate.Compile

/-!
# A run of the program

A run reads the file with the settings, then the first date, then the last one, compiles the range
and writes the predicate. The first step that fails ends it. What it needs of its surroundings is
given: the contents of files, and the setting for the log.

- `ReadFailure`, `RunError`: why a run fails. For a file that is read but cannot be decoded the
  report ends at its path; a full one would go on with the cause that a reader of TOML gives.
- `Arguments.options`: the settings. An argument goes before the file, and the file before the
  defaults, each setting by itself.
- `Arguments.run`: the log records of a run, and its output or the cause of its failure.
- `Outcome`, `outcome`: what the program shows, for any arguments.
-/

namespace DatePartition

namespace CommandLine

/-! ## Failures -/

/-- Why a file cannot be read. -/
inductive ReadFailure where
  | notFound
  | isDirectory
  | notDirectory
  | nameTooLong
  | other (text : String)
deriving DecidableEq, Repr

/-- The wording of a failure to read. -/
def ReadFailure.message : ReadFailure → String
  | notFound => "No such file or directory (os error 2)"
  | isDirectory => "Is a directory (os error 21)"
  | notDirectory => "Not a directory (os error 20)"
  | nameTooLong => "File name too long (os error 36)"
  | other text => text

/-- Why a run fails. -/
inductive RunError where
  /-- The file with the settings cannot be read. -/
  | unreadableConfig (path : String) (cause : ReadFailure)
  /-- The file with the settings is read but cannot be decoded. The cause in the document is not
  kept. -/
  | invalidConfig (path : String)
  /-- The first date is none. -/
  | firstDate (text : String) (cause : DateError)
  /-- The last date is none. -/
  | lastDate (text : String) (cause : DateError)
  /-- There is no predicate. -/
  | compile (cause : CompileError)
deriving DecidableEq, Repr

/-- The wording of a failed run. It is complete except for `invalidConfig`, where it is only the
beginning of the report: a full report goes on behind the path with a colon and the cause that a
reader of TOML gives. -/
def RunError.message : RunError → String
  | unreadableConfig path cause => "failed to read config " ++ path ++ ": " ++ cause.message
  | invalidConfig path => "failed to parse config " ++ path
  | firstDate text cause => "invalid start date '" ++ text ++ "': " ++ cause.message
  | lastDate text cause => "invalid end date '" ++ text ++ "': " ++ cause.message
  | compile cause => cause.message

/-! ## Running -/

/-- The contents of the files that can be read. -/
abbrev Files := String → Except ReadFailure String

/-- A computation that leaves log records, also if it fails. -/
abbrev Logged := ExceptT RunError (StateM (List Log.Record))

/-- Leaves a log record. -/
def note (record : Log.Record) : Logged Unit := modify (· ++ [record])

/-- Goes on with a result, or fails for a cause. -/
def orFail {ε α : Type} (cause : ε → RunError) : Except ε α → Logged α
  | .ok a => pure a
  | .error e => throw (cause e)

/-- The target of the log records about a run. -/
def logTarget : String := "hive_range"

/-- The settings with those of the arguments in place of their own. -/
def Arguments.overlay (a : Arguments) (options : RenderOptions) : RenderOptions where
  columns :=
    { year := a.yearColumn.getD options.columns.year
      month := a.monthColumn.getD options.columns.month
      day := a.dayColumn.getD options.columns.day }
  layout := if a.singleLine then .singleLine else options.layout

/-- The settings in a file. -/
def loadOptions (files : Files) (path : String) : Logged RenderOptions := do
  note ⟨.debug, logTarget ++ "::config", "loading render options", [("path", path)]⟩
  let text ← orFail (.unreadableConfig path) (files path)
  match RenderOptions.parseToml? text with
  | some options => return options
  | none => throw (.invalidConfig path)

/-- The settings of a run. -/
def Arguments.options (files : Files) (a : Arguments) : Logged RenderOptions := do
  match a.config with
  | none => return a.overlay {}
  | some path => return a.overlay (← loadOptions files path)

/-- The written form of a predicate that a run asks for. -/
def Arguments.write (a : Arguments) (options : RenderOptions) (p : Predicate) : String :=
  if a.json then p.toJson.pretty else p.render options

/-- Runs the program. -/
def Arguments.runLogged (files : Files) (a : Arguments) : Logged String := do
  let options ← a.options files
  let first ← orFail (.firstDate a.first) (Date.parse a.first)
  let last ← orFail (.lastDate a.last) (Date.parse a.last)
  note ⟨.debug, logTarget, "compiling partition predicate",
    [("start", first.text), ("end", last.text)]⟩
  let p ← orFail .compile (DatePartition.compile first last)
  note ⟨.info, logTarget, "predicate compiled",
    [("clauses", String.ofList (Numeral.plain p.clauses.length))]⟩
  return a.write options p

/-- The output of a run or the cause of its failure, and its log records in any case. -/
def Arguments.run (files : Files) (a : Arguments) :
    Except RunError String × List Log.Record :=
  (a.runLogged files).run.run []

/-! ## What the program shows -/

/-- What the program shows. -/
inductive Outcome where
  /-- A run: its output or the cause of its failure, and the log lines that are shown. -/
  | ran (result : Except RunError String) (log : List String)
  | help
  | version
  | misuse

namespace Outcome

/-- The exit code. -/
def code : Outcome → Nat
  | ran (.ok _) _ => 0
  | ran (.error _) _ => 1
  | help => 0
  | version => 0
  | misuse => 2

/-- The name of the program and its version. -/
def versionText : String := "hive-range 0.1.0"

/-- How to use the program. -/
def usage : String :=
  "Usage: hive-range [--json] [--single-line] [-c FILE | --config FILE] [--year-column NAME]\n"
    ++ "                  [--month-column NAME] [--day-column NAME] [-v | --verbose]... START END"

/-- The text on standard output. -/
def output : Outcome → String
  | ran (.ok text) _ => text ++ "\n"
  | ran (.error _) _ => ""
  | help => usage ++ "\n"
  | version => versionText ++ "\n"
  | misuse => ""

/-- The report of a failure, as far as `RunError.message` has it. -/
def error : Outcome → String
  | ran (.error cause) _ => "Error: " ++ cause.message
  | misuse => usage
  | _ => ""

/-- The log lines that are shown. -/
def log : Outcome → List String
  | ran _ lines => lines
  | _ => []

end Outcome

/-- What the program shows for its arguments, the files and the setting for the log. -/
def outcome (files : Files) (logSetting : Option String) (arguments : List String) : Outcome :=
  match Invocation.ofArguments arguments with
  | .run a =>
    let (result, records) := a.run files
    let shown := Log.Filter.choose logTarget a.verbosity logSetting
    .ran result ((records.filter shown.admits).map Log.Record.text)
  | .help => .help
  | .version => .version
  | .misuse => .misuse

end CommandLine

end DatePartition
