import DatePartition.CommandLine.Run

/-!
# The program does what the library does

A run takes the steps of `compileTexts` by itself, behind the settings and with log records between
them. Nothing of the log reaches the result, and the steps come to the same.

- `Logged.Yields`: what a computation comes to, whatever was logged before. Its lemmas carry a plain
  computation along a logged one.
- `Arguments.settings`: the settings of a run, or why they cannot be found.
- `Arguments.blame`: which date is named in front of a report.
- `Arguments.run_result`: a run is its settings and then its dates.
- `outcome_of_run`: **a run succeeds exactly if its settings are found and its dates compile**, and
  otherwise reports the first step that fails. The wording is complete for the dates and for
  compiling; for settings that cannot be decoded it is only the beginning of the report.
-/

namespace DatePartition

namespace CommandLine

/-! ## Without the log -/

variable {α β ε : Type}

/-- The computation comes to this result, whatever was logged before. -/
def Logged.Yields (x : Logged α) (result : Except RunError α) : Prop :=
  ∀ log, (x.run.run log).1 = result

namespace Logged

theorem yields_pure (a : α) : (pure a : Logged α).Yields (.ok a) := fun _ => rfl

theorem yields_throw (e : RunError) : (throw e : Logged α).Yields (.error e) := fun _ => rfl

/-- A record goes to the log only. -/
theorem Yields.after_note {x : Logged α} {r : Except RunError α} (hx : x.Yields r)
    (record : Log.Record) : (do note record; x).Yields r :=
  fun log => hx (log ++ [record])

theorem yields_orFail (cause : ε → RunError) (r : Except ε α) :
    (orFail cause r).Yields (r.mapError cause) := by
  cases r with
  | ok a => exact yields_pure a
  | error e => exact yields_throw (cause e)

/-- What is done with a result is done with the result of the plain computation. -/
theorem Yields.bind {x : Logged α} {f : α → Logged β} {r : Except RunError α}
    {g : α → Except RunError β} (hx : x.Yields r) (hf : ∀ a, (f a).Yields (g a)) :
    (x >>= f).Yields (r >>= g) := by
  intro log
  have hrun := hx log
  rw [ExceptT.run_bind, StateT.run_bind]
  generalize x.run.run log = step at hrun ⊢
  obtain ⟨result, log'⟩ := step
  cases hrun
  cases result with
  | ok a => exact hf a log'
  | error e => rfl

end Logged

open Logged

/-! ## Settings -/

namespace Arguments

/-- The settings in a file, which has to be readable. -/
def fileSettings (files : Files) (path : String) : Except RunError RenderOptions := do
  let text ← (files path).mapError (.unreadableConfig path)
  match RenderOptions.parseToml? text with
  | some options => .ok options
  | none => .error (.invalidConfig path)

/-- The settings of a run, with those of the arguments in place. -/
def settings (files : Files) (a : Arguments) : Except RunError RenderOptions :=
  match a.config with
  | none => .ok (a.overlay {})
  | some path => do return a.overlay (← fileSettings files path)

theorem yields_loadOptions (files : Files) (path : String) :
    (loadOptions files path).Yields (fileSettings files path) := by
  unfold loadOptions fileSettings
  refine .after_note ((yields_orFail _ _).bind fun text => ?_) _
  cases RenderOptions.parseToml? text with
  | some options => exact yields_pure options
  | none => exact yields_throw _

theorem yields_options (files : Files) (a : Arguments) :
    (a.options files).Yields (a.settings files) := by
  unfold options settings
  cases a.config with
  | none => exact yields_pure _
  | some path => exact (yields_loadOptions files path).bind fun options => yields_pure _

/-! ## Dates -/

/-- The predicate of a run, or the first step that fails. -/
def predicate (a : Arguments) : Except RunError Predicate := do
  let first ← (Date.parse a.first).mapError (.firstDate a.first)
  let last ← (Date.parse a.last).mapError (.lastDate a.last)
  (DatePartition.compile first last).mapError .compile

/-- What a report names in front of the cause why the dates do not compile. -/
def blame (a : Arguments) : String :=
  match Date.parse a.first, Date.parse a.last with
  | .error _, _ => "invalid start date '" ++ a.first ++ "': "
  | .ok _, .error _ => "invalid end date '" ++ a.last ++ "': "
  | .ok _, .ok _ => ""

/-- The dates of a run give what their texts compile to, and fail for the same cause. -/
theorem predicate_cases (a : Arguments) :
    (∃ p, compileTexts a.first a.last = .ok p ∧ a.predicate = .ok p) ∨
      (∃ e cause, compileTexts a.first a.last = .error e ∧ a.predicate = .error cause ∧
        cause.message = a.blame ++ e.message) := by
  unfold compileTexts predicate blame
  cases Date.parse a.first with
  | error e => exact .inr ⟨.date e, .firstDate a.first e, rfl, rfl, rfl⟩
  | ok first =>
    cases Date.parse a.last with
    | error e => exact .inr ⟨.date e, .lastDate a.last e, rfl, rfl, rfl⟩
    | ok last =>
      cases hcompile : DatePartition.compile first last with
      | ok p => exact .inl ⟨p, hcompile, congrArg (Except.mapError RunError.compile) hcompile⟩
      | error e =>
        exact .inr ⟨e, .compile e, hcompile, congrArg (Except.mapError RunError.compile) hcompile,
          String.empty_append.symm⟩

/-! ## Runs -/

/-- **A run is its settings and then its dates.** -/
theorem run_result (files : Files) (a : Arguments) :
    (a.run files).1 = do
      let options ← a.settings files
      let p ← a.predicate
      return a.write options p := by
  have hrun : (a.runLogged files).Yields (do
      let options ← a.settings files
      let first ← (Date.parse a.first).mapError (.firstDate a.first)
      let last ← (Date.parse a.last).mapError (.lastDate a.last)
      let p ← (DatePartition.compile first last).mapError .compile
      return a.write options p) := by
    unfold runLogged
    refine (yields_options files a).bind fun options => ?_
    refine (yields_orFail _ _).bind fun first => (yields_orFail _ _).bind fun last => ?_
    refine .after_note ((yields_orFail _ _).bind fun p => ?_) _
    exact .after_note (yields_pure _) _
  rw [run, hrun]
  simp only [predicate, bind_assoc]

/-- A run with settings and dates writes the predicate of the dates. -/
theorem run_eq_ok {files : Files} {a : Arguments} {options : RenderOptions} {p : Predicate}
    (hsettings : a.settings files = .ok options) (hdates : a.predicate = .ok p) :
    (a.run files).1 = .ok (a.write options p) := by
  rw [run_result, hsettings, hdates]
  rfl

/-- The settings come first, so it is their failure that is reported. -/
theorem run_eq_error_of_settings {files : Files} {a : Arguments} {cause : RunError}
    (hsettings : a.settings files = .error cause) : (a.run files).1 = .error cause := by
  rw [run_result, hsettings]
  rfl

theorem run_eq_error_of_dates {files : Files} {a : Arguments} {options : RenderOptions}
    {cause : RunError} (hsettings : a.settings files = .ok options)
    (hdates : a.predicate = .error cause) : (a.run files).1 = .error cause := by
  rw [run_result, hsettings, hdates]
  rfl

/-- Whether there are settings depends on the file alone. -/
theorem settings_cases (files : Files) {a b : Arguments} (h : a.config = b.config) :
    (∃ o o', a.settings files = .ok o ∧ b.settings files = .ok o') ∨
      (∃ cause, a.settings files = .error cause ∧ b.settings files = .error cause) := by
  unfold settings
  rw [h]
  cases b.config with
  | none => exact .inl ⟨_, _, rfl, rfl⟩
  | some path =>
    dsimp only
    cases fileSettings files path with
    | ok options => exact .inl ⟨_, _, rfl, rfl⟩
    | error cause => exact .inr ⟨cause, rfl, rfl⟩

/-- JSON has neither column names nor a layout, so nothing but the dates and the file counts. -/
theorem run_eq_of_json (files : Files) {a b : Arguments} (hfirst : a.first = b.first)
    (hlast : a.last = b.last) (hconfig : a.config = b.config) (ha : a.json = true)
    (hb : b.json = true) : (a.run files).1 = (b.run files).1 := by
  have hdates : a.predicate = b.predicate := by rw [predicate, predicate, hfirst, hlast]
  have hwrite : ∀ o o' p, a.write o p = b.write o' p := by
    intro o o' p
    rw [write, write, if_pos ha, if_pos hb]
  rw [run_result, run_result, hdates]
  rcases settings_cases files hconfig with ⟨o, o', ho, ho'⟩ | ⟨cause, ho, ho'⟩
  · rw [ho, ho']
    simp only [bind, Except.bind, hwrite o o']
  · rw [ho, ho']
    rfl

end Arguments

/-! ## What is shown -/

/-- A success: the text and a line end, and no report. -/
structure Outcome.Succeeds (shown : Outcome) (text : String) : Prop where
  code : shown.code = 0
  output : shown.output = text ++ "\n"
  error : shown.error = ""

/-- A failure: one report, and no output. -/
structure Outcome.Fails (shown : Outcome) (report : String) : Prop where
  code : shown.code = 1
  output : shown.output = ""
  error : shown.error = "Error: " ++ report

section

variable {files : Files} {arguments : List String} {a : Arguments}

/-- A run is shown by its result. -/
theorem exists_outcome_eq (files : Files) (setting : Option String)
    (h : Invocation.ofArguments arguments = .run a) :
    ∃ log, outcome files setting arguments = .ran (a.run files).1 log := by
  rw [outcome, h]
  exact ⟨_, rfl⟩

theorem outcome_succeeds (setting : Option String) {text : String}
    (h : Invocation.ofArguments arguments = .run a) (hrun : (a.run files).1 = .ok text) :
    (outcome files setting arguments).Succeeds text := by
  obtain ⟨log, hshown⟩ := exists_outcome_eq files setting h
  rw [hshown, hrun]
  exact ⟨rfl, rfl, rfl⟩

theorem outcome_fails (setting : Option String) {cause : RunError}
    (h : Invocation.ofArguments arguments = .run a) (hrun : (a.run files).1 = .error cause) :
    (outcome files setting arguments).Fails cause.message := by
  obtain ⟨log, hshown⟩ := exists_outcome_eq files setting h
  rw [hshown, hrun]
  exact ⟨rfl, rfl, rfl⟩

/-- A run whose dates compile writes their predicate. -/
theorem outcome_of_compiled (setting : Option String) {o : RenderOptions} {p : Predicate}
    (h : Invocation.ofArguments arguments = .run a) (hsettings : a.settings files = .ok o)
    (hp : compileTexts a.first a.last = .ok p) :
    (outcome files setting arguments).Succeeds (a.write o p) := by
  rcases a.predicate_cases with ⟨q, hq, hdates⟩ | ⟨e, cause, he, -, -⟩
  · rw [hp] at hq
    cases hq
    exact outcome_succeeds setting h (Arguments.run_eq_ok hsettings hdates)
  · rw [hp] at he
    cases he

/-- A run whose dates do not compile reports the cause. -/
theorem outcome_of_refused (setting : Option String) {o : RenderOptions} {e : CompileError}
    (h : Invocation.ofArguments arguments = .run a) (hsettings : a.settings files = .ok o)
    (he : compileTexts a.first a.last = .error e) :
    (outcome files setting arguments).Fails (a.blame ++ e.message) := by
  rcases a.predicate_cases with ⟨q, hq, -⟩ | ⟨e', cause, he', hdates, hmessage⟩
  · rw [he] at hq
    cases hq
  · rw [he] at he'
    cases he'
    rw [← hmessage]
    exact outcome_fails setting h (Arguments.run_eq_error_of_dates hsettings hdates)

end

/-- **The program does what the library does.** Whatever the arguments of a run are, it succeeds
exactly if its settings are found and the texts of its dates compile. It then writes the predicate
that they compile to, in the form that is asked for. Otherwise it reports one failure: that of the
settings if they are not found, and else the cause why the texts do not compile, behind the date
that it concerns. What is written as JSON is the same for all layouts and column names.

For settings that cannot be decoded, the wording is only the beginning of the report, up to the path
of the file: nothing is claimed of the cause that a reader of TOML gives behind it. -/
theorem outcome_of_run (files : Files) (setting : Option String) {arguments : List String}
    {a : Arguments} (h : Invocation.ofArguments arguments = .run a) :
    ((outcome files setting arguments).code = 0 ↔
      (∃ o, a.settings files = .ok o) ∧ ∃ p, compileTexts a.first a.last = .ok p) ∧
    (∀ o p, a.settings files = .ok o → compileTexts a.first a.last = .ok p →
      (outcome files setting arguments).Succeeds
        (if a.json then p.toJson.pretty else p.render o)) ∧
    (∀ cause, a.settings files = .error cause →
      (outcome files setting arguments).Fails cause.message) ∧
    (∀ o e, a.settings files = .ok o → compileTexts a.first a.last = .error e →
      (outcome files setting arguments).Fails (a.blame ++ e.message)) ∧
    (∀ (setting' : Option String) (arguments' : List String) (b : Arguments),
      Invocation.ofArguments arguments' = .run b → a.first = b.first → a.last = b.last →
      a.config = b.config → a.json = true → b.json = true →
      (outcome files setting arguments).output = (outcome files setting' arguments').output) := by
  have hfound : ∀ o p, a.settings files = .ok o → compileTexts a.first a.last = .ok p →
      (outcome files setting arguments).Succeeds (a.write o p) :=
    fun o p ho hp => outcome_of_compiled setting h ho hp
  have hlost : ∀ cause, a.settings files = .error cause →
      (outcome files setting arguments).Fails cause.message :=
    fun cause hcause => outcome_fails setting h (Arguments.run_eq_error_of_settings hcause)
  have hrefused : ∀ o e, a.settings files = .ok o → compileTexts a.first a.last = .error e →
      (outcome files setting arguments).Fails (a.blame ++ e.message) :=
    fun o e ho he => outcome_of_refused setting h ho he
  refine ⟨?_, hfound, hlost, hrefused, ?_⟩
  · cases hsettings : a.settings files with
    | error cause => simp [(hlost cause hsettings).code]
    | ok o =>
      cases hdates : compileTexts a.first a.last with
      | error e => simp [(hrefused o e hsettings hdates).code]
      | ok p => simp [(hfound o p hsettings hdates).code]
  · intro setting' arguments' b hb hfirst hlast hconfig ha hb'
    obtain ⟨log, hshown⟩ := exists_outcome_eq files setting h
    obtain ⟨log', hshown'⟩ := exists_outcome_eq files setting' hb
    rw [hshown, hshown', Arguments.run_eq_of_json files hfirst hlast hconfig ha hb']
    cases (b.run files).1 with
    | ok text => rfl
    | error cause => rfl

/-- Both dates are none and the settings are found: it is the first date that is reported. -/
theorem outcome_of_run_two_faults :
    Invocation.ofArguments ["2/29/2019", "--json", "2019-13-01", "-v"] =
        .run ⟨"2/29/2019", "2019-13-01", true, false, none, none, none, none, 1⟩ ∧
      (outcome (fun _ => .error .notFound) none
        ["2/29/2019", "--json", "2019-13-01", "-v"]).Fails
          "invalid start date '2/29/2019': Invalid day 29 for month 2019-02" := by
  have h : Invocation.ofArguments ["2/29/2019", "--json", "2019-13-01", "-v"] =
      .run ⟨"2/29/2019", "2019-13-01", true, false, none, none, none, none, 1⟩ := by decide
  obtain ⟨-, -, -, hrefused, -⟩ := outcome_of_run (fun _ => .error .notFound) none h
  have hdates : compileTexts "2/29/2019" "2019-13-01" = .error (.date (.invalidDay 2019 2 29)) := by
    rfl
  exact ⟨h, hrefused _ _ rfl hdates⟩

end CommandLine

end DatePartition
