import PageLint.Proofs.Run

/-!
# Findings in the log

At the end of a session its findings are logged, if the configuration asks for it: the warnings in
one event and the errors in another one, each with the sentences of all its findings in their order,
and no event where there is nothing to show. All other events of a session are for those who look
for faults in the linter. Whether findings are logged decides nothing but the log.

## Main definitions

* `Finding.sentence` — what the log says of a finding
* `Finding.showing` — the event that shows findings
* `Session.alerts` — the events that show the findings of a session
* `Log.Event.Internal` — the event is of no use to people who lint

## Main results

* `Session.events_finish` — what the end of a session logs
* `Run.exists_events_of` — what a run logs
* `Sessions.value_run_of_printing`, `Run.value_of_printing` — what is logged decides nothing else
-/

namespace PageLint

/-- The word for a severity in the log. -/
def Severity.word : Severity → String
  | .error => "error"
  | .warning => "warning"

/-- The sentence that says what a finding is: its rule and its page object, how grave it is, its
number and its message, and how to mend it. -/
def Finding.sentence (f : Finding) : String :=
  "lint rule " ++ f.ruleId ++ " failure in page object " ++ f.pageObject ++ ": " ++
    f.severity.word ++ " " ++ toString f.code ++ ": " ++ f.message ++ "; " ++ f.fix

/-- The event that shows findings, their sentences below a line break. Where there are none, there
is no event. -/
def Finding.showing (level : Log.Level) (fs : List Finding) : List Log.Event :=
  if fs = [] then []
  else [⟨level, Log.Event.linter, "\n" ++ "\n".intercalate (fs.map sentence), []⟩]

theorem Finding.fullMessage_eq (f : Finding) : f.fullMessage = f.sentence := by
  have name : f.severity.name = f.severity.word := by cases f.severity <;> rfl
  unfold fullMessage sentence
  rw [name]

/-- The event is of no use to people who lint. -/
structure Log.Event.Internal (e : Log.Event) : Prop where
  level : e.level = .debug
  origin : e.origin = Log.Event.linter

/-- The event that tells where the report goes, if one is asked for. -/
def Config.reportNotice (c : Config) (root : Option Path) : List Log.Event :=
  if c.disable = false ∧ c.writeReport = true then
    [⟨.info, Log.Event.linter, "Write results of linting to " ++ (c.reportTarget root).text, []⟩]
  else []

namespace Session

/-- The events that show the findings of a session: its warnings, and then its errors. -/
def alerts (c : Config) (s : Session) : List Log.Event :=
  if c.printToConsole then
    Finding.showing .warn (s.findings.filter (·.severity = .warning)) ++
      Finding.showing .error (s.findings.filter (·.severity = .error))
  else []

variable {c : Config} (find : Lookup) (s : Session)

/-! ## What is logged -/

theorem consoleEvents_joinMessages (level : Log.Level) (fs : List Finding) :
    consoleEvents level (Finding.joinMessages fs) = Finding.showing level fs := by
  have silent : (Finding.joinMessages fs).isEmpty ↔ fs = [] :=
    String.isEmpty_iff.trans Finding.joinMessages_eq_empty_iff
  have said : Finding.joinMessages fs = "\n".intercalate (fs.map Finding.sentence) :=
    congrArg "\n".intercalate (List.map_congr_left fun f _ => f.fullMessage_eq)
  rw [consoleEvents, Finding.showing, ← said]
  exact if_congr silent rfl rfl

/-- What is no error is a warning. -/
theorem warnings_eq_filter : s.warnings = s.findings.filter (·.severity = .warning) := by
  refine List.filter_congr fun f _ => ?_
  rw [Finding.isError]
  cases f.severity <;> rfl

/-- The end of a session logs one event for those who look for faults, and then shows the
findings. -/
theorem events_finish (on : c.disable = false) :
    (s.finish c find).events =
      ⟨.debug, Log.Event.linter, "global rules done",
        [("page_objects", toString s.pageObjects.length),
          ("findings", toString ((RuleSet.resolve c).findingsAmong find s.pageObjects).length)]⟩ ::
        (s.finish c find).value.session.alerts c := by
  have shown (t : Session) :
      t.alerts c =
        if c.printToConsole then
          consoleEvents .warn (Finding.joinMessages t.warnings) ++
            consoleEvents .error (Finding.joinMessages t.errors)
        else [] := by
    rw [consoleEvents_joinMessages, consoleEvents_joinMessages, warnings_eq_filter]
    rfl
  rw [shown]
  simp only [finish, on]
  cases c.printToConsole <;> simp

theorem internal_of_mem_events_lint (p : PageObject) :
    ∀ e ∈ (s.lint c find p).events, e.Internal := by
  intro e logged
  rw [lint] at logged
  cases on : c.disable with
  | true =>
    rw [on] at logged
    cases logged
  | false =>
    rw [on] at logged
    obtain rfl := List.mem_singleton.mp logged
    exact ⟨rfl, rfl⟩

theorem internal_of_mem_events_lintAll (ps : List PageObject) :
    ∀ e ∈ (s.lintAll c find ps).events, e.Internal := by
  induction ps generalizing s with
  | nil => nofun
  | cons p ps ih =>
    intro e logged
    rcases List.mem_append.mp logged with first | later
    · exact internal_of_mem_events_lint find s p e first
    · exact ih _ e later

theorem alerts_empty : empty.alerts c = [] := by
  unfold alerts
  split <;> rfl

/-- A batch shows its findings when it is done. -/
theorem exists_events_batch (c : Config) (ps : List PageObject) :
    ∃ notes, (∀ e ∈ notes, e.Internal) ∧
      (batch c find ps).events = notes ++ (batch c find ps).value.session.alerts c := by
  have linted := internal_of_mem_events_lintAll (c := c) find empty ps
  cases on : c.disable with
  | true =>
    -- A disabled linter holds no findings, so there is nothing to show.
    refine ⟨_, linted, ?_⟩
    rw [batch_of_disabled find on, alerts_empty, batch, Logged.events_bind,
      finish_of_disabled find _ on]
    rfl
  | false =>
    rw [batch, Logged.events_bind, events_finish find _ on, List.append_cons]
    refine ⟨_, fun e logged => ?_, rfl⟩
    rcases List.mem_append.mp logged with earlier | last
    · exact linted e earlier
    · obtain rfl := List.mem_singleton.mp last
      exact ⟨rfl, rfl⟩

theorem events_writeReport (root : Option Path) (tree : FileTree) :
    (s.writeReport c root tree).events = c.reportNotice root := by
  rw [writeReport, Config.reportNotice]
  cases c.disable with
  | true => rfl
  | false =>
    cases c.writeReport with
    | false => rfl
    | true =>
      simp only [Bool.false_or, Bool.not_true, Bool.false_eq_true, if_false, Logged.events_bind]
      split <;> rfl

end Session

/-- A run that no errors fail shows the findings of its batch, and then tells where its report
goes. -/
theorem Run.exists_events_of {c : Config} {lines : LineSource} {ps : List PageObject}
    {tree : FileTree} (passed : (Session.batch c (lines.find tree) ps).value.failures = none)
    (root : Option Path) :
    ∃ notes, (∀ e ∈ notes, e.Internal) ∧
      (Run.of c lines root ps tree).events =
        notes ++ ((Session.batch c (lines.find tree) ps).value.session.alerts c ++
          c.reportNotice root) := by
  obtain ⟨notes, internal, logged⟩ := Session.exists_events_batch (lines.find tree) c ps
  refine ⟨notes, internal, ?_⟩
  rw [Run.of_eq_of_passed passed root]
  dsimp only
  rw [logged, Session.events_writeReport, List.append_assoc]

/-! ## What is logged decides nothing else -/

section Printing

variable {c : Config} (find : Lookup) (on : Bool)

theorem Session.value_finish_of_printing (s : Session) :
    (s.finish { c with printToConsole := on } find).value = (s.finish c find).value := by
  -- The rules are told by other settings.
  have rules : RuleSet.resolve { c with printToConsole := on } = RuleSet.resolve c := rfl
  simp only [finish, rules]
  cases c.disable <;> cases c.printToConsole <;> cases on <;> rfl

theorem Session.value_call_of_printing (s : Session) (k : Call) :
    (s.call { c with printToConsole := on } find k).value = (s.call c find k).value := by
  cases k with
  | lint p => rfl
  | finish => exact value_finish_of_printing find on s

/-- No session and no answer depends on what is logged. -/
theorem Sessions.value_run_of_printing {ι : Type} [DecidableEq ι] (w : Sessions ι)
    (calls : List (ι × Call)) :
    (w.run { c with printToConsole := on } find calls).value = (w.run c find calls).value := by
  -- The values of a run are those of its calls, one after the other, whatever they log.
  have step (w : Sessions ι) (ik : ι × Call) :
      (w.call { c with printToConsole := on } find ik).value = (w.call c find ik).value := by
    rw [call, call, Logged.value_bind, Logged.value_bind, Session.value_call_of_printing]
  rw [run, run, Logged.value_foldlM, Logged.value_foldlM]
  simp only [step]

theorem Session.value_batch_of_printing (ps : List PageObject) :
    (batch { c with printToConsole := on } find ps).value = (batch c find ps).value := by
  have linted :
      empty.lintAll { c with printToConsole := on } find ps = empty.lintAll c find ps := rfl
  rw [batch, batch, linted, Logged.value_bind, Logged.value_bind, value_finish_of_printing]

/-- Neither what a run finds nor how it ends nor what it writes depends on what is logged. -/
theorem Run.value_of_printing (lines : LineSource) (root : Option Path) (ps : List PageObject)
    (tree : FileTree) :
    (Run.of { c with printToConsole := on } lines root ps tree).value =
      (Run.of c lines root ps tree).value := by
  rw [Run.of, Run.of, Logged.value_bind, Logged.value_bind, Session.value_batch_of_printing]
  rfl

end Printing

end PageLint
