import PageLint.Proofs.CommandLine.Results
import PageLint.Proofs.Log.Display
import PageLint.Proofs.Session.Showing

/-!
# What people see

For people a linting command lists its findings unless the log shows them. So with a log that
informs of what goes on, each finding of a command that succeeds is seen once: either the log has
it, among the warnings or among the errors, or the results have it, and never both.

What is seen is told by the texts that the lines say. A finding is in the log if a line there has
its sentence, and it is listed if two lines of the results have what is wrong and how to mend it.
All other lines are told as well: a note on the configuration, what the reader of fact files logs,
where the report goes, and the summary; none of them is about a finding.

## Main definitions

* `Log.Filter.Informs`, `CommandLine.Surroundings.Informs` — the log has what people are told
* `Facts.Noted` — what the reader of fact files logs
* `CommandLine.Answer.Logs`, `CommandLine.Answer.Lists` — findings in the log, and in the results
* `CommandLine.Answer.ShowsOnce` — each finding is in the log or in the results

## Main results

* `shown_once` — where findings are shown, and that this changes nothing else
-/

namespace PageLint

/-! ## A log that informs -/

namespace Log

/-- Of the events of the linter itself, the filter lets information through and all that is more
urgent. -/
def Filter.Informs (f : Filter) : Prop :=
  ∀ e : Event, e.origin = Event.linter → f.allows e = (e.level.rank ≤ Level.info.rank : Bool)

theorem Filter.informs_standard : standard.Informs := fun _ _ => rfl

/-- The event is of use to people who lint. -/
structure Event.Public (e : Event) : Prop where
  level : e.level.rank ≤ Level.info.rank
  origin : e.origin = Event.linter

namespace Filter

variable {f : Filter} {es : List Event}

theorem filter_of_internal (informs : f.Informs) (internal : ∀ e ∈ es, e.Internal) :
    es.filter f.allows = [] := by
  refine List.filter_eq_nil_iff.mpr fun e logged => ?_
  rw [informs e (internal e logged).origin, (internal e logged).level]
  decide

theorem filter_of_public (informs : f.Informs) (shown : ∀ e ∈ es, e.Public) :
    es.filter f.allows = es := by
  refine List.filter_eq_self.mpr fun e logged => ?_
  rw [informs e (shown e logged).origin]
  exact decide_eq_true (shown e logged).level

end Filter

end Log

theorem Finding.public_of_mem_showing {level : Log.Level} {fs : List Finding}
    (urgent : level.rank ≤ Log.Level.info.rank) : ∀ e ∈ showing level fs, e.Public := by
  intro e shown
  rw [showing] at shown
  split at shown
  · cases shown
  · obtain rfl := List.mem_singleton.mp shown
    exact ⟨urgent, rfl⟩

theorem Session.public_of_mem_alerts (c : Config) (s : Session) : ∀ e ∈ s.alerts c, e.Public := by
  intro e shown
  rw [alerts] at shown
  split at shown
  · rcases List.mem_append.mp shown with warned | failed
    · exact Finding.public_of_mem_showing (by decide) e warned
    · exact Finding.public_of_mem_showing (by decide) e failed
  · cases shown

theorem Config.public_of_mem_reportNotice (c : Config) (root : Option Path) :
    ∀ e ∈ c.reportNotice root, e.Public := by
  intro e shown
  rw [reportNotice] at shown
  split at shown
  · obtain rfl := List.mem_singleton.mp shown
    exact ⟨Nat.le_refl _, rfl⟩
  · cases shown

/-! ## Events of fact files -/

namespace Facts

variable {t : FileTree} {root : Path} {inputs : List String} {ps : List PageObject}

/-- What the reader of fact files logs: that an input matches no file, and how many page objects
there are. -/
inductive Noted (t : FileTree) (root : Path) (inputs : List String) (ps : List PageObject) :
    Log.Event → Prop
  | unmatched {input : String} (given : input ∈ inputs)
    (none : ∀ path, ¬ Matches t root input path) :
    Noted t root inputs ps
      ⟨.warn, "polint::facts", "input pattern matched no files", [("pattern", input)]⟩
  | loaded :
    Noted t root inputs ps
      ⟨.debug, "polint::facts", "loaded page object facts", [("count", toString ps.length)]⟩

theorem noted_of_mem_events_expandFrom (known : List Path) {some : List String}
    (given : ∀ input ∈ some, input ∈ inputs) :
    ∀ e ∈ (expandFrom t root known some).events, Noted t root inputs ps e := by
  induction some generalizing known with
  | nil => exact fun e logged => nomatch logged
  | cons input others ih =>
    rw [expandFrom_cons]
    cases valid : filesOf t root input with
    | error err => exact fun e logged => nomatch logged
    | ok files =>
      have later := fun known => ih known fun input listed => given input (.tail _ listed)
      dsimp only
      split
      · rename_i empty
        intro e logged
        rcases List.mem_cons.mp logged with rfl | logged
        · refine .unmatched (given input (.head _)) fun path hit => ?_
          rw [← mem_filesOf_iff valid, List.isEmpty_iff.mp empty] at hit
          cases hit
        · exact later _ e logged
      · exact later _

theorem noted_of_mem_events_load {paths : List Path} (loaded : (load t paths).value = .ok ps) :
    ∀ e ∈ (load t paths).events, Noted t root inputs ps e := by
  rw [load] at loaded ⊢
  cases read : paths.mapM (loadOne t) with
  | error err => exact fun e logged => nomatch logged
  | ok qs =>
    rw [read] at loaded
    obtain rfl : qs = ps := Except.ok.inj loaded
    intro e logged
    obtain rfl := List.mem_singleton.mp logged
    exact .loaded

end Facts

namespace CommandLine

open Report (Styled Style)

variable {s : Surroundings} {tree : FileTree} {args inputs : List String}
  {e : Config.Effective} {ps : List PageObject}

/-! ## The lines of messages -/

/-- The log has what people are told: no filter is set, or one that informs and that is written
without white space. -/
def Surroundings.Informs (s : Surroundings) : Prop :=
  ∀ text, s.logFilter = some text →
    (∀ c ∈ text.toList, Text.isBlank c = false) ∧
      ∃ f, Log.Filter.ofText? text = some f ∧ f.Informs

theorem Surroundings.Informs.ofSetting (informs : s.Informs) :
    (Log.Filter.ofSetting s.logFilter).Informs := by
  cases set : s.logFilter with
  | none => exact Log.Filter.informs_standard
  | some text =>
    obtain ⟨-, f, read, shows⟩ := informs text set
    rw [Log.Filter.ofSetting, Option.bind_some, read]
    exact shows

/-- Of some events, those have lines that the filter lets through. -/
theorem displays_lines (s : Surroundings) (es : List Log.Event) :
    List.Forall₂ (Log.Displays s.color) (es.filter (Log.Filter.ofSetting s.logFilter).allows)
      ((es.map Message.event).filterMap (Message.line? s)) := by
  have lines : (es.map Message.event).filterMap (Message.line? s) =
      (es.filter (Log.Filter.ofSetting s.logFilter).allows).map (Log.line s.color) := by
    rw [List.filterMap_map, ← List.filterMap_eq_map, List.filterMap_filter]
    rfl
  rw [lines, List.forall₂_map_right_iff]
  exact List.forall₂_same.mpr fun e _ => Log.displays_line s.color e

/-- The note for a repository without configuration. -/
def unconfigured : String := "note: No polint config found; using defaults."

theorem styled_configNotes (s : Surroundings) (e : Config.Effective) :
    List.Forall₂ (Styled s.color) ((configNotes e).filterMap (Message.line? s))
      (if e.found then [] else [unconfigured]) := by
  rw [configNotes]
  split
  · exact .nil
  · have word : Styled s.color (Message.line?.heading s .cyan "note:") "note:" :=
      ((Styled.plain _).paint .cyan).paint .bold
    exact .cons ((word.followed " ").followed "No polint config found; using defaults.") .nil

/-- A linting command that does not fail says what is logged, and nothing else: what the reader of
fact files logs, and then what the run logs. -/
theorem messages_lint {mode : String} {paths : List Path} {target : Option Path}
    (expanded : (Facts.expand tree e.root inputs).value = .ok paths)
    (loaded : (Facts.load tree paths).value = .ok ps)
    (outcome : (Run.of e.config (.below e.root) (some e.root) ps tree).value.outcome = .ok target) :
    (lint s mode inputs e tree).messages =
      ((Facts.expand tree e.root inputs).events ++ (Facts.load tree paths).events ++
        (Run.of e.config (.below e.root) (some e.root) ps tree).events).map Message.event := by
  unfold lint
  dsimp only
  rw [expanded]
  dsimp only
  rw [loaded]
  dsimp only
  rw [outcome, List.map_append, List.map_append]

/-- The lines of a linting command that succeeds, with a log that informs: what the reader of fact
files logs, then the findings, if they are to be logged, and then where the report goes. -/
theorem exists_displays_of_gathers {mode : String} (informs : s.Informs)
    (gathered : Facts.Gathers tree e.root inputs ps)
    (done : (Run.of e.config (.below e.root) (some e.root) ps tree).value.exitCode = 0) :
    ∃ early : List Log.Event, (∀ ev ∈ early, Facts.Noted tree e.root inputs ps ev) ∧
      List.Forall₂ (Log.Displays s.color)
        (early ++
          ((Session.batch e.config (LineSource.find tree (.below e.root)) ps).value.session.alerts
            e.config ++ e.config.reportNotice (some e.root)))
        ((lint s mode inputs e tree).messages.filterMap (Message.line? s)) := by
  obtain ⟨paths, expanded, loaded⟩ := gathered
  have ends := Run.ends_of e.config (.below e.root) (some e.root) ps tree
  have passed := Option.isSome_eq_false_iff.mp (ends.exitCode_eq_zero_iff.mp done).1
  obtain ⟨notes, internal, told⟩ :=
    Run.exists_events_of (Option.isNone_iff_eq_none.mp passed) (some e.root)
  obtain ⟨target, outcome⟩ := Run.exists_outcome_of_exitCode_eq_zero done
  let read := (Facts.expand tree e.root inputs).events ++ (Facts.load tree paths).events
  have noted : ∀ ev ∈ read, Facts.Noted tree e.root inputs ps ev := by
    intro ev logged
    rcases List.mem_append.mp logged with matching | loading
    · exact Facts.noted_of_mem_events_expandFrom [] (fun _ given => given) ev matching
    · exact Facts.noted_of_mem_events_load loaded ev loading
  have shown : ∀ ev ∈ (Session.batch e.config (LineSource.find tree (.below e.root))
      ps).value.session.alerts e.config ++ e.config.reportNotice (some e.root), ev.Public := by
    intro ev listed
    exact (List.mem_append.mp listed).elim (Session.public_of_mem_alerts _ _ ev)
      (Config.public_of_mem_reportNotice _ _ ev)
  refine ⟨read.filter (Log.Filter.ofSetting s.logFilter).allows, ?_, ?_⟩
  · exact fun ev kept => noted ev (List.mem_of_mem_filter kept)
  · have lines := displays_lines s (read ++ (notes ++
      ((Session.batch e.config (LineSource.find tree (.below e.root)) ps).value.session.alerts
        e.config ++ e.config.reportNotice (some e.root))))
    -- Of what the run logs, the filter drops what is internal and keeps the rest.
    rw [List.filter_append read, List.filter_append notes,
      Log.Filter.filter_of_internal informs.ofSetting internal,
      Log.Filter.filter_of_public informs.ofSetting shown, List.nil_append] at lines
    rw [messages_lint expanded loaded outcome, told]
    exact lines

/-! ## Once -/

/-- The other output has the findings: an event of some warnings, and one of some errors, where
there are any. Besides them it has the note for a repository without configuration, what the reader
of fact files logs, and where the report goes. -/
def Answer.Logs (s : Surroundings) (tree : FileTree) (inputs : List String) (e : Config.Effective)
    (ps : List PageObject) (a : Answer) (warned failed : List Finding) : Prop :=
  ∃ (notes logged : List String) (early : List Log.Event),
    a.errorOutput s = String.join ((notes ++ logged).map (· ++ "\n")) ∧
      List.Forall₂ (Styled s.color) notes (if e.found then [] else [unconfigured]) ∧
      (∀ ev ∈ early, Facts.Noted tree e.root inputs ps ev) ∧
      List.Forall₂ (Log.Displays s.color)
        (early ++ (Finding.showing .warn warned ++ Finding.showing .error failed ++
          e.config.reportNotice (some e.root))) logged

/-- The results have the findings, in two lines each, and close with a summary. -/
def Answer.Lists (styles : Bool) (summary : Summary) (a : Answer) (listed : List Finding) : Prop :=
  ∃ listing last, a.output = String.join ((listing ++ [last]).map (· ++ "\n")) ∧
    Report.Listing styles listed listing ∧ Styled styles last (Report.closing summary)

/-- Each finding of a session is shown once: some of the warnings and some of the errors are in the
log, and the other findings are listed. They are shown in their order, and nothing is listed if
anything is in the log. -/
def Answer.ShowsOnce (s : Surroundings) (styles : Bool) (tree : FileTree) (inputs : List String)
    (e : Config.Effective) (ps : List PageObject) (a : Answer) : Prop :=
  let ended := (Session.batch e.config (LineSource.find tree (.below e.root)) ps).value.session
  ∃ warned failed listed : List Finding,
    a.Logs s tree inputs e ps warned failed ∧ a.Lists styles ended.summary listed ∧
      (warned ++ failed ++ listed).Perm ended.findings ∧
      (∀ f ∈ warned, f.severity = .warning) ∧ (∀ f ∈ failed, f.severity = .error) ∧
      warned.Sublist ended.findings ∧ failed.Sublist ended.findings ∧
      listed.Sublist ended.findings ∧ (warned ++ failed = [] ∨ listed = [])

/-- Warnings and errors are all there is. -/
theorem perm_filter_severity (fs : List Finding) :
    (fs.filter (·.severity = .warning) ++ fs.filter (·.severity = .error)).Perm fs := by
  have others : fs.filter (·.severity = .error) = fs.filter fun f => !(f.severity = .warning) := by
    refine List.filter_congr fun f _ => ?_
    cases f.severity <;> rfl
  rw [others]
  exact List.filter_append_perm _ fs

/-- The log has all findings of a session, or else the results list them all. -/
theorem showsOnce_of_logs {styles : Bool} {a : Answer} {ended : Session}
    (held :
      (Session.batch e.config (LineSource.find tree (.below e.root)) ps).value.session = ended)
    (logs : ∀ warned failed : List Finding,
      ended.alerts e.config = Finding.showing .warn warned ++ Finding.showing .error failed →
        a.Logs s tree inputs e ps warned failed)
    (lists :
      a.Lists styles ended.summary (if !e.config.printToConsole then ended.findings else [])) :
    a.ShowsOnce s styles tree inputs e ps := by
  rw [Answer.ShowsOnce, held]
  cases print : e.config.printToConsole with
  | true =>
    have alerts : ended.alerts e.config =
        Finding.showing .warn (ended.findings.filter (·.severity = .warning)) ++
          Finding.showing .error (ended.findings.filter (·.severity = .error)) := by
      rw [Session.alerts, if_pos print]
    rw [print] at lists
    refine ⟨_, _, [], logs _ _ alerts, lists, ?_, ?_, ?_, List.filter_sublist,
      List.filter_sublist, List.nil_sublist _, .inr rfl⟩
    · rw [List.append_nil]
      exact perm_filter_severity ended.findings
    · intro f listed
      exact of_decide_eq_true (List.mem_filter.mp listed).2
    · intro f listed
      exact of_decide_eq_true (List.mem_filter.mp listed).2
  | false =>
    have alerts : ended.alerts e.config = [] := by
      rw [Session.alerts, if_neg (by simp [print])]
    rw [print] at lists
    exact ⟨[], [], ended.findings, logs [] [] alerts, lists, .rfl, by simp, by simp,
      List.nil_sublist _, List.nil_sublist _, .refl _, .inl rfl⟩

theorem messages_withConfig {flags : Config.Flags} (go : Config.Effective → Answer)
    (holds : Config.effective tree flags = .ok e) :
    (withConfig tree flags go).messages = configNotes e ++ (go e).messages := by
  rw [withConfig, holds]

/-- In every mode but those for programs the results are lines for people, and only the mode that is
for people by name has styles. -/
theorem lists_runResults {setting : Setting} {c : Config} {root : Path} {session : Session}
    {a : Answer} (people : setting.output ≠ some "json" ∧ setting.output ≠ some "sarif")
    (printed : a.results = runResults s (setting.output.getD humanMode) c root session) :
    a.Lists (s.color && setting.output.all (· == "human")) session.summary
      (if !c.printToConsole then session.findings else []) := by
  have apart {name : String} (other : setting.output ≠ some name) (own : humanMode ≠ name) :
      setting.output.getD humanMode ≠ name := by
    cases mode : setting.output with
    | none => exact own
    | some given => simpa [mode] using other
  have styles : wantsStyles s (setting.output.getD humanMode) =
      (s.color && setting.output.all (· == "human")) := by
    rw [wantsStyles, Bool.and_comm]
    cases setting.output <;> rfl
  rw [runResults, if_neg (apart people.1 (by decide)), if_neg (apart people.2 (by decide)),
    styles] at printed
  obtain ⟨listing, last, lines, listed, closed⟩ := Report.exists_lines_eq
    (s.color && setting.output.all (· == "human")) (!c.printToConsole) session.findings
    session.summary
  refine ⟨listing, last, ?_, listed, closed⟩
  rw [Answer.output, printed, lines]
  rfl

/-- Findings are shown once. The end of a session logs an internal event and then, if findings are
to be logged, the warnings of the session and its errors, in one event each that is missing where
there is nothing to show. Whether findings are logged decides neither what is found nor which calls
and runs fail nor what is written. A linting command for people that succeeds, with a log that
informs, shows each finding once. -/
theorem shown_once (ι : Type) [DecidableEq ι] (c : Config) :
    (c.disable = false → ∀ (find : Lookup) (s : Session),
      let held := (s.finish c find).value.session.findings
      ∃ note : Log.Event, note.Internal ∧
        (s.finish c find).events =
          note :: if c.printToConsole then
            Finding.showing .warn (held.filter (·.severity = .warning)) ++
              Finding.showing .error (held.filter (·.severity = .error))
          else []) ∧
      (∀ on : Bool,
        (∀ (find : Lookup) (calls : List (ι × Call)),
          (Sessions.fresh.run { c with printToConsole := on } find calls).value =
            (Sessions.fresh.run c find calls).value) ∧
        (∀ (lines : LineSource) (root : Option Path) (ps : List PageObject) (tree : FileTree),
          (Run.of { c with printToConsole := on } lines root ps tree).value =
            (Run.of c lines root ps tree).value) ∧
        ∀ (root : Option Path) (tree : FileTree) (s : Session),
          s.writeReport { c with printToConsole := on } root tree = s.writeReport c root tree) ∧
      ∀ (s : Surroundings) (tree : FileTree) (args inputs : List String) (setting : Setting)
        (disable throwOnError noReport : Bool) (reportOutput : Option String),
        let command := Command.lint inputs setting disable throwOnError noReport reportOutput
        parse args = .command command →
        setting.output ≠ some "json" ∧ setting.output ≠ some "sarif" →
        s.Informs → (run s tree args).exit = 0 →
        ∃ e ps, Config.effective tree command.flags = .ok e ∧ Facts.Gathers tree e.root inputs ps ∧
          (run s tree args).ShowsOnce s (s.color && setting.output.all (· == "human")) tree inputs
            e ps := by
  refine ⟨?_, ?_, ?_⟩
  · intro on find s held
    exact ⟨_, ⟨rfl, rfl⟩, s.events_finish find on⟩
  · intro on
    exact ⟨fun find => Sessions.value_run_of_printing find on _, Run.value_of_printing on,
      fun root tree s => rfl⟩
  · intro s tree args inputs setting disable throwOnError noReport reportOutput command asked people
      informs done
    obtain ⟨e, ps, holds, gathered⟩ := exists_gathers_of_exit_eq_zero asked done
    refine ⟨e, ps, holds, gathered, ?_⟩
    obtain ⟨code, -, results⟩ := run_of_gathers (s := s) asked holds gathered
    have ends := Run.ends_of e.config (.below e.root) (some e.root) ps tree
    have finished := code.symm.trans done
    obtain ⟨target, outcome⟩ := Run.exists_outcome_of_exitCode_eq_zero finished
    refine showsOnce_of_logs rfl (fun warned failed shown => ?_) ?_
    · obtain ⟨early, noted, displayed⟩ := exists_displays_of_gathers informs gathered finished
      refine ⟨_, _, early, ?_, styled_configNotes s e, noted, shown ▸ displayed⟩
      rw [Answer.errorOutput, run_of_lint asked, messages_withConfig _ holds, List.filterMap_append]
      rfl
    · have printed := results target outcome
      rw [ends.session_eq] at printed
      exact lists_runResults people printed

theorem informs_info : (⟨true, some "info"⟩ : Surroundings).Informs := by
  rintro _ ⟨⟩
  have solid : "info".toList.all (fun c => !Text.isBlank c) = true := by decide
  exact ⟨by simpa using solid, Log.Filter.standard, rfl, Log.Filter.informs_standard⟩

/-- The sign-in page and the sign-up page have warnings and an error, so the end of their session
logs three events. What is found on the sign-in page alone is shown once, since nothing fails the
run over it, also in an output mode of another name; and something is found there. -/
theorem shown_once_signIn :
    let s : Surroundings := ⟨true, some "info"⟩
    let answer := run s signInPages ["lint", "pages/sign-in.json", "--output", "plain"]
    (Session.finish Session.strict Session.atTop
        ⟨[Session.signIn, Session.signUp],
          Session.strict.localFindings Session.atTop Session.signIn⟩).events.length = 3 ∧
      s.Informs ∧ answer.exit = 0 ∧
      (Session.batch Config.default (LineSource.find signInPages (.below ⟨"/"⟩))
        [Session.signIn]).value.session.findings.length = 1 ∧
      answer.ShowsOnce s false signInPages ["pages/sign-in.json"] ⟨⟨"/"⟩, false, Config.default⟩
        [Session.signIn] := by
  intro s answer
  have asked : parse ["lint", "pages/sign-in.json", "--output", "plain"] =
      .command (.lint ["pages/sign-in.json"] ⟨none, none, some "plain"⟩ false false false none) :=
    rfl
  have holds : Config.effective signInPages
      (Command.lint ["pages/sign-in.json"] ⟨none, none, some "plain"⟩ false false false
        none).flags = .ok ⟨⟨"/"⟩, false, Config.default⟩ := rfl
  have done : answer.exit = 0 := by
    rw [(run_of_gathers asked holds gathers_signInPages).1,
      (Run.ends_of _ _ _ _ _).exitCode_eq_zero_iff]
    refine ⟨?_, fun lost => Bool.noConfusion lost.2⟩
    rw [← Bool.not_eq_true, Session.isSome_failures_batch_iff _ rfl]
    exact fun escalates => Bool.false_ne_true escalates.1
  obtain ⟨finished, -, once⟩ := shown_once ℕ Session.strict
  refine ⟨?_, informs_info, done, rfl, ?_⟩
  · obtain ⟨note, -, logged⟩ := finished rfl Session.atTop
      ⟨[Session.signIn, Session.signUp],
        Session.strict.localFindings Session.atTop Session.signIn⟩
    rw [logged]
    rfl
  · obtain ⟨e, ps, holds', gathered, shown⟩ := once s signInPages _ _ _ _ _ _ _ asked
      ⟨by decide, by decide⟩ informs_info done
    obtain rfl := Except.ok.inj (holds.symm.trans holds')
    obtain rfl := gathers_signInPages.unique gathered
    exact shown

end CommandLine

end PageLint
