import PageLint.CommandLine.Execute
import PageLint.Proofs.Facts
import PageLint.Proofs.Facts.Gathering
import PageLint.Proofs.Run

/-!
# Exit codes

The exit code of a linting command says how far it came. A configuration, an input or a fact file
that is of no use keeps it from its work. Once the page objects are there, errors that fail the run
come before a report that cannot be written, and how many errors there are does not matter, nor does
it that there are any, unless the configuration makes errors fail the run.

## Main definitions

* `CommandLine.Obstructed` — a linting command cannot do its work

## Main results

* `run_of_gathers` — a linting command that has its page objects is a run over them
* `exit_of_lint` — the exit code of a linting command
-/

namespace PageLint.CommandLine

variable {s : Surroundings} {tree : FileTree} {args inputs : List String} {mode : String}
  {flags : Config.Flags} {e : Config.Effective} {ps : List PageObject} {c : Command}

/-- A linting command cannot do its work. -/
inductive Obstructed (tree : FileTree) (flags : Config.Flags) (inputs : List String) : Prop
  /-- The configuration cannot be read, or is not valid. -/
  | config {err : Config.Error} (failed : Config.effective tree flags = .error err)
  /-- An input is no pattern, or a matched file is of no use. -/
  | facts {e : Config.Effective} (holds : Config.effective tree flags = .ok e)
    (obstructed : Facts.Obstructed tree e.root inputs)

/-! ## From the command to the run -/

theorem lint_of_obstructed (obstructed : Facts.Obstructed tree e.root inputs) :
    (lint s mode inputs e tree).exit = cannotWork := by
  unfold lint
  dsimp only
  cases expanded : (Facts.expand tree e.root inputs).value with
  | error err => rfl
  | ok paths =>
    dsimp only
    cases loaded : (Facts.load tree paths).value with
    | error err => rfl
    | ok ps => exact absurd obstructed (Facts.Gathers.not_obstructed ⟨paths, expanded, loaded⟩)

/-- A linting command that has its page objects is a run over them; its results are printed if it
does not fail. -/
theorem lint_of_gathers (gathered : Facts.Gathers tree e.root inputs ps) :
    let r := (Run.of e.config (.below e.root) (some e.root) ps tree).value
    (lint s mode inputs e tree).exit = r.exitCode ∧ (lint s mode inputs e tree).tree = r.tree ∧
      ∀ target, r.outcome = .ok target →
        (lint s mode inputs e tree).results = runResults s mode e.config e.root r.session := by
  obtain ⟨paths, expanded, loaded⟩ := gathered
  unfold lint
  dsimp only
  rw [expanded]
  dsimp only
  rw [loaded]
  dsimp only
  cases (Run.of e.config (.below e.root) (some e.root) ps tree).value.outcome with
  | ok target => exact ⟨rfl, rfl, fun _ _ => rfl⟩
  | error failure => exact ⟨rfl, rfl, nofun⟩

/-- The configuration adds notes to what a command says, and nothing else. -/
theorem withConfig_of_effective (go : Config.Effective → Answer)
    (holds : Config.effective tree flags = .ok e) :
    (withConfig tree flags go).exit = (go e).exit ∧ (withConfig tree flags go).tree = (go e).tree ∧
      (withConfig tree flags go).results = (go e).results := by
  rw [withConfig, holds]
  exact ⟨rfl, rfl, rfl⟩

theorem exit_withConfig_of_error {go : Config.Effective → Answer} {err : Config.Error}
    (failed : Config.effective tree flags = .error err) :
    (withConfig tree flags go).exit = cannotWork := by
  rw [withConfig, failed]

/-- A linting command that can do its work has its configuration and its page objects. -/
theorem exists_gathers (free : ¬ Obstructed tree flags inputs) :
    ∃ e ps, Config.effective tree flags = .ok e ∧ Facts.Gathers tree e.root inputs ps := by
  cases holds : Config.effective tree flags with
  | error err => exact absurd (.config holds) free
  | ok e =>
    obtain ⟨ps, gathered⟩ :=
      Facts.exists_gathers fun obstructed => free (.facts holds obstructed)
    exact ⟨e, ps, rfl, gathered⟩

/-! ## Linting commands -/

section Lint

variable {setting : Setting} {disable throwOnError noReport : Bool} {reportOutput : Option String}
  (asked : parse args = .command (.lint inputs setting disable throwOnError noReport reportOutput))

include asked

theorem run_of_lint :
    run s tree args =
      withConfig tree (Command.lint inputs setting disable throwOnError noReport reportOutput).flags
        fun e => lint s (setting.output.getD humanMode) inputs e tree := by
  rw [run, asked]
  rfl

theorem exit_of_obstructed
    (blocked : Obstructed tree
      (Command.lint inputs setting disable throwOnError noReport reportOutput).flags inputs) :
    (run s tree args).exit = cannotWork := by
  rw [run_of_lint asked]
  cases blocked with
  | config failed => exact exit_withConfig_of_error failed
  | facts holds obstructed =>
    rw [(withConfig_of_effective _ holds).1]
    exact lint_of_obstructed obstructed

/-- A linting command that succeeds has its configuration and its page objects. -/
theorem exists_gathers_of_exit_eq_zero (done : (run s tree args).exit = 0) :
    ∃ e ps,
      Config.effective tree
          (Command.lint inputs setting disable throwOnError noReport reportOutput).flags = .ok e ∧
        Facts.Gathers tree e.root inputs ps := by
  apply exists_gathers
  intro blocked
  rw [exit_of_obstructed asked blocked] at done
  cases done

/-- A linting command that has its configuration and its page objects is a run over them. -/
theorem run_of_gathers
    (holds : Config.effective tree
      (Command.lint inputs setting disable throwOnError noReport reportOutput).flags = .ok e)
    (gathered : Facts.Gathers tree e.root inputs ps) :
    let r := (Run.of e.config (.below e.root) (some e.root) ps tree).value
    (run s tree args).exit = r.exitCode ∧ (run s tree args).tree = r.tree ∧
      ∀ target, r.outcome = .ok target →
        (run s tree args).results =
          runResults s (setting.output.getD humanMode) e.config e.root r.session := by
  intro r
  obtain ⟨exit, files, results⟩ := withConfig_of_effective
    (fun e => lint s (setting.output.getD humanMode) inputs e tree) holds
  rw [run_of_lint asked, exit, files, results]
  exact lint_of_gathers gathered

/-- A linting command cannot do its work and ends with 2, or it has its page objects. Then it ends
with 1 exactly if the linter is on, errors are to fail it and there are errors, whatever becomes of
the report; otherwise with 2 exactly if a report is asked for and cannot be written; otherwise
with 0. -/
theorem exit_of_lint (s : Surroundings) (tree : FileTree) :
    let flags := (Command.lint inputs setting disable throwOnError noReport reportOutput).flags
    let exit := (run s tree args).exit
    (Obstructed tree flags inputs → exit = 2) ∧
      (¬ Obstructed tree flags inputs →
        ∃ e ps, Config.effective tree flags = .ok e ∧ Facts.Gathers tree e.root inputs ps ∧
          let c := e.config
          let found :=
            (Session.batch c (LineSource.find tree (.below e.root)) ps).value.session.findings
          let escalates :=
            c.disable = false ∧ c.throwOnError = true ∧ ∃ f ∈ found, f.severity = .error
          let unwritable :=
            c.disable = false ∧ c.writeReport = true ∧
              (tree.save (c.reportTarget (some e.root))
                (Report.text c (some e.root) found)).2 = false
          (exit = 1 ↔ escalates) ∧ (exit = 2 ↔ ¬ escalates ∧ unwritable) ∧
            (exit = 0 ↔ ¬ escalates ∧ ¬ unwritable)) := by
  intro flags exit
  refine ⟨exit_of_obstructed asked, fun free => ?_⟩
  obtain ⟨e, ps, holds, gathered⟩ := exists_gathers free
  refine ⟨e, ps, holds, gathered, ?_⟩
  intro c found escalates unwritable
  have ends := Run.ends_of c (.below e.root) (some e.root) ps tree
  have code : exit = (Run.of c (.below e.root) (some e.root) ps tree).value.exitCode :=
    (run_of_gathers asked holds gathered).1
  have fails :
      (Session.batch c (LineSource.find tree (.below e.root)) ps).value.failures.isSome ↔
        escalates := Session.isSome_failures_iff _ _
  refine ⟨?_, ?_, ?_⟩
  · rw [code, ends.exitCode_eq_one_iff, fails]
  · rw [code, ends.exitCode_eq_two_iff, ← fails, Bool.not_eq_true, and_assoc]
  · rw [code, ends.exitCode_eq_zero_iff, ← fails, Bool.not_eq_true, and_assoc]

end Lint

/-! ## The files of one page -/

/-- A directory with the file of the sign-in page. -/
def signInPages : FileTree :=
  ⟨[("pages", .dir
    [("sign-in.json",
      .file (some (String.ofList (PageObject.shape.write Session.signIn).compact)))])], []⟩

/-- The page is gathered also where there are more files beside its directory. -/
theorem gathers_signIn (more : List (String × FileTree.Node)) :
    Facts.Gathers ⟨signInPages.root ++ more, []⟩ ⟨"/"⟩ ["pages/sign-in.json"] [Session.signIn] := by
  let t : FileTree := ⟨signInPages.root ++ more, []⟩
  have stored : t.read ⟨"/pages/sign-in.json"⟩ =
      .ok (String.ofList (PageObject.shape.write Session.signIn).compact) := rfl
  have parsed := (Shape.parse_printed PageObject.faithful_shape Session.signIn).1
  have loaded := Facts.loadOne_of_parse stored parsed
  have found : Facts.filesOf t ⟨"/"⟩ "pages/sign-in.json" =
      .ok ([⟨"/pages/sign-in.json"⟩].mergeSort Path.le) := rfl
  rw [List.mergeSort_singleton] at found
  refine ⟨[⟨"/pages/sign-in.json"⟩], ?_, ?_⟩
  · rw [Facts.value_expand_eq, List.mapM_cons, found]
    rfl
  · rw [Facts.value_load_eq, List.mapM_cons, loaded]
    rfl

theorem gathers_signInPages :
    Facts.Gathers signInPages ⟨"/"⟩ ["pages/sign-in.json"] [Session.signIn] :=
  gathers_signIn []

/-- The directory of the page with a configuration by which a method without a description is an
error. -/
def strictPages : FileTree :=
  ⟨signInPages.root ++ [("polint.json",
    .file (some "\x7b\"requiredMethodDescription\": \x7b\"violation\": \"error\"\x7d\x7d"))], []⟩

/-- A method without a description is an error. -/
def strictConfig : Config :=
  { Config.default with
    overrides := fun rule =>
      if rule = .methodDescriptions then some ⟨some .error, [], none, none⟩ else none }

theorem load_strictPages : Config.load strictPages ⟨"/"⟩ = .ok (some strictConfig) := by
  obtain ⟨overrides, read, same⟩ : ∃ overrides,
      Config.load strictPages ⟨"/"⟩ = .ok (some { Config.default with overrides := overrides }) ∧
        ∀ rule, overrides rule = strictConfig.overrides rule :=
    ⟨_, rfl, fun rule => by cases rule <;> rfl⟩
  rw [read, funext same]
  rfl

theorem effective_strictPages {f : Config.Flags} (root : f.root = none) (file : f.file = none) :
    Config.effective strictPages f = .ok ⟨⟨"/"⟩, true, f.apply strictConfig⟩ := by
  have found : Config.detectRoot strictPages ⟨"."⟩ = ⟨"/"⟩ := rfl
  unfold Config.effective
  simp only [root, file, Option.getD_none, found, load_strictPages]
  rfl

/-- Among the findings on the page is an error, whatever else the configuration says. -/
theorem exists_error_strictPages (throwOnError : Bool) (reportPath : String) :
    ∃ f ∈ (Session.batch
        { strictConfig with throwOnError := throwOnError, reportPath := reportPath }
        (LineSource.find strictPages (.below ⟨"/"⟩)) [Session.signIn]).value.session.findings,
      f.severity = .error := by
  cases throwOnError <;> exact ⟨_, .head _, rfl⟩

/-- The error fails the run if errors are to fail it, though the report could not be written where a
directory is; otherwise the report fails it, and where it can be written nothing does. -/
theorem exit_of_lint_strictPages :
    let s : Surroundings := ⟨false, none⟩
    let exit (args : List String) :=
      (run s strictPages ("lint" :: "pages/sign-in.json" :: args)).exit
    ¬ Obstructed strictPages
        (Command.lint ["pages/sign-in.json"] ⟨none, none, none⟩ false true false
          (some "pages")).flags ["pages/sign-in.json"] ∧
      exit ["--throw-on-error", "--report-output", "pages"] = 1 ∧
      exit ["--report-output", "pages"] = 2 ∧ exit [] = 0 := by
  intro s exit
  have gathered : Facts.Gathers strictPages ⟨"/"⟩ ["pages/sign-in.json"] [Session.signIn] :=
    gathers_signIn _
  have free {f : Config.Flags} (root : f.root = none) (file : f.file = none) :
      ¬ Obstructed strictPages f ["pages/sign-in.json"] := by
    rintro (failed | ⟨holds, obstructed⟩)
    · rw [effective_strictPages root file] at failed
      cases failed
    · obtain rfl := Except.ok.inj ((effective_strictPages root file).symm.trans holds)
      exact gathered.not_obstructed obstructed
  refine ⟨free rfl rfl, ?_, ?_, ?_⟩
  · have asked :
        parse ["lint", "pages/sign-in.json", "--throw-on-error", "--report-output", "pages"] =
          .command
            (.lint ["pages/sign-in.json"] ⟨none, none, none⟩ false true false (some "pages")) :=
      rfl
    obtain ⟨e, ps, holds, gathered', one, -, -⟩ :=
      (exit_of_lint asked s strictPages).2 (free rfl rfl)
    obtain rfl := Except.ok.inj ((effective_strictPages rfl rfl).symm.trans holds)
    obtain rfl := gathered.unique gathered'
    exact one.mpr ⟨rfl, rfl, exists_error_strictPages true "pages"⟩
  · have asked : parse ["lint", "pages/sign-in.json", "--report-output", "pages"] =
        .command
          (.lint ["pages/sign-in.json"] ⟨none, none, none⟩ false false false (some "pages")) :=
      rfl
    obtain ⟨e, ps, holds, gathered', -, two, -⟩ :=
      (exit_of_lint asked s strictPages).2 (free rfl rfl)
    obtain rfl := Except.ok.inj ((effective_strictPages rfl rfl).symm.trans holds)
    exact two.mpr ⟨fun escalates => Bool.false_ne_true escalates.2.1, rfl, rfl, rfl⟩
  · have asked : parse ["lint", "pages/sign-in.json"] =
        .command (.lint ["pages/sign-in.json"] ⟨none, none, none⟩ false false false none) := rfl
    obtain ⟨e, ps, holds, gathered', -, -, zero⟩ :=
      (exit_of_lint asked s strictPages).2 (free rfl rfl)
    obtain rfl := Except.ok.inj ((effective_strictPages rfl rfl).symm.trans holds)
    exact zero.mpr ⟨fun escalates => Bool.false_ne_true escalates.2.1,
      fun unwritable => Bool.noConfusion unwritable.2.2⟩

end PageLint.CommandLine
