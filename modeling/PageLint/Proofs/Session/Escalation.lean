import PageLint.Proofs.Session.Batch

/-!
# Errors that fail a run

Whether errors fail a run is the business of the configuration; whether there are any is not. The
decision is read off the joined text of the errors, and that text is empty only when there are none,
however the configuration words its rules and whether or not it has anything printed. Errors of
single page objects count like those of pairs, and errors of earlier calls like those of the last.

A session is the same after a failure as without one. A run that fails this way ends before its
report, and leaves all files as they were.

## Main results

* `failures_finish_eq_some_iff` — when a session ends in failure, and with which text
* `Run.of_eq_of_failures` — a failed run writes nothing
* `finish_escalates` — both, and what the configuration has to do with it
-/

namespace PageLint

namespace Session

variable {c : Config} (find : Lookup) (s : Session)

/-- The end of a session adds what page objects have with one another. -/
theorem session_finish_eq :
    (s.finish c find).value.session =
      if c.disable then s
      else ⟨s.pageObjects, s.findings ++ c.globalFindings find s.pageObjects⟩ := by
  cases on : c.disable with
  | true => rw [finish_of_disabled find s on]; rfl
  | false => exact session_finish find s on

/-- The text of a failure is made of all errors, in their order. -/
theorem text_of_failures_finish {text : String}
    (failed : (s.finish c find).value.failures = some text) :
    text = Finding.joinMessages (s.finish c find).value.session.errors := by
  cases on : c.disable with
  | true =>
    rw [finish_of_disabled find s on] at failed
    cases failed
  | false =>
    rw [failures_finish find s on] at failed
    split at failed
    · exact (Option.some.inj failed).symm
    · cases failed

/-- A session ends in failure exactly when the linter is on, errors are to fail it and there are
any. -/
theorem isSome_failures_iff :
    (s.finish c find).value.failures.isSome ↔
      c.disable = false ∧ c.throwOnError = true ∧
        ∃ f ∈ (s.finish c find).value.session.findings, f.severity = .error := by
  cases on : c.disable with
  | true => simp [finish_of_disabled find s on]
  | false => simp [isSome_failures_finish_iff find s on]

theorem failures_finish_eq_some_iff {text : String} :
    (s.finish c find).value.failures = some text ↔
      (c.disable = false ∧ c.throwOnError = true ∧
        ∃ f ∈ (s.finish c find).value.session.findings, f.severity = .error) ∧
        text = Finding.joinMessages (s.finish c find).value.session.errors := by
  rw [← isSome_failures_iff]
  constructor
  · intro failed
    exact ⟨Option.isSome_of_eq_some failed, text_of_failures_finish find s failed⟩
  · rintro ⟨failed, rfl⟩
    obtain ⟨text, failed⟩ := Option.isSome_iff_exists.mp failed
    rw [failed, text_of_failures_finish find s failed]

end Session

/-- A run with errors that fail it leaves all files as they were, and logs nothing of a report. -/
theorem Run.of_eq_of_failures {c : Config} {lines : LineSource} {ps : List PageObject}
    {tree : FileTree} {text : String}
    (failed : (Session.batch c (lines.find tree) ps).value.failures = some text)
    (root : Option Path) :
    Run.of c lines root ps tree =
      ⟨⟨(Session.batch c (lines.find tree) ps).value.session, tree, .error (.errors text)⟩,
        (Session.batch c (lines.find tree) ps).events⟩ := by
  unfold Run.of
  change Logged.bind _ _ = _
  simp only [Logged.bind, failed, Logged.value_pure, Logged.events_pure, List.append_nil]

namespace Session

/-- The end of a session, and what follows from it. It fails exactly when the linter is on, errors
are to fail it, and there is an error among all findings of the session; its text then has the
messages of all errors and of nothing else, a line each. The session itself holds what it held and
what was found last, whether errors are to fail it or not. A run that fails this way changes no
file. -/
theorem finish_escalates (c : Config) (find : Lookup) (s : Session) :
    (∀ text,
      (s.finish c find).value.failures = some text ↔
        (c.disable = false ∧ c.throwOnError = true ∧
          ∃ f ∈ (s.finish c find).value.session.findings, f.severity = .error) ∧
          text = "\n".intercalate
            (((s.finish c find).value.session.findings.filter (·.severity = .error)).map
              Finding.fullMessage)) ∧
      (s.finish c find).value.session =
        (if c.disable then s
        else ⟨s.pageObjects, s.findings ++ c.globalFindings find s.pageObjects⟩) ∧
      (s.finish c find).value.session =
        (s.finish { c with throwOnError := false } find).value.session ∧
      ∀ (lines : LineSource) (root : Option Path) (ps : List PageObject) (tree : FileTree),
        let ended := batch c (lines.find tree) ps
        (c.disable = false ∧ c.throwOnError = true ∧
          ∃ f ∈ ended.value.session.findings, f.severity = .error) →
        Run.of c lines root ps tree =
          ⟨⟨ended.value.session, tree,
              .error (.errors ("\n".intercalate
                ((ended.value.session.findings.filter (·.severity = .error)).map
                  Finding.fullMessage)))⟩,
            ended.events⟩ := by
  refine ⟨fun text => failures_finish_eq_some_iff find s, session_finish_eq find s, ?_, ?_⟩
  · rw [session_finish_eq, session_finish_eq]
    rfl
  · intro lines root ps tree ended grave
    exact Run.of_eq_of_failures ((failures_finish_eq_some_iff _ _).mpr ⟨grave, rfl⟩) root

/-- One selector with two components is an error without words, and nothing is printed. -/
def mute : Config :=
  { Config.default with
    throwOnError := true
    printToConsole := false
    overrides := fun rule =>
      if rule = .customSelectorTypes then some ⟨some .error, [], some "", some ""⟩ else none }

/-- A file tree with nothing in it. -/
def bareTree : FileTree := ⟨[], []⟩

/-- The two pages that share a selector fail even this run, which writes nothing. -/
theorem finish_escalates_mute :
    (mute.disable = false ∧ mute.throwOnError = true ∧
        ∃ f ∈ (batch mute (LineSource.nowhere.find bareTree)
            [signIn, signUp]).value.session.findings,
          f.severity = .error) ∧
      (Run.of mute .nowhere none [signIn, signUp] bareTree).value.tree = bareTree ∧
      (Run.of mute .nowhere none [signIn, signUp] bareTree).value.outcome =
        .error (.errors
          "lint rule ULR08 failure in page object pages/sign-up.json: error 3003: ; ") := by
  have grave :
      mute.disable = false ∧ mute.throwOnError = true ∧
        ∃ f ∈ (batch mute (LineSource.nowhere.find bareTree)
            [signIn, signUp]).value.session.findings,
          f.severity = .error :=
    ⟨rfl, rfl, by decide⟩
  obtain ⟨_, _, _, escalates⟩ := finish_escalates mute (LineSource.nowhere.find bareTree) .empty
  rw [escalates .nowhere none [signIn, signUp] bareTree grave]
  exact ⟨grave, rfl, congrArg (fun text => Except.error (Failure.errors text)) (by decide)⟩

end Session

end PageLint
