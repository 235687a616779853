import PageLint.Proofs.CommandLine.ExitCode
import PageLint.Proofs.Report.Console

/-!
# What is printed and what is written

A linting command that succeeds with a report prints its results after the report was written, out
of the same findings and for the same root. So where the results are printed in the form of the
report, they are the very text of its file, and where they are printed for programs, they tell of the
findings that the file tells of, in the same order.

## Main results

* `results_of_lint` — the printed results and the file of the report
-/

namespace PageLint

namespace Run

variable {c : Config} {root : Option Path} {tree : FileTree} {finished : Session.Finished} {r : Run}

/-- A run that succeeds has written its report, if one is asked for. -/
theorem Ends.read_report (ends : Ends c root tree finished r) (done : r.exitCode = 0)
    (on : c.disable = false ∧ c.writeReport = true) :
    r.session = finished.session ∧ r.outcome = .ok (some (c.reportTarget root)) ∧
      r.tree.read (c.reportTarget root) = .ok (Report.text c root finished.session.findings) := by
  cases ends with
  | failed => cases done
  | unwritten => cases done
  | silent _ off => exact absurd on off
  | reported _ _ saved => exact ⟨rfl, rfl, FileTree.read_of_save saved⟩

end Run

namespace CommandLine

variable {s : Surroundings} {tree : FileTree} {args inputs : List String} {e : Config.Effective}
  {setting : Setting} {disable throwOnError noReport : Bool} {reportOutput : Option String}

theorem output_of_results {a : Answer} {line : String} (single : a.results = [line]) :
    a.output = line ++ "\n" := by
  rw [Answer.output, single]
  simp [endLines, String.join]

/-- A linting command that succeeds with a report leaves a file whose text is read back from the
path of the report. In the form of the report the standard output is this text and the end of the
line. For programs it is a value that lists all findings, in the order in which the results of the
file tell them, and counts its items by how grave they are. -/
theorem results_of_lint
    (asked : parse args = .command (.lint inputs setting disable throwOnError noReport reportOutput))
    (holds : Config.effective tree
      (Command.lint inputs setting disable throwOnError noReport reportOutput).flags = .ok e)
    (on : e.config.disable = false ∧ e.config.writeReport = true)
    (done : (run s tree args).exit = 0) :
    ∃ ps text, Facts.Gathers tree e.root inputs ps ∧
      (run s tree args).tree.read (e.config.reportTarget (some e.root)) = .ok text ∧
      (setting.output = some "sarif" → (run s tree args).output = text ++ "\n") ∧
      (setting.output = some "json" →
        let found :=
          (Session.batch e.config (LineSource.find tree (.below e.root)) ps).value.session.findings
        ∃ printed v w items results,
          (run s tree args).output = printed ++ "\n" ∧ Json.ofString printed = .ok v ∧
            Json.ofString text = .ok w ∧
            v.get? "findings" = some (.array items) ∧
            w.reach? Report.wayToResults = some (.array results) ∧
            List.Forall₂ Report.Recounts found items ∧
            List.Forall₂ (Report.Tells (some e.root)) found results ∧
            v.get? "summary" = some (.object
              [("errors", .ofNat (items.countP (Report.isOf .error))),
                ("warnings", .ofNat (items.countP (Report.isOf .warning))),
                ("page_objects", .ofNat ps.length)])) := by
  have free : ¬ Obstructed tree
      (Command.lint inputs setting disable throwOnError noReport reportOutput).flags inputs := by
    intro blocked
    rw [exit_of_obstructed asked blocked] at done
    cases done
  obtain ⟨e', ps, holds', gathered⟩ := exists_gathers free
  obtain rfl := Except.ok.inj (holds.symm.trans holds')
  obtain ⟨code, files, results⟩ := run_of_gathers (s := s) asked holds gathered
  have ends := Run.ends_of e.config (.below e.root) (some e.root) ps tree
  obtain ⟨session, outcome, written⟩ := ends.read_report (code.symm.trans done) on
  have printed := results _ outcome
  rw [session] at printed
  refine ⟨ps, _, gathered, files ▸ written, fun sarif => ?_, fun json => ?_⟩
  · rw [sarif] at printed
    exact output_of_results printed
  · intro found
    rw [json] at printed
    obtain ⟨v, items, read, listed, told, counted⟩ := Report.json_lossless found ps.length
    -- The file holds the very value that was printed into it, with a result for each finding.
    have read' := Json.ofString_indented
      (Report.isCounted_sarif (.resolve e.config) (some e.root) found)
    have told' : List.Forall₂ (Report.Tells (some e.root)) found
        (found.map (Report.result (some e.root))) :=
      List.forall₂_map_right_iff.mpr (List.forall₂_same.mpr fun f _ => Report.tells_result _ f)
    refine ⟨_, v, _, items, _, output_of_results printed, ?_, read', listed,
      Report.results_sarif _ _ found, told, told', counted⟩
    rw [jsonText, Session.summary_batch _ on.1]
    exact read

/-- The report of the sign-in page is what is printed of it. -/
theorem results_of_lint_signIn :
    ∃ text,
      (run ⟨false, none⟩ signInPages ["lint", "pages/sign-in.json", "--output", "sarif"]).tree.read
          ⟨"/polint.sarif"⟩ = .ok text ∧
        (run ⟨false, none⟩ signInPages ["lint", "pages/sign-in.json", "--output", "sarif"]).output =
          text ++ "\n" := by
  have asked : parse ["lint", "pages/sign-in.json", "--output", "sarif"] =
      .command (.lint ["pages/sign-in.json"] ⟨none, none, some "sarif"⟩ false false false none) := rfl
  have holds : Config.effective signInPages
      (Command.lint ["pages/sign-in.json"] ⟨none, none, some "sarif"⟩ false false false none).flags =
      .ok ⟨⟨"/"⟩, false, Config.default⟩ := rfl
  have done : (run ⟨false, none⟩ signInPages
      ["lint", "pages/sign-in.json", "--output", "sarif"]).exit = 0 := by
    rw [(run_of_gathers asked holds gathers_signInPages).1,
      (Run.ends_of _ _ _ _ _).exitCode_eq_zero_iff]
    refine ⟨?_, fun lost => Bool.noConfusion lost.2⟩
    rw [← Bool.not_eq_true, Session.isSome_failures_batch_iff _ rfl]
    exact fun escalates => Bool.false_ne_true escalates.1
  obtain ⟨ps, text, -, stored, printed, -⟩ := results_of_lint asked holds ⟨rfl, rfl⟩ done
  exact ⟨text, stored, printed rfl⟩

end CommandLine

end PageLint
