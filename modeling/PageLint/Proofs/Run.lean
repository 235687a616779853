import PageLint.Proofs.FileTree.Writing
import PageLint.Proofs.Session.Escalation

/-!
# How a run ends

A run ends in one of four ways. Errors that fail it come first, and then there is no report; a run
that is not failed by them has no report to write, writes it, or cannot write it. A report that was
written can be read back where it was written.

## Main definitions

* `Run.Ends` — how a run ends that found what a session holds

## Main results

* `Run.ends_of` — every run ends in one of these ways
* `Run.Ends.exitCode_eq_zero_iff` and its companions — what the exit code tells of it
-/

namespace PageLint

variable {c : Config} {root : Option Path} {tree tree' : FileTree}

/-! ## The report of a session -/

namespace Session

variable {s : Session}

theorem value_writeReport_of_off (off : ¬ (c.disable = false ∧ c.writeReport = true)) :
    (s.writeReport c root tree).value = (tree, .ok none) := by
  have unasked : (c.disable || !c.writeReport) = true := by
    cases disable : c.disable <;> simp_all
  rw [writeReport, if_pos unasked]
  rfl

/-- Where a report is asked for, its fate is that of its file. -/
theorem value_writeReport_of_on {written : Bool} (on : c.disable = false ∧ c.writeReport = true)
    (saved : tree.save (c.reportTarget root) (Report.text c root s.findings) = (tree', written)) :
    (s.writeReport c root tree).value =
      (tree', if written then .ok (some (c.reportTarget root))
        else .error (.report (c.reportTarget root))) := by
  have asked : ¬ (c.disable || !c.writeReport) = true := by simp [on]
  rw [writeReport, if_neg asked, Logged.value_bind, saved]
  cases written <;> rfl

end Session

/-- A run that no errors fail writes its report. -/
theorem Run.of_eq_of_passed {lines : LineSource} {ps : List PageObject}
    (passed : (Session.batch c (lines.find tree) ps).value.failures = none) (root : Option Path) :
    let finished := Session.batch c (lines.find tree) ps
    let reported := finished.value.session.writeReport c root tree
    Run.of c lines root ps tree =
      ⟨⟨finished.value.session, reported.value.1, reported.value.2⟩,
        finished.events ++ reported.events⟩ := by
  unfold Run.of
  change Logged.bind _ _ = _
  simp only [Logged.bind, passed, Logged.value_bind, Logged.events_bind, Logged.value_pure,
    Logged.events_pure, List.append_nil]

/-! ## Four ways to end -/

namespace Run

variable {finished : Session.Finished} {r : Run}

/-- How a run ends that found what a session holds. -/
inductive Ends (c : Config) (root : Option Path) (tree : FileTree) (finished : Session.Finished) :
    Run → Prop
  /-- Errors fail the run. -/
  | failed {text : String} (errors : finished.failures = some text) :
    Ends c root tree finished ⟨finished.session, tree, .error (.errors text)⟩
  /-- No report is asked for. -/
  | silent (passed : finished.failures = none) (off : ¬ (c.disable = false ∧ c.writeReport = true)) :
    Ends c root tree finished ⟨finished.session, tree, .ok none⟩
  /-- The report is written. -/
  | reported {tree' : FileTree} (passed : finished.failures = none)
    (on : c.disable = false ∧ c.writeReport = true)
    (saved : tree.save (c.reportTarget root) (Report.text c root finished.session.findings) =
      (tree', true)) :
    Ends c root tree finished ⟨finished.session, tree', .ok (some (c.reportTarget root))⟩
  /-- The report cannot be written. -/
  | unwritten {tree' : FileTree} (passed : finished.failures = none)
    (on : c.disable = false ∧ c.writeReport = true)
    (lost : tree.save (c.reportTarget root) (Report.text c root finished.session.findings) =
      (tree', false)) :
    Ends c root tree finished ⟨finished.session, tree', .error (.report (c.reportTarget root))⟩

/-- Every run ends in one of these ways. -/
theorem ends_of (c : Config) (lines : LineSource) (root : Option Path) (ps : List PageObject)
    (tree : FileTree) :
    Ends c root tree (Session.batch c (lines.find tree) ps).value
      (Run.of c lines root ps tree).value := by
  rw [Run.of, Logged.value_bind]
  generalize (Session.batch c (lines.find tree) ps).value = finished
  cases failures : finished.failures with
  | some text => exact .failed failures
  | none =>
    dsimp only
    rw [Logged.value_bind]
    by_cases on : c.disable = false ∧ c.writeReport = true
    · cases saved : tree.save (c.reportTarget root)
        (Report.text c root finished.session.findings) with
      | mk tree' written =>
        rw [Session.value_writeReport_of_on on saved]
        cases written with
        | true => exact .reported failures on saved
        | false => exact .unwritten failures on saved
    · rw [Session.value_writeReport_of_off on]
      exact .silent failures on

/-- However a run ends, its session is that of its batch. -/
theorem Ends.session_eq (ends : Ends c root tree finished r) : r.session = finished.session := by
  cases ends <;> rfl

/-! ## Exit codes -/

/-- The code is 0 only for a run that does not fail. -/
theorem exists_outcome_of_exitCode_eq_zero (done : r.exitCode = 0) :
    ∃ target, r.outcome = .ok target := by
  rw [exitCode] at done
  cases outcome : r.outcome with
  | ok target => exact ⟨target, rfl⟩
  | error failure =>
    rw [outcome] at done
    cases failure <;> cases done

theorem Ends.exitCode_eq_one_iff (ends : Ends c root tree finished r) :
    r.exitCode = 1 ↔ finished.failures.isSome := by
  cases ends with
  | failed errors => simp [exitCode, Failure.exitCode, errors]
  | silent passed | reported passed | unwritten passed =>
    simp [exitCode, Failure.exitCode, passed]

theorem Ends.exitCode_eq_two_iff (ends : Ends c root tree finished r) :
    r.exitCode = 2 ↔
      finished.failures.isSome = false ∧ (c.disable = false ∧ c.writeReport = true) ∧
        (tree.save (c.reportTarget root) (Report.text c root finished.session.findings)).2 =
          false := by
  cases ends with
  | failed errors => simp [exitCode, Failure.exitCode, errors]
  | silent passed off => simp [exitCode, off]
  | reported passed on saved => simp [exitCode, saved]
  | unwritten passed on lost => simp [exitCode, Failure.exitCode, passed, on, lost]

theorem Ends.exitCode_eq_zero_iff (ends : Ends c root tree finished r) :
    r.exitCode = 0 ↔
      finished.failures.isSome = false ∧ ¬ ((c.disable = false ∧ c.writeReport = true) ∧
        (tree.save (c.reportTarget root) (Report.text c root finished.session.findings)).2 =
          false) := by
  cases ends with
  | failed errors => simp [exitCode, Failure.exitCode, errors]
  | silent passed off => simp [exitCode, passed, off]
  | reported passed on saved => simp [exitCode, passed, saved]
  | unwritten passed on lost => simp [exitCode, Failure.exitCode, on, lost]

end Run

end PageLint
