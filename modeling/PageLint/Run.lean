import PageLint.FileTree
import PageLint.Json.Printer
import PageLint.Report.Sarif
import PageLint.Session

/-!
# Runs

A run lints a batch of page objects in one session and writes the report. A run can fail for two
reasons: errors among the findings, when the configuration makes them fail it, and a report that
cannot be written. Errors are found first, and then no report is written.

## Main definitions

* `LineSource` — where the lines of findings are looked up
* `Session.writeReport` — writes the report of a session
* `Run.of` — lints a batch of page objects
* `Run.exitCode` — the exit code of a run
-/

namespace PageLint

/-- Where the lines of findings are looked up. -/
inductive LineSource where
  | nowhere
  /-- The sources of the page objects, which lie below a directory. -/
  | below (root : Path)
deriving DecidableEq, Repr

/-- The line of a chain of fragments in the source at a path; the first line if there is no such
source. -/
def LineSource.find (tree : FileTree) : LineSource → Lookup
  | .nowhere, _, _ => Text.firstLine
  | .below root, path, fragments =>
    match tree.read (root.join ⟨path⟩) with
    | .ok text => Text.findLine text fragments
    | .error _ => Text.firstLine

/-- Why a run fails. -/
inductive Failure where
  /-- The findings hold errors; their text. -/
  | errors (text : String)
  /-- The report cannot be written to the path. -/
  | report (path : Path)
deriving DecidableEq, Repr

namespace Failure

/-- The wording for errors among the findings. -/
def errorsMessage (text : String) : String := "linting failures:\n" ++ text

/-- The exit code of a failed run. -/
def exitCode : Failure → Nat
  | .errors _ => 1
  | .report _ => 2

end Failure

/-- Where the report goes: a path below the root, which is the working directory if there is
none. -/
def Config.reportTarget (c : Config) (root : Option Path) : Path :=
  (root.getD ⟨"."⟩).join ⟨c.reportPath⟩

/-- The text of a report file. -/
def Report.text (c : Config) (root : Option Path) (fs : List Finding) : String :=
  String.ofList (Report.sarif (.resolve c) root fs).indented

/-- Writes a file, with the directories above it, and says whether that worked. -/
def FileTree.save (tree : FileTree) (path : Path) (text : String) : FileTree × Bool :=
  let (tree, ready) :=
    match path.parent? with
    | some dir => if dir.text.isEmpty then (tree, true) else tree.makeDirs dir
    | none => (tree, true)
  if ready then
    match tree.write path text with
    | .ok tree => (tree, true)
    | .error _ => (tree, false)
  else (tree, false)

/-- Writes the report of a session, if the configuration asks for one; the answer is its path. -/
def Session.writeReport (c : Config) (root : Option Path) (tree : FileTree) (s : Session) :
    Logged (FileTree × Except Failure (Option Path)) := do
  if c.disable || !c.writeReport then return (tree, .ok none)
  let path := c.reportTarget root
  Logged.log [⟨.info, Log.Event.linter, "Write results of linting to " ++ path.text, []⟩]
  match tree.save path (Report.text c root s.findings) with
  | (tree, true) => return (tree, .ok (some path))
  | (tree, false) => return (tree, .error (.report path))

/-- A finished run: its session, the files it leaves, and the path of its report unless it
failed. -/
structure Run where
  session : Session
  tree : FileTree
  outcome : Except Failure (Option Path)

namespace Run

/-- Lints a batch of page objects. -/
def of (c : Config) (lines : LineSource) (root : Option Path) (ps : List PageObject)
    (tree : FileTree) : Logged Run := do
  let finished ← Session.batch c (lines.find tree) ps
  match finished.failures with
  | some text => return ⟨finished.session, tree, .error (.errors text)⟩
  | none =>
    let (tree, outcome) ← finished.session.writeReport c root tree
    return ⟨finished.session, tree, outcome⟩

/-- The exit code of a run. -/
def exitCode (r : Run) : Nat :=
  match r.outcome with
  | .ok _ => 0
  | .error f => f.exitCode

end Run

end PageLint
