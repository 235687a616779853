import PageLint.Log.Event
import PageLint.Rule.Active

/-!
# Sessions

A session is one compilation: the page objects linted so far, and the findings so far. Both lists
only grow, and keep the order in which things happened. A page object is linted by itself when it
comes in, and all of them with one another at the end.

## Main definitions

* `Session` — page objects and findings
* `Session.lint` — lints a page object and takes it in
* `Session.finish` — lints all page objects with one another, and decides whether the run fails
* `Session.batch` — a session from its start to its end
-/

namespace PageLint

/-- The page objects and findings of one compilation. -/
structure Session where
  pageObjects : List PageObject
  findings : List Finding
deriving DecidableEq, Repr

namespace Session

/-- A session in which nothing has happened. -/
def empty : Session := ⟨[], []⟩

/-- The findings that can fail a run. -/
def errors (s : Session) : List Finding := s.findings.filter (·.isError)

/-- The other findings. -/
def warnings (s : Session) : List Finding := s.findings.filter fun f => !f.isError

/-- The counts of the session. -/
def summary (s : Session) : Summary := .of s.findings s.pageObjects.length

/-- Lints a page object by itself and takes it into the session. -/
def lint (c : Config) (find : Lookup) (p : PageObject) (s : Session) : Logged Session := do
  if c.disable then return s
  let found := (RuleSet.resolve c).findings find p
  Logged.log
    [⟨.debug, Log.Event.linter, "local rules done",
      [("page_object", p.path), ("findings", toString found.length)]⟩]
  return ⟨s.pageObjects ++ [p], s.findings ++ found⟩

/-- Logs the text of some findings below a line break, unless it is empty. -/
def consoleEvents (level : Log.Level) (text : String) : List Log.Event :=
  if text.isEmpty then [] else [⟨level, Log.Event.linter, "\n" ++ text, []⟩]

/-- The end of a session: what it has become, and the text of its errors if they fail the run. -/
structure Finished where
  session : Session
  failures : Option String
deriving DecidableEq, Repr

/-- Lints every two page objects of the session with one another. All findings so far are logged,
and the errors among them fail the run if the configuration says so; whether there are any is read
off their joined text. -/
def finish (c : Config) (find : Lookup) (s : Session) : Logged Finished := do
  if c.disable then return ⟨s, none⟩
  let found := (RuleSet.resolve c).findingsAmong find s.pageObjects
  Logged.log
    [⟨.debug, Log.Event.linter, "global rules done",
      [("page_objects", toString s.pageObjects.length), ("findings", toString found.length)]⟩]
  let s : Session := ⟨s.pageObjects, s.findings ++ found⟩
  -- Errors of earlier calls count again, those of single page objects among them.
  let errors := Finding.joinMessages s.errors
  if c.printToConsole then
    let warnings := Finding.joinMessages s.warnings
    Logged.log (consoleEvents .warn warnings ++ consoleEvents .error errors)
  return ⟨s, if c.throwOnError && !errors.isEmpty then some errors else none⟩

/-- Lints page objects one after the other. -/
def lintAll (c : Config) (find : Lookup) (ps : List PageObject) (s : Session) : Logged Session :=
  ps.foldlM (fun s p => s.lint c find p) s

/-- Lints a batch of page objects in a session of its own, from its start to its end. -/
def batch (c : Config) (find : Lookup) (ps : List PageObject) : Logged Finished := do
  let s ← empty.lintAll c find ps
  s.finish c find

end Session

end PageLint
