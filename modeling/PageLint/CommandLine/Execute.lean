import PageLint.CommandLine.Arguments
import PageLint.Config.Discovery
import PageLint.Facts
import PageLint.Log.Filter
import PageLint.Log.Line
import PageLint.Report.Console
import PageLint.Run

/-!
# Executing a command

A command reads files, may write a report, and answers with lines: results on the standard output,
notes, errors and the log on the other one. All of it is a function of the arguments, the
surroundings and the files.

## Main definitions

* `CommandLine.Surroundings` — what the program is told besides its arguments
* `CommandLine.Answer` — what the program leaves behind
* `CommandLine.run` — the answer to a list of arguments
-/

namespace PageLint.CommandLine

open Report (Style)

/-- What the program is told besides its arguments. -/
structure Surroundings where
  /-- Styles are wanted on the terminal. -/
  color : Bool
  /-- The text of the log filter, if one is set. -/
  logFilter : Option String
deriving DecidableEq, Repr

/-- A message beside the results. -/
inductive Message where
  | note (s : String)
  | error (s : String)
  | text (s : String)
  | event (e : Log.Event)
deriving DecidableEq, Repr

/-- What the program leaves behind: its exit code, the lines of both outputs, and the files. -/
structure Answer where
  exit : Nat
  results : List String
  messages : List Message
  tree : FileTree

/-- The line of a message; an event that the filter drops has none. -/
def Message.line? (s : Surroundings) : Message → Option String
  | .note body => some (heading .cyan "note:" ++ " " ++ body)
  | .error body => some (heading .red "error:" ++ " " ++ body)
  | .text body => some body
  | .event e =>
    if (Log.Filter.ofSetting s.logFilter).allows e then some (Log.line s.color e) else none
where
  heading (style : Style) (word : String) : String :=
    Style.bold.paint s.color (style.paint s.color word)

/-- Lines, each ended. -/
def endLines (lines : List String) : String := String.join (lines.map (· ++ "\n"))

/-- The text on the standard output. -/
def Answer.output (a : Answer) : String := endLines a.results

/-- The text on the other output. -/
def Answer.errorOutput (s : Surroundings) (a : Answer) : String :=
  endLines (a.messages.filterMap (Message.line? s))

/-! ## Wording of errors -/

/-- The wording for a file that cannot be read or written. -/
def causeMessage : FileTree.Cause → String
  | .notFound => "No such file or directory"
  | .notADirectory => "Not a directory"
  | .isADirectory => "Is a directory"
  | .invalidData => "stream did not contain valid UTF-8"
  | .alreadyExists => "File exists"

/-- The wording for a text that is not what it should be. -/
def troubleMessage : Shape.Trouble → String
  | .fault .malformed => "malformed text"
  | .fault .cut => "unexpected end of text"
  | .mismatch m => m.message

/-- The wording for a configuration that cannot be read. -/
def configMessage : Config.Error → String
  | .unreadable path cause => "cannot read config " ++ path.text ++ ": " ++ causeMessage cause
  | .json path trouble => "invalid JSON config " ++ path.text ++ ": " ++ troubleMessage trouble
  | .toml path => "invalid TOML config " ++ path.text
  | .yaml path => "invalid YAML config " ++ path.text

/-- The wording for fact files that cannot be read. -/
def factsMessage : Facts.Error → String
  | .badPattern input fault => "invalid input pattern " ++ input ++ ": " ++ fault.message
  | .unreadable path cause => "cannot read fact file " ++ path.text ++ ": " ++ causeMessage cause
  | .malformed path trouble =>
    "invalid fact file " ++ path.text ++ ": " ++ troubleMessage trouble

/-! ## Commands -/

/-- The exit code of a command that could not do its work. -/
def cannotWork : Nat := 2

/-- The output mode for people, which is also the one that is taken when none is given. -/
def humanMode : String := "human"

/-- Styles are wanted in the given output mode. -/
def wantsStyles (s : Surroundings) (mode : String) : Bool := mode == humanMode && s.color

/-- The note for a repository without configuration. -/
def configNotes (e : Config.Effective) : List Message :=
  if e.found then [] else [.note "No polint config found; using defaults."]

/-- The text of a value for programs. -/
def jsonText (v : Json) : String := String.ofList v.indented

/-- The lines of the rules in an output mode. -/
def rulesResults (s : Surroundings) (mode : String) (rules : RuleSet) : List String :=
  if mode = "json" then [jsonText (Report.rulesJson rules)]
  else Report.ruleLines (wantsStyles s mode) rules

/-- The lines of a run in an output mode. -/
def runResults (s : Surroundings) (mode : String) (c : Config) (root : Path) (session : Session) :
    List String :=
  if mode = "json" then [jsonText (Report.json session.findings session.summary)]
  else if mode = "sarif" then
    [jsonText (Report.sarif (.resolve c) (some root) session.findings)]
  else
    Report.lines (wantsStyles s mode) (!c.printToConsole) session.findings session.summary

/-- What the program says of a run that failed. Findings that the log has shown are not repeated. -/
def failureMessages (c : Config) : Failure → List Message
  | .errors text =>
    .error "linting failures" :: if c.printToConsole then [] else [.text text]
  | .report path => [.error ("error creating linting report " ++ path.text)]

/-- Lints the inputs under a configuration. -/
def lint (s : Surroundings) (mode : String) (inputs : List String) (e : Config.Effective)
    (tree : FileTree) : Answer :=
  let expanded := Facts.expand tree e.root inputs
  let events := expanded.events.map Message.event
  match expanded.value with
  | .error err => ⟨cannotWork, [], events ++ [.error (factsMessage err)], tree⟩
  | .ok paths =>
    let loaded := Facts.load tree paths
    let events := events ++ loaded.events.map Message.event
    match loaded.value with
    | .error err => ⟨cannotWork, [], events ++ [.error (factsMessage err)], tree⟩
    | .ok ps =>
      let logged := Run.of e.config (.below e.root) (some e.root) ps tree
      let events := events ++ logged.events.map Message.event
      let run := logged.value
      match run.outcome with
      | .ok _ => ⟨run.exitCode, runResults s mode e.config e.root run.session, events, run.tree⟩
      | .error f => ⟨run.exitCode, [], events ++ failureMessages e.config f, run.tree⟩

/-- Goes on under the configuration that holds, if it can be read. -/
def withConfig (tree : FileTree) (flags : Config.Flags) (go : Config.Effective → Answer) :
    Answer :=
  match Config.effective tree flags with
  | .error err => ⟨cannotWork, [], [.error (configMessage err)], tree⟩
  | .ok e =>
    let answer := go e
    { answer with messages := configNotes e ++ answer.messages }

/-- What a command says about the configuration. -/
def Command.flags : Command → Config.Flags
  | .version => ⟨none, none, none, none, none, none⟩
  | .rules setting => ⟨setting.repoRoot, setting.config, none, none, none, none⟩
  | .lint _ setting disable throwOnError noReport reportOutput =>
    let given (flag value : Bool) : Option Bool := if flag then some value else none
    ⟨setting.repoRoot, setting.config, given disable true, given noReport false,
      given throwOnError true, reportOutput⟩

/-- The answer to a command. -/
def execute (s : Surroundings) (tree : FileTree) (c : Command) : Answer :=
  match c with
  | .version => ⟨0, [Report.version], [], tree⟩
  | .rules setting =>
    withConfig tree c.flags fun e =>
      ⟨0, rulesResults s (setting.output.getD humanMode) (.resolve e.config), [], tree⟩
  | .lint inputs setting _ _ _ _ =>
    withConfig tree c.flags fun e => lint s (setting.output.getD humanMode) inputs e tree

/-- How the program is used. -/
def usage : List String :=
  ["Usage: polint <COMMAND>",
    "",
    "Commands:",
    "  version  Show version",
    "  lint     Run lint rules on fact files or patterns of fact files",
    "  rules    List rules",
    "  help     Print this message",
    "",
    "Options of lint and rules:",
    "  --repo-root <DIR>        Repository root (default: current dir)",
    "  --config <FILE>          Config file relative to repo root (default: discovered polint.*)",
    "  --output <MODE>          Output mode: human|json|sarif (default: human)",
    "",
    "Options of lint:",
    "  --disable                Disable linting entirely",
    "  --throw-on-error         Fail when any error-severity finding exists",
    "  --no-report              Do not write the SARIF report",
    "  --report-output <FILE>   Report path relative to the repo root"]

/-- The answer to a list of arguments. -/
def run (s : Surroundings) (tree : FileTree) (args : List String) : Answer :=
  match parse args with
  | .command c => execute s tree c
  | .help => ⟨0, usage, [], tree⟩
  | .nameAndVersion => ⟨0, [Report.toolName ++ " " ++ Report.version], [], tree⟩
  | .mistake => ⟨cannotWork, [], usage.map Message.text, tree⟩

end PageLint.CommandLine
