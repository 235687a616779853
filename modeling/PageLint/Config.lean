import PageLint.Rule.Catalog
import PageLint.Shape.Value

/-!
# Configuration

A configuration has a few switches and, for each rule of the catalog, what it overrides. A rule's
override stands under the rule's key or under its name.

## Main definitions

* `Config.Override` — what a configuration says of one rule
* `Config` — a configuration
* `Config.shape` — how configurations are written
* `Config.ofJson?` — the configuration that is part of a larger document
-/

namespace PageLint

namespace Config

/-- What a violation of a rule counts as. -/
inductive Violation where
  | error
  | warning
  | disabled
deriving DecidableEq, Repr

/-- The name of a violation in documents. -/
def Violation.name : Violation → String
  | .error => "error"
  | .warning => "warning"
  | .disabled => "disabled"

/-- A violation is written as its name. -/
def Violation.shape : Shape Violation := .choice [.error, .warning, .disabled] Violation.name

/-- What a configuration says of one rule. -/
structure Override where
  violation : Option Violation
  /-- The names or paths of page objects that the rule leaves alone. -/
  exclude : List String
  message : Option String
  fix : Option String
deriving DecidableEq, Repr

/-- An override is a record whose parts may be left out. -/
def Override.shape : Shape Override :=
  .record "RuleOverride"
    (.required "violation" (.optional Violation.shape) <|
      .defaulted "exclude" [] (.many .text) <|
      .required "message" (.optional .text) <|
      .required "fixSuggestion" (.optional .text) <|
      .nil)
    (fun (violation, exclude, message, fix, ()) => ⟨violation, exclude, message, fix⟩)
    (fun o => (o.violation, o.exclude, o.message, o.fix, ()))

/-- The overrides of the given rules, side by side. -/
def Row : List Rule → Type
  | [] => Unit
  | _ :: rules => Option Override × Row rules

/-- A field for each of the given rules, under its key or its name. -/
def rowFields : (rules : List Rule) → Shape.Fields (Row rules)
  | [] => .nil
  | rule :: rules =>
    .aliased rule.entry.key rule.entry.name none (.optional Override.shape) (rowFields rules)

/-- The override of a rule. -/
def ofRow : (rules : List Rule) → Row rules → Rule → Option Override
  | [], _, _ => none
  | rule :: rules, (o, row), r => if r = rule then o else ofRow rules row r

/-- The overrides of the given rules. -/
def toRow (overrides : Rule → Option Override) : (rules : List Rule) → Row rules
  | [] => ()
  | rule :: rules => (overrides rule, toRow overrides rules)

end Config

/-- A configuration. -/
structure Config where
  disable : Bool
  writeReport : Bool
  throwOnError : Bool
  printToConsole : Bool
  /-- Where the report goes, relative to the repository. -/
  reportPath : String
  overrides : Rule → Option Config.Override

namespace Config

/-- The name of the report when no configuration gives another. -/
def defaultReportPath : String := "polint.sarif"

/-- The configuration that holds when none is given: every rule warns, and a report is written. -/
def default : Config where
  disable := false
  writeReport := true
  throwOnError := false
  printToConsole := true
  reportPath := defaultReportPath
  overrides _ := none

instance : Inhabited Config := ⟨default⟩

/-- The fields of a configuration: the switches, then the rules of the catalog. -/
def fields : Shape.Fields (Bool × Bool × Bool × Bool × String × Row Rule.all) :=
  .defaulted "disable" false .flag <|
    .aliased "writeReport" "writeSarifReport" true .flag <|
    .aliased "throwOnError" "throwError" false .flag <|
    .defaulted "printToConsole" true .flag <|
    .aliased "reportOutputPath" "lintingOutputFile" defaultReportPath .text <|
    rowFields Rule.all

/-- A configuration is a record whose parts may all be left out. -/
def shape : Shape Config :=
  .record "LintingConfig" fields
    (fun (disable, writeReport, throwOnError, printToConsole, reportPath, row) =>
      ⟨disable, writeReport, throwOnError, printToConsole, reportPath, ofRow Rule.all row⟩)
    (fun c =>
      (c.disable, c.writeReport, c.throwOnError, c.printToConsole, c.reportPath,
        toRow c.overrides Rule.all))

/-- The configuration that is part of a larger document; the default one when there is none. -/
def ofJson? : Option Json → Except Shape.Trouble Config
  | none => .ok default
  | some v => Shape.read Shape.ofValue shape v

end Config

end PageLint
