import PageLint.Report.Style
import PageLint.Rule.Active

/-!
# Reports for people and programs

Besides the report file the linter answers on the console: with lines for people, or with JSON for
programs.

## Main definitions

* `Report.lines` — findings and their summary, for people
* `Report.json` — the same, for programs
* `Report.ruleLines`, `Report.rulesJson` — the catalog with its configuration
-/

namespace PageLint.Report

/-- The sign of a severity, and its tag. -/
def badge : Severity → String × String
  | .error => ("✖", "⟦error⟧")
  | .warning => ("▲", "⟦warn⟧")

/-- The color of a severity. -/
def severityStyle : Severity → Style
  | .error => .red
  | .warning => .yellow

/-- The two lines of a finding: what is wrong and where, and how to mend it. -/
def findingLines (color : Bool) (f : Finding) : List String :=
  let style := severityStyle f.severity
  let (icon, tag) := badge f.severity
  let place := f.pageObject ++ ":" ++ toString f.line
  [style.paint color icon ++ " " ++ Style.bold.paint color (style.paint color tag) ++ " " ++
      Style.bold.paint color place ++ " ❲" ++ f.ruleId ++ " " ++ toString f.code ++ "❳ " ++
      f.message,
    "    " ++ Style.grey.paint color "fix:" ++ " " ++ f.fix]

/-- The line of a summary. -/
def summaryLine (color : Bool) (s : Summary) : String :=
  Style.bold.paint color <|
    "— Summary — errors=" ++ toString s.errors ++ " warnings=" ++ toString s.warnings ++
      " page_objects=" ++ toString s.pageObjects

/-- The lines for people: the findings, if they are to be listed, and the summary. -/
def lines (color list : Bool) (fs : List Finding) (s : Summary) : List String :=
  (if list then fs.flatMap (findingLines color) else []) ++ [summaryLine color s]

/-- The value for programs: the findings and the summary. -/
def json (fs : List Finding) (s : Summary) : Json :=
  .object [("findings", .array (fs.map (·.write))), ("summary", s.write)]

/-- The line of a rule: its texts, and its severity if it is active. -/
def ruleLine (color : Bool) (rules : RuleSet) (rule : Rule) : String :=
  let e := rule.entry
  let state := ((rules.get? rule).map (·.severity.name)).getD "disabled"
  Style.bold.paint color (e.id ++ " " ++ toString e.code ++ " " ++ e.name) ++ " [" ++
    Style.cyan.paint color state ++ "] " ++ e.description

/-- The lines of the catalog. -/
def ruleLines (color : Bool) (rules : RuleSet) : List String :=
  Rule.all.map (ruleLine color rules)

/-- The value of a rule. -/
def ruleJson (rules : RuleSet) (rule : Rule) : Json :=
  let e := rule.entry
  let active := rules.get? rule
  .object
    [("id", .string e.id),
      ("name", .string e.name),
      ("code", .ofNat e.code),
      ("global", .bool e.isGlobal),
      ("configKey", .string e.key),
      ("enabled", .bool active.isSome),
      ("severity", ((active.map fun r => Json.string r.severity.name)).getD .null),
      ("description", .string e.description)]

/-- The value of the catalog. -/
def rulesJson (rules : RuleSet) : Json :=
  .object [("rules", .array (Rule.all.map (ruleJson rules)))]

end PageLint.Report
