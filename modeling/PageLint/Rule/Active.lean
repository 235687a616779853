import PageLint.Config
import PageLint.Finding
import PageLint.Rule.Detection

/-!
# Rules with their configuration

A configuration turns the catalog into a set of active rules: those that are not disabled, each with
its severity, the page objects it leaves alone, and texts that replace its own.

## Main definitions

* `ActiveRule` — a rule with its configuration
* `ActiveRule.findings`, `ActiveRule.findingsBetween` — its findings
* `RuleSet.resolve` — the active rules of a configuration
-/

namespace PageLint

/-- A rule with its configuration. -/
structure ActiveRule where
  rule : Rule
  severity : Severity
  /-- The names or paths of page objects that the rule leaves alone. -/
  exclude : List String
  message : Option String
  fix : Option String
deriving DecidableEq, Repr

namespace ActiveRule

/-- A rule that no configuration mentions. -/
def plain (rule : Rule) : ActiveRule := ⟨rule, .warning, [], none, none⟩

/-- The rule as an override configures it, unless the override disables it. -/
def configured (rule : Rule) : Option Config.Override → Option ActiveRule
  | none => some (plain rule)
  | some o =>
    match o.violation with
    | some .disabled => none
    | some .error => some ⟨rule, .error, o.exclude, o.message, o.fix⟩
    | some .warning | none => some ⟨rule, .warning, o.exclude, o.message, o.fix⟩

/-- The rule does not leave the page object alone. -/
def appliesTo (r : ActiveRule) (p : PageObject) : Bool :=
  !r.exclude.any p.isNamed

/-- What the rule reports of a detection. -/
def report (r : ActiveRule) (d : Rule.Detection) : Finding where
  ruleId := r.rule.entry.id
  ruleName := r.rule.entry.name
  code := r.rule.entry.code
  severity := r.severity
  message := r.message.getD d.message
  fix := r.fix.getD d.fix
  line := d.line
  pageObject := d.pageObject
  related := d.related

/-- The findings of a rule in a page object. -/
def findings (r : ActiveRule) (find : Lookup) (p : PageObject) : List Finding :=
  if r.appliesTo p then (r.rule.detect find p).map r.report else []

/-- The findings of a rule in two page objects; excluding either excludes both. -/
def findingsBetween (r : ActiveRule) (find : Lookup) (first second : PageObject) :
    List Finding :=
  if r.appliesTo first && r.appliesTo second then
    (r.rule.detectBetween find first second).map r.report
  else []

end ActiveRule

/-- The active rules, in the order of the catalog. -/
structure RuleSet where
  active : List ActiveRule
deriving DecidableEq, Repr

namespace RuleSet

/-- The active rules of a configuration. -/
def resolve (c : Config) : RuleSet :=
  ⟨Rule.all.filterMap fun rule => ActiveRule.configured rule (c.overrides rule)⟩

/-- The active rules on one page object. -/
def localRules (s : RuleSet) : List ActiveRule := s.active.filter fun r => !r.rule.isGlobal

/-- The active rules on two page objects. -/
def globalRules (s : RuleSet) : List ActiveRule := s.active.filter (·.rule.isGlobal)

/-- The configured form of a rule, when it is active. -/
def get? (s : RuleSet) (rule : Rule) : Option ActiveRule := s.active.find? (·.rule == rule)

/-- The findings of all local rules in a page object. -/
def findings (s : RuleSet) (find : Lookup) (p : PageObject) : List Finding :=
  s.localRules.flatMap fun r => r.findings find p

/-- The findings of all global rules in every two of the page objects. -/
def findingsAmong (s : RuleSet) (find : Lookup) (ps : List PageObject) : List Finding :=
  (pairs ps).flatMap fun (first, second) =>
    s.globalRules.flatMap fun r => r.findingsBetween find first second

end RuleSet

end PageLint
