import PageLint.Shape.Basic

/-!
# Findings

A finding is one violation of one rule, with everything a report needs: it keeps the rule's own
texts, so a list of findings can be printed without the rules that made it.

## Main definitions

* `Severity`, `Finding`, `Summary`
* `Finding.fullMessage` — a finding on the console
* `Summary.of` — the counts of a list of findings
-/

namespace PageLint

/-- How grave a finding is. Only errors can fail a run. -/
inductive Severity where
  | warning
  | error
deriving DecidableEq, Repr

namespace Severity

/-- The name of a severity in documents and messages. -/
def name : Severity → String
  | .warning => "warning"
  | .error => "error"

/-- A severity is written as its name. -/
def shape : Shape Severity := .choice [.warning, .error] name

end Severity

/-- One violation of one rule. -/
structure Finding where
  ruleId : String
  ruleName : String
  code : Nat
  severity : Severity
  message : String
  fix : String
  /-- The line of the source, counted from one. -/
  line : Nat
  /-- The path of the page object. -/
  pageObject : String
  /-- The path of the other page object, when the rule compares two. -/
  related : Option String
deriving DecidableEq, Repr

namespace Finding

/-- A finding on the console. -/
def fullMessage (f : Finding) : String :=
  "lint rule " ++ f.ruleId ++ " failure in page object " ++ f.pageObject ++ ": " ++
    f.severity.name ++ " " ++ toString f.code ++ ": " ++ f.message ++ "; " ++ f.fix

/-- The finding is an error. -/
def isError (f : Finding) : Bool := f.severity == .error

/-- The JSON value of a finding. The other page object is left out when there is none. -/
def write (f : Finding) : Json :=
  .object <|
    [("ruleId", .string f.ruleId),
      ("ruleName", .string f.ruleName),
      ("code", .ofNat f.code),
      ("severity", .string f.severity.name),
      ("message", .string f.message),
      ("fixSuggestion", .string f.fix),
      ("sourceLine", .ofNat f.line),
      ("pageObject", .string f.pageObject)] ++
    (f.related.map fun path => ("relatedPageObject", Json.string path)).toList

/-- The console text of several findings, a line each. -/
def joinMessages (fs : List Finding) : String :=
  "\n".intercalate (fs.map fullMessage)

theorem fullMessage_ne_empty (f : Finding) : f.fullMessage ≠ "" := by
  intro empty
  unfold fullMessage at empty
  rw [String.append_eq_empty_iff] at empty
  have start := empty.1
  rw [String.append_eq_empty_iff] at start
  exact absurd start.2 (by decide)

/-- No finding is so silent that it would not show in the text. -/
theorem joinMessages_eq_empty_iff {fs : List Finding} : joinMessages fs = "" ↔ fs = [] := by
  match fs with
  | [] => simp [joinMessages]
  | [f] => simp [joinMessages, fullMessage_ne_empty]
  | f :: g :: fs => simp [joinMessages, fullMessage_ne_empty]

end Finding

/-- The counts that a report ends with. -/
structure Summary where
  errors : Nat
  warnings : Nat
  pageObjects : Nat
deriving DecidableEq, Repr

namespace Summary

/-- The counts of findings in so many page objects. -/
def of (fs : List Finding) (pageObjects : Nat) : Summary :=
  let errors := fs.countP (·.isError)
  ⟨errors, fs.length - errors, pageObjects⟩

/-- The JSON value of a summary. -/
def write (s : Summary) : Json :=
  .object
    [("errors", .ofNat s.errors),
      ("warnings", .ofNat s.warnings),
      ("page_objects", .ofNat s.pageObjects)]

end Summary

end PageLint
