import PageLint.Path
import PageLint.Rule.Active

/-!
# SARIF reports

A report lists all rules of the catalog, also those that are disabled, and then the findings. Paths
of page objects become relative to the root of the repository where they are absolute.

## Main definitions

* `Report.uri` — the place of a page object in a report
* `Report.sarif` — the report of a list of findings
-/

namespace PageLint.Report

/-- The name of the program in its reports. -/
def toolName : String := "polint"

/-- The version of the program. -/
def version : String := "0.1.0"

/-- The schema that reports follow. -/
def schema : String :=
  "https://raw.githubusercontent.com/oasis-tcs/sarif-spec/main/sarif-2.1/schema/" ++
    "sarif-schema-2.1.0.json"

/-- The way from the root of the repository to a page object with an absolute path; the path as it
is when there is no such way. -/
def relative (root : Option Path) (pageObject : String) : String :=
  let path : Path := ⟨pageObject⟩
  match root with
  | none => pageObject
  | some root =>
    if !path.isAbsolute || !root.isAbsolute then pageObject
    else
      match Path.wayFrom root.parts path.parts with
      | none => pageObject
      | some way => "/".intercalate (way.map (·.text))

/-- The place of a page object in a report, with slashes for backslashes. -/
def uri (root : Option Path) (pageObject : String) : String :=
  (relative root pageObject).map fun c => if c = '\\' then '/' else c

/-- The level of a rule that is disabled. -/
def disabledLevel : String := "none"

/-- What a report says of a rule. -/
def ruleEntry (rules : RuleSet) (rule : Rule) : Json :=
  let active := rules.get? rule
  .object
    [("id", .string rule.entry.id),
      ("name", .string rule.entry.name),
      ("shortDescription", .object [("text", .string rule.entry.description)]),
      ("fullDescription", .object [("text", .string rule.entry.description)]),
      ("defaultConfiguration", .object
        [("enabled", .bool active.isSome),
          ("level", .string ((active.map (·.severity.name)).getD disabledLevel))]),
      ("properties", .object [("code", .ofNat rule.entry.code)])]

/-- The place of a rule in the catalog; identifiers of no rule count as the first. -/
def ruleIndex (id : String) : Nat := (Rule.all.findIdx? (·.entry.id == id)).getD 0

/-- What a report says of a place. -/
def artifact (root : Option Path) (pageObject : String) : String × Json :=
  ("artifactLocation", .object
    [("uri", .string (uri root pageObject)), ("uriBaseId", .string "%SRCROOT%")])

/-- What a report says of a finding. Lines are counted from one. -/
def result (root : Option Path) (f : Finding) : Json :=
  .object <|
    [("ruleId", .string f.ruleId),
      ("ruleIndex", .ofNat (ruleIndex f.ruleId)),
      ("level", .string f.severity.name),
      ("message", .object [("text", .string f.message)]),
      ("locations", .array
        [.object
          [("physicalLocation", .object
            [artifact root f.pageObject,
              ("region", .object [("startLine", .ofNat (max f.line 1))])])]]),
      ("fixes", .array [.object [("description", .object [("text", .string f.fix)])]]),
      ("properties", .object [("code", .ofNat f.code)])] ++
    match f.related with
    | none => []
    | some related =>
      [("relatedLocations", .array
        [.object
          [("id", .ofNat 0), ("physicalLocation", .object [artifact root related])]])]

/-- The report of a list of findings. -/
def sarif (rules : RuleSet) (root : Option Path) (fs : List Finding) : Json :=
  .object
    [("$schema", .string schema),
      ("version", .string "2.1.0"),
      ("runs", .array
        [.object
          [("tool", .object
            [("driver", .object
              [("name", .string toolName),
                ("version", .string version),
                ("rules", .array (Rule.all.map (ruleEntry rules)))])]),
            ("results", .array (fs.map (result root)))]])]

end PageLint.Report
