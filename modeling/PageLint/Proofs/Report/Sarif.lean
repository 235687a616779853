import PageLint.Json.Printer
import PageLint.Proofs.Json.Building
import PageLint.Report.Sarif

/-!
# Reports are read back as they were made

The text of a report is the text of a value in which all numbers are counts, so reading undoes its
layout, whatever characters the texts of findings have. What a reader then finds under the results
is an account of the findings, one result for each of them and in their order.

## Main definitions

* `Json.reach?` — what lies in a value at the end of a way
* `Report.Tells` — a result says what is known of a finding

## Main results

* `isCounted_sarif` — all numbers in a report are counts
* `tells_result` — the result of a finding tells it
* `sarif_lossless` — the results in the text of a report
-/

namespace PageLint

namespace Json

/-- A step into a value: to the entry under a key, or to the item at a place. -/
inductive Step
  | key (name : String)
  | item (place : Nat)

/-- What lies one step inside a value. -/
def step? (v : Json) : Step → Option Json
  | .key name => v.get? name
  | .item place => v.array?.bind fun items => items[place]?

/-- What lies in a value at the end of a way. -/
def reach? (v : Json) : List Step → Option Json
  | [] => some v
  | step :: way => (v.step? step).bind fun w => w.reach? way

end Json

namespace Report

open Json (IsCounted Spells Step)

variable (rules : RuleSet) (root : Option Path) (f : Finding) (fs : List Finding)

/-! ## Numbers -/

theorem isCounted_artifact (pageObject : String) : (artifact root pageObject).2.IsCounted := by
  simp [artifact]

theorem isCounted_result : (result root f).IsCounted := by
  cases related : f.related <;> simp [result, related, isCounted_artifact]

theorem isCounted_ruleEntry (rule : Rule) : (ruleEntry rules rule).IsCounted := by
  simp [ruleEntry]

/-- All numbers in a report are counts. -/
theorem isCounted_sarif : (sarif rules root fs).IsCounted := by
  simp [sarif, isCounted_ruleEntry, isCounted_result]

/-! ## Results -/

/-- The way from a location to the place it names. -/
def wayToUri : List Step := [.key "physicalLocation", .key "artifactLocation", .key "uri"]

/-- A result says what is known of a finding: its rule, how grave it is and in which words, what is
advised, and where it is. It has a related location exactly if the finding has one. -/
structure Tells (r : Json) : Prop where
  ruleId : r.get? "ruleId" = some (.string f.ruleId)
  level : r.get? "level" = some (.string f.severity.name)
  message : r.reach? [.key "message", .key "text"] = some (.string f.message)
  fix : r.reach? [.key "fixes", .item 0, .key "description", .key "text"] = some (.string f.fix)
  code : r.reach? [.key "properties", .key "code"] = some (.ofNat f.code)
  line : r.reach? [.key "locations", .item 0, .key "physicalLocation", .key "region",
    .key "startLine"] = some (.ofNat (max f.line 1))
  uri : r.reach? (.key "locations" :: .item 0 :: wayToUri) =
    some (.string (Report.uri root f.pageObject))
  related : (r.get? "relatedLocations").isSome = f.related.isSome
  relatedUri : r.reach? (.key "relatedLocations" :: .item 0 :: wayToUri) =
    f.related.map fun path => .string (Report.uri root path)

/-- The result of a finding tells it. -/
theorem tells_result : Tells root f (result root f) := by
  obtain ⟨_, _, _, _, _, _, _, _, related⟩ := f
  cases related <;> constructor <;> rfl

/-- The results of a report, from its root. -/
def wayToResults : List Step := [.key "runs", .item 0, .key "results"]

theorem results_sarif :
    (sarif rules root fs).reach? wayToResults = some (.array (fs.map (result root))) := rfl

/-- The text of a report is well formed, and it is read back as a value whose results tell the
findings: as many as there are, and in their order. -/
theorem sarif_lossless :
    ∃ v results, Json.ofString (String.ofList (sarif rules root fs).indented) = .ok v ∧
      (∃ d, Spells (sarif rules root fs).indented d ∧ d.toJson = .ok v) ∧
        v.reach? wayToResults = some (.array results) ∧
          List.Forall₂ (Tells root) fs results := by
  have read := Json.ofString_indented (isCounted_sarif rules root fs)
  have spelled := Json.ofString_eq_ok_iff.mp read
  rw [String.toList_ofList] at spelled
  -- What is read is the very value that was printed, so its results are those that were made.
  refine ⟨_, _, read, spelled, results_sarif rules root fs, ?_⟩
  exact List.forall₂_map_right_iff.mpr (List.forall₂_same.mpr fun f _ => tells_result root f)

end Report

end PageLint
