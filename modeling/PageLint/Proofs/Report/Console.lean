import PageLint.Proofs.Report.Sarif
import PageLint.Report.Console
import PageLint.Session

/-!
# Findings for programs

Beside the report there is a shorter account of the findings for programs. It lists them in their
order, an item for each, and counts the items by how grave they are. Reading its text undoes its
layout, so what is printed is what a reader finds.

## Main definitions

* `Report.Recounts` — an item says what is known of a finding

## Main results

* `recounts_write` — the item of a finding recounts it
* `json_lossless` — the items and the counts in the text for programs
-/

namespace PageLint.Report

open Json (IsCounted)

variable {f : Finding} {fs : List Finding} {s : Summary}

/-- An item says what is known of a finding. It names a second page object exactly if the finding
does. -/
structure Recounts (f : Finding) (item : Json) : Prop where
  ruleId : item.get? "ruleId" = some (.string f.ruleId)
  ruleName : item.get? "ruleName" = some (.string f.ruleName)
  code : item.get? "code" = some (.ofNat f.code)
  severity : item.get? "severity" = some (.string f.severity.name)
  message : item.get? "message" = some (.string f.message)
  fix : item.get? "fixSuggestion" = some (.string f.fix)
  line : item.get? "sourceLine" = some (.ofNat f.line)
  pageObject : item.get? "pageObject" = some (.string f.pageObject)
  related : item.get? "relatedPageObject" = f.related.map Json.string

/-- The item of a finding recounts it. -/
theorem recounts_write (f : Finding) : Recounts f f.write := by
  obtain ⟨_, _, _, _, _, _, _, _, related⟩ := f
  cases related <;> constructor <;> rfl

/-- The item is of the given severity. -/
def isOf (severity : Severity) (item : Json) : Bool :=
  (item.get? "severity").bind Json.string? == some severity.name

theorem Recounts.isOf_eq {item : Json} (told : Recounts f item) (severity : Severity) :
    isOf severity item = (f.severity == severity) := by
  rw [isOf, told.severity]
  cases f.severity <;> cases severity <;> rfl

/-- Items that recount findings are as many of a severity as the findings are. -/
theorem countP_isOf_eq {items : List Json} (shown : List.Forall₂ Recounts fs items)
    (severity : Severity) : items.countP (isOf severity) = fs.countP (·.severity == severity) := by
  induction shown with
  | nil => rfl
  | cons first _ ih => rw [List.countP_cons, List.countP_cons, ih, first.isOf_eq]

/-- What is no error is a warning. -/
theorem warnings_of (fs : List Finding) (count : Nat) :
    (Summary.of fs count).warnings = fs.countP (·.severity == .warning) := by
  have others : (fun f : Finding => decide ¬ f.isError = true) = (·.severity == .warning) := by
    funext f
    cases weight : f.severity <;> simp [Finding.isError, weight]
  have split := List.length_eq_countP_add_countP (·.isError) (l := fs)
  rw [Summary.of]
  dsimp only
  rw [split, Nat.add_sub_cancel_left, others]

theorem isCounted_write (f : Finding) : f.write.IsCounted := by
  cases related : f.related <;> simp [Finding.write, related]

/-- All numbers in the text for programs are counts. -/
theorem isCounted_json : (json fs s).IsCounted := by
  simp [json, Summary.write, isCounted_write]

/-- The text for programs is read back as a value that lists the findings, an item for each of them
and in their order, and that counts the items by how grave they are. -/
theorem json_lossless (fs : List Finding) (count : Nat) :
    ∃ v items, Json.ofString (String.ofList (json fs (.of fs count)).indented) = .ok v ∧
      v.get? "findings" = some (.array items) ∧ List.Forall₂ Recounts fs items ∧
        v.get? "summary" = some (.object
          [("errors", .ofNat (items.countP (isOf .error))),
            ("warnings", .ofNat (items.countP (isOf .warning))),
            ("page_objects", .ofNat count)]) := by
  have told : List.Forall₂ Recounts fs (fs.map (·.write)) :=
    List.forall₂_map_right_iff.mpr (List.forall₂_same.mpr fun f _ => recounts_write f)
  refine ⟨_, _, Json.ofString_indented isCounted_json, rfl, told, ?_⟩
  rw [countP_isOf_eq told, countP_isOf_eq told, ← warnings_of fs count]
  rfl

end PageLint.Report
