import PageLint.Proofs.Path.Resolution
import PageLint.Report.Sarif

/-!
# Places of page objects in reports

A report names a page object by the way to it from the root of the repository. A reader of the
report resolves this way against the root, and arrives at the page object also if that lies outside
the repository, since all that the way needs is written in it: no slash, and no backslash that would
become one, is part of a name.

## Main results

* `uri_of_not_mem` — a way without backslashes is written as it is
* `uri_resolves` — resolving the place of a page object gives its path
-/

namespace PageLint.Report

variable {root : Option Path} {pageObject : String}

/-- A way without backslashes is written as it is. -/
theorem uri_of_not_mem (plain : '\\' ∉ (relative root pageObject).toList) :
    uri root pageObject = relative root pageObject := by
  rw [uri, ← String.toList_inj, String.toList_map]
  refine (List.map_congr_left fun c within => ?_).trans (List.map_id _)
  have other : c ≠ '\\' := fun backslash => plain (backslash ▸ within)
  exact if_neg other

/-- The way from one place to another, in the text of a report. -/
theorem relative_of_wayFrom {base : Path} {way : List Path.Part}
    (absolute : base.isAbsolute = true) (absolute' : (Path.mk pageObject).isAbsolute = true)
    (found : Path.wayFrom base.parts (Path.mk pageObject).parts = some way) :
    relative (some base) pageObject = "/".intercalate (way.map Path.Part.text) := by
  simp [relative, absolute, absolute', found]

theorem relative_of_not_isAbsolute (other : root = none ∨ (Path.mk pageObject).isAbsolute = false) :
    relative root pageObject = pageObject := by
  rcases other with rfl | relative'
  · rfl
  · cases root with
    | none => rfl
    | some base => simp [relative, relative']

/-- The place of a page object in a report, resolved against the root, gives the path of the page
object, be it inside the root, the root itself, or outside of it. Without a root, and for a relative
path, the place is the path with slashes for backslashes. -/
theorem uri_resolves (pageObject : String) :
    (∀ base : Path, base.isAbsolute = true → (Path.mk pageObject).isAbsolute = true →
        base.IsStraight → (Path.mk pageObject).IsStraight → '\\' ∉ pageObject.toList →
        (base.join ⟨uri (some base) pageObject⟩).resolved = (Path.mk pageObject).parts) ∧
      ∀ root : Option Path, root = none ∨ (Path.mk pageObject).isAbsolute = false →
        uri root pageObject = pageObject.map fun c => if c = '\\' then '/' else c := by
  refine ⟨fun base absolute absolute' straight straight' plain => ?_, fun root other => by
    rw [uri, relative_of_not_isAbsolute other]⟩
  obtain ⟨way, found, leads, resolves⟩ :=
    Path.exists_resolved_join_eq absolute absolute' straight straight'
  have written := relative_of_wayFrom absolute absolute' found
  have plain' : '\\' ∉ (relative (some base) pageObject).toList := by
    rw [written, String.toList_intercalate, List.map_map]
    intro within
    obtain slash | ⟨piece, listed, inner⟩ := Path.mem_of_mem_intercalate within
    · cases slash
    · obtain ⟨a, member, rfl⟩ := List.mem_map.mp listed
      rcases leads a member with rfl | part
      · exact absurd inner (by decide)
      · exact plain (Path.mem_of_mem_of_mem_pieces part inner)
  rw [uri_of_not_mem plain', written, resolves]

/-- A page object that lies beside the root, and one that is named below it. -/
theorem uri_resolves_beside :
    uri (some ⟨"/home/work/"⟩) "/home/lib//pages/a.json" = "../lib/pages/a.json" ∧
      (Path.mk "/home/work/../lib/pages/a.json").resolved =
        (Path.mk "/home/lib//pages/a.json").parts ∧
      uri (some ⟨"/home/work/"⟩) "pages\\a.json" = "pages/a.json" := by
  have way : relative (some ⟨"/home/work/"⟩) "/home/lib//pages/a.json" = "../lib/pages/a.json" :=
    rfl
  have beside : uri (some ⟨"/home/work/"⟩) "/home/lib//pages/a.json" = "../lib/pages/a.json" := by
    rw [uri_of_not_mem (by rw [way]; decide), way]
  obtain ⟨resolves, -⟩ := uri_resolves "/home/lib//pages/a.json"
  obtain ⟨-, same⟩ := uri_resolves "pages\\a.json"
  refine ⟨beside, ?_, ?_⟩
  · have arrives := resolves ⟨"/home/work/"⟩ rfl rfl (by decide) (by decide) (by decide)
    rw [beside] at arrives
    exact arrives
  · rw [same _ (.inr rfl), ← String.toList_inj, String.toList_map]
    rfl

end PageLint.Report
