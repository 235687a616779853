import PageLint.Proofs.Locator
import PageLint.Rule.Detection

/-!
# Whom a detection concerns

A detection names page objects by their paths. Whatever a rule sees in one page object is reported
against that one, and whatever it sees in two is reported against one of them with the other as
related. Which of the two is reported can depend on their order, but how much is seen in them
cannot.

## Main results

* `detect_attribution`, `detectBetween_attribution` — a detection names what was looked at
* `length_detectBetween_comm` — the order of two page objects does not decide how much is seen
-/

namespace PageLint

namespace Rule

variable (find : Lookup) (p q : PageObject)

/-! ## Attribution -/

/-- Whatever a rule sees in one page object is reported against it alone. -/
theorem detect_attribution {rule : Rule} {d : Detection} (seen : d ∈ rule.detect find p) :
    d.pageObject = p.path ∧ d.related = none := by
  cases rule with
  | duplicateSelectors =>
    simp only [detect, detectDuplicates, List.mem_filterMap] at seen
    obtain ⟨⟨earlier, later⟩, _, worded⟩ := seen
    split at worded
    · cases worded
      exact ⟨rfl, rfl⟩
    · cases worded
  | rootDescription =>
    simp only [detect, detectRootDescription] at seen
    grind
  | author =>
    simp only [detect, detectAuthor] at seen
    grind
  | methodDescriptions =>
    obtain ⟨m, _, rfl⟩ := List.mem_map.mp seen
    exact ⟨rfl, rfl⟩
  | shadowBoundaries =>
    obtain ⟨name, _, rfl⟩ := List.mem_map.mp seen
    exact ⟨rfl, rfl⟩
  | rootSelectors | rootSelectorTypes | customSelectorTypes => cases seen

theorem detectRootTypes_attribution {owner other : PageObject} {d : Detection}
    (seen : d ∈ detectRootTypes find owner other) :
    d.pageObject = other.path ∧ d.related = some owner.path := by
  obtain ⟨e, _, rfl⟩ := List.mem_map.mp seen
  exact ⟨rfl, rfl⟩

/-- Whatever a rule sees in two page objects is reported against one of them, with the other as
related. -/
theorem detectBetween_attribution {rule : Rule} {d : Detection}
    (seen : d ∈ rule.detectBetween find p q) :
    d.pageObject = p.path ∧ d.related = some q.path ∨
      d.pageObject = q.path ∧ d.related = some p.path := by
  cases rule with
  | rootSelectors =>
    left
    simp only [detectBetween, detectRoots] at seen
    grind
  | rootSelectorTypes =>
    -- The root of the first is looked for in the second, and then the other way round.
    rcases List.mem_append.mp seen with seen | seen
    · exact Or.inr (detectRootTypes_attribution find seen)
    · exact Or.inl (detectRootTypes_attribution find seen)
  | customSelectorTypes =>
    obtain ⟨a, _, seen⟩ := List.mem_flatMap.mp seen
    obtain ⟨b, _, rfl⟩ := List.mem_map.mp seen
    exact Or.inr ⟨rfl, rfl⟩
  | duplicateSelectors | rootDescription | author | methodDescriptions | shadowBoundaries =>
    cases seen

/-! ## How much is seen in two page objects -/

theorem length_detectRoots :
    (detectRoots find p q).length =
      if Locator.same p.rootLocator q.rootLocator then 1 else 0 := by
  unfold detectRoots
  cases p.rootLocator with
  | none => rfl
  | some l =>
    dsimp only
    split <;> rfl

/-- Elements that stand for different components do so in either order. -/
theorem differ_comm (a b : Element) : differ a b = differ b a := by
  simp only [differ, Bool.or_comm a.isCustom, bne_comm (a := a.typeName),
    Bool.beq_comm (a := a.selectorText), Bool.and_right_comm _ a.selector.isSome]

section Related

variable {α β : Type} (related : α → β → Bool)

theorem length_flatMap_filter_cons (a : α) (as : List α) (bs : List β) :
    (bs.flatMap fun b => (a :: as).filter (related · b)).length =
      (bs.filter (related a)).length + (bs.flatMap fun b => as.filter (related · b)).length := by
  -- Each `b` is met by `a` in one place of the left list and in one of the right.
  induction bs with
  | nil => rfl
  | cons b bs ih =>
    simp only [List.flatMap_cons, List.length_append, ih]
    cases met : related a b with
    | true =>
      simp only [List.filter_cons, met, if_true, List.length_cons]
      omega
    | false =>
      simp only [List.filter_cons, met, Bool.false_eq_true, if_false]
      omega

/-- Related items are as many from one side as from the other. -/
theorem length_flatMap_filter_comm (as : List α) (bs : List β) :
    (as.flatMap fun a => bs.filter (related a)).length =
      (bs.flatMap fun b => as.filter (related · b)).length := by
  induction as with
  | nil =>
    have none : (bs.flatMap fun b => ([] : List α).filter (related · b)) = [] :=
      List.flatMap_eq_nil_iff.mpr fun _ _ => rfl
    rw [none]
    rfl
  | cons a as ih =>
    rw [List.flatMap_cons, List.length_append, ih, length_flatMap_filter_cons]

end Related

theorem length_detectTypes :
    (detectTypes find p q).length =
      (p.elements.flatMap fun a => q.elements.filter (differ a)).length := by
  simp [detectTypes, List.length_flatMap]

/-- The order of two page objects does not decide how much a rule sees in them: it compares roots
and elements by symmetric tests, or looks from each page object at the other. -/
theorem length_detectBetween_comm (rule : Rule) :
    (rule.detectBetween find p q).length = (rule.detectBetween find q p).length := by
  cases rule with
  | rootSelectors =>
    simp only [detectBetween, length_detectRoots, Locator.same_comm p.rootLocator]
  | rootSelectorTypes =>
    simp only [detectBetween, List.length_append, Nat.add_comm]
  | customSelectorTypes =>
    simp only [detectBetween, length_detectTypes]
    rw [length_flatMap_filter_comm]
    simp only [differ_comm]
  | duplicateSelectors | rootDescription | author | methodDescriptions | shadowBoundaries => rfl

end Rule

end PageLint
