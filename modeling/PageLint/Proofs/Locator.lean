import Mathlib.Data.List.Infix
import PageLint.Locator

/-!
# What locators have in common, and what they show

Two tests are made on locators wherever page objects or element graphs are checked: whether two
elements are found by one locator, and whether a locator hangs on a visible text. Here both are said
of the strategy and the value themselves.

## Main results

* `same_iff` — two locators are the same if there is one that both are, and it is not empty
* `same_iff_parts` — the same, of their strategies and values
* `fixesText_iff` — what the value of a locator contains when it hangs on a visible text
-/

namespace PageLint

/-- A part occurs where it is a contiguous piece. -/
theorem Text.occursIn_iff {part cs : List Char} : occursIn part cs = true ↔ part <:+: cs := by
  induction cs with
  | nil => simp [occursIn, List.infix_nil]
  | cons c cs ih =>
    rw [occursIn, Bool.or_eq_true, List.isPrefixOf_iff_prefix, ih, List.infix_cons_iff]

namespace Locator

/-- Two locators are the same if there is one that both are, and its value is not empty. -/
theorem same_iff {l m : Option Locator} :
    same l m = true ↔ ∃ x : Locator, l = some x ∧ m = some x ∧ x.value ≠ "" := by
  constructor
  · intro alike
    cases l with
    | none => cases m <;> cases alike
    | some x =>
      cases m with
      | none => cases alike
      | some y =>
        simp only [same, isEmpty, Bool.and_eq_true, Bool.not_eq_true', beq_iff_eq] at alike
        obtain ⟨⟨filled, _⟩, rfl⟩ := alike
        exact ⟨x, rfl, rfl, by simpa using filled⟩
  · rintro ⟨x, rfl, rfl, filled⟩
    simpa [same, isEmpty] using filled

/-- Two locators are the same if both are there, with one strategy and one value, and the value is
not empty. -/
theorem same_iff_parts {l m : Option Locator} :
    same l m = true ↔
      ∃ x ∈ l, ∃ y ∈ m, x.strategy = y.strategy ∧ x.value = y.value ∧ x.value ≠ "" := by
  rw [same_iff]
  constructor
  · rintro ⟨x, first, second, filled⟩
    exact ⟨x, first, x, second, rfl, rfl, filled⟩
  · rintro ⟨⟨_, _⟩, first, ⟨_, _⟩, second, rfl, rfl, filled⟩
    exact ⟨_, first, second, filled⟩

/-- Two locators are the same in either order. -/
theorem same_comm (l m : Option Locator) : same l m = same m l := by
  rw [Bool.eq_iff_iff, same_iff, same_iff]
  constructor
  · rintro ⟨x, first, second, filled⟩
    exact ⟨x, second, first, filled⟩
  · rintro ⟨x, first, second, filled⟩
    exact ⟨x, second, first, filled⟩

/-- A locator hangs on a visible text if its value tests one of two attributes, and no parameter is
filled in later. -/
theorem fixesText_iff {l : Locator} :
    l.fixesText = true ↔
      ("[value".toList <:+: l.value.toList ∨ "[title".toList <:+: l.value.toList) ∧
        '%' ∉ l.value.toList := by
  simp [fixesText, textTests, isParameterized, parameterMark, Text.occursIn_iff]

end Locator

end PageLint
