import PageLint.Guardrail
import PageLint.Proofs.Locator

/-!
# The verdict on two nodes

Containers and references are no elements that a page finds by a selector, so nothing they carry can
be in anybody's way, and which of two nodes is looked at first says nothing about them. Among nodes
that are subject to checks this is so: two of them with one locator get along exactly when they
stand for the same type, or both for none, and the order does not matter.

With the other nodes it is so in one direction only. A container or a reference that is looked at
first is never in conflict with anything, and a component or a basic element does not mind one that
comes second. A root does: if a node of these kinds carries the locator of the root, the verdict is
a conflict, but only when the root comes first.

## Main definitions

* `Graph.Node.component?` — the type that a node stands for
* `Guardrail.OneSided` — a root meets a node that is not subject to checks

## Main results

* `check_eq_none_iff` — when two nodes that are subject to checks get along
* `check_comm_iff` — when two nodes are judged alike in both orders
-/

namespace PageLint

namespace Graph.Node

/-- The type that a node stands for: of a component its own, of a root that of its page object. -/
def component? (n : Node) : Option String :=
  match n.kind with
  | .root type => some type
  | .custom => some n.declaredType
  | .basic | .container | .document | .selfReference => none

/-- The node is the root of a page object. -/
def isRoot (n : Node) : Bool :=
  match n.kind with
  | .root _ => true
  | .custom | .basic | .container | .document | .selfReference => false

end Graph.Node

namespace Guardrail

open PageLint.Graph (Node)

variable (a b : Node)

/-- The first node is a root, and the second carries its locator although it is not subject to
checks. -/
def OneSided : Prop :=
  a.isRoot = true ∧ b.isSelected = false ∧ Locator.same a.locator b.locator = true

instance : Decidable (OneSided a b) := inferInstanceAs (Decidable (_ ∧ _ ∧ _))

variable {a b}

/-! ## Nodes that are subject to checks -/

section Selected

variable (first : a.isSelected = true) (second : b.isSelected = true)

include first second

/-- Two nodes with one locator get along when they stand for the same type, or both for none. -/
theorem conflict_eq_none_iff : conflict a b = .none ↔ a.component? = b.component? := by
  obtain ⟨_, _, type, kind⟩ := a
  obtain ⟨_, _, type', kind'⟩ := b
  cases kind with
  | container | document | selfReference => cases first
  | root enclosing | custom | basic =>
    cases kind' with
    | container | document | selfReference => cases second
    | root enclosing' | custom | basic =>
      grind [conflict, exposesRoot, Node.component?]

theorem conflict_comm : conflict a b = conflict b a := by
  obtain ⟨_, _, type, kind⟩ := a
  obtain ⟨_, _, type', kind'⟩ := b
  cases kind with
  | container | document | selfReference => cases first
  | root enclosing | custom | basic =>
    cases kind' with
    | container | document | selfReference => cases second
    | root enclosing' | custom | basic => grind [conflict, exposesRoot]

/-- Two nodes get along unless they have one locator and stand for different types. -/
theorem check_eq_none_iff :
    check a b = .none ↔
      (Locator.same a.locator b.locator = true → a.component? = b.component?) := by
  rw [check, ← conflict_eq_none_iff first second]
  split <;> simp_all

theorem check_comm_of_selected : check a b = check b a := by
  rw [check, check, Locator.same_comm, conflict_comm first second]

end Selected

/-! ## Containers and references -/

/-- A container or a reference that comes first is in conflict with nothing. -/
theorem check_of_unselected_left (first : a.isSelected = false) : check a b = .none := by
  have apart : conflict a b = .none := by
    obtain ⟨_, _, _, kind⟩ := a
    cases kind with
    | root | custom | basic => cases first
    | container | document | selfReference => rfl
  rw [check, apart, ite_self]

/-- A container or a reference that comes second is in conflict with a root, and with nothing
else. -/
theorem check_of_unselected_right (second : b.isSelected = false) :
    check a b = if OneSided a b then .duplicateOfRoot else .none := by
  have tolerated : conflict a b = if a.isRoot then .duplicateOfRoot else .none := by
    obtain ⟨_, _, _, kind⟩ := a
    obtain ⟨_, _, _, kind'⟩ := b
    cases kind' with
    | root | custom | basic => cases second
    | container | document | selfReference => cases kind <;> rfl
  rw [check, tolerated]
  cases root : a.isRoot <;> simp [OneSided, root, second]

/-- Only a root minds a container or a reference. -/
theorem not_oneSided_of_unselected_left (first : a.isSelected = false) : ¬ OneSided a b := by
  rintro ⟨root, _⟩
  obtain ⟨_, _, _, kind⟩ := a
  cases kind with
  | root => cases first
  | custom | basic | container | document | selfReference => cases root

/-! ## Both orders -/

/-- One of the nodes is a container or a reference, and it is out of the way in both orders. -/
theorem check_eq_none_iff_of_unselected (first : a.isSelected = false) :
    check a b = .none ∧ check b a = .none ↔ ¬ OneSided a b ∧ ¬ OneSided b a := by
  have silent : ¬ OneSided a b := not_oneSided_of_unselected_left first
  rw [check_of_unselected_left first, check_of_unselected_right first]
  by_cases met : OneSided b a <;> simp [met, silent]

/-- Two nodes are judged alike in both orders, and containers and references are in conflict with
nothing, exactly as long as no root meets its locator on one of these. -/
theorem check_comm_iff (a b : Node) :
    (check a b = check b a ∧
      (a.isSelected = false ∨ b.isSelected = false → check a b = .none ∧ check b a = .none)) ↔
      ¬ OneSided a b ∧ ¬ OneSided b a := by
  -- With such a node among the two, being out of the way is the stronger half.
  have stronger (unselected : a.isSelected = false ∨ b.isSelected = false) :
      (check a b = check b a ∧
        (a.isSelected = false ∨ b.isSelected = false → check a b = .none ∧ check b a = .none)) ↔
        check a b = .none ∧ check b a = .none :=
    ⟨fun alike => alike.2 unselected, fun quiet => ⟨quiet.1.trans quiet.2.symm, fun _ => quiet⟩⟩
  by_cases first : a.isSelected = false
  · exact (stronger (.inl first)).trans (check_eq_none_iff_of_unselected first)
  · by_cases second : b.isSelected = false
    · rw [stronger (.inr second), and_comm, check_eq_none_iff_of_unselected second, and_comm]
    · rw [Bool.not_eq_false] at first second
      simp [check_comm_of_selected first second, OneSided, first, second]

/-- The root of a page. -/
def home : Node := ⟨"root", some ⟨.css, ".page"⟩, "app.Home", .root "app.Home"⟩

/-- A reference to the document that carries the locator of the root. -/
def wholePage : Node := ⟨"page", some ⟨.css, ".page"⟩, "document", .document⟩

/-- A root minds a reference to the document, which does not mind the root. -/
theorem not_check_comm_home_wholePage :
    ¬ ∀ a b : Node,
      check a b = check b a ∧
        (a.isSelected = false ∨ b.isSelected = false →
          check a b = .none ∧ check b a = .none) := by
  intro alike
  have order : check home wholePage = check wholePage home := (alike home wholePage).1
  exact absurd order (by decide)

end Guardrail

end PageLint
