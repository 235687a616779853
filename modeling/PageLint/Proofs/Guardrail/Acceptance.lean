import Mathlib.Data.List.Basic
import PageLint.Proofs.Guardrail.Verdict

/-!
# Which element graphs are accepted

A graph is checked node by node and pair by pair. What that amounts to can be said of each locator
at once, however many nodes carry it: either all of them are basic elements, which may share a
locator among themselves, or none is, and then all of them stand for one type. A root stands for the
type of its page object, so a component of that type may take the root's locator, and two roots may
share one.

This holds of graphs in which containers and references have no locator to speak of. In other graphs
a root can be in conflict with one of these, which says nothing about the other nodes.

## Main definitions

* `Guardrail.carriers` — the nodes of a graph that carry a locator
* `Guardrail.Alike` — nodes that may share one locator

## Main results

* `validate_eq_none_iff_check` — a graph is accepted if no node fails and no two nodes do
* `validate_eq_none_iff` — a graph is accepted if all carriers of each locator are alike
-/

namespace PageLint.Guardrail

open PageLint.Graph (Node)

/-- The nodes that carry the locator. -/
def carriers (nodes : List Node) (l : Locator) : List Node :=
  nodes.filter fun n => n.locator = some l

/-- The nodes may share one locator: all of them are basic, or none is and all stand for one
type. -/
def Alike (nodes : List Node) : Prop :=
  (∀ n ∈ nodes, n.kind = .basic) ∨
    (∀ n ∈ nodes, n.kind ≠ .basic) ∧ ∃ type, ∀ n ∈ nodes, ∀ t ∈ n.component?, t = type

@[simp] theorem mem_carriers {nodes : List Node} {l : Locator} {n : Node} :
    n ∈ carriers nodes l ↔ n ∈ nodes ∧ n.locator = some l := by
  simp [carriers]

/-! ## No violation -/

theorem fixedText?_eq_none_iff {n : Node} : fixedText? n = none ↔ fixesText n = false := by
  unfold fixedText?
  cases fixesText n <;> simp

theorem conflict?_eq_none_iff {a b : Node} : conflict? a b = none ↔ check a b = .none := by
  simp [conflict?, Verdict.isViolation]

/-- A node is not in conflict with itself. -/
theorem check_self (n : Node) : check n n = .none := by
  cases subject : n.isSelected with
  | false => exact check_of_unselected_left subject
  | true => exact (check_eq_none_iff subject subject).mpr fun _ => rfl

/-- A graph is accepted if no node fails by itself and no two nodes are in conflict. Whether they
stand at two different places need not be asked. -/
theorem validate_eq_none_iff_check {nodes : List Node} :
    validate nodes = none ↔
      (∀ n ∈ nodes, fixesText n = false) ∧ ∀ a ∈ nodes, ∀ b ∈ nodes, check a b = .none := by
  have alone : nodes.findSome? fixedText? = none ↔ ∀ n ∈ nodes, fixesText n = false := by
    simp only [List.findSome?_eq_none_iff, fixedText?_eq_none_iff]
  have paired :
      (nodes.zipIdx.findSome? fun first =>
        nodes.zipIdx.findSome? fun second =>
          if first.2 = second.2 then none else conflict? first.1 second.1) = none ↔
        ∀ a ∈ nodes, ∀ b ∈ nodes, check a b = .none := by
    have placed {i : Nat} (inside : i < nodes.length) : (nodes[i], i) ∈ nodes.zipIdx :=
      List.mk_mem_zipIdx_iff_getElem?.mpr (List.getElem?_eq_getElem inside)
    simp only [List.findSome?_eq_none_iff, Prod.forall]
    constructor
    · intro free a listed b listed'
      obtain ⟨i, inside, rfl⟩ := List.getElem_of_mem listed
      obtain ⟨j, inside', rfl⟩ := List.getElem_of_mem listed'
      by_cases place : i = j
      -- Nodes at one place are one node.
      · subst place
        exact check_self _
      · have pair := free nodes[i] i (placed inside) nodes[j] j (placed inside')
        rw [if_neg place] at pair
        exact conflict?_eq_none_iff.mp pair
    · intro free a i listed b j listed'
      have pair : check a b = .none :=
        free a (List.fst_mem_of_mem_zipIdx listed) b (List.fst_mem_of_mem_zipIdx listed')
      rw [conflict?_eq_none_iff.mpr pair, ite_self]
  rw [validate, ← alone, ← paired]
  cases nodes.findSome? fixedText? <;> simp

/-! ## Locators and their carriers -/

theorem component?_eq_none_iff {n : Node} (subject : n.isSelected = true) :
    n.component? = none ↔ n.kind = .basic := by
  obtain ⟨_, _, _, kind⟩ := n
  cases kind with
  | container | document | selfReference => cases subject
  | root | custom | basic => simp [Node.component?]

/-- Nodes that are subject to checks are alike if each two of them stand for the same. -/
theorem alike_iff {nodes : List Node} (subject : ∀ n ∈ nodes, n.isSelected = true) :
    Alike nodes ↔ ∀ a ∈ nodes, ∀ b ∈ nodes, a.component? = b.component? := by
  have plain {n : Node} (listed : n ∈ nodes) : n.component? = none ↔ n.kind = .basic :=
    component?_eq_none_iff (subject n listed)
  constructor
  · rintro (basic | ⟨proper, type, one⟩) a listed b listed'
    · rw [(plain listed).mpr (basic a listed), (plain listed').mpr (basic b listed')]
    · have typed {n : Node} (listed : n ∈ nodes) : n.component? = some type := by
        obtain ⟨t, stands⟩ := Option.ne_none_iff_exists'.mp (mt (plain listed).mp (proper n listed))
        rw [stands, one n listed t stands]
      rw [typed listed, typed listed']
  · intro same
    by_cases basic : ∀ n ∈ nodes, n.kind = .basic
    · exact .inl basic
    -- The first node that is not basic decides what all others stand for.
    · push Not at basic
      obtain ⟨m, listed, proper⟩ := basic
      obtain ⟨type, stands⟩ := Option.ne_none_iff_exists'.mp (mt (plain listed).mp proper)
      refine .inr ⟨fun n listed' basic => ?_, type, fun n listed' t stands' => ?_⟩
      · have none := (plain listed').mpr basic
        rw [same n listed' m listed, stands] at none
        cases none
      · have both : some t = some type := by
          rw [← stands', ← stands]
          exact same n listed' m listed
        exact Option.some.inj both

theorem fixesText_eq_false_iff {n : Node} :
    fixesText n = false ↔ (n.isSelected = true → ∀ l ∈ n.locator, ¬ l.fixesText = true) := by
  unfold fixesText
  cases n.isSelected <;> cases n.locator <;> simp

section Unmarked

variable {nodes : List Node}
  (unmarked : ∀ n ∈ nodes, n.isSelected = false → ∀ l ∈ n.locator, l.value = "")

include unmarked

theorem isSelected_of_mem_carriers {l : Locator} (filled : l.value ≠ "") {n : Node}
    (carries : n ∈ carriers nodes l) : n.isSelected = true := by
  obtain ⟨listed, has⟩ := mem_carriers.mp carries
  by_contra unselected
  exact filled (unmarked n listed (Bool.eq_false_iff.mpr unselected) l has)

/-- No two nodes are in conflict exactly when the carriers of each locator are alike. -/
theorem forall_check_eq_none_iff :
    (∀ a ∈ nodes, ∀ b ∈ nodes, check a b = .none) ↔
      ∀ l : Locator, l.value ≠ "" → Alike (carriers nodes l) := by
  constructor
  · intro free l filled
    have subject (n : Node) (carries : n ∈ carriers nodes l) : n.isSelected = true :=
      isSelected_of_mem_carriers unmarked filled carries
    rw [alike_iff subject]
    intro a carries b carries'
    obtain ⟨listed, has⟩ := mem_carriers.mp carries
    obtain ⟨listed', has'⟩ := mem_carriers.mp carries'
    exact (check_eq_none_iff (subject a carries) (subject b carries')).mp (free a listed b listed')
      (Locator.same_iff.mpr ⟨l, has, has', filled⟩)
  · intro alike a listed b listed'
    by_cases met : Locator.same a.locator b.locator = true
    · obtain ⟨l, has, has', filled⟩ := Locator.same_iff.mp met
      have subject (n : Node) (carries : n ∈ carriers nodes l) : n.isSelected = true :=
        isSelected_of_mem_carriers unmarked filled carries
      have carries : a ∈ carriers nodes l := mem_carriers.mpr ⟨listed, has⟩
      have carries' : b ∈ carriers nodes l := mem_carriers.mpr ⟨listed', has'⟩
      have same : a.component? = b.component? :=
        (alike_iff subject).mp (alike l filled) a carries b carries'
      exact (check_eq_none_iff (subject a carries) (subject b carries')).mpr fun _ => same
    · rw [check, if_neg met]

/-- A graph whose containers and references have no locator to speak of is accepted exactly when no
locator of another node hangs on a visible text, and the nodes that carry one locator are alike,
whatever the locator. -/
theorem validate_eq_none_iff :
    validate nodes = none ↔
      (∀ n ∈ nodes, n.isSelected = true → ∀ l ∈ n.locator,
        ¬ (("[value".toList <:+: l.value.toList ∨ "[title".toList <:+: l.value.toList) ∧
          '%' ∉ l.value.toList)) ∧
        ∀ l : Locator, l.value ≠ "" → Alike (carriers nodes l) := by
  rw [validate_eq_none_iff_check, forall_check_eq_none_iff unmarked]
  simp only [fixesText_eq_false_iff, Locator.fixesText_iff]

end Unmarked

/-- The root of a page, a component that stands for the page once more, two buttons with one locator
between them, a field whose text is filled in later, and two nodes without a locator to speak of. -/
def homeGraph : List Node :=
  [home,
    ⟨"again", some ⟨.css, ".page"⟩, "app.Home", .custom⟩,
    ⟨"save", some ⟨.css, ".button"⟩, "basic", .basic⟩,
    ⟨"cancel", some ⟨.css, ".button"⟩, "basic", .basic⟩,
    ⟨"field", some ⟨.css, "input[title='%s']"⟩, "basic", .basic⟩,
    ⟨"box", some ⟨.css, ""⟩, "container", .container⟩,
    ⟨"window", none, "document", .document⟩]

theorem validate_eq_none_iff_homeGraph :
    (∀ n ∈ homeGraph, n.isSelected = false → ∀ l ∈ n.locator, l.value = "") ∧
      (validate homeGraph = none ↔
        (∀ n ∈ homeGraph, n.isSelected = true → ∀ l ∈ n.locator,
          ¬ (("[value".toList <:+: l.value.toList ∨ "[title".toList <:+: l.value.toList) ∧
            '%' ∉ l.value.toList)) ∧
          ∀ l : Locator, l.value ≠ "" → Alike (carriers homeGraph l)) ∧
      validate homeGraph = none := by
  have unmarked : ∀ n ∈ homeGraph, n.isSelected = false → ∀ l ∈ n.locator, l.value = "" := by
    decide
  exact ⟨unmarked, validate_eq_none_iff unmarked, by decide⟩

end PageLint.Guardrail
