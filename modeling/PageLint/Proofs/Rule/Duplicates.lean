import PageLint.Proofs.Pairs
import PageLint.Rule.Active

/-!
# Elements that cannot be told apart

The first rule of the catalog compares every two elements of a page object. Those that it objects to
have one key: one locator, one number, and one scope. An element without a selector has no key, and
the rule never objects to it; an element without a scope has one, since being declared nowhere in
particular is a place as well. So the elements fall into classes, and every two elements of a class
make a finding.

## Main definitions

* `Element.Agrees` — two elements have equal selectors in equal scopes
* `Element.key?` — what an element has in common with those it agrees with
* `Rule.duplicate` — the rule's words on two elements

## Main results

* `agrees_iff_shareKey` — elements agree if and only if they have one key
* `findings_duplicateSelectors` — the findings of the rule, pair by pair, and how many there are
-/

namespace PageLint

namespace Element

/-- What elements are told apart by: the locator, whether it stands for a list, and the scope. -/
structure Key where
  locator : Locator
  isList : Bool
  scope : Option Scope
deriving DecidableEq, Repr

/-- The key of an element with a selector. -/
def key? (e : Element) : Option Key := e.selector.map fun s => ⟨s.locator, s.isList, e.scope⟩

/-- Both elements are without scope, or both have one, with the same parent and on the same side of
the shadow boundary. -/
def AgreesInScope (a b : Element) : Prop :=
  (a.scope = none ∧ b.scope = none) ∨
    ∃ s ∈ a.scope, ∃ t ∈ b.scope, s.parent = t.parent ∧ s.isInsideShadow = t.isInsideShadow

/-- Both elements have a selector, and they agree on strategy, value, number and scope. -/
def Agrees (a b : Element) : Prop :=
  (∃ s ∈ a.selector, ∃ t ∈ b.selector, s.locator.strategy = t.locator.strategy ∧
    s.locator.value = t.locator.value ∧ s.isList = t.isList) ∧ AgreesInScope a b

instance (a b : Element) : Decidable (AgreesInScope a b) :=
  inferInstanceAs (Decidable ((a.scope = none ∧ b.scope = none) ∨ ∃ s ∈ a.scope, ∃ t ∈ b.scope, _))

instance (a b : Element) : Decidable (Agrees a b) :=
  inferInstanceAs (Decidable ((∃ s ∈ a.selector, ∃ t ∈ b.selector, _) ∧ AgreesInScope a b))

variable {a b : Element}

theorem agreesInScope_iff : AgreesInScope a b ↔ a.scope = b.scope := by
  unfold AgreesInScope
  cases a.scope with
  | none => cases b.scope <;> simp
  | some s =>
    cases b.scope with
    | none => simp
    | some t =>
      obtain ⟨_, _⟩ := s
      obtain ⟨_, _⟩ := t
      simp

theorem agrees_iff : Agrees a b ↔ (∃ s ∈ a.selector, s ∈ b.selector) ∧ a.scope = b.scope := by
  rw [Agrees, agreesInScope_iff]
  -- A selector has no more parts than those that are compared.
  refine and_congr_left' ?_
  constructor
  · rintro ⟨⟨⟨_, _⟩, _⟩, first, ⟨⟨_, _⟩, _⟩, second, rfl, rfl, rfl⟩
    exact ⟨_, first, second⟩
  · rintro ⟨s, first, second⟩
    exact ⟨s, first, s, second, rfl, rfl, rfl⟩

theorem mem_key?_iff {k : Key} :
    k ∈ a.key? ↔ ⟨k.locator, k.isList⟩ ∈ a.selector ∧ a.scope = k.scope := by
  obtain ⟨locator, isList, scope⟩ := k
  unfold key?
  cases a.selector with
  | none => simp
  | some s =>
    obtain ⟨_, _⟩ := s
    simp [and_assoc]

/-- Elements agree if and only if they have one key. -/
theorem agrees_iff_shareKey : Agrees a b ↔ ShareKey key? a b := by
  rw [agrees_iff, ShareKey]
  constructor
  · rintro ⟨⟨s, first, second⟩, scope⟩
    exact ⟨⟨s.locator, s.isList, b.scope⟩, mem_key?_iff.mpr ⟨first, scope⟩,
      mem_key?_iff.mpr ⟨second, rfl⟩⟩
  · rintro ⟨k, first, second⟩
    obtain ⟨selector, scope⟩ := mem_key?_iff.mp first
    obtain ⟨selector', scope'⟩ := mem_key?_iff.mp second
    exact ⟨⟨_, selector, selector'⟩, scope.trans scope'.symm⟩

/-- The rule compares elements by what they agree on. -/
theorem same_iff_agrees : (a.sameSelector b && a.sameScope b) = true ↔ Agrees a b := by
  have selectors : a.sameSelector b = true ↔ ∃ s ∈ a.selector, s ∈ b.selector := by
    unfold sameSelector
    cases a.selector with
    | none => simp
    | some s =>
      cases b.selector with
      | none => simp
      | some t => simpa using eq_comm
  rw [Bool.and_eq_true, selectors, sameScope, beq_iff_eq, agrees_iff]

end Element

/-! ## The detections of the rule -/

namespace Rule

variable (find : Lookup) (p : PageObject)

/-- The rule's own words on two elements that cannot be told apart. -/
def duplicate (earlier later : Element) : Detection where
  pageObject := p.path
  related := none
  message :=
    "duplicate selector " ++ Text.quoted later.selectorText ++ " for the elements " ++
      Text.quoted later.name ++ " and " ++ Text.quoted earlier.name
  fix :=
    "remove duplicate elements: " ++ Text.quoted earlier.name ++ " or " ++ Text.quoted later.name
  line := find p.path [Text.nameFragment later.name]

/-- The rule objects to every two elements that agree, and to nothing else. -/
theorem detectDuplicates_eq :
    detectDuplicates find p =
      ((pairs p.elements).filter fun ab => Element.Agrees ab.1 ab.2).map fun ab =>
        duplicate find p ab.1 ab.2 := by
  rw [← List.filterMap_eq_map, List.filterMap_filter, detectDuplicates]
  refine List.filterMap_congr fun ab _ => ?_
  simp only [← Element.same_iff_agrees, decide_eq_true_eq]
  rfl

end Rule

namespace ActiveRule

variable {r : ActiveRule} {p : PageObject}

theorem findings_duplicateSelectors_eq (find : Lookup) (which : r.rule = .duplicateSelectors)
    (applies : r.appliesTo p = true) :
    r.findings find p =
      ((pairs p.elements).filter fun ab => Element.Agrees ab.1 ab.2).map fun ab =>
        r.report (Rule.duplicate find p ab.1 ab.2) := by
  rw [findings, if_pos applies, which, Rule.detect, Rule.detectDuplicates_eq, List.map_map]
  rfl

/-- The rule makes one finding for every two places with elements that agree, in the order of the
places, and no other. It makes none if and only if every key belongs to one element, and otherwise
one for every two elements with one key. -/
theorem findings_duplicateSelectors (find : Lookup) (which : r.rule = .duplicateSelectors)
    (applies : r.appliesTo p = true) :
    r.findings find p =
        ((indexPairs p.elements.length).filter fun ij =>
            Element.Agrees p.elements[ij.1] p.elements[ij.2]).map
          (fun ij => r.report (Rule.duplicate find p p.elements[ij.1] p.elements[ij.2])) ∧
      (r.findings find p = [] ↔ (p.elements.filterMap Element.key?).Nodup) ∧
      (r.findings find p).length =
        ∑ k ∈ (p.elements.filterMap Element.key?).toFinset,
          p.elements.countP (·.key? = some k) * (p.elements.countP (·.key? = some k) - 1) / 2 := by
  have found := findings_duplicateSelectors_eq find which applies
  -- For the number of findings only the keys of the elements matter.
  have shared : (pairs p.elements).filter (fun ab => Element.Agrees ab.1 ab.2) =
      (pairs p.elements).filter fun ab => ShareKey Element.key? ab.1 ab.2 :=
    List.filter_congr fun ab _ => decide_eq_decide.mpr Element.agrees_iff_shareKey
  refine ⟨?_, ?_, ?_⟩
  · rw [found, pairs_eq_pairsByPlace, pairsByPlace, List.filter_map, List.map_map]
    rfl
  · rw [found, List.map_eq_nil_iff, shared, pairs_filter_shareKey_eq_nil_iff]
  · rw [found, List.length_map, shared]
    exact length_pairs_filter_shareKey fun k occurs => List.mem_toFinset.mpr occurs

/-- Three items with one locator and no scope, two in a scope of their own with the same locator,
and two elements that are in nobody's way. -/
def itemsPage : PageObject :=
  { PageObject.bare "items" "pages/items.json" "app.Items" with
    elements :=
      [⟨"first", none, some ⟨⟨.css, ".item"⟩, false⟩, none⟩,
        ⟨"left", none, some ⟨⟨.css, ".item"⟩, false⟩, some ⟨none, true⟩⟩,
        ⟨"second", none, some ⟨⟨.css, ".item"⟩, false⟩, none⟩,
        ⟨"all", none, some ⟨⟨.css, ".item"⟩, true⟩, none⟩,
        ⟨"box", some "container", none, none⟩,
        ⟨"right", none, some ⟨⟨.css, ".item"⟩, false⟩, some ⟨none, true⟩⟩,
        ⟨"third", none, some ⟨⟨.css, ".item"⟩, false⟩, none⟩] }

theorem findings_duplicateSelectors_itemsPage :
    let r : ActiveRule := .plain .duplicateSelectors
    let found := r.findings (fun _ _ => 1) itemsPage
    r.rule = .duplicateSelectors ∧ r.appliesTo itemsPage = true ∧
      found = ((indexPairs itemsPage.elements.length).filter fun ij =>
            Element.Agrees itemsPage.elements[ij.1] itemsPage.elements[ij.2]).map
          (fun ij => r.report
            (Rule.duplicate (fun _ _ => 1) itemsPage itemsPage.elements[ij.1]
              itemsPage.elements[ij.2])) ∧
      (found = [] ↔ (itemsPage.elements.filterMap Element.key?).Nodup) ∧
      found.length =
        ∑ k ∈ (itemsPage.elements.filterMap Element.key?).toFinset,
          itemsPage.elements.countP (·.key? = some k) *
            (itemsPage.elements.countP (·.key? = some k) - 1) / 2 ∧
      found.map (·.fix) =
        ["remove duplicate elements: \"first\" or \"second\"",
          "remove duplicate elements: \"first\" or \"third\"",
          "remove duplicate elements: \"left\" or \"right\"",
          "remove duplicate elements: \"second\" or \"third\""] := by
  intro r found
  have applies : r.appliesTo itemsPage = true := rfl
  obtain ⟨told, unique, counted⟩ := findings_duplicateSelectors (fun _ _ => 1) rfl applies
  exact ⟨rfl, applies, told, unique, counted, by decide⟩

end ActiveRule

end PageLint
