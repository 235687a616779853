import PageLint.Proofs.Rule.Lines
import PageLint.Proofs.Session.Configuration

/-!
# Elements of two page objects

The last rule of the catalog compares every element of a page object with every element of each
later one. It objects to two elements of different types, one of them a component, that have one
selector, and it takes the selectors for one when the values of their locators are equal. Other
rules and the guardrails ask whether there is one locator, which is more: the strategies are equal
too, and the value is not empty. So the rule reports what the shared notion would have it report,
and besides it elements whose locators have equal values but different strategies, and elements
without a selector of their own.

## Main definitions

* `Encounter` — an element of a page object and an element of a later one
* `Config.encounters` — the encounters of a batch
* `Encounter.Tells` — what a finding tells of an encounter

## Main results

* `forall₂_tells_findingsOf` — the findings of the rule, encounter by encounter
* `forall₂_tells_findingsOf_iff` — when they are those of the shared notion
-/

namespace PageLint

/-- An element of a page object, and an element of a page object that comes later in a batch. -/
structure Encounter where
  first : PageObject
  earlier : Element
  second : PageObject
  later : Element
deriving DecidableEq, Repr

/-- The encounters of a batch, in the order of the page objects and then of their elements, without
the page objects that a rule leaves alone. -/
def Config.encounters (c : Config) (rule : Rule) (ps : List PageObject) : List Encounter :=
  (pairsByPlace ps).flatMap fun pq =>
    if c.Excludes rule pq.1 ∨ c.Excludes rule pq.2 then []
    else (pq.1.elements ×ˢ pq.2.elements).map fun ab => ⟨pq.1, ab.1, pq.2, ab.2⟩

namespace Encounter

/-- The types of the elements differ, and one of them at least is a component of its own. -/
def Mistyped (m : Encounter) : Prop :=
  (m.earlier.isCustom = true ∨ m.later.isCustom = true) ∧ m.earlier.typeName ≠ m.later.typeName

/-- Both elements have locators, with one value. -/
def SharesText (m : Encounter) : Prop :=
  ∃ l ∈ m.earlier.locator, ∃ l' ∈ m.later.locator, l.value = l'.value

/-- Both elements are found by one locator. -/
def SharesLocator (m : Encounter) : Prop :=
  Locator.same m.earlier.locator m.later.locator = true

instance (m : Encounter) : Decidable m.Mistyped := inferInstanceAs (Decidable (_ ∧ _))

instance (m : Encounter) : Decidable m.SharesText :=
  inferInstanceAs (Decidable (∃ l ∈ m.earlier.locator, ∃ l' ∈ m.later.locator, l.value = l'.value))

instance (m : Encounter) : Decidable m.SharesLocator := inferInstanceAs (Decidable (_ = _))

/-- The words in which the rule objects to an encounter. -/
def message (m : Encounter) : String :=
  "custom selector " ++ Text.quoted m.later.selectorText ++ " of the element " ++
    Text.quoted m.later.name ++ " is used for an element " ++ Text.quoted m.earlier.name ++
    " in the page object " ++ m.second.path ++ ", but has a different type " ++
    Text.quoted m.later.typeName

/-- What a finding tells of an encounter: it is reported against the later page object, with the
earlier one as related, where the later element is declared. -/
structure Tells (c : Config) (find : Lookup) (m : Encounter) (f : Finding) : Prop where
  rule : f.ruleId = Rule.customSelectorTypes.entry.id
  owner : f.pageObject = m.second.path
  related : f.related = some m.first.path
  line : f.line = find m.second.path [Text.nameFragment m.later.name]
  message : f.message = (c.messageOf .customSelectorTypes).getD m.message

/-- Two locators with one value are one locator, if their strategies are equal and it is not
empty. -/
theorem sharesLocator_of_sharesText_iff (m : Encounter) :
    (m.SharesText → m.SharesLocator) ↔
      ∀ l ∈ m.earlier.locator, ∀ l' ∈ m.later.locator, l.value = l'.value →
        l.strategy = l'.strategy ∧ l.value ≠ "" := by
  constructor
  · intro shared l earlier l' later alike
    obtain ⟨x, earlier', later', filled⟩ :=
      Locator.same_iff.mp (shared ⟨l, earlier, l', later, alike⟩)
    obtain rfl : l = x := Option.some.inj (earlier.symm.trans earlier')
    obtain rfl : l' = l := Option.some.inj (later.symm.trans later')
    exact ⟨rfl, filled⟩
  · rintro whole ⟨l, earlier, l', later, alike⟩
    obtain ⟨strategy, filled⟩ := whole l earlier l' later alike
    obtain rfl : l = l' := by
      cases l
      cases l'
      exact congrArg₂ Locator.mk strategy alike
    exact Locator.same_iff.mpr ⟨l, earlier, later, filled⟩

theorem SharesLocator.sharesText {m : Encounter} (one : m.SharesLocator) : m.SharesText := by
  obtain ⟨l, earlier, later, -⟩ := Locator.same_iff.mp one
  exact ⟨l, earlier, l, later, rfl⟩

end Encounter

/-- If as many items of a list have the stronger of two properties as have the weaker one, then all
that have the weaker one have both. -/
theorem forall_of_length_filter_eq {α : Type} {P Q : α → Prop} [DecidablePred P] [DecidablePred Q]
    {as : List α} (stronger : ∀ a, Q a → P a)
    (many : (as.filter Q).length = (as.filter P).length) : ∀ a ∈ as, P a → Q a := by
  have within : (as.filter P).filter Q = as.filter Q := by
    rw [List.filter_filter]
    refine List.filter_congr fun a _ => ?_
    rw [← Bool.decide_and]
    exact decide_eq_decide.mpr (and_iff_left_of_imp (stronger a))
  intro a listed weak
  rw [← within] at many
  have member : a ∈ as.filter P := List.mem_filter.mpr ⟨listed, decide_eq_true weak⟩
  exact of_decide_eq_true (List.length_filter_eq_length_iff.mp many a member)

namespace Session

variable {c : Config} (find : Lookup)

/-- The rule compares two elements of two page objects by what an encounter of them is. -/
theorem differ_iff (m : Encounter) :
    Rule.differ m.earlier m.later = true ↔ m.Mistyped ∧ m.SharesText := by
  have texts : (m.earlier.selector.isSome = true ∧ m.later.selector.isSome = true ∧
      m.earlier.selectorText = m.later.selectorText) ↔ m.SharesText := by
    rw [Encounter.SharesText, Element.selectorText, Element.selectorText, Element.locator,
      Element.locator]
    cases m.earlier.selector <;> cases m.later.selector <;> simp
  rw [← texts]
  simp [Rule.differ, Encounter.Mistyped, and_assoc]

/-- The encounters of two page objects with a property. -/
theorem filter_map_product {P : Encounter → Prop} [DecidablePred P] (p q : PageObject) :
    ((p.elements ×ˢ q.elements).map fun ab => (⟨p, ab.1, q, ab.2⟩ : Encounter)).filter P =
      p.elements.flatMap fun a =>
        (q.elements.filter fun b => P ⟨p, a, q, b⟩).map fun b => ⟨p, a, q, b⟩ := by
  simp [SProd.sprod, List.product, List.map_flatMap, List.filter_flatMap, List.filter_map,
    Function.comp_def]

/-- The rule sees in two page objects the encounters of elements with one text. -/
theorem forall₂_tells_detectTypes (p q : PageObject) :
    List.Forall₂ (Encounter.Tells c find)
      (((p.elements ×ˢ q.elements).map fun ab => (⟨p, ab.1, q, ab.2⟩ : Encounter)).filter
        fun m => m.Mistyped ∧ m.SharesText)
      ((Rule.detectTypes find p q).map (c.finding .customSelectorTypes)) := by
  rw [filter_map_product, Rule.detectTypes, List.map_flatMap]
  refine forall₂_flatMap fun a _ => ?_
  have seen : q.elements.filter (Rule.differ a) =
      q.elements.filter fun b =>
        (⟨p, a, q, b⟩ : Encounter).Mistyped ∧ (⟨p, a, q, b⟩ : Encounter).SharesText :=
    List.filter_congr fun b _ => by
      rw [Bool.eq_iff_iff, decide_eq_true_iff]
      exact differ_iff ⟨p, a, q, b⟩
  rw [seen, List.map_map]
  exact forall₂_map fun b _ => ⟨rfl, rfl, rfl, rfl, rfl⟩

/-- The rule finds the encounters of elements with one text. -/
theorem forall₂_tells_findingsOf (on : c.disable = false)
    (enabled : c.Enables .customSelectorTypes) (ps : List PageObject) :
    List.Forall₂ (Encounter.Tells c find)
      ((c.encounters .customSelectorTypes ps).filter fun m => m.Mistyped ∧ m.SharesText)
      (Rule.customSelectorTypes.findingsOf c find ps) := by
  have places : Rule.customSelectorTypes.sites ps = (pairsByPlace ps).map fun pq => [pq.1, pq.2] :=
    rfl
  rw [findingsOf_eq find .customSelectorTypes on, if_pos enabled, places, List.flatMap_map,
    Config.encounters, List.filter_flatMap]
  refine forall₂_flatMap fun pq _ => ?_
  rw [Config.findingsAt_two, Config.findingsBetween]
  split
  · exact .nil
  · exact forall₂_tells_detectTypes find pq.1 pq.2

/-- The findings of the rule tell of the encounters of mistyped elements that have selectors with
one text, in their order. They tell of the encounters of those that have one locator exactly as long
as no two mistyped elements with one text differ in strategy, or have an empty locator. -/
theorem forall₂_tells_findingsOf_iff (on : c.disable = false)
    (enabled : c.Enables .customSelectorTypes) (ps : List PageObject) :
    let met := (c.encounters .customSelectorTypes ps).filter Encounter.Mistyped
    let found := Rule.customSelectorTypes.findingsOf c find ps
    List.Forall₂ (Encounter.Tells c find) (met.filter Encounter.SharesText) found ∧
      (List.Forall₂ (Encounter.Tells c find) (met.filter Encounter.SharesLocator) found ↔
        ∀ m ∈ met, ∀ l ∈ m.earlier.locator, ∀ l' ∈ m.later.locator, l.value = l'.value →
          l.strategy = l'.strategy ∧ l.value ≠ "") := by
  intro met found
  have told : List.Forall₂ (Encounter.Tells c find) (met.filter Encounter.SharesText) found := by
    have both := forall₂_tells_findingsOf find on enabled ps
    simp only [Bool.decide_and] at both
    rw [List.filter_filter]
    simpa only [Bool.and_comm] using both
  refine ⟨told, ?_⟩
  simp only [← Encounter.sharesLocator_of_sharesText_iff]
  constructor
  · -- Both filters have the length of what is found, and one is within the other.
    intro shared
    have many : (met.filter Encounter.SharesLocator).length =
        (met.filter Encounter.SharesText).length := by
      rw [shared.length_eq, told.length_eq]
    exact forall_of_length_filter_eq (fun _ => Encounter.SharesLocator.sharesText) many
  · intro whole
    have same : met.filter Encounter.SharesLocator = met.filter Encounter.SharesText :=
      List.filter_congr fun m listed =>
        decide_eq_decide.mpr ⟨Encounter.SharesLocator.sharesText, whole m listed⟩
    rwa [same]

/-- The button of the sign-in page beside a frame without a selector of its own. -/
def signInFramed : PageObject :=
  { signIn with
    elements := signIn.elements ++ [⟨"frame", some "app.Frame", some ⟨⟨.css, ""⟩, false⟩, none⟩] }

/-- A link that is found by the same text in another way, beside a container. -/
def linkPage : PageObject where
  name := "links"
  path := "pages/links.json"
  type := "app.Links"
  elements :=
    [⟨"link", some "app.Link", some ⟨⟨.accessId, ".submit"⟩, false⟩, none⟩,
      ⟨"box", some "container", some ⟨⟨.css, ""⟩, false⟩, none⟩]
  methods := []
  shadowBoundaries := []
  root := none

/-- Locators of different strategies, and empty ones, are taken for one selector. -/
theorem not_forall₂_tells_sharesLocator :
    ¬ ∀ (c : Config) (find : Lookup) (ps : List PageObject),
      c.disable = false → c.Enables .customSelectorTypes →
        List.Forall₂ (Encounter.Tells c find)
          (((c.encounters .customSelectorTypes ps).filter Encounter.Mistyped).filter
            Encounter.SharesLocator)
          (Rule.customSelectorTypes.findingsOf c find ps) := by
  intro shared
  have length := (shared .default atTop [signInFramed, linkPage] rfl (by decide)).length_eq
  -- Nothing is found by one locator, but two findings are reported.
  exact absurd length (by decide)

/-- The button of the sign-in page and the link of the sign-up page have one locator, and are the
one encounter that is reported. -/
theorem forall₂_tells_findingsOf_iff_signUp :
    strict.disable = false ∧ strict.Enables .customSelectorTypes ∧
      List.Forall₂ (Encounter.Tells strict atTop)
        (((strict.encounters .customSelectorTypes [signIn, signUp]).filter
          Encounter.Mistyped).filter Encounter.SharesLocator)
        (Rule.customSelectorTypes.findingsOf strict atTop [signIn, signUp]) ∧
      (Rule.customSelectorTypes.findingsOf strict atTop [signIn, signUp]).length = 1 := by
  have enabled : strict.Enables .customSelectorTypes := by decide
  obtain ⟨-, shared⟩ := forall₂_tells_findingsOf_iff atTop rfl enabled [signIn, signUp]
  exact ⟨rfl, enabled, shared.mpr (by decide), by decide⟩

end Session

end PageLint
