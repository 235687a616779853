import PageLint.Proofs.Session.Configuration

/-!
# Roots that page objects share

When a session ends, every two of its page objects are compared, and the first rule of that pass
asks whether their roots have one locator. A root without a locator, or with an empty one, has none
to share. So the page objects that the rule does not leave alone fall into classes by the locators
of their roots, and every two page objects of a class make a finding against the earlier one.

## Main definitions

* `Rule.foundAtEnd` — what a rule finds at the end of a session
* `PageObject.SharesRoot` — two page objects have one locator for their roots
* `Config.rootLocators` — the locators that roots could share

## Main results

* `Rule.foundAtEnd_eq` — the end of a session, pair by pair
* `foundAtEnd_rootSelectors` — the findings of the rule, and how many there are
-/

namespace PageLint

/-! ## The end of a session -/

namespace Rule

/-- What the rule finds at the end of a session: its own findings among those that are appended. -/
def foundAtEnd (rule : Rule) (c : Config) (find : Lookup) (s : Session) : List Finding :=
  ((s.finish c find).value.session.findings.drop s.findings.length).filter
    (·.ruleId = rule.entry.id)

/-- A rule on two page objects is evaluated in every two page objects of the session. -/
theorem foundAtEnd_eq {rule : Rule} {c : Config} (find : Lookup) (on : c.disable = false)
    (enabled : c.Enables rule) (kind : rule.isGlobal = true) (s : Session) :
    rule.foundAtEnd c find s =
      (pairsByPlace s.pageObjects).flatMap fun pq => c.findingsBetween find rule pq.1 pq.2 := by
  rw [foundAtEnd, Session.session_finish find s on, List.drop_left, Config.globalFindings,
    List.filter_flatMap]
  simp only [Session.filter_pairFindings, kind, enabled, and_self, if_true]

end Rule

/-! ## Root locators -/

namespace PageObject

variable {p q : PageObject}

/-- The locator of the root, when there is one and it is not empty. -/
def rootKey? (p : PageObject) : Option Locator := p.rootLocator.filter (·.value ≠ "")

/-- The value of the root's locator, empty when there is none. -/
def rootText (p : PageObject) : String := (p.rootLocator.map (·.value)).getD ""

/-- Both roots have locators, with one strategy and one value, and the value is not empty. -/
def SharesRoot (p q : PageObject) : Prop :=
  ∃ l ∈ p.rootLocator, ∃ l' ∈ q.rootLocator,
    l.strategy = l'.strategy ∧ l.value = l'.value ∧ l.value ≠ ""

instance (p q : PageObject) : Decidable (SharesRoot p q) :=
  inferInstanceAs (Decidable (∃ l ∈ p.rootLocator, ∃ l' ∈ q.rootLocator, _))

theorem mem_rootKey?_iff {l : Locator} : l ∈ p.rootKey? ↔ l ∈ p.rootLocator ∧ l.value ≠ "" := by
  simp [rootKey?, Option.mem_def, Option.filter_eq_some_iff]

/-- The rule's test on two root locators. -/
theorem sharesRoot_iff_same :
    SharesRoot p q ↔ Locator.same p.rootLocator q.rootLocator = true :=
  Locator.same_iff_parts.symm

/-- Roots are shared if and only if there is one locator that counts for both. -/
theorem sharesRoot_iff_shareKey : SharesRoot p q ↔ ShareKey rootKey? p q := by
  rw [sharesRoot_iff_same, Locator.same_iff, ShareKey]
  constructor
  · rintro ⟨l, first, second, filled⟩
    exact ⟨l, mem_rootKey?_iff.mpr ⟨first, filled⟩, mem_rootKey?_iff.mpr ⟨second, filled⟩⟩
  · rintro ⟨l, first, second⟩
    obtain ⟨first, filled⟩ := mem_rootKey?_iff.mp first
    exact ⟨l, first, (mem_rootKey?_iff.mp second).1, filled⟩

end PageObject

/-! ## The detections of the rule -/

namespace Rule

variable (find : Lookup) (p q : PageObject)

/-- The rule's own words on two page objects, against the earlier one. -/
def sharedRoot : Detection where
  pageObject := p.path
  related := some q.path
  message :=
    "same root selector " ++ Text.quoted p.rootText ++
      " is used as a root selector in the page object " ++ q.path
  fix :=
    "remove one of the page objects with same root selector: " ++ Text.quoted p.path ++ " or " ++
      Text.quoted q.path
  line := find p.path [Text.quoted p.rootText]

/-- The rule objects to two page objects that share a root, and to nothing else. -/
theorem detectRoots_eq :
    detectRoots find p q = if p.SharesRoot q then [sharedRoot find p q] else [] := by
  unfold detectRoots
  cases has : p.rootLocator with
  | none => simp [PageObject.SharesRoot, has]
  | some l => simp [PageObject.sharesRoot_iff_same, sharedRoot, PageObject.rootText, has]

end Rule

namespace Config

variable (c : Config)

/-- The rule compares the two page objects, and they share a root. -/
def RootsClash (p q : PageObject) : Prop :=
  (¬ c.Excludes .rootSelectors p ∧ ¬ c.Excludes .rootSelectors q) ∧ p.SharesRoot q

instance (p q : PageObject) : Decidable (c.RootsClash p q) := inferInstanceAs (Decidable (_ ∧ _))

/-- The locators that roots could share: those of the page objects that the rule does not leave
alone, without empty ones, as often as they occur. -/
def rootLocators (ps : List PageObject) : List Locator :=
  (ps.filter fun p => ¬ c.Excludes .rootSelectors p).filterMap PageObject.rootKey?

/-- How many page objects have the locator for their root, without those that the rule leaves
alone. -/
def countRoot (l : Locator) (ps : List PageObject) : Nat :=
  ps.countP fun p => ¬ c.Excludes .rootSelectors p ∧ p.rootLocator = some l

variable {c}

theorem findingsBetween_rootSelectors (find : Lookup) (p q : PageObject) :
    c.findingsBetween find .rootSelectors p q =
      if c.RootsClash p q then [c.finding .rootSelectors (Rule.sharedRoot find p q)] else [] := by
  rw [findingsBetween, Rule.detectBetween, Rule.detectRoots_eq]
  by_cases left : c.Excludes .rootSelectors p ∨ c.Excludes .rootSelectors q
  · rw [if_pos left, if_neg fun clash => not_or.mpr clash.1 left]
  · by_cases shared : p.SharesRoot q <;> simp [RootsClash, ← not_or, left, shared]

/-- The pairs that clash are those of the page objects that are compared, by their keys. -/
theorem filter_rootsClash (ps : List PageObject) :
    ((pairs ps).filter fun pq => c.RootsClash pq.1 pq.2) =
      (pairs (ps.filter fun p => ¬ c.Excludes .rootSelectors p)).filter fun pq =>
        ShareKey PageObject.rootKey? pq.1 pq.2 := by
  -- Exclusion acts on both members of a pair, so it comes to the same before pairs are made.
  rw [pairs_filter, List.filter_filter]
  refine List.filter_congr fun pq _ => ?_
  simp [RootsClash, PageObject.sharesRoot_iff_shareKey, and_comm]

theorem filled_of_mem_rootLocators {l : Locator} {ps : List PageObject}
    (listed : l ∈ c.rootLocators ps) : l.value ≠ "" := by
  obtain ⟨p, -, key⟩ := List.mem_filterMap.mp listed
  exact (PageObject.mem_rootKey?_iff.mp key).2

theorem countP_rootKey?_eq (ps : List PageObject) {l : Locator} (filled : l.value ≠ "") :
    (ps.filter fun p => ¬ c.Excludes .rootSelectors p).countP (·.rootKey? = some l) =
      c.countRoot l ps := by
  rw [List.countP_filter, countRoot]
  refine List.countP_congr fun p _ => ?_
  have key : p.rootKey? = some l ↔ p.rootLocator = some l := by
    simpa [filled] using PageObject.mem_rootKey?_iff (p := p) (l := l)
  simp [key, and_comm]

end Config

/-- Items that bring one entry or none. -/
theorem flatMap_ite_singleton {α β : Type} (P : α → Prop) [DecidablePred P] (f : α → β)
    (as : List α) : as.flatMap (fun a => if P a then [f a] else []) = (as.filter P).map f := by
  induction as with
  | nil => rfl
  | cons a as ih => by_cases holds : P a <;> simp [holds, ih]

namespace Session

variable {c : Config} (find : Lookup)

theorem foundAtEnd_rootSelectors_eq (on : c.disable = false) (enabled : c.Enables .rootSelectors)
    (s : Session) :
    Rule.rootSelectors.foundAtEnd c find s =
      ((pairs s.pageObjects).filter fun pq => c.RootsClash pq.1 pq.2).map fun pq =>
        c.finding .rootSelectors (Rule.sharedRoot find pq.1 pq.2) := by
  rw [Rule.foundAtEnd_eq find on enabled rfl, pairs_eq_pairsByPlace]
  simp only [Config.findingsBetween_rootSelectors]
  exact flatMap_ite_singleton _ _ _

/-- At the end of a session the rule makes one finding for every two places with page objects that
share a root, against the earlier one, and leaves out those that it leaves alone. So there are as
many as there are pairs of one locator, and none if and only if no locator occurs twice. -/
theorem foundAtEnd_rootSelectors (on : c.disable = false) (enabled : c.Enables .rootSelectors)
    (s : Session) :
    let ps := s.pageObjects
    let found := Rule.rootSelectors.foundAtEnd c find s
    found =
        ((indexPairs ps.length).filter fun ij => c.RootsClash ps[ij.1] ps[ij.2]).map
          (fun ij => c.finding .rootSelectors (Rule.sharedRoot find ps[ij.1] ps[ij.2])) ∧
      found.length =
        ∑ l ∈ (c.rootLocators ps).toFinset, c.countRoot l ps * (c.countRoot l ps - 1) / 2 ∧
      (found = [] ↔ (c.rootLocators ps).Nodup) := by
  intro ps found
  have found_eq : found =
      ((pairs ps).filter fun pq => c.RootsClash pq.1 pq.2).map fun pq =>
        c.finding .rootSelectors (Rule.sharedRoot find pq.1 pq.2) :=
    foundAtEnd_rootSelectors_eq find on enabled s
  refine ⟨?_, ?_, ?_⟩
  · rw [found_eq, pairs_eq_pairsByPlace, pairsByPlace, List.filter_map, List.map_map]
    rfl
  · rw [found_eq, List.length_map, Config.filter_rootsClash,
      length_pairs_filter_shareKey fun l occurs => List.mem_toFinset.mpr occurs]
    refine Finset.sum_congr rfl fun l listed => ?_
    rw [Config.countP_rootKey?_eq ps
      (Config.filled_of_mem_rootLocators (List.mem_toFinset.mp listed))]
  · rw [found_eq, List.map_eq_nil_iff, Config.filter_rootsClash, pairs_filter_shareKey_eq_nil_iff]
    rfl

/-- The sign-in page for guests. -/
def guestPage : PageObject := { signIn with name := "guest", path := "pages/guest.json" }

/-- A page with an empty root locator. -/
def blankPage : PageObject :=
  { PageObject.bare "blank" "pages/blank.json" "app.Blank" with
    root := some ⟨true, true, some ⟨⟨.css, ""⟩, false⟩⟩ }

/-- Shared roots are errors, except with the page for guests. -/
def withoutGuests : Config :=
  { Config.default with
    overrides := fun rule =>
      if rule = .rootSelectors then some ⟨some .error, ["guest"], none, none⟩ else none }

/-- A session with all of these pages. -/
def crowded : Session :=
  ⟨[signIn, guestPage, blankPage, signUp, .bare "empty" "pages/empty.json" "app.Empty", blankPage,
    signInCopy], []⟩

/-- Of seven pages three share a root that counts. -/
theorem foundAtEnd_rootSelectors_crowded :
    let ps := crowded.pageObjects
    let found := Rule.rootSelectors.foundAtEnd withoutGuests atTop crowded
    (withoutGuests.disable = false ∧ withoutGuests.Enables .rootSelectors) ∧
      found =
        ((indexPairs ps.length).filter fun ij => withoutGuests.RootsClash ps[ij.1] ps[ij.2]).map
          (fun ij =>
            withoutGuests.finding .rootSelectors (Rule.sharedRoot atTop ps[ij.1] ps[ij.2])) ∧
      found.length =
        ∑ l ∈ (withoutGuests.rootLocators ps).toFinset,
          withoutGuests.countRoot l ps * (withoutGuests.countRoot l ps - 1) / 2 ∧
      ¬ (withoutGuests.rootLocators ps).Nodup ∧
      found.map (fun f => (f.pageObject, f.related)) =
        [(signIn.path, some signUp.path), (signIn.path, some signInCopy.path),
          (signUp.path, some signInCopy.path)] := by
  intro ps found
  have enabled : withoutGuests.Enables .rootSelectors := by decide
  obtain ⟨told, counted, unique⟩ := foundAtEnd_rootSelectors atTop rfl enabled crowded
  have places : found.map (fun f => (f.pageObject, f.related)) =
      [(signIn.path, some signUp.path), (signIn.path, some signInCopy.path),
        (signUp.path, some signInCopy.path)] := by decide
  refine ⟨⟨rfl, enabled⟩, told, counted, fun distinct => ?_, places⟩
  have none : found = [] := unique.mpr distinct
  rw [none] at places
  cases places

end Session

end PageLint
