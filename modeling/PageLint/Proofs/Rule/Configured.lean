import PageLint.Proofs.Pairs
import PageLint.Proofs.Rule.Detection
import PageLint.Rule.Active

/-!
# What a configuration makes of the catalog

The linter turns a configuration into a set of active rules once, and afterwards works with that
set. Here the same is said without the set, of one rule at a time: whether it is on, which page
objects it leaves alone, how grave it is and in which words it speaks. A rule is settled by its own
override alone, so nothing said here of one rule can depend on what a configuration says of another.

## Main definitions

* `Config.Enables`, `Config.Excludes` — a rule is on; it leaves a page object alone
* `Config.finding` — what becomes of a detection
* `Config.localFindings`, `Config.globalFindings` — the findings of all rules that are on

## Main results

* `localFindings_attribution`, `pairFindings_attribution` — a finding names what was looked at
* `findings_resolve`, `findingsAmong_resolve` — the active rules find exactly these
-/

namespace PageLint

namespace Rule

theorem mem_all (rule : Rule) : rule ∈ all := by
  cases rule <;> decide

/-- A rule of the catalog is found among those with a property exactly if it has the property. -/
theorem find?_filter_all (p : Rule → Bool) (rule : Rule) :
    (all.filter p).find? (· == rule) = if p rule then some rule else none := by
  split
  · rename_i holds
    have listed : rule ∈ all.filter p := List.mem_filter.mpr ⟨rule.mem_all, holds⟩
    have present : ((all.filter p).find? (· == rule)).isSome :=
      List.find?_isSome.mpr ⟨rule, listed, beq_self_eq_true rule⟩
    obtain ⟨found, first⟩ := Option.isSome_iff_exists.mp present
    have same : (found == rule) = true := List.find?_some (p := (· == rule)) first
    rw [first, eq_of_beq same]
  · rename_i fails
    refine List.find?_eq_none.mpr fun r listed same => fails ?_
    rw [← eq_of_beq same]
    exact (List.mem_filter.mp listed).2

/-- No two rules share an identifier. -/
theorem entry_id_injective {r r' : Rule} (same : r.entry.id = r'.entry.id) : r = r' := by
  cases r <;> cases r' <;> first | rfl | exact absurd same (by decide)

end Rule

namespace Config

variable (c : Config) (find : Lookup) (rule : Rule) (p q : PageObject)

/-- The configuration leaves the rule on. -/
def Enables : Prop := (c.overrides rule).bind (·.violation) ≠ some .disabled

instance : Decidable (c.Enables rule) := inferInstanceAs (Decidable (_ ≠ _))

/-- The names and paths of the page objects that the rule leaves alone. -/
def exclusions : List String := ((c.overrides rule).map (·.exclude)).getD []

/-- The rule leaves the page object alone, under its name or under its path. -/
def Excludes : Prop := p.name ∈ c.exclusions rule ∨ p.path ∈ c.exclusions rule

instance : Decidable (c.Excludes rule p) := inferInstanceAs (Decidable (_ ∨ _))

/-- A violation of the rule is an error if the configuration says so, and a warning otherwise. -/
def severityOf : Severity :=
  if (c.overrides rule).bind (·.violation) = some .error then .error else .warning

/-- The message that replaces the rule's own. -/
def messageOf : Option String := (c.overrides rule).bind (·.message)

/-- The advice that replaces the rule's own. -/
def fixOf : Option String := (c.overrides rule).bind (·.fix)

/-- What becomes of a detection: the catalog names the rule, the configuration weighs and words it,
and the rest is the detection's own. -/
def finding (d : Rule.Detection) : Finding where
  ruleId := rule.entry.id
  ruleName := rule.entry.name
  code := rule.entry.code
  severity := c.severityOf rule
  message := (c.messageOf rule).getD d.message
  fix := (c.fixOf rule).getD d.fix
  line := d.line
  pageObject := d.pageObject
  related := d.related

/-- The rules that are on, in the order of the catalog: those on one page object, or those on
two. -/
def enabledRules (isGlobal : Bool) : List Rule :=
  Rule.all.filter fun rule => rule.isGlobal = isGlobal ∧ c.Enables rule

/-- The findings of a rule in a page object. -/
def findingsIn : List Finding :=
  if c.Excludes rule p then [] else (rule.detect find p).map (c.finding rule)

/-- The findings of a rule in two page objects. -/
def findingsBetween : List Finding :=
  if c.Excludes rule p ∨ c.Excludes rule q then []
  else (rule.detectBetween find p q).map (c.finding rule)

/-- The findings of all rules on one page object. -/
def localFindings : List Finding :=
  (c.enabledRules false).flatMap fun rule => c.findingsIn find rule p

/-- The findings of all rules on two page objects. -/
def pairFindings : List Finding :=
  (c.enabledRules true).flatMap fun rule => c.findingsBetween find rule p q

/-- The findings of all rules on two page objects, in every two page objects of a list. -/
def globalFindings (ps : List PageObject) : List Finding :=
  (pairsByPlace ps).flatMap fun pq => c.pairFindings find pq.1 pq.2

theorem globalFindings_eq_flatMap_pairs (ps : List PageObject) :
    c.globalFindings find ps = (pairs ps).flatMap fun pq => c.pairFindings find pq.1 pq.2 := by
  rw [pairs_eq_pairsByPlace, globalFindings]

@[simp] theorem mem_enabledRules {isGlobal : Bool} :
    rule ∈ c.enabledRules isGlobal ↔ rule.isGlobal = isGlobal ∧ c.Enables rule := by
  simp [enabledRules, rule.mem_all]

variable {c find rule p q} {f : Finding}

theorem mem_findingsIn :
    f ∈ c.findingsIn find rule p ↔
      ¬ c.Excludes rule p ∧ ∃ d ∈ rule.detect find p, c.finding rule d = f := by
  by_cases excluded : c.Excludes rule p <;> simp [findingsIn, excluded]

theorem mem_findingsBetween :
    f ∈ c.findingsBetween find rule p q ↔
      (¬ c.Excludes rule p ∧ ¬ c.Excludes rule q) ∧
        ∃ d ∈ rule.detectBetween find p q, c.finding rule d = f := by
  by_cases excluded : c.Excludes rule p ∨ c.Excludes rule q <;>
    simp [findingsBetween, excluded, ← not_or]

/-- The finding is one that a rule which is on made of a detection. -/
def Reports (c : Config) (f : Finding) : Prop :=
  ∃ rule d, c.Enables rule ∧ c.finding rule d = f

theorem reports_of_mem_localFindings (found : f ∈ c.localFindings find p) : c.Reports f := by
  obtain ⟨rule, listed, found⟩ := List.mem_flatMap.mp found
  obtain ⟨-, d, -, made⟩ := mem_findingsIn.mp found
  exact ⟨rule, d, ((mem_enabledRules c rule).mp listed).2, made⟩

theorem reports_of_mem_globalFindings {ps : List PageObject}
    (found : f ∈ c.globalFindings find ps) : c.Reports f := by
  obtain ⟨pq, -, found⟩ := List.mem_flatMap.mp found
  obtain ⟨rule, listed, found⟩ := List.mem_flatMap.mp found
  obtain ⟨-, d, -, made⟩ := mem_findingsBetween.mp found
  exact ⟨rule, d, ((mem_enabledRules c rule).mp listed).2, made⟩

/-- A finding in one page object is reported against it alone. -/
theorem localFindings_attribution (found : f ∈ c.localFindings find p) :
    f.pageObject = p.path ∧ f.related = none := by
  obtain ⟨rule, _, found⟩ := List.mem_flatMap.mp found
  obtain ⟨_, d, seen, rfl⟩ := mem_findingsIn.mp found
  exact Rule.detect_attribution find p seen

/-- A finding in two page objects is reported against one of them, with the other as related. -/
theorem pairFindings_attribution (found : f ∈ c.pairFindings find p q) :
    f.pageObject = p.path ∧ f.related = some q.path ∨
      f.pageObject = q.path ∧ f.related = some p.path := by
  obtain ⟨rule, _, found⟩ := List.mem_flatMap.mp found
  obtain ⟨_, d, seen, rfl⟩ := mem_findingsBetween.mp found
  exact Rule.detectBetween_attribution find p q seen

end Config

/-! ## The active rules of a configuration -/

namespace ActiveRule

/-- The rule as the configuration has it, whether or not it is on. -/
def under (c : Config) (rule : Rule) : ActiveRule :=
  ⟨rule, c.severityOf rule, c.exclusions rule, c.messageOf rule, c.fixOf rule⟩

variable (c : Config) (find : Lookup) (rule : Rule) (p q : PageObject)

theorem configured_eq :
    configured rule (c.overrides rule) =
      if c.Enables rule then some (under c rule) else none := by
  -- The active rule spells out each violation; the configuration's own terms ask for two of them.
  cases override : c.overrides rule with
  | none =>
    simp [configured, plain, under, Config.Enables, Config.severityOf, Config.exclusions,
      Config.messageOf, Config.fixOf, override]
  | some o =>
    rcases o with ⟨_ | _ | _ | _, exclude, message, fix⟩ <;>
      simp [configured, under, Config.Enables, Config.severityOf, Config.exclusions,
        Config.messageOf, Config.fixOf, override]

theorem appliesTo_under : (under c rule).appliesTo p = !decide (c.Excludes rule p) := by
  have named : (c.exclusions rule).any p.isNamed = decide (c.Excludes rule p) := by
    rw [Bool.eq_iff_iff, decide_eq_true_iff, List.any_eq_true]
    simp only [PageObject.isNamed, Bool.or_eq_true, beq_iff_eq]
    constructor
    · rintro ⟨entry, listed, rfl | rfl⟩
      · exact Or.inl listed
      · exact Or.inr listed
    · rintro (listed | listed)
      · exact ⟨_, listed, Or.inl rfl⟩
      · exact ⟨_, listed, Or.inr rfl⟩
  rw [appliesTo, under, named]

@[simp] theorem rule_under : (under c rule).rule = rule := rfl

@[simp] theorem report_under : (under c rule).report = c.finding rule := rfl

theorem findings_under : (under c rule).findings find p = c.findingsIn find rule p := by
  by_cases excluded : c.Excludes rule p <;>
    simp [findings, appliesTo_under, Config.findingsIn, excluded]

theorem findingsBetween_under :
    (under c rule).findingsBetween find p q = c.findingsBetween find rule p q := by
  by_cases first : c.Excludes rule p <;> by_cases second : c.Excludes rule q <;>
    simp [findingsBetween, appliesTo_under, Config.findingsBetween, first, second]

end ActiveRule

namespace RuleSet

variable (c : Config) (find : Lookup)

theorem active_resolve :
    (resolve c).active = (Rule.all.filter (c.Enables ·)).map (ActiveRule.under c) := by
  simp only [resolve, ActiveRule.configured_eq]
  induction Rule.all with
  | nil => rfl
  | cons rule rules ih => by_cases on : c.Enables rule <;> simp [on, ih]

/-- A rule is found among the active ones, in its configured form, exactly if it is on. -/
theorem get?_resolve (rule : Rule) :
    (resolve c).get? rule = if c.Enables rule then some (ActiveRule.under c rule) else none := by
  have found := Rule.find?_filter_all (c.Enables ·) rule
  rw [get?, active_resolve, List.find?_map]
  change ((Rule.all.filter (c.Enables ·)).find? (· == rule)).map (ActiveRule.under c) = _
  rw [found]
  by_cases on : c.Enables rule <;> simp [on]

theorem localRules_resolve :
    (resolve c).localRules = (c.enabledRules false).map (ActiveRule.under c) := by
  rw [localRules, active_resolve, List.filter_map, List.filter_filter]
  simp [Config.enabledRules]

theorem globalRules_resolve :
    (resolve c).globalRules = (c.enabledRules true).map (ActiveRule.under c) := by
  rw [globalRules, active_resolve, List.filter_map, List.filter_filter]
  simp [Config.enabledRules]

/-- The active rules find in a page object what the configuration has them find. -/
theorem findings_resolve (p : PageObject) :
    (resolve c).findings find p = c.localFindings find p := by
  simp only [findings, localRules_resolve, List.flatMap_map, ActiveRule.findings_under,
    Config.localFindings]

/-- The active rules find in several page objects what the configuration has them find. -/
theorem findingsAmong_resolve (ps : List PageObject) :
    (resolve c).findingsAmong find ps = c.globalFindings find ps := by
  simp only [findingsAmong, globalRules_resolve, List.flatMap_map,
    ActiveRule.findingsBetween_under, Config.globalFindings_eq_flatMap_pairs, Config.pairFindings]

end RuleSet

end PageLint
