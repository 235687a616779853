import PageLint.Proofs.Session.Batch

/-!
# Configuration and detection

What a rule sees does not depend on any configuration. A configuration takes the findings that the
rule has by default, strikes out those it made on a page object that the rule is to leave alone, and
weighs and words the rest anew; or it strikes out all of them. It does so for each rule by that
rule's own override, whatever it says of other rules and of reports.

The default findings themselves do not tell on which page objects they were made, since two page
objects may share a path. They are therefore told apart by the places at which the rule looked, and
a place's findings are those of a batch that is nothing but this place.

## Main definitions

* `Rule.findingsOf` — the findings of a rule in a batch
* `Rule.sites` — the places at which a rule looks
* `Rule.placedFindings` — the default findings of a rule, place by place
* `Config.reword` — what a configuration makes of a default finding

## Main results

* `findingsOf_eq` — the findings of a rule, place by place
* `findingsOf_reworded` — the findings of a rule come from its default findings
-/

namespace PageLint

namespace Rule

/-- The findings of the rule in a batch. -/
def findingsOf (rule : Rule) (c : Config) (find : Lookup) (ps : List PageObject) :
    List Finding :=
  (Session.batch c find ps).value.session.findings.filter (·.ruleId = rule.entry.id)

/-- The places at which the rule looks in a batch: each member, or each two members. -/
def sites (rule : Rule) (ps : List PageObject) : List (List PageObject) :=
  if rule.isGlobal then (pairsByPlace ps).map fun pq => [pq.1, pq.2]
  else ps.map fun p => [p]

/-- The findings that the rule has by default, each with the place at which it was made. -/
def placedFindings (rule : Rule) (find : Lookup) (ps : List PageObject) :
    List (List PageObject × Finding) :=
  (rule.sites ps).flatMap fun site => (rule.findingsOf .default find site).map (site, ·)

/-- What the rule sees at one place. -/
def detectAt (rule : Rule) (find : Lookup) : List PageObject → List Detection
  | [p] => rule.detect find p
  | [p, q] => rule.detectBetween find p q
  | _ => []

end Rule

namespace Config

variable (c : Config) (find : Lookup) (rule : Rule)

/-- What the configuration makes of a finding that the rule has by default. -/
def reword (f : Finding) : Finding :=
  { f with
    severity := c.severityOf rule
    message := (c.messageOf rule).getD f.message
    fix := (c.fixOf rule).getD f.fix }

/-- The findings of the rule at one place. -/
def findingsAt (site : List PageObject) : List Finding :=
  if ∃ p ∈ site, c.Excludes rule p then [] else (rule.detectAt find site).map (c.finding rule)

theorem findingsAt_one (p : PageObject) :
    c.findingsAt find rule [p] = c.findingsIn find rule p := by
  simp [findingsAt, findingsIn, Rule.detectAt]

theorem findingsAt_two (p q : PageObject) :
    c.findingsAt find rule [p, q] = c.findingsBetween find rule p q := by
  simp [findingsAt, findingsBetween, Rule.detectAt]

theorem enables_default : Config.default.Enables rule := nofun

theorem not_excludes_default (p : PageObject) : ¬ Config.default.Excludes rule p := by
  simp [Excludes, exclusions, default]

/-- The default configuration reports what the rule sees everywhere. -/
theorem findingsAt_default (site : List PageObject) :
    Config.default.findingsAt find rule site =
      (rule.detectAt find site).map (Config.default.finding rule) := by
  simp [findingsAt, not_excludes_default]

/-- A configuration weighs and words what is reported by default. -/
theorem findingsAt_eq_map_reword {site : List PageObject}
    (covered : ∀ p ∈ site, ¬ c.Excludes rule p) :
    c.findingsAt find rule site =
      (Config.default.findingsAt find rule site).map (c.reword rule) := by
  rw [findingsAt_default, findingsAt, if_neg (by simpa using covered), List.map_map]
  rfl

section Agreement

variable {c c' : Config} {rule : Rule} (agree : c'.overrides rule = c.overrides rule)

include agree

theorem enables_congr : c'.Enables rule ↔ c.Enables rule := by
  rw [Enables, Enables, agree]

/-- The findings of a rule at a place are settled by its own override. -/
theorem findingsAt_congr : c'.findingsAt find rule = c.findingsAt find rule := by
  have reported : c'.finding rule = c.finding rule := by
    funext d
    simp only [finding, severityOf, messageOf, fixOf, agree]
  have excluded (p : PageObject) : c'.Excludes rule p ↔ c.Excludes rule p := by
    rw [Excludes, Excludes, exclusions, exclusions, agree]
  funext site
  simp only [findingsAt, reported, excluded]

end Agreement

end Config

namespace Session

variable {c : Config} (find : Lookup) (rule : Rule)

/-- The findings of one rule among those of all rules of its kind. -/
theorem filter_flatMap_enabledRules {isGlobal : Bool} {f : Rule → List Finding}
    (own : ∀ r, ∀ x ∈ f r, x.ruleId = r.entry.id) :
    ((c.enabledRules isGlobal).flatMap f).filter (·.ruleId = rule.entry.id) =
      if rule.isGlobal = isGlobal ∧ c.Enables rule then f rule else [] := by
  have alone : Rule.all.filter (· = rule) = [rule] := by cases rule <;> rfl
  have blocks (r : Rule) (x : Finding) (found : x ∈ f r) :
      decide (x.ruleId = rule.entry.id) = decide (r = rule) := by
    rw [own r x found]
    exact decide_eq_decide.mpr ⟨Rule.entry_id_injective, fun same => same ▸ rfl⟩
  rw [filter_flatMap_of_blocks blocks, Config.enabledRules, List.filter_comm, alone,
    List.filter_singleton]
  by_cases member : rule.isGlobal = isGlobal ∧ c.Enables rule <;> simp [member]

theorem filter_localFindings (p : PageObject) :
    (c.localFindings find p).filter (·.ruleId = rule.entry.id) =
      if rule.isGlobal = false ∧ c.Enables rule then c.findingsIn find rule p else [] := by
  refine filter_flatMap_enabledRules rule fun r x found => ?_
  obtain ⟨_, d, _, rfl⟩ := Config.mem_findingsIn.mp found
  rfl

theorem filter_pairFindings (p q : PageObject) :
    (c.pairFindings find p q).filter (·.ruleId = rule.entry.id) =
      if rule.isGlobal = true ∧ c.Enables rule then c.findingsBetween find rule p q else [] := by
  refine filter_flatMap_enabledRules rule fun r x found => ?_
  obtain ⟨_, d, _, rfl⟩ := Config.mem_findingsBetween.mp found
  rfl

/-- The findings of a rule in a batch are its findings at the places where it looks. -/
theorem findingsOf_eq (on : c.disable = false) (ps : List PageObject) :
    rule.findingsOf c find ps =
      if c.Enables rule then (rule.sites ps).flatMap (c.findingsAt find rule) else [] := by
  rw [Rule.findingsOf, session_batch find on, List.filter_append, Config.globalFindings,
    List.filter_flatMap, List.filter_flatMap]
  simp only [filter_localFindings, filter_pairFindings]
  by_cases enabled : c.Enables rule
  · cases kind : rule.isGlobal with
    | true => simp [Rule.sites, kind, enabled, List.flatMap_map, Config.findingsAt_two]
    | false => simp [Rule.sites, kind, enabled, List.flatMap_map, Config.findingsAt_one]
  · simp [enabled]

/-- A place is a batch with no other place in it. -/
theorem sites_of_mem {ps site : List PageObject} (place : site ∈ rule.sites ps) :
    rule.sites site = [site] := by
  unfold Rule.sites at place
  cases kind : rule.isGlobal with
  | true =>
    rw [if_pos kind] at place
    obtain ⟨pq, _, rfl⟩ := List.mem_map.mp place
    rw [Rule.sites, if_pos kind]
    rfl
  | false =>
    rw [if_neg (by simp [kind])] at place
    obtain ⟨p, _, rfl⟩ := List.mem_map.mp place
    rw [Rule.sites, if_neg (by simp [kind])]
    rfl

/-- The default findings of a batch that is nothing but one place. -/
theorem findingsOf_default_site {ps site : List PageObject} (place : site ∈ rule.sites ps) :
    rule.findingsOf .default find site = Config.default.findingsAt find rule site := by
  rw [findingsOf_eq find rule rfl, if_pos (Config.enables_default rule),
    sites_of_mem rule place, List.flatMap_cons, List.flatMap_nil, List.append_nil]

/-- The findings of one place are kept or struck out together. -/
theorem filter_map_place (keep : List PageObject → Bool) (site : List PageObject)
    (fs : List Finding) :
    (fs.map (site, ·)).filter (fun sf => keep sf.1) =
      if keep site then fs.map (site, ·) else [] := by
  cases kept : keep site <;> simp [List.filter_map, Function.comp_def, kept]

/-- The default findings of a rule in a batch are those of its places, one place after the other.
A configuration that leaves the rule on strikes out those of the places with a page object that the
rule leaves alone, and weighs and words the others; one that disables the rule strikes out all.
Configurations that agree on the rule's override agree on its findings. -/
theorem findingsOf_reworded (on : c.disable = false) (ps : List PageObject) :
    rule.findingsOf .default find ps = (rule.placedFindings find ps).map (·.2) ∧
      rule.findingsOf c find ps =
        (if c.Enables rule then
          ((rule.placedFindings find ps).filter fun sf =>
            ∀ p ∈ sf.1, ¬ c.Excludes rule p).map fun sf => c.reword rule sf.2
        else []) ∧
      ∀ c' : Config, c'.disable = false → c'.overrides rule = c.overrides rule →
        rule.findingsOf c' find ps = rule.findingsOf c find ps := by
  have placed : rule.placedFindings find ps = (rule.sites ps).flatMap fun site =>
      (Config.default.findingsAt find rule site).map (site, ·) :=
    List.flatMap_congr fun site place => by rw [findingsOf_default_site find rule place]
  refine ⟨?_, ?_, fun c' on' agree => ?_⟩
  · rw [findingsOf_eq find rule rfl, if_pos (Config.enables_default rule), placed,
      List.map_flatMap]
    simp [Function.comp_def]
  · rw [findingsOf_eq find rule on, placed, List.filter_flatMap, List.map_flatMap]
    congr 1
    -- Both sides go through the same places, so it is enough to look at one place.
    refine List.flatMap_congr fun site _ => ?_
    by_cases covered : ∀ p ∈ site, ¬ c.Excludes rule p
    · rw [Config.findingsAt_eq_map_reword c find rule covered,
        filter_map_place fun site => ∀ p ∈ site, ¬ c.Excludes rule p,
        if_pos (decide_eq_true covered), List.map_map]
      rfl
    · rw [Config.findingsAt, if_pos (by simpa using covered),
        filter_map_place fun site => ∀ p ∈ site, ¬ c.Excludes rule p,
        if_neg (by simpa using covered), List.map_nil]
  · rw [findingsOf_eq find rule on', findingsOf_eq find rule on,
      Config.findingsAt_congr find agree]
    exact if_congr (Config.enables_congr agree) rfl rfl

/-- One selector with two components is an error without a message, except on the copied page, and
root selectors may be shared. -/
def silent : Config :=
  { Config.default with
    overrides := fun rule =>
      match rule with
      | .customSelectorTypes => some ⟨some .error, [signInCopy.path], some "", none⟩
      | .rootSelectors => some ⟨some .disabled, [], none, none⟩
      | _ => none }

/-- Of the two pages that share a selector with the sign-up page, one is left alone. -/
theorem findingsOf_reworded_silent :
    silent.disable = false ∧
      (Rule.customSelectorTypes.findingsOf .default atTop [signIn, signUp, signInCopy] =
          (Rule.customSelectorTypes.placedFindings atTop [signIn, signUp, signInCopy]).map
            (·.2) ∧
        Rule.customSelectorTypes.findingsOf silent atTop [signIn, signUp, signInCopy] =
          (if silent.Enables .customSelectorTypes then
            ((Rule.customSelectorTypes.placedFindings atTop
                [signIn, signUp, signInCopy]).filter fun sf =>
              ∀ p ∈ sf.1, ¬ silent.Excludes .customSelectorTypes p).map fun sf =>
                silent.reword .customSelectorTypes sf.2
          else []) ∧
        ∀ c' : Config, c'.disable = false →
          c'.overrides .customSelectorTypes = silent.overrides .customSelectorTypes →
          Rule.customSelectorTypes.findingsOf c' atTop [signIn, signUp, signInCopy] =
            Rule.customSelectorTypes.findingsOf silent atTop [signIn, signUp, signInCopy]) ∧
      (Rule.customSelectorTypes.findingsOf .default atTop
        [signIn, signUp, signInCopy]).length = 2 ∧
      (Rule.customSelectorTypes.findingsOf silent atTop [signIn, signUp, signInCopy]).map
          (fun f => (f.severity, f.message, f.pageObject)) =
        [(.error, "", signUp.path)] :=
  ⟨rfl, findingsOf_reworded atTop .customSelectorTypes rfl _, by decide, by decide⟩

end Session

end PageLint
