import PageLint.Proofs.Report.Sarif
import PageLint.Proofs.Session.Configuration
import PageLint.Report.Console

/-!
# The rules of a report and its results

A report says of every rule whether it is on and how grave its violations are, and repeats the
latter with each result. The rules are looked up among the active ones, the place of a result's rule
is looked up in the catalog by the identifier that the finding kept, and everything else of a result
is what the finding kept. For the findings of a session these agree: whatever calls were made on the
session, each finding was made by a rule that is on, and the catalog tells rules apart by their
identifiers.

## Main definitions

* `Config.stateOf` — how grave violations of a rule are, if it is on
* `Report.Lists`, `Report.Shows` — what the two catalogs say of a rule
* `Report.Backs` — a rule of a report is the one that a result speaks of

## Main results

* `reports_of_mem_findings` — the findings of a session are made by rules that are on
* `getElem?_ruleIndex` — a rule stands at the place that is looked up for it
* `sarif_agrees` — the rules of the report of a session agree with its results
-/

namespace PageLint

/-! ## What is found is made by rules that are on -/

section Session

variable {c : Config} {find : Lookup} {f : Finding}

theorem Call.reports_of_mem_found {held : List PageObject} {k : Call}
    (made : f ∈ k.found c find held) : c.Reports f := by
  cases k with
  | lint p => exact Config.reports_of_mem_localFindings made
  | finish => exact Config.reports_of_mem_globalFindings made

/-- Whatever calls are made on a session, its findings are made by rules that are on. -/
theorem Session.reports_of_mem_findings {calls : List Call}
    (made : f ∈ (after c find calls).findings) : c.Reports f := by
  cases on : c.disable with
  | true =>
    rw [after_of_disabled find on] at made
    cases made
  | false =>
    rw [after_eq find on] at made
    obtain ⟨kn, -, made⟩ := List.mem_flatMap.mp made
    exact Call.reports_of_mem_found made

end Session

/-- How grave violations of the rule are, if the rule is on. -/
def Config.stateOf (c : Config) (rule : Rule) : Option Severity :=
  if c.Enables rule then some (c.severityOf rule) else none

theorem RuleSet.severity_get?_resolve (c : Config) (rule : Rule) :
    ((resolve c).get? rule).map (·.severity) = c.stateOf rule := by
  rw [get?_resolve, Config.stateOf]
  by_cases on : c.Enables rule <;> simp [on, ActiveRule.under]

namespace Report

open Json (Step)

/-! ## The rules -/

/-- The way from a rule of a report to whether it is on. -/
def wayToEnabled : List Step := [.key "defaultConfiguration", .key "enabled"]

/-- The way from a rule of a report to its level. -/
def wayToLevel : List Step := [.key "defaultConfiguration", .key "level"]

/-- The way from a rule or a result of a report to the code of the rule. -/
def wayToCode : List Step := [.key "properties", .key "code"]

/-- The rules of a report, from its root. -/
def wayToRules : List Step :=
  [.key "runs", .item 0, .key "tool", .key "driver", .key "rules"]

variable (rule : Rule) (state : Option Severity)

/-- In a report stands the rule, and in what state it is. -/
structure Lists (driver : Json) : Prop where
  id : driver.get? "id" = some (.string rule.entry.id)
  code : driver.reach? wayToCode = some (.ofNat rule.entry.code)
  enabled : driver.reach? wayToEnabled = some (.bool state.isSome)
  level : driver.reach? wayToLevel = some (.string ((state.map (·.name)).getD disabledLevel))

/-- In the catalog for programs stands the rule, and in what state it is. -/
structure Shows (item : Json) : Prop where
  id : item.get? "id" = some (.string rule.entry.id)
  code : item.get? "code" = some (.ofNat rule.entry.code)
  enabled : item.get? "enabled" = some (.bool state.isSome)
  severity : item.get? "severity" = some ((state.map fun s => Json.string s.name).getD .null)

variable (rules : RuleSet)

theorem lists_ruleEntry :
    Lists rule ((rules.get? rule).map (·.severity)) (ruleEntry rules rule) := by
  unfold ruleEntry
  cases rules.get? rule <;> constructor <;> rfl

theorem shows_ruleJson :
    Shows rule ((rules.get? rule).map (·.severity)) (ruleJson rules rule) := by
  unfold ruleJson
  cases rules.get? rule <;> constructor <;> rfl

/-- A rule stands in the catalog at the place that is looked up for it. -/
theorem getElem?_ruleIndex : Rule.all[ruleIndex rule.entry.id]? = some rule := by
  -- The answer is not the one for unknown identifiers, since the catalog has the rule.
  have present : (Rule.all.findIdx? (·.entry.id == rule.entry.id)).isSome := by
    rw [List.findIdx?_isSome, List.any_eq_true]
    exact ⟨rule, rule.mem_all, beq_self_eq_true _⟩
  obtain ⟨place, found⟩ := Option.isSome_iff_exists.mp present
  obtain ⟨bound, same, -⟩ := List.findIdx?_eq_some_iff_getElem.mp found
  have own : Rule.all[place] = rule := Rule.entry_id_injective (eq_of_beq same)
  rw [ruleIndex, found, Option.getD_some, List.getElem?_eq_getElem bound, own]

/-! ## Rules and results -/

/-- The rule of a report is on, and it is the one that the result speaks of, with the same level and
code. -/
structure Backs (driver r : Json) : Prop where
  enabled : driver.reach? wayToEnabled = some (.bool true)
  id : ∃ id, driver.get? "id" = some (.string id) ∧ r.get? "ruleId" = some (.string id)
  level : ∃ level, driver.reach? wayToLevel = some (.string level) ∧
    r.get? "level" = some (.string level)
  code : ∃ code, driver.reach? wayToCode = some (.ofNat code) ∧
    r.reach? wayToCode = some (.ofNat code)

variable {rule state} {root : Option Path} {f : Finding} {c : Config} {driver r : Json}

theorem backs_of_lists {severity : Severity} (listed : Lists rule (some severity) driver)
    (told : Tells root f r) (id : f.ruleId = rule.entry.id) (grave : f.severity = severity)
    (code : f.code = rule.entry.code) : Backs driver r where
  enabled := listed.enabled
  id := ⟨rule.entry.id, listed.id, id ▸ told.ruleId⟩
  level := ⟨severity.name, listed.level, grave ▸ told.level⟩
  code := ⟨rule.entry.code, listed.code, code ▸ told.code⟩

/-- A rule is marked as off by its level, too. -/
theorem Lists.enabled_iff_level (listed : Lists rule state driver) :
    driver.reach? wayToEnabled = some (.bool false) ↔
      driver.reach? wayToLevel = some (.string disabledLevel) := by
  rw [listed.enabled, listed.level]
  rcases state with _ | _ | _ <;> simp [disabledLevel, Severity.name]

theorem Lists.eq_none_of_enabled (listed : Lists rule state driver)
    (off : driver.reach? wayToEnabled = some (.bool false)) : state = none := by
  rw [listed.enabled] at off
  cases state with
  | none => rfl
  | some severity => cases off

theorem lists_resolve (c : Config) (rule : Rule) :
    Lists rule (c.stateOf rule) (ruleEntry (.resolve c) rule) :=
  RuleSet.severity_get?_resolve c rule ▸ lists_ruleEntry rule _

theorem shows_resolve (c : Config) (rule : Rule) :
    Shows rule (c.stateOf rule) (ruleJson (.resolve c) rule) :=
  RuleSet.severity_get?_resolve c rule ▸ shows_ruleJson rule _

/-- The result of a finding that a rule made speaks of the rule at the place it names. -/
theorem backs_of_reports (root : Option Path) (reported : c.Reports f) :
    ∃ place driver, (result root f).get? "ruleIndex" = some (.ofNat place) ∧
      (Rule.all.map (ruleEntry (.resolve c)))[place]? = some driver ∧
        Backs driver (result root f) := by
  obtain ⟨rule, d, on, rfl⟩ := reported
  refine ⟨ruleIndex rule.entry.id, ruleEntry (.resolve c) rule, rfl, ?_, ?_⟩
  · rw [List.getElem?_map, getElem?_ruleIndex]
    rfl
  · have listed := lists_resolve c rule
    rw [Config.stateOf, if_pos on] at listed
    exact backs_of_lists listed (tells_result root _) rfl rfl rfl

/-- No result speaks of a rule that is off. -/
theorem ruleId_ne_of_reports (reported : c.Reports f) (told : Tells root f r)
    (listed : Lists rule (c.stateOf rule) driver)
    (off : driver.reach? wayToEnabled = some (.bool false)) :
    r.get? "ruleId" ≠ driver.get? "id" := by
  obtain ⟨rule', d, on, rfl⟩ := reported
  intro same
  rw [told.ruleId, listed.id] at same
  -- Identifiers tell rules apart, so the finding would come from the rule that is off.
  have same : rule' = rule := Rule.entry_id_injective (Json.string.inj (Option.some.inj same))
  have state := listed.eq_none_of_enabled off
  rw [← same, Config.stateOf, if_pos on] at state
  cases state

/-- The report of a session lists all rules of the catalog in the state that the configuration gives
them, as the catalog for programs does. Each of its results names a place at which the rule it
speaks of is listed, with the same level and code, and as one that is on. A rule is listed as one
that is off exactly if it is without a level, and then there is no result that speaks of it. -/
theorem sarif_agrees (c : Config) (find : Lookup) (calls : List Call) (root : Option Path) :
    let report := sarif (.resolve c) root (Session.after c find calls).findings
    ∃ drivers results items,
      report.reach? wayToRules = some (.array drivers) ∧
      report.reach? wayToResults = some (.array results) ∧
      (rulesJson (.resolve c)).get? "rules" = some (.array items) ∧
      List.Forall₂ (fun rule driver => Lists rule (c.stateOf rule) driver) Rule.all drivers ∧
      List.Forall₂ (fun rule item => Shows rule (c.stateOf rule) item) Rule.all items ∧
      (∀ r ∈ results, ∃ place driver,
        r.get? "ruleIndex" = some (.ofNat place) ∧ drivers[place]? = some driver ∧
          Backs driver r) ∧
      ∀ driver ∈ drivers,
        (driver.reach? wayToEnabled = some (.bool false) ↔
          driver.reach? wayToLevel = some (.string disabledLevel)) ∧
        (driver.reach? wayToEnabled = some (.bool false) →
          ∀ r ∈ results, r.get? "ruleId" ≠ driver.get? "id") := by
  have reported : ∀ f ∈ (Session.after c find calls).findings, c.Reports f :=
    fun f made => Session.reports_of_mem_findings made
  refine ⟨_, _, _, rfl, results_sarif _ root _, rfl, ?_, ?_, ?_, ?_⟩
  · exact List.forall₂_map_right_iff.mpr (List.forall₂_same.mpr fun rule _ => lists_resolve c rule)
  · exact List.forall₂_map_right_iff.mpr (List.forall₂_same.mpr fun rule _ => shows_resolve c rule)
  · intro r listed
    obtain ⟨f, made, rfl⟩ := List.mem_map.mp listed
    exact backs_of_reports root (reported f made)
  · intro driver listed
    obtain ⟨rule, -, rfl⟩ := List.mem_map.mp listed
    have lists := lists_resolve c rule
    refine ⟨lists.enabled_iff_level, fun off r listed => ?_⟩
    obtain ⟨f, made, rfl⟩ := List.mem_map.mp listed
    exact ruleId_ne_of_reports (reported f made) (tells_result root f) lists off

section Shared

open Session (after silent atTop signIn signUp)

/-- Calls on a session with two pages that share their root selector. -/
def sharedRoot : List Call := [.lint signIn, .lint signUp, .finish]

/-- Sharing it is not reported, though using it for something else is. -/
theorem sarif_agrees_silent :
    let findings := (after silent atTop sharedRoot).findings
    let report := sarif (.resolve silent) none findings
    findings.map (·.ruleId) = ["ULR04", "ULR07", "ULR08"] ∧
      ∃ drivers results off,
        report.reach? wayToRules = some (.array drivers) ∧
        report.reach? wayToResults = some (.array results) ∧ results.length = 3 ∧
        (∀ r ∈ results, ∃ place driver,
          r.get? "ruleIndex" = some (.ofNat place) ∧ drivers[place]? = some driver ∧
            Backs driver r) ∧
        drivers[5]? = some off ∧ off.reach? wayToEnabled = some (.bool false) ∧
        ∀ r ∈ results, r.get? "ruleId" ≠ off.get? "id" := by
  have found : (after silent atTop sharedRoot).findings.map (·.ruleId) =
      ["ULR04", "ULR07", "ULR08"] := by decide
  obtain ⟨drivers, results, items, rules, told, -, -, -, backed, apart⟩ :=
    sarif_agrees silent atTop sharedRoot none
  obtain rfl : Rule.all.map (ruleEntry (.resolve silent)) = drivers :=
    Json.array.inj (Option.some.inj rules)
  obtain rfl : (after silent atTop sharedRoot).findings.map (result none) = results :=
    Json.array.inj (Option.some.inj told)
  have listed : ruleEntry (.resolve silent) .rootSelectors ∈
      Rule.all.map (ruleEntry (.resolve silent)) := List.mem_map_of_mem (Rule.mem_all _)
  have count := congrArg List.length found
  rw [List.length_map] at count
  refine ⟨found, _, _, _, rules, told, ?_, backed, rfl, rfl, (apart _ listed).2 rfl⟩
  rw [List.length_map, count]
  rfl

end Shared

end Report

end PageLint
