import Mathlib.Logic.Function.Basic
import PageLint.Proofs.Rule.Configured
import PageLint.Proofs.Shape.Aliases

/-!
# The names of settings

Three switches of a configuration and all its rules have two names each: the key, and another one
that for a rule is its name in the catalog. A configuration object says the same under either name.
It may not use both for one setting, and the trouble then speaks of the key, except that a value in
front that is refused anyway is met first. An override that is put under either name of a rule
counts for that rule, and for no other.

An object comes as part of a larger document or as a text of its own. What is made of it depends on
its entries alone, and setting by setting on the entries under the names of the setting.

## Main definitions

* `Config.twoNames` — the settings with two names
* `Config.Outcome` — what is made of an object with given entries
* `Config.Says` — what entries say, setting by setting
* `Config.setOverride` — a configuration with another override for one rule

## Main results

* `ofEntries_eq_ok_iff` — the configuration of an object is the one its entries spell out
* `outcome_under_either_name` — other names, both names, and one more override
-/

namespace PageLint

namespace Config

open Json (Document Quoted Spells)
open Shape (Dialect Once Trouble)

/-- The settings with two names: the key of each, and its other name. -/
def twoNames : List (String × String) :=
  [("writeReport", "writeSarifReport"), ("throwOnError", "throwError"),
    ("reportOutputPath", "lintingOutputFile")] ++
  Rule.all.map fun rule => (rule.entry.key, rule.entry.name)

/-- The names of a rule. -/
def ruleNames (rule : Rule) : List String := [rule.entry.key, rule.entry.name]

/-- The configuration, with this override for the rule. -/
def setOverride (c : Config) (rule : Rule) (o : Option Override) : Config :=
  { c with overrides := Function.update c.overrides rule o }

theorem overrides_setOverride (c : Config) (rule : Rule) (o : Option Override) :
    (c.setOverride rule o).overrides = Function.update c.overrides rule o :=
  rfl

section Entries

variable {δ : Type} {D : Dialect δ} {es before after : List (String × δ)}

/-- The entries have the same value, under one key or under the two names of one setting. -/
def Renamed (e e' : String × δ) : Prop :=
  (e.1 = e'.1 ∨ (e.1, e'.1) ∈ twoNames ∨ (e'.1, e.1) ∈ twoNames) ∧ e.2 = e'.2

/-! ## Objects by their entries -/

/-- What is made of a JSON object with the given entries, as a part of a larger document or as a
text of its own. -/
inductive Outcome : {δ : Type} → Dialect δ → List (String × δ) → Except Trouble Config → Prop
  | value (entries : List (String × Json)) :
    Outcome Shape.ofValue entries (ofJson? (some (.object entries)))
  | text {s : String} {entries : List (Quoted × Document)} {named : List (String × Document)}
    (spells : Spells s.toList (.object entries .closed))
    (keyed : List.Forall₂ Shape.KeyedBy entries named) :
    Outcome Shape.ofDocument named (Shape.parse shape s)

/-- The configuration with the given parts. -/
def ofParts : Bool × Bool × Bool × Bool × String × Row Rule.all → Config
  | (disable, writeReport, throwOnError, printToConsole, reportPath, row) =>
    ⟨disable, writeReport, throwOnError, printToConsole, reportPath, ofRow Rule.all row⟩

/-- What is made of an object with the given entries. -/
def ofEntries (D : Dialect δ) (es : List (String × δ)) : Except Trouble Config :=
  ofParts <$> fields.readEntries D es

/-- An object is read by its entries alone. -/
theorem read_of_layout {d : δ} (layout : D.layout "LintingConfig" d = .ok (.keyed es none)) :
    Shape.read D shape d = ofEntries D es := by
  rw [shape, Shape.read, layout]
  rfl

theorem Outcome.eq_ofEntries {x : Except Trouble Config} (outcome : Outcome D es x) :
    x = ofEntries D es := by
  cases outcome with
  | value => exact read_of_layout rfl
  | @text s entries named spells keyed =>
    obtain ⟨parsed, -⟩ := Json.spells_iff.mp spells
    have layout : Shape.ofDocument.layout "LintingConfig" (.object entries .closed) =
        .ok (.keyed named none) := by
      simp only [Shape.ofDocument, Shape.readKeys_eq_iff.mpr ⟨rfl, keyed⟩]
    rw [Shape.parse, Shape.parseWith, parsed, read_of_layout layout]
    exact bind_pure _

/-! ## What the entries say -/

/-- The entries give the value for the setting with these names: one entry has it, or none is there
and the setting is left as it is. -/
def Gives (D : Dialect δ) (es : List (String × δ)) (names : List String) {α : Type}
    (shape : Shape α) (absent a : α) : Prop :=
  Once (absent = a) (fun d => Shape.read D shape d = .ok a) (es.filter fun e => names.contains e.1)

/-- The entries spell out the configuration, setting by setting, and what stands beside the settings
can be skipped. -/
structure Says (D : Dialect δ) (es : List (String × δ)) (c : Config) : Prop where
  others : ∀ e ∈ es, e.1 ∉ fields.keys → D.skip e.2 = none
  disable : Gives D es ["disable"] .flag false c.disable
  writeReport : Gives D es ["writeReport", "writeSarifReport"] .flag true c.writeReport
  throwOnError : Gives D es ["throwOnError", "throwError"] .flag false c.throwOnError
  printToConsole : Gives D es ["printToConsole"] .flag true c.printToConsole
  reportPath : Gives D es ["reportOutputPath", "lintingOutputFile"] .text defaultReportPath
    c.reportPath
  overrides : ∀ rule, Gives D es (ruleNames rule) (.optional Override.shape) none (c.overrides rule)

theorem readKeyed_rowFields_eq_ok_iff {rules : List Rule} (distinct : rules.Nodup) {n : Nat}
    {row : Row rules} :
    (rowFields rules).readKeyed D (Shape.numbered es) n = .ok row ↔
      ∀ rule ∈ rules,
        Gives D es (ruleNames rule) (.optional Override.shape) none (ofRow rules row rule) := by
  induction rules with
  | nil => exact iff_of_true rfl (List.forall_mem_nil _)
  | cons rule rules ih =>
    obtain ⟨o, row⟩ := row
    obtain ⟨apart, distinct⟩ := List.nodup_cons.mp distinct
    have field : (rowFields (rule :: rules)).readKeyed D (Shape.numbered es) n = .ok (o, row) ↔
        Once (some none = some o) (fun d => Shape.read D (.optional Override.shape) d = .ok o)
            (es.filter fun e => (ruleNames rule).contains e.1) ∧
          (rowFields rules).readKeyed D (Shape.numbered es) n = .ok row :=
      Shape.readKeyed_field_eq_ok_iff
    have first : ofRow (rule :: rules) (o, row) rule = o := if_pos rfl
    have later : ∀ r ∈ rules, ofRow (rule :: rules) (o, row) r = ofRow rules row r :=
      fun r listed => if_neg fun same : r = rule => apart (same ▸ listed)
    rw [field, ih distinct, List.forall_mem_cons, first, Option.some.injEq]
    refine and_congr_right' (forall₂_congr fun r listed => ?_)
    rw [later r listed]

theorem ofRow_toRow {f : Rule → Option Override} {rules : List Rule} {rule : Rule}
    (listed : rule ∈ rules) : ofRow rules (toRow f rules) rule = f rule := by
  induction rules with
  | nil => cases listed
  | cons r rules ih =>
    rw [toRow, ofRow]
    split
    · rename_i same
      rw [same]
    · rename_i other
      exact ih ((List.mem_cons.mp listed).resolve_left other)

/-- The configuration of an object is the one that its entries spell out. -/
theorem ofEntries_eq_ok_iff {c : Config} : ofEntries D es = .ok c ↔ Says D es c := by
  have nodup : Rule.all.Nodup := by decide
  simp only [ofEntries, Shape.Fields.readEntries, map_eq_ok_iff, Shape.settle_eq_ok_iff,
    Prod.exists, fields, Shape.Fields.aliased, Shape.Fields.defaulted,
    Shape.readKeyed_field_eq_ok_iff, Option.some.injEq, readKeyed_rowFields_eq_ok_iff nodup,
    true_and]
  constructor
  · rintro ⟨disable, writeReport, throwOnError, printToConsole, reportPath, row,
      ⟨others, read⟩, rfl⟩
    obtain ⟨disable, report, throw, print, path, rules⟩ := read
    exact ⟨others, disable, report, throw, print, path, fun rule => rules rule rule.mem_all⟩
  · rintro ⟨others, disable, report, throw, print, path, rules⟩
    -- Every rule is in the catalog, so the row of the catalog has all overrides.
    have row : ofRow Rule.all (toRow c.overrides Rule.all) = c.overrides :=
      funext fun rule => ofRow_toRow rule.mem_all
    refine ⟨_, _, _, _, _, toRow c.overrides Rule.all,
      ⟨others, disable, report, throw, print, path, fun rule _ => ?_⟩, ?_⟩
    · rw [row]
      exact rules rule
    · rw [ofParts, row]

/-! ## An override that is put in -/

theorem ruleNames_subset (rule : Rule) : ruleNames rule ⊆ fields.keys := by
  cases rule <;> decide

/-- No other setting has a name of the rule. -/
theorem not_mem_ruleNames (rule : Rule) : ∀ n ∈ ["disable", "writeReport", "writeSarifReport",
    "throwOnError", "throwError", "printToConsole", "reportOutputPath", "lintingOutputFile"],
    n ∉ ruleNames rule := by
  cases rule <;> decide

theorem not_mem_ruleNames_of_ne {rule other : Rule} (ne : other ≠ rule) :
    ∀ n ∈ ruleNames other, n ∉ ruleNames rule := by
  cases rule <;> cases other <;> first | exact absurd rfl ne | decide

section Put

variable {rule : Rule} {k : String} {v : δ} {o : Option Override} {c : Config}
  (named : k ∈ ruleNames rule)
  (rest : before ++ after = es.filter fun e => !(ruleNames rule).contains e.1)

include named rest

/-- The entries of a setting that has no name of the rule stay as they are. -/
theorem filter_put {names : List String} (apart : ∀ n ∈ names, n ∉ ruleNames rule) :
    ((before ++ (k, v) :: after).filter fun e => names.contains e.1) =
      es.filter fun e => names.contains e.1 := by
  rw [Shape.Fields.filter_keys_insert (fun listed => apart k listed named), rest,
    List.filter_filter]
  refine List.filter_congr fun e _ => ?_
  by_cases listed : e.1 ∈ names
  · simp [listed, apart e.1 listed]
  · simp [listed]

/-- The rule has the one entry that is put there. -/
theorem filter_put_self :
    ((before ++ (k, v) :: after).filter fun e => (ruleNames rule).contains e.1) = [(k, v)] := by
  have none : ((before ++ after).filter fun e => (ruleNames rule).contains e.1) = [] := by
    simp [rest, List.filter_filter]
  rw [List.filter_append, List.append_eq_nil_iff] at none
  rw [List.filter_append, none.1, List.filter_cons_of_pos (by simpa using named), none.2]
  rfl

/-- An override under a name of a rule, in place of what stood there for the rule, counts for this
rule, and all else is as before. -/
theorem Says.put (said : Says D es c)
    (value : Shape.read D (.optional Override.shape) v = .ok o) :
    Says D (before ++ (k, v) :: after) (c.setOverride rule o) := by
  have same {α : Type} {names : List String} {shape : Shape α} {absent a : α}
      (gives : Gives D es names shape absent a) (apart : ∀ n ∈ names, n ∉ ruleNames rule) :
      Gives D (before ++ (k, v) :: after) names shape absent a := by
    rwa [Gives, filter_put named rest apart]
  have switch {names : List String} (listed : names ⊆ _) : ∀ n ∈ names, n ∉ ruleNames rule :=
    fun n own => not_mem_ruleNames rule n (listed own)
  refine ⟨fun e listed unknown => ?_, same said.disable (switch (by decide)),
    same said.writeReport (switch (by decide)), same said.throwOnError (switch (by decide)),
    same said.printToConsole (switch (by decide)), same said.reportPath (switch (by decide)),
    fun r => ?_⟩
  -- What stands beside the settings is what stood there.
  · refine Shape.Fields.skipped_insert (ruleNames_subset rule named) (fun e listed => ?_) e listed
      unknown
    rw [rest] at listed
    exact said.others e (List.mem_filter.mp listed).1
  -- The rule has its one new entry, and every other rule has the entries it had.
  · by_cases own : r = rule
    · subst own
      rw [Gives, filter_put_self named rest, overrides_setOverride, Function.update_self]
      exact value
    · rw [overrides_setOverride, Function.update_of_ne own]
      exact same (said.overrides r) (not_mem_ruleNames_of_ne own)

end Put

/-- The override of one rule does not touch what becomes of the others. -/
theorem active_resolve_setOverride (c : Config) (rule : Rule) (o : Option Override) :
    (RuleSet.resolve (c.setOverride rule o)).active =
      Rule.all.filterMap fun r =>
        if r = rule then ActiveRule.configured r o else (RuleSet.resolve c).get? r := by
  refine List.filterMap_congr fun r _ => ?_
  rw [overrides_setOverride, RuleSet.get?_resolve, ← ActiveRule.configured_eq,
    Function.update_apply]
  split <;> rfl

/-! ## The key of a setting -/

theorem nodup_keys : fields.keys.Nodup := by decide

/-- The first name of a setting stands for both. -/
theorem primary?_of_mem_twoNames : ∀ names ∈ twoNames,
    fields.primary? names.1 = some names.1 ∧ fields.primary? names.2 = some names.1 := by
  decide

theorem Renamed.fields {e e' : String × δ} (renamed : Renamed e e') : fields.Renamed e e' := by
  obtain ⟨same | listed | listed, value⟩ := renamed
  · exact ⟨by rw [same], value⟩
  · obtain ⟨key, name⟩ := primary?_of_mem_twoNames _ listed
    exact ⟨key.trans name.symm, value⟩
  · obtain ⟨key, name⟩ := primary?_of_mem_twoNames _ listed
    exact ⟨name.trans key.symm, value⟩

end Entries

/-- Names of settings. An object has the same outcome with other names for its settings. With the
other name of a setting that it gives already an accepted object is refused, and the trouble is that
the setting's key is a duplicate, or that the added value is wrong, where this comes in front and is
wrong in itself. An override under a name of a rule, in place of what an accepted object said of the
rule, is accepted, becomes the override of the rule, and changes nothing else; of the active rules
only the entry of this rule is another. -/
theorem outcome_under_either_name {δ : Type} {D : Dialect δ} :
    (∀ es es' x x', Outcome D es x → Outcome D es' x' → List.Forall₂ Renamed es es' → x' = x) ∧
    (∀ before after e k v c x, Outcome D (before ++ after) (.ok c) →
      Outcome D (before ++ (k, v) :: after) x →
      ∀ names ∈ twoNames, (e.1, k) = names ∨ (k, e.1) = names →
        (e ∈ before → x = .error (.mismatch (.duplicate names.1))) ∧
        (e ∈ after →
          x = .error ((fields.refusal? D k v).getD (.mismatch (.duplicate names.1))))) ∧
    ∀ rule es before after k v o c x, Outcome D es (.ok c) → k ∈ ruleNames rule →
      (before ++ after = es.filter fun e => !(ruleNames rule).contains e.1) →
      Shape.read D (.optional Override.shape) v = .ok o →
      Outcome D (before ++ (k, v) :: after) x →
        x = .ok (c.setOverride rule o) ∧ (c.setOverride rule o).overrides rule = o ∧
        (RuleSet.resolve (c.setOverride rule o)).active =
          Rule.all.filterMap fun r =>
            if r = rule then ActiveRule.configured r o else (RuleSet.resolve c).get? r := by
  refine ⟨?_, ?_, ?_⟩
  -- Other names.
  · intro es es' x x' first second renamed
    rw [first.eq_ofEntries, second.eq_ofEntries, ofEntries, ofEntries,
      Shape.Fields.readEntries_renamed nodup_keys (renamed.imp fun _ _ => Renamed.fields)]
  -- Both names of one setting.
  · intro before after e k v c x accepted outcome names listed other
    obtain ⟨r, settled, -⟩ := map_eq_ok_iff.mp accepted.eq_ofEntries.symm
    obtain ⟨key, name⟩ := primary?_of_mem_twoNames names listed
    have both : fields.primary? e.1 = some names.1 ∧ fields.primary? k = some names.1 := by
      rcases other with rfl | rfl
      · exact ⟨key, name⟩
      · exact ⟨name, key⟩
    have twice := Shape.Fields.readEntries_twice nodup_keys settled v both.1 both.2
    rw [outcome.eq_ofEntries, ofEntries]
    refine twice.imp (fun behind inside => ?_) (fun inFront inside => ?_)
    · rw [behind inside]
      rfl
    · rw [inFront inside]
      rfl
  -- One override.
  · intro rule es before after k v o c x accepted named rest value outcome
    have said := ofEntries_eq_ok_iff.mp accepted.eq_ofEntries.symm
    refine ⟨?_, Function.update_self _ _ _, active_resolve_setOverride c rule o⟩
    rw [outcome.eq_ofEntries, ofEntries_eq_ok_iff]
    exact said.put named rest value

/-- An object that uses other names. -/
def legacyEntries : List (String × Json) :=
  [("writeSarifReport", .bool false),
    ("single-shadow-boundary", .object [("violation", .string "error")])]

/-- The same under the keys. -/
def keyEntries : List (String × Json) :=
  [("writeReport", .bool false),
    ("requiredSingleShadowRoot", .object [("violation", .string "error")])]

/-- A text that uses another name. -/
def legacyText : String := "\x7b\"throwError\":true\x7d"

/-- The same with the key, and with more white space. -/
def keyText : String := "\x7b \"throwOnError\" : true \x7d"

theorem spells_legacyText :
    Spells legacyText.toList (.object [(.ofString "throwError", .word .true none)] .closed) :=
  Json.spells_iff.mpr ⟨by rfl, (Document.skip_eq_none_iff _).mp (by rfl)⟩

theorem spells_keyText :
    Spells keyText.toList (.object [(.ofString "throwOnError", .word .true none)] .closed) :=
  Json.spells_iff.mpr ⟨by rfl, (Document.skip_eq_none_iff _).mp (by rfl)⟩

theorem outcome_under_either_name_legacy :
    (∃ c, ofJson? (some (.object legacyEntries)) = .ok c ∧
        ofJson? (some (.object keyEntries)) = .ok c ∧
        ofJson? (some (.object (legacyEntries ++ [("writeReport", .null)]))) =
          .error (.mismatch (.duplicate "writeReport")) ∧
        ofJson? (some (.object (("writeReport", .null) :: legacyEntries))) =
          .error (.mismatch (.kind .null .flag)) ∧
        ofJson? (some (.object (("required-author", .null) :: legacyEntries))) =
          .ok (c.setOverride .author none)) ∧
      Shape.parse shape keyText = Shape.parse shape legacyText := by
  obtain ⟨renamed, twice, put⟩ := outcome_under_either_name (D := Shape.ofValue)
  obtain ⟨c, accepted⟩ : ∃ c, ofJson? (some (.object legacyEntries)) = .ok c := ⟨_, rfl⟩
  have outcome : Outcome Shape.ofValue legacyEntries (.ok c) := accepted ▸ .value legacyEntries
  let names : String × String := ("writeReport", "writeSarifReport")
  refine ⟨⟨c, accepted, ?_, ?_, ?_, ?_⟩, ?_⟩
  · exact renamed legacyEntries keyEntries _ _ outcome (.value _)
      (.cons ⟨by decide, rfl⟩ (.cons ⟨by decide, rfl⟩ .nil))
  · exact (twice legacyEntries [] _ _ _ c _ outcome (.value _) names (by decide) (.inr rfl)).1
      List.mem_cons_self
  · exact (twice [] legacyEntries _ _ _ c _ outcome (.value _) names (by decide) (.inr rfl)).2
      List.mem_cons_self
  · exact (put .author legacyEntries [] legacyEntries _ _ none c _ outcome (by decide) rfl rfl
      (.value _)).1
  · have keyed (k : String) (d : Document) :
        List.Forall₂ Shape.KeyedBy [(.ofString k, d)] [(k, d)] :=
      .cons ⟨Quoted.text_eq_ok_iff.mp (Quoted.text_ofString k), rfl⟩ .nil
    exact outcome_under_either_name.1 _ _ _ _ (.text spells_legacyText (keyed _ _))
      (.text spells_keyText (keyed _ _)) (.cons ⟨by decide, rfl⟩ .nil)

/-- A value in front that is refused hides that the setting is given twice. -/
theorem not_duplicate_of_refused :
    ("writeReport", "writeSarifReport") ∈ twoNames ∧
      (∃ c, ofJson? (some (.object [("writeReport", .bool true)])) = .ok c) ∧
      ofJson? (some (.object [("writeSarifReport", .null), ("writeReport", .bool true)])) =
        .error (.mismatch (.kind .null .flag)) ∧
      ofJson? (some (.object [("writeSarifReport", .null), ("writeReport", .bool true)])) ≠
        .error (.mismatch (.duplicate "writeReport")) := by
  refine ⟨by decide, ⟨_, rfl⟩, rfl, ?_⟩
  intro duplicate
  cases duplicate

end Config

end PageLint
