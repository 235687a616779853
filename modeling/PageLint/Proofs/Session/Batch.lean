import PageLint.Proofs.Session.Trace

/-!
# Batches

A batch is linted in a session of its own, from its start to its end. What is found in it is found
in its members and in its pairs of members, and that has two consequences. The order of the batch
decides how findings are arranged and which page object of a pair is reported, but not how many
findings there are of each rule. And a page object that has a path to itself adds its own findings
and no others, so that it can be taken out as if it had never been there.

## Main results

* `session_batch` — the findings of a batch
* `batch_perm` — the order of a batch does not decide its verdict
* `findings_without` — a page object takes exactly its own findings with it
-/

namespace PageLint

/-! ## What findings count as -/

namespace Finding

/-- What a finding counts as: its rule and how grave it is. -/
def countsAs (f : Finding) : String × Severity := (f.ruleId, f.severity)

variable {fs gs : List Finding} (counts : (fs.map countsAs).Perm (gs.map countsAs))

include counts

theorem countP_eq_of_perm (holds : String × Severity → Bool) :
    fs.countP (holds ∘ countsAs) = gs.countP (holds ∘ countsAs) := by
  simpa only [List.countP_map] using counts.countP_eq holds

theorem countP_isError_eq_of_perm : fs.countP (·.isError) = gs.countP (·.isError) :=
  countP_eq_of_perm counts (·.2 == .error)

theorem summary_eq_of_perm (n : Nat) : Summary.of fs n = Summary.of gs n := by
  have total : fs.length = gs.length := by simpa only [List.length_map] using counts.length_eq
  rw [Summary.of, Summary.of, countP_isError_eq_of_perm counts, total]

theorem exists_error_iff_of_perm :
    (∃ f ∈ fs, f.severity = .error) ↔ ∃ f ∈ gs, f.severity = .error := by
  have grave (hs : List Finding) :
      (∃ f ∈ hs, f.severity = .error) ↔ 0 < hs.countP (·.isError) := by
    simp [List.countP_pos_iff, isError]
  rw [grave, grave, countP_isError_eq_of_perm counts]

end Finding

/-- If each item brings only entries that pass or only entries that do not, then taking out entries
is taking out items. -/
theorem filter_flatMap_of_blocks {α β : Type} {f : α → List β} {keep : α → Bool}
    {passes : β → Bool} (blocks : ∀ a, ∀ b ∈ f a, passes b = keep a) (as : List α) :
    (as.flatMap f).filter passes = (as.filter keep).flatMap f := by
  induction as with
  | nil => rfl
  | cons a as ih =>
    rw [List.flatMap_cons, List.filter_append, ih]
    cases kept : keep a with
    | true =>
      have all : (f a).filter passes = f a :=
        List.filter_eq_self.mpr fun b listed => (blocks a b listed).trans kept
      rw [all, List.filter_cons_of_pos kept, List.flatMap_cons]
    | false =>
      have none : (f a).filter passes = [] :=
        List.filter_eq_nil_iff.mpr fun b listed => by simp [blocks a b listed, kept]
      rw [none, List.filter_cons_of_neg (by simp [kept]), List.nil_append]

namespace Session

variable {c : Config} (find : Lookup)

/-! ## What a batch finds -/

theorem batch_of_disabled (off : c.disable = true) (ps : List PageObject) :
    (batch c find ps).value = ⟨empty, none⟩ := by
  have linted (s : Session) : (s.lintAll c find ps).value = s := by
    rw [lintAll, Logged.value_foldlM]
    induction ps with
    | nil => rfl
    | cons p ps ih =>
      rw [List.foldl_cons, lint_of_disabled find s off]
      exact ih
  rw [batch, Logged.value_bind, finish_of_disabled find _ off, linted]
  rfl

theorem value_lintAll (on : c.disable = false) (ps : List PageObject) (s : Session) :
    (s.lintAll c find ps).value =
      ⟨s.pageObjects ++ ps, s.findings ++ ps.flatMap (c.localFindings find)⟩ := by
  rw [lintAll, Logged.value_foldlM]
  induction ps generalizing s with
  | nil => simp
  | cons p ps ih =>
    rw [List.foldl_cons, ih, value_lint find s on]
    simp

/-- A batch finds what is in its members, and then what is in its pairs of members. -/
theorem session_batch (on : c.disable = false) (ps : List PageObject) :
    (batch c find ps).value.session =
      ⟨ps, ps.flatMap (c.localFindings find) ++ c.globalFindings find ps⟩ := by
  rw [batch, Logged.value_bind, session_finish find _ on, value_lintAll find on]
  rfl

theorem summary_batch (on : c.disable = false) (ps : List PageObject) :
    (batch c find ps).value.session.summary =
      .of (batch c find ps).value.session.findings ps.length := by
  rw [summary, session_batch find on]

theorem isSome_failures_batch_iff (on : c.disable = false) (ps : List PageObject) :
    (batch c find ps).value.failures.isSome ↔
      c.throwOnError = true ∧
        ∃ f ∈ (batch c find ps).value.session.findings, f.severity = .error :=
  isSome_failures_finish_iff find _ on

/-! ## Three pages

A sign-in page, a sign-up page that takes the other's root selector and one of its component
selectors for something else, and a copy of the first. -/

/-- Its button is a component of its own, and its method has no description. -/
def signIn : PageObject where
  name := "signIn"
  path := "pages/sign-in.json"
  type := "app.SignIn"
  elements := [⟨"submit", some "app.Button", some ⟨⟨.css, ".submit"⟩, false⟩, none⟩]
  methods := [⟨"press", false⟩]
  shadowBoundaries := []
  root := some ⟨true, true, some ⟨⟨.css, ".page"⟩, false⟩⟩

/-- It has the root selector of the sign-in page, once for itself and once for a plain element. -/
def signUp : PageObject where
  name := "signUp"
  path := "pages/sign-up.json"
  type := "app.SignUp"
  elements :=
    [⟨"submit", some "app.Link", some ⟨⟨.css, ".submit"⟩, false⟩, none⟩,
      ⟨"form", some "basic", some ⟨⟨.css, ".page"⟩, false⟩, none⟩]
  methods := []
  shadowBoundaries := []
  root := some ⟨true, true, some ⟨⟨.css, ".page"⟩, false⟩⟩

/-- The sign-in page under another path. -/
def signInCopy : PageObject := { signIn with path := "pages/sign-in-copy.json" }

/-- Every finding is on the first line. -/
def atTop : Lookup := fun _ _ => 1

/-- One selector with two components is an error, and errors fail the run. -/
def strict : Config :=
  { Config.default with
    throwOnError := true
    overrides := fun rule =>
      if rule = .customSelectorTypes then some ⟨some .error, [], none, none⟩ else none }

/-! ## The order of a batch -/

theorem map_countsAs_findingsBetween (rule : Rule) (p q : PageObject) :
    (c.findingsBetween find rule p q).map Finding.countsAs =
      if c.Excludes rule p ∨ c.Excludes rule q then []
      else
        List.replicate (rule.detectBetween find p q).length (rule.entry.id, c.severityOf rule) := by
  -- What a rule sees decides neither the rule nor its weight.
  have constant :
      Finding.countsAs ∘ c.finding rule = fun _ => (rule.entry.id, c.severityOf rule) := rfl
  rw [Config.findingsBetween, apply_ite (List.map Finding.countsAs), List.map_map, constant,
    List.map_const', List.map_nil]

/-- Two page objects count the same in either order. -/
theorem map_countsAs_pairFindings_comm (p q : PageObject) :
    (c.pairFindings find p q).map Finding.countsAs =
      (c.pairFindings find q p).map Finding.countsAs := by
  simp only [Config.pairFindings, List.map_flatMap, map_countsAs_findingsBetween]
  refine List.flatMap_congr fun rule _ => ?_
  rw [Rule.length_detectBetween_comm]
  exact if_congr or_comm rfl rfl

/-- Batches that differ only in their order have findings that count the same. -/
theorem perm_countsAs_batch (on : c.disable = false) {ps qs : List PageObject}
    (reordered : ps.Perm qs) :
    ((batch c find ps).value.session.findings.map Finding.countsAs).Perm
      ((batch c find qs).value.session.findings.map Finding.countsAs) := by
  rw [session_batch find on, session_batch find on]
  simp only [List.map_append, Config.globalFindings_eq_flatMap_pairs, List.map_flatMap]
  exact (reordered.flatMap_right _).append
    (flatMap_pairs_perm (fun p q => map_countsAs_pairFindings_comm find p q) reordered)

/-- The order of a batch does not decide its verdict: each rule has as many findings, the summary is
the same, and errors fail the run in one order if they do in the other. -/
theorem batch_perm (c : Config) {ps qs : List PageObject} (reordered : ps.Perm qs) :
    (∀ rule : Rule,
      (batch c find ps).value.session.findings.countP (·.ruleId = rule.entry.id) =
        (batch c find qs).value.session.findings.countP (·.ruleId = rule.entry.id)) ∧
      (batch c find ps).value.session.summary = (batch c find qs).value.session.summary ∧
      ((batch c find ps).value.failures.isSome ↔ (batch c find qs).value.failures.isSome) := by
  cases on : c.disable with
  | true => simp [batch_of_disabled find on]
  | false =>
    have counts := perm_countsAs_batch find on reordered
    refine ⟨fun rule => Finding.countP_eq_of_perm counts (·.1 = rule.entry.id), ?_, ?_⟩
    · have members :
          (batch c find ps).value.session.pageObjects.length =
            (batch c find qs).value.session.pageObjects.length := by
        rw [session_batch find on, session_batch find on]
        exact reordered.length_eq
      rw [summary, summary, Finding.summary_eq_of_perm counts, members]
    · rw [isSome_failures_batch_iff find on, isSome_failures_batch_iff find on,
        Finding.exists_error_iff_of_perm counts]

/-- Whichever of the two pages comes first, their components differ once. -/
theorem batch_perm_signUp_signIn :
    [signIn, signUp].Perm [signUp, signIn] ∧
      (∀ rule : Rule,
        (batch strict atTop [signIn, signUp]).value.session.findings.countP
            (·.ruleId = rule.entry.id) =
          (batch strict atTop [signUp, signIn]).value.session.findings.countP
            (·.ruleId = rule.entry.id)) ∧
      (batch strict atTop [signIn, signUp]).value.session.summary =
        (batch strict atTop [signUp, signIn]).value.session.summary ∧
      ((batch strict atTop [signIn, signUp]).value.failures.isSome ↔
        (batch strict atTop [signUp, signIn]).value.failures.isSome) ∧
      (batch strict atTop [signUp, signIn]).value.session.summary = ⟨1, 3, 2⟩ := by
  have reordered : [signIn, signUp].Perm [signUp, signIn] := .swap _ _ _
  obtain ⟨counts, summary, failures⟩ := batch_perm atTop strict reordered
  exact ⟨reordered, counts, summary, failures, by decide⟩

/-! ## A page object less -/

/-- A page object whose path no other one has takes exactly its own findings with it. What is found
in the others is the same with it and without it, in the same order. -/
theorem findings_without (on : c.disable = false) (before after : List PageObject)
    (p : PageObject) (unique : ∀ q ∈ before ++ after, q.path ≠ p.path) :
    (batch c find (before ++ after)).value.session.findings =
      (batch c find (before ++ p :: after)).value.session.findings.filter fun f =>
        f.pageObject ≠ p.path ∧ f.related ≠ some p.path := by
  -- A finding names all page objects that it was made on, so it goes if and only if one of them
  -- does; unique paths are needed only for the other page objects to stay.
  let other (q : PageObject) : Bool := q.path ≠ p.path
  have others : (before ++ p :: after).filter other = before ++ after := by
    rw [List.filter_append, List.filter_cons_of_neg (by simp [other]), ← List.filter_append]
    exact List.filter_eq_self.mpr fun q listed => decide_eq_true (unique q listed)
  rw [session_batch find on, session_batch find on, List.filter_append]
  simp only [Config.globalFindings_eq_flatMap_pairs]
  rw [← others, pairs_filter]
  congr 1
  · refine (filter_flatMap_of_blocks (fun q f found => ?_) _).symm
    obtain ⟨owner, related⟩ := Config.localFindings_attribution found
    simp [owner, related, other]
  · refine (filter_flatMap_of_blocks (fun pq f found => ?_) _).symm
    rcases Config.pairFindings_attribution found with ⟨owner, related⟩ | ⟨owner, related⟩
    · simp [owner, related, other]
    · simp [owner, related, other, Bool.and_comm]

/-- The sign-up page goes from between the sign-in page and its copy, with all that it shared with
either. -/
theorem findings_without_signUp :
    (∀ q ∈ [signIn] ++ [signInCopy], q.path ≠ signUp.path) ∧
      strict.disable = false ∧
      (batch strict atTop ([signIn] ++ [signInCopy])).value.session.findings =
        (batch strict atTop ([signIn] ++ signUp :: [signInCopy])).value.session.findings.filter
          (fun f => f.pageObject ≠ signUp.path ∧ f.related ≠ some signUp.path) ∧
      (batch strict atTop [signIn, signInCopy]).value.session.findings.length = 3 ∧
      (batch strict atTop [signIn, signUp, signInCopy]).value.session.findings.length = 9 := by
  have unique : ∀ q ∈ [signIn] ++ [signInCopy], q.path ≠ signUp.path := by decide
  exact ⟨unique, rfl, findings_without atTop rfl [signIn] [signInCopy] signUp unique, by decide,
    by decide⟩

end Session

end PageLint
