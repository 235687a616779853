import Mathlib.Data.List.Forall2
import PageLint.Proofs.Rule.Configured

/-!
# The lines of findings

A rule may ask for the line of what it objects to. It asks about the source of the page object that
it reports, also where it compares two, and it does so once it knows what it objects to: the answer
becomes the line of the finding and has no part in anything else. So two lookups give the same
findings, at the lines that each of them answers to the same questions.

## Main definitions

* `Lookup.answer` — the line that a rule is given
* `Finding.Relined` — one finding under two lookups

## Main results

* `forall₂_detect`, `forall₂_detectBetween` — what a rule sees under two lookups
* `forall₂_localFindings`, `forall₂_globalFindings` — the findings of all rules under two lookups
* `joinMessages_eq_of_relined` — no line shows in the text of findings
-/

namespace PageLint

/-- The line that a rule is given when it asks about the source at a path, or does not ask. -/
def Lookup.answer (find : Lookup) (path : String) : Option (List String) → Nat
  | none => Text.firstLine
  | some fragments => find path fragments

variable {find find' : Lookup}

/-- Lists that are gathered from one list by functions with related results are related. -/
theorem forall₂_flatMap {α β γ : Type} {R : β → γ → Prop} {f : α → List β} {g : α → List γ}
    {as : List α} (related : ∀ a ∈ as, List.Forall₂ R (f a) (g a)) :
    List.Forall₂ R (as.flatMap f) (as.flatMap g) := by
  induction as with
  | nil => exact .nil
  | cons a as ih =>
    rw [List.flatMap_cons, List.flatMap_cons]
    have first := related a List.mem_cons_self
    have others := ih fun b listed => related b (List.mem_cons_of_mem a listed)
    exact List.rel_append first others

/-- The same for functions with one result each. -/
theorem forall₂_map {α β γ : Type} {R : β → γ → Prop} {f : α → β} {g : α → γ} {as : List α}
    (related : ∀ a ∈ as, R (f a) (g a)) : List.Forall₂ R (as.map f) (as.map g) := by
  rw [List.forall₂_map_left_iff, List.forall₂_map_right_iff]
  exact List.forall₂_same.mpr related

namespace Rule

variable (p q : PageObject)

/-- One detection under two lookups. It is the same in all but its line, and that is what either
lookup answers to one question about the page object that is reported, if there is a question. -/
def Detection.Relined (find find' : Lookup) (d d' : Detection) : Prop :=
  ∃ asked : Option (List String),
    d.line = find.answer d.pageObject asked ∧
      d' = { d with line := find'.answer d.pageObject asked }

/-- What a rule sees in one page object does not depend on the lookup. -/
theorem forall₂_detect (rule : Rule) :
    List.Forall₂ (Detection.Relined find find') (rule.detect find p) (rule.detect find' p) := by
  cases rule with
  | duplicateSelectors =>
    refine List.rel_filterMap (R := Eq) ?_ (List.forall₂_refl _)
    rintro ⟨earlier, later⟩ _ rfl
    dsimp only
    split
    · exact .some ⟨some _, rfl, rfl⟩
    · exact .none
  | rootDescription =>
    simp only [detect, detectRootDescription]
    cases p.root with
    | none => exact .nil
    | some root =>
      dsimp only
      split
      · exact .nil
      · exact .cons ⟨none, rfl, rfl⟩ .nil
  | author =>
    simp only [detect, detectAuthor]
    cases p.root with
    | none => exact .nil
    | some root =>
      dsimp only
      split
      · exact .cons ⟨some _, rfl, rfl⟩ .nil
      · exact .nil
  | methodDescriptions | shadowBoundaries => exact forall₂_map fun _ _ => ⟨some _, rfl, rfl⟩
  | rootSelectors | rootSelectorTypes | customSelectorTypes => exact .nil

theorem forall₂_detectRootTypes (owner other : PageObject) :
    List.Forall₂ (Detection.Relined find find') (detectRootTypes find owner other)
      (detectRootTypes find' owner other) :=
  forall₂_map fun _ _ => ⟨some _, rfl, rfl⟩

/-- What a rule sees in two page objects does not depend on the lookup. -/
theorem forall₂_detectBetween (rule : Rule) :
    List.Forall₂ (Detection.Relined find find') (rule.detectBetween find p q)
      (rule.detectBetween find' p q) := by
  cases rule with
  | rootSelectors =>
    simp only [detectBetween, detectRoots]
    cases p.rootLocator with
    | none => exact .nil
    | some locator =>
      dsimp only
      split
      · exact .cons ⟨some _, rfl, rfl⟩ .nil
      · exact .nil
  | rootSelectorTypes =>
    exact List.rel_append (forall₂_detectRootTypes p q) (forall₂_detectRootTypes q p)
  | customSelectorTypes =>
    exact forall₂_flatMap fun _ _ => forall₂_map fun _ _ => ⟨some _, rfl, rfl⟩
  | duplicateSelectors | rootDescription | author | methodDescriptions | shadowBoundaries =>
    exact .nil

end Rule

namespace Finding

/-- One finding under two lookups. It is the same in all but its line, and that is what either
lookup answers to one question about the page object that is reported, if there is a question. -/
def Relined (find find' : Lookup) (f f' : Finding) : Prop :=
  ∃ asked : Option (List String),
    f.line = find.answer f.pageObject asked ∧
      f' = { f with line := find'.answer f.pageObject asked }

variable {f f' : Finding} {fs fs' : List Finding}

theorem Relined.isError_eq (same : f.Relined find find' f') : f'.isError = f.isError := by
  obtain ⟨_, _, rfl⟩ := same
  rfl

theorem Relined.fullMessage_eq (same : f.Relined find find' f') :
    f'.fullMessage = f.fullMessage := by
  obtain ⟨_, _, rfl⟩ := same
  rfl

/-- A line is the first one or an answer about the page object that is reported. -/
theorem Relined.line_eq (same : f.Relined find find' f') :
    f.line = 1 ∨ ∃ fragments, f.line = find f.pageObject fragments := by
  obtain ⟨asked, line, -⟩ := same
  cases asked with
  | none => exact Or.inl line
  | some fragments => exact Or.inr ⟨fragments, line⟩

/-- The same findings are errors under either lookup. -/
theorem forall₂_filter_isError (same : List.Forall₂ (Relined find find') fs fs') :
    List.Forall₂ (Relined find find') (fs.filter (·.isError)) (fs'.filter (·.isError)) :=
  List.rel_filter (fun _ _ h => (Bool.eq_iff_iff.mp h.isError_eq).symm) same

/-- No line shows in the text of findings. -/
theorem joinMessages_eq_of_relined (same : List.Forall₂ (Relined find find') fs fs') :
    joinMessages fs' = joinMessages fs := by
  have texts : fs'.map fullMessage = fs.map fullMessage := by
    induction same with
    | nil => rfl
    | cons h _ ih => rw [List.map_cons, List.map_cons, h.fullMessage_eq, ih]
  rw [joinMessages, joinMessages, texts]

/-- No line counts in a summary. -/
theorem summary_eq_of_relined (same : List.Forall₂ (Relined find find') fs fs') (n : Nat) :
    Summary.of fs' n = Summary.of fs n := by
  have errors : fs'.countP (·.isError) = fs.countP (·.isError) := by
    rw [List.countP_eq_length_filter, List.countP_eq_length_filter]
    exact (forall₂_filter_isError same).length_eq.symm
  rw [Summary.of, Summary.of, errors, same.length_eq]

end Finding

namespace Config

variable (c : Config) (rule : Rule) (p q : PageObject)

theorem relined_finding {d d' : Rule.Detection} (same : d.Relined find find' d') :
    (c.finding rule d).Relined find find' (c.finding rule d') := by
  obtain ⟨asked, line, rfl⟩ := same
  exact ⟨asked, line, rfl⟩

theorem forall₂_map_finding {ds ds' : List Rule.Detection}
    (same : List.Forall₂ (Rule.Detection.Relined find find') ds ds') :
    List.Forall₂ (Finding.Relined find find') (ds.map (c.finding rule))
      (ds'.map (c.finding rule)) :=
  List.rel_map (fun _ _ h => relined_finding c rule h) same

theorem forall₂_findingsIn :
    List.Forall₂ (Finding.Relined find find') (c.findingsIn find rule p)
      (c.findingsIn find' rule p) := by
  unfold findingsIn
  split
  · exact .nil
  · exact forall₂_map_finding c rule (rule.forall₂_detect p)

theorem forall₂_findingsBetween :
    List.Forall₂ (Finding.Relined find find') (c.findingsBetween find rule p q)
      (c.findingsBetween find' rule p q) := by
  unfold findingsBetween
  split
  · exact .nil
  · exact forall₂_map_finding c rule (rule.forall₂_detectBetween p q)

/-- The findings in one page object under two lookups. -/
theorem forall₂_localFindings :
    List.Forall₂ (Finding.Relined find find') (c.localFindings find p)
      (c.localFindings find' p) :=
  forall₂_flatMap fun rule _ => forall₂_findingsIn c rule p

/-- The findings in every two of several page objects under two lookups. -/
theorem forall₂_globalFindings (ps : List PageObject) :
    List.Forall₂ (Finding.Relined find find') (c.globalFindings find ps)
      (c.globalFindings find' ps) :=
  forall₂_flatMap fun pq _ => forall₂_flatMap fun rule _ =>
    forall₂_findingsBetween c rule pq.1 pq.2

end Config

end PageLint
