import PageLint.Proofs.FileTree.Saving
import PageLint.Proofs.Rule.Lines
import PageLint.Proofs.Run

/-!
# Running again

A run reads the sources of its page objects and writes a report. Where the report is none of the
sources, writing it does not change what is read, and writing it once more does not change what was
written. So a run over the files that a run has left is that run again: it finds and logs the same
and ends in the same way, also where the report cannot be written.

## Main definitions

* `Lookup.AgreesOn` — two lookups answer alike about some page objects

## Main results

* `Session.batch_congr` — a batch depends on the answers about its own page objects
* `Session.writeReport_again` — writing a report again changes nothing
* `Run.of_again` — a run over what it has left
-/

namespace PageLint

variable {c : Config} {find find' : Lookup} {p q : PageObject} {ps : List PageObject}

/-- What goes on with a result depends on that result alone. -/
theorem Logged.bind_congr {α β : Type} {x : Logged α} {f g : α → Logged β}
    (same : f x.value = g x.value) : x >>= f = x >>= g := by
  change Logged.bind x f = Logged.bind x g
  rw [Logged.bind, Logged.bind, same]

/-! ## Answers about page objects -/

/-- Two lookups answer alike about the sources of some page objects. -/
def Lookup.AgreesOn (ps : List PageObject) (find find' : Lookup) : Prop :=
  ∀ p ∈ ps, ∀ fragments, find' p.path fragments = find p.path fragments

/-- Findings are the same under two lookups that answer alike about what they report. -/
theorem Finding.eq_of_forall₂_relined {fs fs' : List Finding}
    (same : List.Forall₂ (Relined find find') fs fs')
    (agree : ∀ f ∈ fs, ∀ fragments, find' f.pageObject fragments = find f.pageObject fragments) :
    fs' = fs := by
  induction same with
  | nil => rfl
  | @cons f f' fs fs' relined _ ih =>
    have others : fs' = fs := ih fun f listed => agree f (List.mem_cons_of_mem _ listed)
    obtain ⟨asked, line, rfl⟩ := relined
    have answer : find'.answer f.pageObject asked = f.line := by
      rw [line]
      cases asked with
      | none => rfl
      | some fragments => exact agree f List.mem_cons_self fragments
    rw [others, answer]

namespace Config

theorem localFindings_congr (agree : Lookup.AgreesOn ps find find') (listed : p ∈ ps) :
    c.localFindings find' p = c.localFindings find p := by
  refine Finding.eq_of_forall₂_relined (forall₂_localFindings c p) fun f found fragments => ?_
  rw [(localFindings_attribution found).1]
  exact agree p listed fragments

theorem globalFindings_congr (agree : Lookup.AgreesOn ps find find') :
    c.globalFindings find' ps = c.globalFindings find ps := by
  refine Finding.eq_of_forall₂_relined (forall₂_globalFindings c ps) fun f found fragments => ?_
  obtain ⟨pq, paired, found⟩ := List.mem_flatMap.mp found
  obtain ⟨ij, -, rfl⟩ := List.mem_map.mp paired
  rcases pairFindings_attribution found with ⟨owner, -⟩ | ⟨owner, -⟩
  · rw [owner]
    exact agree _ (List.getElem_mem _) fragments
  · rw [owner]
    exact agree _ (List.getElem_mem _) fragments

end Config

namespace Session

theorem lint_congr (agree : Lookup.AgreesOn ps find find') (listed : p ∈ ps) (s : Session) :
    s.lint c find' p = s.lint c find p := by
  rw [lint, lint, RuleSet.findings_resolve, RuleSet.findings_resolve,
    Config.localFindings_congr agree listed]

theorem lintAll_congr (agree : Lookup.AgreesOn ps find find') (s : Session) :
    s.lintAll c find' ps = s.lintAll c find ps := by
  induction ps generalizing s with
  | nil => rfl
  | cons p ps ih =>
    have others (s : Session) := ih (fun q listed => agree q (List.mem_cons_of_mem p listed)) s
    have own := lint_congr agree (c := c) List.mem_cons_self
    simp only [lintAll] at others
    simp only [lintAll, List.foldlM_cons, own, others]

theorem finish_congr {s : Session} (agree : Lookup.AgreesOn s.pageObjects find find') :
    s.finish c find' = s.finish c find := by
  rw [finish, finish, RuleSet.findingsAmong_resolve, RuleSet.findingsAmong_resolve,
    Config.globalFindings_congr agree]

/-- A batch depends on the answers about its own page objects. -/
theorem batch_congr (agree : Lookup.AgreesOn ps find find') :
    batch c find' ps = batch c find ps := by
  rw [batch, batch, lintAll_congr agree]
  apply Logged.bind_congr
  cases on : c.disable with
  | true => rw [finish_of_disabled _ _ on, finish_of_disabled _ _ on]
  | false =>
    -- The session has the page objects of the batch when it ends.
    apply finish_congr
    rw [value_lintAll find on]
    exact agree

/-! ## The report again -/

variable {s : Session} {root : Option Path} {tree : FileTree}

/-- Writing a report again changes nothing. -/
theorem writeReport_again :
    s.writeReport c root (s.writeReport c root tree).value.1 = s.writeReport c root tree := by
  by_cases on : c.disable = false ∧ c.writeReport = true
  · have asked : ¬ (c.disable || !c.writeReport) = true := by simp [on]
    cases saved : tree.save (c.reportTarget root) (Report.text c root s.findings) with
    | mk tree' written =>
      rw [value_writeReport_of_on on saved]
      rw [writeReport, writeReport, if_neg asked, if_neg asked]
      dsimp only
      rw [saved, FileTree.save_again saved]
  · rw [value_writeReport_of_off on]

/-- Writing a report touches no other file. -/
theorem agreesBut_writeReport (s : Session) (root : Option Path) (tree : FileTree) :
    FileTree.AgreesBut (tree.destination (c.reportTarget root)) tree
      (s.writeReport c root tree).value.1 := by
  by_cases on : c.disable = false ∧ c.writeReport = true
  · have touched :=
      tree.agreesBut_save (c.reportTarget root) (Report.text c root s.findings)
    cases saved : tree.save (c.reportTarget root) (Report.text c root s.findings) with
    | mk tree' written =>
      rw [saved] at touched
      rw [value_writeReport_of_on on saved]
      exact touched
  · rw [value_writeReport_of_off on]
    exact .refl _ tree

end Session

/-! ## The run again -/

/-- Trees with the same files have the same lines along paths that never go up. -/
theorem FileTree.AgreesBut.find_agreesOn {names : List String} {tree tree' : FileTree} {base : Path}
    (same : AgreesBut names tree tree')
    (straight : base.IsStraight ∧ ∀ p ∈ ps, (Path.mk p.path).IsStraight)
    (apart : ∀ p ∈ ps, tree.destination (base.join ⟨p.path⟩) ≠ names) :
    Lookup.AgreesOn ps (LineSource.find tree (.below base))
      (LineSource.find tree' (.below base)) := by
  intro p listed fragments
  have read (text : String) :
      tree'.read (base.join ⟨p.path⟩) = .ok text ↔ tree.read (base.join ⟨p.path⟩) = .ok text :=
    same.read_eq_ok_iff (straight.1.join (straight.2 p listed)) (apart p listed)
  rw [LineSource.find, LineSource.find]
  cases before : tree.read (base.join ⟨p.path⟩) with
  | ok text => rw [(read text).mpr before]
  | error cause =>
    -- Causes may differ, but a source that cannot be read has the first line in any case.
    cases after : tree'.read (base.join ⟨p.path⟩) with
    | ok text =>
      rw [(read text).mp after] at before
      cases before
    | error cause' => rfl

namespace Run

variable {root : Option Path} {tree : FileTree} {lines : LineSource}

/-- A run touches no file but its report. -/
theorem agreesBut_of :
    FileTree.AgreesBut (tree.destination (c.reportTarget root)) tree
      (Run.of c lines root ps tree).value.tree := by
  cases failures : (Session.batch c (lines.find tree) ps).value.failures with
  | some text =>
    rw [of_eq_of_failures failures root]
    exact .refl _ tree
  | none =>
    rw [of_eq_of_passed failures root]
    exact Session.agreesBut_writeReport _ root tree

/-- A run over what it has left is that run again, if it finds the same there. -/
theorem of_eq_of_batch_eq {tree' : FileTree}
    (left : (Run.of c lines root ps tree).value.tree = tree')
    (same : Session.batch c (lines.find tree') ps = Session.batch c (lines.find tree) ps) :
    Run.of c lines root ps tree' = Run.of c lines root ps tree := by
  cases failures : (Session.batch c (lines.find tree) ps).value.failures with
  | some text =>
    -- Nothing was written.
    rw [of_eq_of_failures failures root] at left
    obtain rfl : tree = tree' := left
    rfl
  | none =>
    have passed : (Session.batch c (lines.find tree') ps).value.failures = none := by
      rw [same]
      exact failures
    -- The second report is written over the first one, with the same text.
    rw [of_eq_of_passed failures root] at left
    dsimp only at left
    rw [of_eq_of_passed passed root, of_eq_of_passed failures root, same, ← left,
      Session.writeReport_again]

/-- The report that a run has written is read back. -/
theorem Ends.read_of_outcome {finished : Session.Finished} {r : Run} {path : Path}
    (ends : Ends c root tree finished r) (written : r.outcome = .ok (some path)) :
    r.tree.read path = .ok (Report.text c root r.session.findings) := by
  cases ends with
  | failed | silent | unwritten => cases written
  | reported _ _ saved =>
    obtain rfl := Option.some.inj (Except.ok.inj written)
    exact FileTree.read_of_save saved

/-- A run over what it has left is that run again, if its report is none of its sources and these
lie along paths that never go up. Each report is read back with the text of what was found. -/
theorem of_again (c : Config) (root : Option Path) (base : Path) (ps : List PageObject)
    (tree : FileTree) (straight : base.IsStraight ∧ ∀ p ∈ ps, (Path.mk p.path).IsStraight)
    (apart : ∀ p ∈ ps,
      tree.destination (base.join ⟨p.path⟩) ≠ tree.destination (c.reportTarget root)) :
    let first := Run.of c (.below base) root ps tree
    let second := Run.of c (.below base) root ps first.value.tree
    second = first ∧
      ∀ path, second.value.outcome = .ok (some path) →
        second.value.tree.read path = .ok (Report.text c root first.value.session.findings) := by
  intro first second
  have same : second = first :=
    of_eq_of_batch_eq rfl (Session.batch_congr (agreesBut_of.find_agreesOn straight apart))
  refine ⟨same, fun path written => ?_⟩
  rw [same] at written ⊢
  exact (ends_of c (.below base) root ps tree).read_of_outcome written

/-- The source of the sign-in page, below a directory. -/
def signInSource : FileTree :=
  ⟨[("pages", .dir [("sign-in.json", .file (some "name: signIn\nlocator: .submit\n"))])], []⟩

/-- The report goes into a directory that is not there yet. -/
def nested : Config := { Config.default with reportPath := "out/reports/polint.sarif" }

/-- The first run makes the directories and writes the report, and the second one leaves both as
they are. -/
theorem of_again_signIn :
    ((Path.mk "/").IsStraight ∧ ∀ p ∈ [Session.signIn], (Path.mk p.path).IsStraight) ∧
      (∀ p ∈ [Session.signIn],
        signInSource.destination (Path.join ⟨"/"⟩ ⟨p.path⟩) ≠
          signInSource.destination (nested.reportTarget (some ⟨"/"⟩))) ∧
      let first := Run.of nested (.below ⟨"/"⟩) (some ⟨"/"⟩) [Session.signIn] signInSource
      first.value.outcome = .ok (some ⟨"/out/reports/polint.sarif"⟩) ∧
        Run.of nested (.below ⟨"/"⟩) (some ⟨"/"⟩) [Session.signIn] first.value.tree = first := by
  have straight :
      (Path.mk "/").IsStraight ∧ ∀ p ∈ [Session.signIn], (Path.mk p.path).IsStraight := by decide
  have apart : ∀ p ∈ [Session.signIn],
      signInSource.destination (Path.join ⟨"/"⟩ ⟨p.path⟩) ≠
        signInSource.destination (nested.reportTarget (some ⟨"/"⟩)) := by decide
  exact ⟨straight, apart, rfl, (of_again nested _ _ _ _ straight apart).1⟩

end Run

end PageLint
