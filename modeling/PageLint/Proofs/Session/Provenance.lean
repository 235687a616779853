import PageLint.Proofs.Rule.Lines
import PageLint.Proofs.Session.Trace

/-!
# Where findings come from

Each finding of a session goes back to one rule that is on and to page objects that the session
holds and the rule does not leave alone. It carries what the catalog and the configuration say of
the rule; it names one page object, and for a rule on two page objects another one at another place.
What it takes from the lookup is its line and nothing else, and that line was asked for in the source
of the page object that the finding names first. So another lookup moves lines, and changes neither
the findings nor what becomes of them.

## Main definitions

* `Config.Covers` — a rule looks at the page object at a place
* `Config.Origin` — the rule of a finding, and the place of the page object it names
* `Session.Relined`, `Sessions.Relined` — sessions under two lookups

## Main results

* `Session.attributed_after` — the findings of a session come from rules and page objects
* `relined_run` — the same calls under two lookups
* `run_provenance` — both, for one among several sessions
-/

namespace PageLint

namespace Config

variable (c : Config) (rule : Rule)

/-- At the place stands a page object with the path, and the rule does not leave it alone. -/
def Covers (ps : List PageObject) (place : Nat) (path : String) : Prop :=
  ∃ p, ps[place]? = some p ∧ p.path = path ∧ ¬ c.Excludes rule p

/-- The finding comes from the rule, and names the page object at the place. If the rule is one on
two page objects, and only then, the finding names another one as well, at another place. -/
structure Origin (ps : List PageObject) (place : Nat) (f : Finding) : Prop where
  enabled : c.Enables rule
  id : f.ruleId = rule.entry.id
  name : f.ruleName = rule.entry.name
  code : f.code = rule.entry.code
  severity : f.severity = c.severityOf rule
  owner : c.Covers rule ps place f.pageObject
  isGlobal : f.related.isSome = rule.isGlobal
  other : ∀ path, f.related = some path → ∃ place', place' ≠ place ∧ c.Covers rule ps place' path

variable {c rule} {find : Lookup} {ps qs : List PageObject} {f : Finding}

theorem Covers.mono {place : Nat} {path : String} (covered : c.Covers rule ps place path)
    (extended : ps <+: qs) : c.Covers rule qs place path := by
  obtain ⟨p, held, named, included⟩ := covered
  obtain ⟨more, rfl⟩ := extended
  have bound : place < ps.length := (List.getElem?_eq_some_iff.mp held).1
  exact ⟨p, by rw [List.getElem?_append_left bound, held], named, included⟩

/-- What a session takes in later does not change where its findings come from. -/
theorem Origin.mono {place : Nat} (origin : c.Origin rule ps place f) (extended : ps <+: qs) :
    c.Origin rule qs place f where
  enabled := origin.enabled
  id := origin.id
  name := origin.name
  code := origin.code
  severity := origin.severity
  owner := origin.owner.mono extended
  isGlobal := origin.isGlobal
  other path named := by
    obtain ⟨place', apart, covered⟩ := origin.other path named
    exact ⟨place', apart, covered.mono extended⟩

/-- A finding in one page object names its place. -/
theorem origin_of_mem_localFindings {p : PageObject} {place : Nat} (held : ps[place]? = some p)
    (found : f ∈ c.localFindings find p) : ∃ rule, c.Origin rule ps place f := by
  obtain ⟨owner, related⟩ := localFindings_attribution found
  obtain ⟨rule, listed, found⟩ := List.mem_flatMap.mp found
  obtain ⟨isLocal, on⟩ := (mem_enabledRules c rule).mp listed
  obtain ⟨included, d, -, rfl⟩ := mem_findingsIn.mp found
  refine ⟨rule, on, rfl, rfl, rfl, rfl, ⟨p, held, owner.symm, included⟩, ?_, fun path named => ?_⟩
  · rw [related, isLocal]
    rfl
  · rw [related] at named
    cases named

/-- A finding in two page objects names the place of one, and the other as well. -/
theorem origin_of_mem_pairFindings {p q : PageObject} {i j : Nat} (apart : i ≠ j)
    (first : ps[i]? = some p) (second : ps[j]? = some q)
    (found : f ∈ c.pairFindings find p q) : ∃ rule place, c.Origin rule ps place f := by
  have attribution := pairFindings_attribution found
  obtain ⟨rule, listed, found⟩ := List.mem_flatMap.mp found
  obtain ⟨isGlobal, on⟩ := (mem_enabledRules c rule).mp listed
  obtain ⟨⟨included, included'⟩, d, -, rfl⟩ := mem_findingsBetween.mp found
  -- Either of the two can be the one that is reported; the rule covers both.
  rcases attribution with ⟨owner, related⟩ | ⟨owner, related⟩
  · refine ⟨rule, i, on, rfl, rfl, rfl, rfl, ⟨p, first, owner.symm, included⟩, ?_, ?_⟩
    · rw [related, isGlobal]
      rfl
    · intro path named
      rw [related] at named
      exact ⟨j, apart.symm, q, second, Option.some.inj named, included'⟩
  · refine ⟨rule, j, on, rfl, rfl, rfl, rfl, ⟨q, second, owner.symm, included'⟩, ?_, ?_⟩
    · rw [related, isGlobal]
      rfl
    · intro path named
      rw [related] at named
      exact ⟨i, apart, p, first, Option.some.inj named, included⟩

theorem origin_of_mem_globalFindings (found : f ∈ c.globalFindings find ps) :
    ∃ rule place, c.Origin rule ps place f := by
  obtain ⟨pq, listed, found⟩ := List.mem_flatMap.mp found
  obtain ⟨⟨i, j⟩, ordered, rfl⟩ := List.mem_map.mp listed
  have before : i < j := of_decide_eq_true (List.mem_filter.mp ordered).2
  exact origin_of_mem_pairFindings (Nat.ne_of_lt before) (List.getElem?_eq_getElem i.isLt)
    (List.getElem?_eq_getElem j.isLt) found

end Config

namespace Session

variable (c : Config) {find find' : Lookup} {s s' : Session}

/-! ## Rules and page objects -/

/-- Every finding of the session comes from a rule and from page objects of the session. -/
def Attributed (s : Session) : Prop :=
  ∀ f ∈ s.findings, ∃ rule place, c.Origin rule s.pageObjects place f

theorem attributed_call (attributed : s.Attributed c) (k : Call) :
    (s.call c find k).value.session.Attributed c := by
  intro f made
  cases on : c.disable with
  | true =>
    rw [call_of_disabled find s on] at made ⊢
    exact attributed f made
  | false =>
    rw [session_call find s on] at made ⊢
    rcases List.mem_append.mp made with earlier | made
    · obtain ⟨rule, place, origin⟩ := attributed f earlier
      exact ⟨rule, place, origin.mono (List.prefix_append _ _)⟩
    · cases k with
      | lint p =>
        -- The page object is taken in behind all others.
        have held : (s.pageObjects ++ Call.linted [.lint p])[s.pageObjects.length]? = some p := by
          simp [Call.linted]
        obtain ⟨rule, origin⟩ := Config.origin_of_mem_localFindings held made
        exact ⟨rule, _, origin⟩
      | finish =>
        obtain ⟨rule, place, origin⟩ := Config.origin_of_mem_globalFindings made
        exact ⟨rule, place, origin.mono (List.prefix_append _ _)⟩

/-- Whatever calls are made on a session, its findings come from rules and from its page objects. -/
theorem attributed_after (calls : List Call) : (after c find calls).Attributed c := by
  have step (s : Session) (attributed : s.Attributed c) :
      (calls.foldl (fun s k => (s.call c find k).value.session) s).Attributed c := by
    induction calls generalizing s with
    | nil => exact attributed
    | cons k calls ih => exact ih _ (attributed_call c attributed k)
  exact step empty nofun

/-! ## Two lookups -/

/-- One session under two lookups: it holds the same page objects, and the same findings but for
their lines. -/
def Relined (find find' : Lookup) (s s' : Session) : Prop :=
  s'.pageObjects = s.pageObjects ∧
    List.Forall₂ (Finding.Relined find find') s.findings s'.findings

theorem Relined.summary_eq (same : s.Relined find find' s') : s'.summary = s.summary := by
  rw [summary, summary, same.1]
  exact Finding.summary_eq_of_relined same.2 _

theorem Relined.joinMessages_errors_eq (same : s.Relined find find' s') :
    Finding.joinMessages s'.errors = Finding.joinMessages s.errors :=
  Finding.joinMessages_eq_of_relined (Finding.forall₂_filter_isError same.2)

/-- A call finds the same under either lookup, but for lines. -/
theorem forall₂_found (k : Call) (held : List PageObject) :
    List.Forall₂ (Finding.Relined find find') (k.found c find held) (k.found c find' held) := by
  cases k with
  | lint p => exact Config.forall₂_localFindings c p
  | finish => exact Config.forall₂_globalFindings c held

theorem relined_call (same : s.Relined find find' s') (k : Call) :
    (s.call c find k).value.session.Relined find find' (s'.call c find' k).value.session := by
  cases on : c.disable with
  | true =>
    rw [call_of_disabled find s on, call_of_disabled find' s' on]
    exact same
  | false =>
    rw [session_call find s on, session_call find' s' on, same.1]
    exact ⟨rfl, List.rel_append same.2 (forall₂_found c k _)⟩

/-- A call fails with the same text under either lookup. -/
theorem failures_call_eq (same : s.Relined find find' s') (k : Call) :
    (s'.call c find' k).value.failures = (s.call c find k).value.failures := by
  cases on : c.disable with
  | true =>
    rw [call_of_disabled find s on, call_of_disabled find' s' on]
    rfl
  | false =>
    cases k with
    | lint p => rfl
    | finish =>
      have errors :
          Finding.joinMessages (s'.finish c find').value.session.errors =
            Finding.joinMessages (s.finish c find).value.session.errors :=
        (relined_call c same .finish).joinMessages_errors_eq
      rw [call, call, failures_finish find s on, failures_finish find' s' on, errors]

end Session

namespace Sessions

variable {ι : Type} [DecidableEq ι] (c : Config) {find find' : Lookup}

/-- The sessions of one linter under two lookups, with the same answers to all calls. -/
def Relined (find find' : Lookup) (w w' : Sessions ι) : Prop :=
  (∀ i, (w.session i).Relined find find' (w'.session i)) ∧ w'.answers = w.answers

omit [DecidableEq ι] in
theorem relined_fresh : (fresh : Sessions ι).Relined find find' fresh :=
  ⟨fun _ => ⟨rfl, .nil⟩, rfl⟩

theorem relined_call {w w' : Sessions ι} (same : w.Relined find find' w') (ik : ι × Call) :
    (w.call c find ik).value.Relined find find' (w'.call c find' ik).value := by
  obtain ⟨sessions, answers⟩ := same
  refine ⟨fun j => ?_, ?_⟩
  · by_cases own : j = ik.1
    · subst own
      simpa [call] using Session.relined_call c (sessions ik.1) ik.2
    · simpa [call, Function.update_of_ne own] using sessions j
  · simp [call, answers, Session.failures_call_eq c (sessions ik.1) ik.2]

/-- Calls that come in the same order make the same sessions under either lookup, but for lines. -/
theorem relined_run {w w' : Sessions ι} (same : w.Relined find find' w')
    (calls : List (ι × Call)) :
    (w.run c find calls).value.Relined find find' (w'.run c find' calls).value := by
  induction calls generalizing w w' with
  | nil => exact same
  | cons ik calls ih => exact ih (relined_call c same ik)

/-- Among any number of sessions of one linter, under calls in any order, each finding of a session
comes from a rule that is on, whose catalog entry and severity it carries, and names a page object
of the session that the rule does not leave alone; for a rule on two page objects, and only then, it
names a second one of that kind, at another place. Its line is the first one or was asked for in the
source of the page object that it names first. Under another lookup the session holds the same page
objects and the same findings in the same order, only with the other lookup's answers to the same
questions as their lines; it has the same summary, and all calls are answered alike. -/
theorem run_provenance (find find' : Lookup) (calls : List (ι × Call)) (i : ι) :
    let w := (fresh.run c find calls).value
    let w' := (fresh.run c find' calls).value
    let s := w.session i
    let s' := w'.session i
    (∀ f ∈ s.findings,
      (∃ rule place, c.Origin rule s.pageObjects place f) ∧
        (f.line = 1 ∨ ∃ fragments, f.line = find f.pageObject fragments)) ∧
      s'.pageObjects = s.pageObjects ∧
      List.Forall₂ (Finding.Relined find find') s.findings s'.findings ∧
      s'.summary = s.summary ∧ w'.answers = w.answers := by
  intro w w' s s'
  have account : s = Session.after c find (Call.on i calls) := session_run c find fresh calls i
  have start : (fresh : Sessions ι).Relined find find' fresh := relined_fresh
  obtain ⟨sessions, answers⟩ := relined_run c start calls
  have same : s.Relined find find' s' := sessions i
  refine ⟨fun f made => ⟨?_, ?_⟩, same.1, same.2, same.summary_eq, answers⟩
  · rw [account] at made ⊢
    exact Session.attributed_after c _ f made
  · have related := List.forall₂_iff_get.mp same.2
    obtain ⟨n, bound, rfl⟩ := List.getElem_of_mem made
    exact (related.2 n bound (related.1 ▸ bound)).line_eq

end Sessions

end PageLint
