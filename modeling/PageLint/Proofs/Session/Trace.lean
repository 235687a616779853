import Mathlib.Data.List.Induction
import Mathlib.Logic.Function.Basic
import PageLint.Proofs.Rule.Configured
import PageLint.Run

/-!
# The trace of a session

One linter serves any number of sessions, and calls on them may come in any order. A session is an
account of the calls made on it and of nothing else: its page objects are the linted ones, its
findings are what each call found at its time, and neither list ever loses or moves an entry. A
linter that is switched off keeps no account at all.

## Main definitions

* `Call` — a call on a session
* `Session.after` — what calls make of a fresh session
* `Sessions.run` — calls on several sessions, in the order in which they come

## Main results

* `after_eq` — the page objects and the findings that calls leave behind
* `extends_after` — what a session holds, it keeps
* `run_trace` — all of this, for one among several sessions
-/

namespace PageLint

/-- A call on a session. -/
inductive Call where
  | lint (p : PageObject)
  | finish
deriving DecidableEq, Repr

namespace Call

/-- The page objects that calls have linted, in the order of the calls. -/
def linted (calls : List Call) : List PageObject :=
  calls.filterMap fun
    | lint p => some p
    | finish => none

/-- What a call finds in a session that holds the given page objects. -/
def found (c : Config) (find : Lookup) (held : List PageObject) : Call → List Finding
  | lint p => c.localFindings find p
  | finish => c.globalFindings find held

theorem linted_append (calls more : List Call) :
    linted (calls ++ more) = linted calls ++ linted more := List.filterMap_append

end Call

namespace Session

variable (c : Config) (find : Lookup) (s : Session)

/-- Makes a call. A call that fails leaves a session behind like any other. -/
def call : Call → Logged Finished
  | .lint p => do return ⟨← s.lint c find p, none⟩
  | .finish => s.finish c find

/-- What calls make of a fresh session. -/
def after (calls : List Call) : Session :=
  calls.foldl (fun s k => (s.call c find k).value.session) empty

/-- Everything in one session is in the other, at the same place. -/
def Extends (s t : Session) : Prop :=
  s.pageObjects <+: t.pageObjects ∧ s.findings <+: t.findings

/-! ## One call -/

section Call

variable {c}

theorem lint_of_disabled (off : c.disable = true) (p : PageObject) :
    s.lint c find p = pure s := by
  simp [lint, off]

theorem value_lint (on : c.disable = false) (p : PageObject) :
    (s.lint c find p).value =
      ⟨s.pageObjects ++ [p], s.findings ++ c.localFindings find p⟩ := by
  simp [lint, on, RuleSet.findings_resolve]

theorem finish_of_disabled (off : c.disable = true) : s.finish c find = pure ⟨s, none⟩ := by
  simp [finish, off]

theorem session_finish (on : c.disable = false) :
    (s.finish c find).value.session =
      ⟨s.pageObjects, s.findings ++ c.globalFindings find s.pageObjects⟩ := by
  simp only [finish, on, RuleSet.findingsAmong_resolve]
  cases c.printToConsole <;> rfl

theorem failures_finish (on : c.disable = false) :
    (s.finish c find).value.failures =
      if c.throwOnError &&
          !(Finding.joinMessages (s.finish c find).value.session.errors).isEmpty then
        some (Finding.joinMessages (s.finish c find).value.session.errors)
      else none := by
  simp only [finish, on]
  cases c.printToConsole <;> rfl

/-- Errors fail a run when the configuration says so and there are any. -/
theorem isSome_failures_finish_iff (on : c.disable = false) :
    (s.finish c find).value.failures.isSome ↔
      c.throwOnError = true ∧
        ∃ f ∈ (s.finish c find).value.session.findings, f.severity = .error := by
  rw [failures_finish find s on]
  generalize (s.finish c find).value.session = t
  have silent : (Finding.joinMessages t.errors).isEmpty ↔ t.errors = [] :=
    String.isEmpty_iff.trans Finding.joinMessages_eq_empty_iff
  have grave : t.errors ≠ [] ↔ ∃ f ∈ t.findings, f.severity = .error := by
    simp [errors, Finding.isError]
  rw [← grave, Ne, ← silent]
  cases c.throwOnError <;> cases (Finding.joinMessages t.errors).isEmpty <;> simp

theorem call_of_disabled (off : c.disable = true) (k : Call) :
    s.call c find k = pure ⟨s, none⟩ := by
  cases k with
  | lint p => rw [call, lint_of_disabled find s off]; rfl
  | finish => exact finish_of_disabled find s off

/-- A call takes in what it lints and appends what it finds. -/
theorem session_call (on : c.disable = false) (k : Call) :
    (s.call c find k).value.session =
      ⟨s.pageObjects ++ Call.linted [k], s.findings ++ k.found c find s.pageObjects⟩ := by
  cases k with
  | lint p => exact value_lint find s on p
  | finish =>
    rw [call, session_finish find s on, Call.found]
    simp [Call.linted]

end Call

theorem Extends.refl : s.Extends s := ⟨List.prefix_rfl, List.prefix_rfl⟩

theorem Extends.trans {s t u : Session} (h : s.Extends t) (h' : t.Extends u) : s.Extends u :=
  ⟨h.1.trans h'.1, h.2.trans h'.2⟩

theorem extends_call (k : Call) : s.Extends (s.call c find k).value.session := by
  cases on : c.disable with
  | true =>
    rw [call_of_disabled find s on]
    exact .refl s
  | false =>
    rw [session_call find s on]
    exact ⟨List.prefix_append _ _, List.prefix_append _ _⟩

/-! ## Many calls -/

theorem after_append (calls more : List Call) :
    after c find (calls ++ more) =
      more.foldl (fun s k => (s.call c find k).value.session) (after c find calls) :=
  List.foldl_append

/-- What a session holds, it keeps. -/
theorem extends_after (calls more : List Call) :
    (after c find calls).Extends (after c find (calls ++ more)) := by
  rw [after_append]
  generalize after c find calls = s
  induction more generalizing s with
  | nil => exact .refl s
  | cons k more ih => exact (extends_call c find s k).trans (ih _)

theorem after_of_disabled {c} (off : c.disable = true) (calls : List Call) :
    after c find calls = empty := by
  induction calls with
  | nil => rfl
  | cons k calls ih =>
    rw [after, List.foldl_cons, call_of_disabled find empty off]
    exact ih

/-- Calls leave behind the page objects that they linted, and the findings that each of them made
among the page objects of its time. -/
theorem after_eq {c} (on : c.disable = false) (calls : List Call) :
    after c find calls =
      ⟨Call.linted calls,
        calls.zipIdx.flatMap fun kn => kn.1.found c find (Call.linted (calls.take kn.2))⟩ := by
  -- Calls are taken from the end, since a call is placed behind the ones before it, and what the
  -- session held at its time is settled by them alone.
  induction calls using List.reverseRecOn with
  | nil => rfl
  | append_singleton calls k ih =>
    have earlier :
        (calls.zipIdx.flatMap fun kn =>
            kn.1.found c find (Call.linted ((calls ++ [k]).take kn.2))) =
          calls.zipIdx.flatMap fun kn => kn.1.found c find (Call.linted (calls.take kn.2)) := by
      refine List.flatMap_congr fun kn listed => ?_
      have bound : kn.2 ≤ calls.length := by
        have := List.snd_lt_of_mem_zipIdx listed
        omega
      rw [List.take_append_of_le_length bound]
    rw [after_append, List.foldl_cons, List.foldl_nil, session_call find _ on, ih,
      Call.linted_append, List.zipIdx_append, List.flatMap_append, earlier]
    simp

/-- The summary counts the errors, all other findings and the page objects. -/
theorem summary_counts :
    s.summary.errors + s.summary.warnings = s.findings.length ∧
      s.summary.errors = (s.findings.filter (·.severity = .error)).length ∧
      s.summary.pageObjects = s.pageObjects.length := by
  have bound : s.findings.countP (·.isError) ≤ s.findings.length := List.countP_le_length
  refine ⟨?_, ?_, rfl⟩
  -- Warnings are what is left of the findings, so they need the bound.
  · simp only [summary, Summary.of]
    omega
  · rw [← List.countP_eq_length_filter]
    rfl

end Session

/-! ## Many sessions -/

/-- The sessions of one linter under their names, and the answers to all calls so far: the text of
the errors for a call that fails. -/
structure Sessions (ι : Type) where
  session : ι → Session
  answers : List (Option String)

/-- The calls on one among several sessions. -/
def Call.on {ι : Type} [DecidableEq ι] (i : ι) (calls : List (ι × Call)) : List Call :=
  (calls.filter (·.1 = i)).map (·.2)

namespace Sessions

variable {ι : Type} [DecidableEq ι] (c : Config) (find : Lookup)

/-- No call has been made on any session. -/
def fresh : Sessions ι := ⟨fun _ => .empty, []⟩

/-- Makes a call on one of the sessions. -/
def call (w : Sessions ι) (ik : ι × Call) : Logged (Sessions ι) := do
  let done ← (w.session ik.1).call c find ik.2
  return ⟨Function.update w.session ik.1 done.session, w.answers ++ [done.failures]⟩

/-- Makes calls in the order in which they come. -/
def run (w : Sessions ι) (calls : List (ι × Call)) : Logged (Sessions ι) :=
  calls.foldlM (fun w ik => w.call c find ik) w

/-- A session among others is what its own calls make of it. -/
theorem session_run (w : Sessions ι) (calls : List (ι × Call)) (i : ι) :
    (w.run c find calls).value.session i =
      (Call.on i calls).foldl (fun s k => (s.call c find k).value.session) (w.session i) := by
  induction calls generalizing w with
  | nil => rfl
  | cons jk calls ih =>
    refine (ih (w.call c find jk).value).trans ?_
    by_cases own : jk.1 = i
    · subst own
      simp [Call.on, call]
    -- A call on another session leaves this one as it is.
    · simp [Call.on, call, own, Function.update_of_ne (Ne.symm own)]

theorem call_of_disabled {c} (off : c.disable = true) (w : Sessions ι) (ik : ι × Call) :
    w.call c find ik = pure ⟨w.session, w.answers ++ [none]⟩ := by
  rw [call, Session.call_of_disabled find _ off]
  change pure (⟨Function.update w.session ik.1 (w.session ik.1), _⟩ : Sessions ι) = _
  rw [Function.update_eq_self]
  rfl

/-- A linter that is switched off touches no session, answers no call with errors and logs
nothing. -/
theorem run_of_disabled {c} (off : c.disable = true) (w : Sessions ι) (calls : List (ι × Call)) :
    w.run c find calls = pure ⟨w.session, w.answers ++ List.replicate calls.length none⟩ := by
  induction calls generalizing w with
  | nil => simp [run]
  | cons ik calls ih =>
    change w.call c find ik >>= (run c find · calls) = _
    rw [call_of_disabled find off]
    change run c find ⟨w.session, w.answers ++ [none]⟩ calls = _
    rw [ih, List.append_assoc, List.length_cons, List.replicate_succ]
    rfl

/-- Among any number of sessions of one linter, under calls in any order, a session is an account of
its own calls. It holds what they linted, and what each of them found at its time; it keeps that
whatever calls follow; its summary counts it. If the linter is switched off, there is no account, no
call fails, and nothing is logged or written. -/
theorem run_trace (calls more : List (ι × Call)) (i : ι) :
    let w := (fresh.run c find calls).value
    let s := w.session i
    let own := Call.on i calls
    s = Session.after c find own ∧
      (c.disable = false →
        s.pageObjects = Call.linted own ∧
        s.findings =
          own.zipIdx.flatMap fun kn => kn.1.found c find (Call.linted (own.take kn.2))) ∧
      s.Extends ((fresh.run c find (calls ++ more)).value.session i) ∧
      (s.summary.errors + s.summary.warnings = s.findings.length ∧
        s.summary.errors = (s.findings.filter (·.severity = .error)).length ∧
        s.summary.pageObjects = s.pageObjects.length) ∧
      (c.disable = true →
        s = .empty ∧
        w.answers = List.replicate calls.length none ∧
        (fresh.run c find calls).events = [] ∧
        ∀ root tree, s.writeReport c root tree = pure (tree, .ok none)) := by
  have account (calls : List (ι × Call)) :
      (fresh.run c find calls).value.session i = Session.after c find (Call.on i calls) :=
    session_run c find fresh calls i
  intro w s own
  have own_account : s = Session.after c find own := account calls
  refine ⟨own_account, fun on => ?_, ?_, s.summary_counts, fun off => ⟨?_, ?_, ?_, ?_⟩⟩
  · rw [own_account, Session.after_eq find on]
    exact ⟨rfl, rfl⟩
  · rw [own_account, account, Call.on, List.filter_append, List.map_append]
    exact Session.extends_after c find own _
  · rw [own_account, Session.after_of_disabled find off]
  · simp [w, run_of_disabled find off, fresh]
  · rw [run_of_disabled find off]
    rfl
  · intro root tree
    simp [Session.writeReport, off]

end Sessions

end PageLint
