import Mathlib.Data.Prod.Lex
import Mathlib.Order.Bounds.Basic
import PageLint.Proofs.Guardrail.Acceptance

/-!
# Which violation is reported

A graph is given up at the first violation that is met. Nodes are looked at by themselves before any
two of them are compared, so a selector that hangs on a visible text goes before all conflicts,
wherever the nodes stand. After that every two nodes at two different places are compared, one row
after the other. A pair is met in both orders, which matters: a root minds a reference that carries
its locator, and the reference does not mind the root.

Which violation is met first depends on the order of the nodes. Whether there is one does not, since
every pair is compared in both orders anyway.

## Main definitions

* `Guardrail.offenders` — the places of nodes that fail by themselves
* `Guardrail.clashes` — the pairs of places of nodes in conflict

## Main results

* `findSome?_eq_some_iff_first` — a search answers for the first place that has an answer
* `validate_eq_first` — the violation that is reported
-/

namespace PageLint.Guardrail

open PageLint.Graph (Node)

/-! ## The first place -/

/-- A search answers what the first item with an answer gives. -/
theorem findSome?_eq_some_iff_first {α β : Type} {f : α → Option β} {as : List α} {b : β} :
    as.findSome? f = some b ↔
      ∃ (i : Nat) (a : α), as[i]? = some a ∧ f a = some b ∧
        ∀ j < i, ∀ a', as[j]? = some a' → f a' = none := by
  rw [List.findSome?_eq_some_iff]
  constructor
  · intro split
    obtain ⟨before, a, behind, rfl, answer, silent⟩ := split
    refine ⟨before.length, a, by simp, answer, ?_⟩
    intro j earlier a' there
    rw [List.getElem?_append_left earlier] at there
    exact silent a' (List.mem_of_getElem? there)
  · intro place
    obtain ⟨i, a, there, answer, silent⟩ := place
    obtain ⟨inside, rfl⟩ := List.getElem?_eq_some_iff.mp there
    refine ⟨as.take i, as[i], as.drop (i + 1), ?_, answer, ?_⟩
    · rw [List.cons_getElem_drop_succ, List.take_append_drop]
    · intro a' listed
      obtain ⟨j, bound, rfl⟩ := List.mem_take_iff_getElem.mp listed
      exact silent j (by omega) _ (List.getElem?_eq_getElem _)

variable {nodes : List Node}

/-- The places of nodes that fail by themselves. -/
def offenders (nodes : List Node) : Set Nat :=
  {i | ∃ n, nodes[i]? = some n ∧ fixedText? n ≠ none}

/-- The pairs of different places with nodes in conflict, in lexicographic order. -/
def clashes (nodes : List Node) : Set (Nat ×ₗ Nat) :=
  {ij | ∃ i j a b, ij = toLex (i, j) ∧ i ≠ j ∧ nodes[i]? = some a ∧ nodes[j]? = some b ∧
    check a b ≠ .none}

/-- A node that fails by itself has a locator, and is reported with its value. -/
theorem exists_locator_of_fixedText? {n : Node} {v : Violation} (failed : fixedText? n = some v) :
    ∃ l, n.locator = some l ∧ v = .fixedText n.name l.value := by
  unfold fixedText? at failed
  split at failed
  · rename_i hangs
    cases has : n.locator with
    | none => simp [fixesText, has] at hangs
    | some l =>
      refine ⟨l, rfl, ?_⟩
      rw [has] at failed
      exact (Option.some.inj failed).symm
  · cases failed

/-- No node is reported if none fails by itself. -/
theorem findSome?_fixedText?_eq_none_iff :
    nodes.findSome? fixedText? = none ↔ offenders nodes = ∅ := by
  rw [List.findSome?_eq_none_iff, Set.eq_empty_iff_forall_notMem]
  constructor
  · rintro safe i ⟨n, there, failed⟩
    exact failed (safe n (List.mem_of_getElem? there))
  · intro none n listed
    obtain ⟨i, there⟩ := List.mem_iff_getElem?.mp listed
    by_contra failed
    exact none i ⟨n, there, failed⟩

/-- A node is reported if one fails by itself, and then it is the first that does. -/
theorem exists_isLeast_offenders {v : Violation} (found : nodes.findSome? fixedText? = some v) :
    ∃ i n l, IsLeast (offenders nodes) i ∧ nodes[i]? = some n ∧ n.locator = some l ∧
      v = .fixedText n.name l.value := by
  obtain ⟨i, n, there, failed, silent⟩ := findSome?_eq_some_iff_first.mp found
  obtain ⟨l, has, rfl⟩ := exists_locator_of_fixedText? failed
  refine ⟨i, n, l, ⟨⟨n, there, ?_⟩, ?_⟩, there, has, rfl⟩
  · rw [failed]
    exact Option.some_ne_none _
  · rintro j ⟨n', there', failed'⟩
    by_contra earlier
    exact failed' (silent j (Nat.not_le.mp earlier) n' there')

/-! ## The first conflict -/

/-- No two places clash if no two nodes are in conflict. A node is not in conflict with itself, so
whether the places differ need not be asked. -/
theorem clashes_eq_empty_iff :
    clashes nodes = ∅ ↔ ∀ a ∈ nodes, ∀ b ∈ nodes, check a b = .none := by
  rw [Set.eq_empty_iff_forall_notMem]
  constructor
  · intro none a listed b listed'
    obtain ⟨i, there⟩ := List.mem_iff_getElem?.mp listed
    obtain ⟨j, there'⟩ := List.mem_iff_getElem?.mp listed'
    by_contra conflict
    by_cases same : i = j
    · subst same
      obtain rfl : a = b := Option.some.inj (there.symm.trans there')
      exact conflict (check_self a)
    · exact none _ ⟨i, j, a, b, rfl, same, there, there', conflict⟩
  · rintro free _ ⟨i, j, a, b, -, -, there, there', conflict⟩
    exact conflict (free a (List.mem_of_getElem? there) b (List.mem_of_getElem? there'))

theorem getElem?_zipIdx_eq_some_iff {i : Nat} {x : Node × Nat} :
    nodes.zipIdx[i]? = some x ↔ nodes[i]? = some x.1 ∧ x.2 = i := by
  obtain ⟨n, j⟩ := x
  rw [List.getElem?_zipIdx, Option.map_eq_some_iff]
  simp [eq_comm]

/-- The violations of two nodes at different places. -/
def conflictAt? (first second : Node × Nat) : Option Violation :=
  if first.2 = second.2 then none else conflict? first.1 second.1

theorem conflictAt?_eq_some_iff {a b : Node} {i j : Nat} {v : Violation} :
    conflictAt? (a, i) (b, j) = some v ↔
      i ≠ j ∧ check a b ≠ .none ∧ .conflict (check a b) a.name b.name = v := by
  by_cases same : i = j
  · simp [conflictAt?, same]
  · simp [conflictAt?, conflict?, Verdict.isViolation, same]

/-- The search through all rows of pairs comes to the first pair in conflict. -/
theorem exists_isLeast_clashes {v : Violation}
    (found : (nodes.zipIdx.findSome? fun first =>
      nodes.zipIdx.findSome? fun second => conflictAt? first second) = some v) :
    ∃ i j a b, IsLeast (clashes nodes) (toLex (i, j)) ∧ nodes[i]? = some a ∧ nodes[j]? = some b ∧
      v = .conflict (check a b) a.name b.name := by
  obtain ⟨i, ⟨a, i'⟩, row, met, silentRows⟩ := findSome?_eq_some_iff_first.mp found
  obtain ⟨j, ⟨b, j'⟩, column, met, silent⟩ := findSome?_eq_some_iff_first.mp met
  obtain ⟨there, rfl⟩ := getElem?_zipIdx_eq_some_iff.mp row
  obtain ⟨there', rfl⟩ := getElem?_zipIdx_eq_some_iff.mp column
  obtain ⟨apart, conflict, rfl⟩ := conflictAt?_eq_some_iff.mp met
  refine ⟨i', j', a, b, ⟨⟨i', j', a, b, rfl, apart, there, there', conflict⟩, ?_⟩, there, there',
    rfl⟩
  rintro _ ⟨k, l, c, d, rfl, apart', first, second, conflict'⟩
  have met' : conflictAt? (c, k) (d, l) = some (.conflict (check c d) c.name d.name) :=
    conflictAt?_eq_some_iff.mpr ⟨apart', conflict', rfl⟩
  have placed : (d, l) ∈ nodes.zipIdx := List.mk_mem_zipIdx_iff_getElem?.mpr second
  by_contra before
  rcases Prod.Lex.toLex_lt_toLex.mp (not_le.mp before) with above | ⟨level, left⟩
  · -- A conflict further up would have ended the search in its row.
    have silentRow := silentRows k above (c, k) (getElem?_zipIdx_eq_some_iff.mpr ⟨first, rfl⟩)
    have nothing := List.findSome?_eq_none_iff.mp silentRow (d, l) placed
    rw [met'] at nothing
    cases nothing
  · -- One further to the left would have ended it in this row.
    subst level
    obtain rfl : c = a := Option.some.inj (first.symm.trans there)
    have nothing := silent l left (d, l) (getElem?_zipIdx_eq_some_iff.mpr ⟨second, rfl⟩)
    rw [met'] at nothing
    cases nothing

/-- The violation that is reported of a graph. The first node that fails by itself is reported, if
there is one; otherwise the first two nodes in conflict, row after row; otherwise nothing. Whether
something is reported does not depend on the order of the nodes. -/
theorem validate_eq_first (nodes : List Node) :
    ((offenders nodes).Nonempty →
        ∃ i n l, IsLeast (offenders nodes) i ∧ nodes[i]? = some n ∧ n.locator = some l ∧
          validate nodes = some (.fixedText n.name l.value)) ∧
      (offenders nodes = ∅ → (clashes nodes).Nonempty →
        ∃ i j a b, IsLeast (clashes nodes) (toLex (i, j)) ∧ nodes[i]? = some a ∧
          nodes[j]? = some b ∧ validate nodes = some (.conflict (check a b) a.name b.name)) ∧
      (offenders nodes = ∅ → clashes nodes = ∅ → validate nodes = none) ∧
      ∀ nodes', nodes.Perm nodes' → (validate nodes' = none ↔ validate nodes = none) := by
  have alone : nodes.findSome? fixedText? = none ↔ offenders nodes = ∅ :=
    findSome?_fixedText?_eq_none_iff
  -- Once no node fails by itself, only conflicts are left to be reported.
  have free (safe : offenders nodes = ∅) : validate nodes = none ↔ clashes nodes = ∅ := by
    rw [validate_eq_none_iff_check, ← clashes_eq_empty_iff]
    refine and_iff_right fun n listed => ?_
    exact fixedText?_eq_none_iff.mp (List.findSome?_eq_none_iff.mp (alone.mpr safe) n listed)
  refine ⟨?_, ?_, ?_, ?_⟩
  · intro failing
    cases found : nodes.findSome? fixedText? with
    | none => exact absurd (alone.mp found) failing.ne_empty
    | some v =>
      obtain ⟨i, n, l, least, there, has, rfl⟩ := exists_isLeast_offenders found
      refine ⟨i, n, l, least, there, has, ?_⟩
      rw [validate, found]
      rfl
  · intro safe clashing
    cases found : validate nodes with
    | none => exact absurd ((free safe).mp found) clashing.ne_empty
    | some v =>
      rw [validate, alone.mpr safe] at found
      obtain ⟨i, j, a, b, least, there, there', rfl⟩ := exists_isLeast_clashes found
      exact ⟨i, j, a, b, least, there, there', rfl⟩
  · intro safe clear
    exact (free safe).mpr clear
  · intro nodes' reordered
    simp only [validate_eq_none_iff_check, reordered.mem_iff]

/-- A button that is found by its label. -/
def saveButton : Node := ⟨"save", some ⟨.css, "input[value='Save']"⟩, "basic", .basic⟩

/-- The label goes before the conflict in front of it. Without the button the conflict is reported,
which only exists from the second node to the first. -/
theorem validate_eq_first_saveButton :
    (∃ i n l, IsLeast (offenders [wholePage, home, saveButton]) i ∧
        [wholePage, home, saveButton][i]? = some n ∧ n.locator = some l ∧
        validate [wholePage, home, saveButton] = some (.fixedText n.name l.value)) ∧
      validate [wholePage, home, saveButton] = some (.fixedText "save" "input[value='Save']") ∧
      (∃ i j a b, IsLeast (clashes [wholePage, home]) (toLex (i, j)) ∧
        [wholePage, home][i]? = some a ∧ [wholePage, home][j]? = some b ∧
        validate [wholePage, home] = some (.conflict (check a b) a.name b.name)) ∧
      validate [wholePage, home] = some (.conflict .duplicateOfRoot "root" "page") ∧
      (validate [home, wholePage] = none ↔ validate [wholePage, home] = none) ∧
      validate [home] = none := by
  have labelled : (offenders [wholePage, home, saveButton]).Nonempty :=
    ⟨2, saveButton, rfl, by decide⟩
  have safe : offenders [wholePage, home] = ∅ :=
    findSome?_fixedText?_eq_none_iff.mp (by decide)
  have clashing : (clashes [wholePage, home]).Nonempty :=
    ⟨toLex (1, 0), 1, 0, home, wholePage, rfl, by decide, rfl, rfl, by decide⟩
  have safe' : offenders [home] = ∅ := findSome?_fixedText?_eq_none_iff.mp (by decide)
  have clear : clashes [home] = ∅ := clashes_eq_empty_iff.mpr (by decide)
  obtain ⟨-, conflict, -, anyOrder⟩ := validate_eq_first [wholePage, home]
  exact ⟨(validate_eq_first [wholePage, home, saveButton]).1 labelled, by decide,
    conflict safe clashing, by decide, anyOrder _ (.swap _ _ _),
    (validate_eq_first [home]).2.2.1 safe' clear⟩

end PageLint.Guardrail
