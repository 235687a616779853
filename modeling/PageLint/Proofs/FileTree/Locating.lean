import PageLint.FileTree
import PageLint.Proofs.Computation
import PageLint.Proofs.Path

/-!
# Places in a file tree

A path is walked piece by piece, and each step goes from a directory to a place that the tree has.
The names on the way are settled by the pieces alone; the tree only decides whether the way is open.
So a tree that keeps all places of another one keeps the ways there as well.

## Main definitions

* `FileTree.Holds` — a place is one of the tree
* `FileTree.onward` — the names that a piece of a path leads to
* `FileTree.Keeps` — a tree has all places of another one

## Main results

* `step_eq_ok_iff` — one step of a path
* `holds_of_locate` — what is found at the end of a path is in the tree
* `eq_of_locate_of_parts_eq` — paths with the same parts do not lead to different places
* `locate_ofNames_eq_ok_iff` — a path that is made of names leads to them
* `Keeps.locate` — a tree that keeps all places keeps the ways to them
-/

namespace PageLint.FileTree

namespace Node

variable (n : Node)

theorem descend_append (names more : List String) :
    n.descend (names ++ more) = (n.descend names).bind (·.descend more) := by
  induction names generalizing n with
  | nil => rfl
  | cons name names ih =>
    rw [List.cons_append, descend, descend]
    cases n.child? name with
    | none => rfl
    | some inner => exact ih inner

theorem descend_concat (names : List String) (name : String) :
    n.descend (names ++ [name]) = (n.descend names).bind (·.child? name) := by
  rw [descend_append]
  simp [descend]

/-- Only directories have entries. -/
theorem isDir_of_child? {inner : Node} {name : String} (found : n.child? name = some inner) :
    n.isDir = true := by
  cases n with
  | file text => cases found
  | dir entries => rfl

end Node

variable {t t' : FileTree} {here here' place : Place}

/-- The place is one of the tree. -/
def Holds (t : FileTree) (place : Place) : Prop := t.at? place.names = some place.node

/-- The names that a piece of a path leads to. -/
def onward (names : List String) (piece : String) : List String :=
  if piece = "" ∨ piece = "." then names
  else if piece = ".." then names.dropLast
  else names ++ [piece]

theorem at?_concat (t : FileTree) (names : List String) (name : String) :
    t.at? (names ++ [name]) = (t.at? names).bind (·.child? name) :=
  Node.descend_concat _ names name

/-- What lies at the end of some names is told by the tree, so names tell places apart. -/
theorem Holds.eq_of_names (held : t.Holds here) (held' : t.Holds place)
    (same : place.names = here.names) : place = here := by
  obtain ⟨names, node⟩ := here
  obtain ⟨names', node'⟩ := place
  dsimp only at same
  subst same
  have same : node' = node := Option.some.inj (held'.symm.trans held)
  rw [same]

/-- Above a place is a place. -/
theorem isSome_at?_dropLast {names : List String} (there : (t.at? names).isSome) :
    (t.at? names.dropLast).isSome := by
  rcases List.eq_nil_or_concat names with rfl | ⟨above, name, rfl⟩
  · exact there
  · rw [List.concat_eq_append] at there ⊢
    rw [List.dropLast_concat]
    rw [at?_concat] at there
    exact Option.isSome_of_isSome_bind there

/-! ## One step -/

/-- A step goes from a directory to the place of the tree that the piece leads to. -/
theorem step_eq_ok_iff (held : t.Holds here) {piece : String} :
    t.step here piece = .ok place ↔
      here.node.isDir = true ∧ place.names = onward here.names piece ∧ t.Holds place := by
  cases isDir : here.node.isDir with
  | false => simp [step, isDir]
  | true =>
    simp only [step, isDir, Bool.not_true, Bool.false_eq_true, if_false, true_and]
    by_cases stays : piece = "" ∨ piece = "."
    · rw [if_pos stays, onward, if_pos stays]
      constructor
      · rintro ⟨⟩
        exact ⟨rfl, held⟩
      · rintro ⟨same, held'⟩
        rw [held.eq_of_names held' same]
    · rw [if_neg stays, onward, if_neg stays]
      by_cases up : piece = ".."
      · rw [if_pos up, if_pos up]
        have there : (t.at? here.names.dropLast).isSome :=
          isSome_at?_dropLast (Option.isSome_of_eq_some held)
        obtain ⟨node, found⟩ := Option.isSome_iff_exists.mp there
        rw [found]
        constructor
        · rintro ⟨⟩
          exact ⟨rfl, found⟩
        · rintro ⟨same, held'⟩
          have next : t.Holds ⟨here.names.dropLast, node⟩ := found
          rw [next.eq_of_names held' same]
      · rw [if_neg up, if_neg up]
        have child : here.node.child? piece = t.at? (here.names ++ [piece]) := by
          rw [at?_concat, held, Option.bind_some]
        rw [child]
        cases found : t.at? (here.names ++ [piece]) with
        | none =>
          simp only [reduceCtorEq, false_iff]
          rintro ⟨same, held'⟩
          rw [Holds, same, found] at held'
          cases held'
        | some node =>
          constructor
          · rintro ⟨⟩
            exact ⟨rfl, found⟩
          · rintro ⟨same, held'⟩
            have next : t.Holds ⟨here.names ++ [piece], node⟩ := found
            rw [next.eq_of_names held' same]

/-! ## Whole paths -/

theorem holds_of_foldlM {pieces : List String} (held : t.Holds here)
    (walked : pieces.foldlM t.step here = .ok place) : t.Holds place := by
  induction pieces generalizing here with
  | nil =>
    cases walked
    exact held
  | cons piece pieces ih =>
    rw [List.foldlM_cons] at walked
    obtain ⟨next, stepped, walked⟩ := bind_eq_ok_iff.mp walked
    exact ih ((step_eq_ok_iff held).mp stepped).2.2 walked

/-- A way is gone in two parts. -/
theorem foldlM_append_eq_ok_iff {pieces more : List String} :
    (pieces ++ more).foldlM t.step here = .ok place ↔
      ∃ next, pieces.foldlM t.step here = .ok next ∧ more.foldlM t.step next = .ok place := by
  rw [List.foldlM_append, bind_eq_ok_iff]

/-- A way with a last piece leads to a place, and then one step further. -/
theorem foldlM_concat_eq_ok_iff {pieces : List String} {piece : String} :
    (pieces ++ [piece]).foldlM t.step here = .ok place ↔
      ∃ above, pieces.foldlM t.step here = .ok above ∧ t.step above piece = .ok place := by
  rw [foldlM_append_eq_ok_iff]
  refine exists_congr fun above => and_congr_right fun _ => ?_
  rw [List.foldlM_cons, bind_eq_ok_iff]
  simp [pure, Except.pure]

theorem startOf_eq_ok_iff {p : Path} :
    t.startOf p = .ok here ↔
      here.names = (if p.isAbsolute then [] else t.cwd) ∧ t.Holds here := by
  unfold startOf Holds
  dsimp only
  generalize (if p.isAbsolute then [] else t.cwd) = names
  obtain ⟨names', node'⟩ := here
  cases found : t.at? names with
  | none => grind
  | some node => grind

theorem locate_eq_ok_iff {p : Path} :
    t.locate p = .ok place ↔
      p.text.isEmpty = false ∧
        ∃ here, t.startOf p = .ok here ∧ p.pieces.foldlM t.step here = .ok place := by
  unfold locate
  cases p.text.isEmpty with
  | true => simp [bind, Except.bind]
  | false =>
    simp only [Bool.false_eq_true, if_false, true_and]
    exact bind_eq_ok_iff

/-- What is found at the end of a path is in the tree. -/
theorem holds_of_locate {p : Path} (found : t.locate p = .ok place) : t.Holds place := by
  obtain ⟨-, here, started, walked⟩ := locate_eq_ok_iff.mp found
  exact holds_of_foldlM (startOf_eq_ok_iff.mp started).2 walked

/-- The names at the end of a path are settled by its pieces. -/
theorem names_of_foldlM {pieces : List String} (held : t.Holds here)
    (walked : pieces.foldlM t.step here = .ok place) :
    place.names = pieces.foldl onward here.names := by
  induction pieces generalizing here with
  | nil =>
    cases walked
    rfl
  | cons piece pieces ih =>
    rw [List.foldlM_cons] at walked
    obtain ⟨next, stepped, walked⟩ := bind_eq_ok_iff.mp walked
    obtain ⟨-, names, held'⟩ := (step_eq_ok_iff held).mp stepped
    rw [ih held' walked, names, List.foldl_cons]

/-- Pieces that are no parts do not change the names. -/
theorem foldl_onward_eq (names : List String) (pieces : List String) :
    pieces.foldl onward names =
      (pieces.filterMap Path.Part.ofPiece?).foldl (fun names a => onward names a.text) names := by
  induction pieces generalizing names with
  | nil => rfl
  | cons piece pieces ih =>
    rw [List.foldl_cons, ih, List.filterMap_cons]
    by_cases stays : piece = "" ∨ piece = "."
    · rw [Path.Part.ofPiece?, if_pos stays, onward, if_pos stays]
    · rw [Path.Part.ofPiece?, if_neg stays]
      by_cases up : piece = ".."
      · subst up
        rfl
      · rw [if_neg up]
        rfl

/-- Paths with the same parts do not lead to different places. -/
theorem eq_of_locate_of_parts_eq {p q : Path} {other : Place} (same : p.parts = q.parts)
    (found : t.locate p = .ok place) (found' : t.locate q = .ok other) : place = other := by
  obtain ⟨absolute, onward⟩ := Path.eq_of_parts_eq same
  obtain ⟨-, here, started, walked⟩ := locate_eq_ok_iff.mp found
  obtain ⟨-, here', started', walked'⟩ := locate_eq_ok_iff.mp found'
  obtain ⟨names, held⟩ := startOf_eq_ok_iff.mp started
  obtain ⟨names', held'⟩ := startOf_eq_ok_iff.mp started'
  refine (holds_of_locate found').eq_of_names (holds_of_locate found) ?_
  rw [names_of_foldlM held walked, names_of_foldlM held' walked', foldl_onward_eq,
    foldl_onward_eq, names, names', absolute, onward]

/-! ## Names -/

theorem onward_of_isName {name : String} (proper : Path.IsName name) (names : List String) :
    onward names name = names ++ [name] := by
  rw [onward, if_neg (not_or.mpr ⟨proper.1, proper.2.1⟩), if_neg proper.2.2.1]

/-- A piece leads on under a name, if it does not lead back. -/
theorem isName_of_mem_onward {names : List String} {piece name : String}
    (proper : ∀ s ∈ names, Path.IsName s) (plain : '/' ∉ piece.toList)
    (listed : name ∈ onward names piece) : Path.IsName name := by
  unfold onward at listed
  split at listed
  · exact proper name listed
  · rename_i moves
    split at listed
    · exact proper name (List.mem_of_mem_dropLast listed)
    · rename_i down
      rcases List.mem_append.mp listed with listed | own
      · exact proper name listed
      · rw [List.mem_singleton.mp own]
        exact ⟨fun h => moves (Or.inl h), fun h => moves (Or.inr h), down, plain⟩

theorem isName_of_mem_foldl {names pieces : List String} (proper : ∀ s ∈ names, Path.IsName s)
    (plain : ∀ piece ∈ pieces, '/' ∉ piece.toList) :
    ∀ s ∈ pieces.foldl onward names, Path.IsName s := by
  induction pieces generalizing names with
  | nil => exact proper
  | cons piece pieces ih =>
    have own := plain piece List.mem_cons_self
    have others := fun s listed => plain s (List.mem_cons_of_mem piece listed)
    exact ih (fun s listed => isName_of_mem_onward proper own listed) others

/-- Where paths lead, names are proper, if they are so on the way to the working directory. -/
theorem isName_of_locate {p : Path} (proper : ∀ s ∈ t.cwd, Path.IsName s)
    (found : t.locate p = .ok place) : ∀ s ∈ place.names, Path.IsName s := by
  obtain ⟨-, here, started, walked⟩ := locate_eq_ok_iff.mp found
  obtain ⟨names, held⟩ := startOf_eq_ok_iff.mp started
  have start : ∀ s ∈ here.names, Path.IsName s := by
    rw [names]
    split
    · exact nofun
    · exact proper
  rw [names_of_foldlM held walked]
  exact isName_of_mem_foldl start fun piece listed => Path.not_mem_of_mem_pieces listed

/-- Names lead from a directory to the place they name. -/
theorem foldlM_names_eq_ok_iff {names : List String} (proper : ∀ s ∈ names, Path.IsName s)
    (held : t.Holds here) :
    names.foldlM t.step here = .ok place ↔
      place.names = here.names ++ names ∧ t.Holds place := by
  induction names generalizing here with
  | nil =>
    rw [List.foldlM_nil, List.append_nil]
    constructor
    · rintro ⟨⟩
      exact ⟨rfl, held⟩
    · rintro ⟨same, held'⟩
      rw [held.eq_of_names held' same]
      rfl
  | cons name names ih =>
    have own := proper name List.mem_cons_self
    have others := fun s listed => proper s (List.mem_cons_of_mem name listed)
    rw [List.foldlM_cons, bind_eq_ok_iff]
    constructor
    · rintro ⟨next, stepped, walked⟩
      obtain ⟨-, first, held'⟩ := (step_eq_ok_iff held).mp stepped
      obtain ⟨rest, arrived⟩ := (ih others held').mp walked
      rw [rest, first, onward_of_isName own, List.append_assoc, List.singleton_append]
      exact ⟨rfl, arrived⟩
    · rintro ⟨same, arrived⟩
      -- The tree has a place for all names, and so one for the first of them.
      have way : (t.at? (here.names ++ [name] ++ names)).isSome := by
        rw [List.append_assoc, List.singleton_append, ← same]
        exact Option.isSome_of_eq_some arrived
      rw [at?, Node.descend_append] at way
      obtain ⟨node, found⟩ := Option.isSome_iff_exists.mp (Option.isSome_of_isSome_bind way)
      have isDir : here.node.isDir = true := by
        have child := at?_concat t here.names name
        rw [held, at?, found] at child
        exact Node.isDir_of_child? _ child.symm
      have stepped : t.step here name = .ok ⟨here.names ++ [name], node⟩ :=
        (step_eq_ok_iff held).mpr ⟨isDir, (onward_of_isName own _).symm, found⟩
      have next : t.Holds ⟨here.names ++ [name], node⟩ := found
      refine ⟨_, stepped, (ih others next).mpr ⟨?_, arrived⟩⟩
      rw [same, List.append_assoc, List.singleton_append]

/-- The place above all others. -/
def top (t : FileTree) : Place := ⟨[], .dir t.root⟩

theorem step_top_empty (t : FileTree) : t.step t.top "" = .ok t.top := rfl

theorem startOf_ofNames (names : List String) : t.startOf (.ofNames names) = .ok t.top := by
  refine startOf_eq_ok_iff.mpr ⟨?_, rfl⟩
  have absolute : (Path.ofNames names).isAbsolute = true := by simp [Path.ofNames, Path.isAbsolute]
  rw [if_pos absolute]
  rfl

/-- A path that is made of names leads to the place they name, if the tree has one. -/
theorem locate_ofNames_eq_ok_iff {names : List String} (proper : ∀ s ∈ names, Path.IsName s) :
    t.locate (.ofNames names) = .ok place ↔ place.names = names ∧ t.Holds place := by
  have written : (Path.ofNames names).text.isEmpty = false := by simp [Path.ofNames]
  -- The text begins with a slash, so there is an empty piece in front of the names.
  have walk : (Path.ofNames names).pieces.foldlM t.step t.top = names.foldlM t.step t.top := by
    by_cases none : names = []
    · subst none
      rw [Path.pieces_ofNames_nil]
      rfl
    · rw [Path.pieces_ofNames none proper, List.foldlM_cons, step_top_empty]
      rfl
  rw [locate_eq_ok_iff, written, startOf_ofNames]
  simp only [true_and, Except.ok.injEq, exists_eq_left', walk]
  exact foldlM_names_eq_ok_iff proper rfl

theorem hasPath_ofNames {names : List String} (proper : ∀ s ∈ names, Path.IsName s) :
    t.hasPath (.ofNames names) = (t.at? names).isSome := by
  have there (place : Place) :
      t.locate (.ofNames names) = .ok place ↔ place.names = names ∧ t.Holds place :=
    locate_ofNames_eq_ok_iff proper
  rw [hasPath]
  cases found : t.at? names with
  | some node =>
    rw [(there ⟨names, node⟩).mpr ⟨rfl, found⟩]
    rfl
  | none =>
    cases located : t.locate (.ofNames names) with
    | error cause => rfl
    | ok place =>
      obtain ⟨same, held⟩ := (there place).mp located
      rw [Holds, same, found] at held
      cases held

theorem canonical_of_locate {p : Path} (found : t.locate p = .ok place) :
    t.canonical p = .ok (.ofNames place.names) := by
  rw [canonical, found]
  rfl

/-! ## Trees that keep all places -/

/-- Every place of the tree is one of the other, with a directory where there was one and with a
file where there was one, and relative paths start from the same place. -/
structure Keeps (t t' : FileTree) : Prop where
  cwd : t'.cwd = t.cwd
  at? : ∀ {names n}, t.at? names = some n → ∃ n', t'.at? names = some n' ∧ n'.isDir = n.isDir

theorem Keeps.isSome_at? (keeps : t.Keeps t') {names : List String}
    (there : (t.at? names).isSome) : (t'.at? names).isSome := by
  obtain ⟨n, found⟩ := Option.isSome_iff_exists.mp there
  obtain ⟨n', found', -⟩ := keeps.at? found
  exact Option.isSome_of_eq_some found'

/-- What a tree lacks is not in a tree whose places it keeps. -/
theorem Keeps.at?_eq_none (keeps : t.Keeps t') {names : List String}
    (missing : t'.at? names = none) : t.at? names = none := by
  by_contra there
  have there' := keeps.isSome_at? (Option.isSome_iff_ne_none.mpr there)
  rw [missing] at there'
  cases there'

theorem Keeps.isDir_eq (keeps : t.Keeps t') (held : t.Holds here) (held' : t'.Holds here')
    (same : here'.names = here.names) : here'.node.isDir = here.node.isDir := by
  obtain ⟨n', found, isDir⟩ := keeps.at? held
  rw [Holds, same, found] at held'
  rw [← Option.some.inj held', isDir]

theorem Keeps.step (keeps : t.Keeps t') (held : t.Holds here) (held' : t'.Holds here')
    (same : here'.names = here.names) {piece : String} (stepped : t.step here piece = .ok place) :
    ∃ place', t'.step here' piece = .ok place' ∧ place'.names = place.names := by
  obtain ⟨isDir, names, found⟩ := (step_eq_ok_iff held).mp stepped
  obtain ⟨n', found', -⟩ := keeps.at? found
  refine ⟨⟨place.names, n'⟩, (step_eq_ok_iff held').mpr ⟨?_, ?_, found'⟩, rfl⟩
  · rw [keeps.isDir_eq held held' same, isDir]
  · rw [names, same]

theorem Keeps.foldlM (keeps : t.Keeps t') (held : t.Holds here) (held' : t'.Holds here')
    (same : here'.names = here.names) {pieces : List String}
    (walked : pieces.foldlM t.step here = .ok place) :
    ∃ place', pieces.foldlM t'.step here' = .ok place' ∧ place'.names = place.names := by
  induction pieces generalizing here here' with
  | nil =>
    cases walked
    exact ⟨here', rfl, same⟩
  | cons piece pieces ih =>
    rw [List.foldlM_cons] at walked
    obtain ⟨next, stepped, walked⟩ := bind_eq_ok_iff.mp walked
    obtain ⟨next', stepped', names⟩ := keeps.step held held' same stepped
    have there := ((step_eq_ok_iff held).mp stepped).2.2
    have there' := ((step_eq_ok_iff held').mp stepped').2.2
    obtain ⟨place', walked', arrived⟩ := ih there there' names walked
    refine ⟨place', ?_, arrived⟩
    rw [List.foldlM_cons]
    exact bind_eq_ok_iff.mpr ⟨next', stepped', walked'⟩

theorem Keeps.startOf (keeps : t.Keeps t') {p : Path} (started : t.startOf p = .ok here) :
    ∃ here', t'.startOf p = .ok here' ∧ here'.names = here.names := by
  obtain ⟨names, held⟩ := startOf_eq_ok_iff.mp started
  obtain ⟨n', held', -⟩ := keeps.at? held
  refine ⟨⟨here.names, n'⟩, startOf_eq_ok_iff.mpr ⟨?_, held'⟩, rfl⟩
  rw [keeps.cwd]
  exact names

/-- A way to a place stays open, and leads to the same names. -/
theorem Keeps.locate (keeps : t.Keeps t') {p : Path} (found : t.locate p = .ok place) :
    ∃ place', t'.locate p = .ok place' ∧ place'.names = place.names ∧
      place'.node.isDir = place.node.isDir := by
  have held := holds_of_locate found
  obtain ⟨written, here, started, walked⟩ := locate_eq_ok_iff.mp found
  obtain ⟨here', started', same⟩ := keeps.startOf started
  obtain ⟨place', walked', names⟩ :=
    keeps.foldlM (startOf_eq_ok_iff.mp started).2 (startOf_eq_ok_iff.mp started').2 same walked
  have found' := locate_eq_ok_iff.mpr ⟨written, here', started', walked'⟩
  exact ⟨place', found', names, keeps.isDir_eq held (holds_of_locate found') names⟩

/-- Trees that keep each other's places have the same paths. -/
theorem Keeps.hasPath_eq (keeps : t.Keeps t') (keeps' : t'.Keeps t) (p : Path) :
    t'.hasPath p = t.hasPath p := by
  rw [hasPath, hasPath]
  cases found : t.locate p with
  | ok place =>
    obtain ⟨place', found', -⟩ := keeps.locate found
    rw [found']
    rfl
  | error cause =>
    cases found' : t'.locate p with
    | ok place' =>
      obtain ⟨place, located, -⟩ := keeps'.locate found'
      rw [found] at located
      cases located
    | error cause' => rfl

end PageLint.FileTree
