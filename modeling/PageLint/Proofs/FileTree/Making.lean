import PageLint.Proofs.FileTree.Writing
import PageLint.Proofs.Path.Above

/-!
# Directories that are made

A directory is made in one that is there, and it is there from then on. So what was made with all
that is above it need not be made again, and what could not be made cannot be made now: below a
directory that is missing there is nothing.

## Main definitions

* `FileTree.Making` — what becomes of making a directory with others above it

## Main results

* `makeDir_eq_ok_iff` — when one directory is made
* `isDir_parent_of_makeDir` — a directory can only be made in a directory
* `makeDirs_again` — making directories again changes nothing
-/

namespace PageLint.FileTree

variable {t t' : FileTree} {here place : Place} {p q : Path} {pieces names : List String}
  {name : String}

/-! ## Directories -/

theorem isDir_eq_true_iff :
    t.isDir p = true ↔ ∃ place, t.locate p = .ok place ∧ place.node.isDir = true := by
  unfold isDir
  cases t.locate p with
  | ok place => simp
  | error cause => simp

theorem Keeps.isDir (keeps : t.Keeps t') (there : t.isDir p = true) : t'.isDir p = true := by
  obtain ⟨place, found, isDir⟩ := isDir_eq_true_iff.mp there
  obtain ⟨place', found', -, same⟩ := keeps.locate found
  exact isDir_eq_true_iff.mpr ⟨place', found', same.trans isDir⟩

/-- A way that goes on, or ends at a directory, is at a directory. -/
theorem isDir_of_foldlM (held : t.Holds here) (walked : pieces.foldlM t.step here = .ok place)
    (isDir : place.node.isDir = true) : here.node.isDir = true := by
  cases pieces with
  | nil =>
    cases walked
    exact isDir
  | cons piece pieces =>
    rw [List.foldlM_cons] at walked
    obtain ⟨next, stepped, -⟩ := bind_eq_ok_iff.mp walked
    exact ((step_eq_ok_iff held).mp stepped).1

theorem foldlM_blanks {blanks : List String} (held : t.Holds here) (isDir : here.node.isDir = true)
    (blank : ∀ s ∈ blanks, s = "") : blanks.foldlM t.step here = .ok here := by
  induction blanks with
  | nil => rfl
  | cons s blanks ih =>
    have stays : t.step here s = .ok here := by
      refine (step_eq_ok_iff held).mpr ⟨isDir, ?_, held⟩
      rw [blank s List.mem_cons_self]
      rfl
    rw [List.foldlM_cons]
    have others := ih fun s listed => blank s (List.mem_cons_of_mem _ listed)
    exact bind_eq_ok_iff.mpr ⟨here, stays, others⟩

/-- Empty pieces at the end change nothing for a directory. -/
theorem foldlM_trimmed_eq_ok_iff (held : t.Holds here) (isDir : place.node.isDir = true) :
    p.trimmed.foldlM t.step here = .ok place ↔ p.pieces.foldlM t.step here = .ok place := by
  obtain ⟨blanks, pieces, blank⟩ := p.exists_pieces_eq_trimmed_append
  rw [pieces, foldlM_append_eq_ok_iff]
  constructor
  · intro walked
    exact ⟨place, walked, foldlM_blanks (holds_of_foldlM held walked) isDir blank⟩
  · rintro ⟨next, walked, rest⟩
    have held' := holds_of_foldlM held walked
    have stays := foldlM_blanks held' (isDir_of_foldlM held' rest isDir) blank
    obtain rfl : next = place := Except.ok.inj (stays.symm.trans rest)
    exact walked

/-! ## One directory -/

/-- A directory is made as an entry of one that is there, where there is nothing of its name. -/
theorem makeDir_eq_ok_iff :
    t.makeDir p = .ok t' ↔
      ∃ names name inner, t.EntersAt p p.trimmed names name inner ∧
        (Node.dir inner).child? name = none ∧ t.put (names ++ [name]) (.dir []) = t' := by
  unfold makeDir
  rw [← Path.trimmed]
  dsimp only
  constructor
  · intro made
    obtain ⟨⟨place, name⟩, located, made⟩ := bind_eq_ok_iff.mp made
    dsimp only at made
    split_ifs at made with taken there unnameable
    · obtain ⟨inner, dir, enters⟩ := exists_entersAt located taken (by simpa using unnameable)
      rw [dir] at there
      exact ⟨place.names, name, inner, enters, by simpa using there, Except.ok.inj made⟩
  · rintro ⟨names, name, inner, enters, free, rfl⟩
    refine bind_eq_ok_iff.mpr ⟨_, enters.locateLast_eq, ?_⟩
    dsimp only
    rw [if_neg enters.plain, free, enters.nameable]
    rfl

/-- A directory that was made is there. -/
theorem isDir_of_makeDir (made : t.makeDir p = .ok t') : t'.isDir p = true := by
  obtain ⟨names, name, inner, enters, free, rfl⟩ := makeDir_eq_ok_iff.mp made
  -- Nothing is replaced, since there is nothing of the name.
  have replaces : ∀ old, (Node.dir inner).child? name = some old →
      old.isDir = false ∧ (Node.dir []).isDir = false := by
    intro old found
    rw [free] at found
    cases found
  obtain ⟨inner', enters', child⟩ := enters.put replaces
  obtain ⟨here, started, walked⟩ := enters'.exists_walk child
  have held := (startOf_eq_ok_iff.mp started).2
  refine isDir_eq_true_iff.mpr ⟨⟨names ++ [name], .dir []⟩, ?_, rfl⟩
  exact locate_eq_ok_iff.mpr
    ⟨enters.written, here, started, (foldlM_trimmed_eq_ok_iff held rfl).mp walked⟩

/-- Where a directory is, none is made. -/
theorem makeDir_of_isDir (there : t.isDir p = true) : t.makeDir p = .error .alreadyExists := by
  obtain ⟨place, found, isDir⟩ := isDir_eq_true_iff.mp there
  obtain ⟨written, here, started, walked⟩ := locate_eq_ok_iff.mp found
  have held := (startOf_eq_ok_iff.mp started).2
  rw [← foldlM_trimmed_eq_ok_iff held isDir] at walked
  unfold makeDir
  rw [← Path.trimmed]
  dsimp only
  rcases List.eq_nil_or_concat p.trimmed with none | ⟨front, name, trimmed⟩
  · -- No piece is left, and the name is empty.
    rw [none] at walked
    cases walked
    have located : t.locateLast p p.trimmed = .ok (place, "") := by
      rw [none, locateLast_eq_ok_iff]
      exact ⟨written, ⟨place, started, rfl⟩, isDir, rfl⟩
    rw [located]
    rfl
  · rw [List.concat_eq_append] at trimmed
    rw [trimmed] at walked
    obtain ⟨above, walked, stepped⟩ := foldlM_concat_eq_ok_iff.mp walked
    have held' := holds_of_foldlM held walked
    obtain ⟨isDir', names, arrived⟩ := (step_eq_ok_iff held').mp stepped
    have located : t.locateLast p p.trimmed = .ok (above, name) := by
      rw [trimmed, locateLast_eq_ok_iff]
      exact ⟨written, ⟨here, started, by rw [List.dropLast_concat]; exact walked⟩, isDir', by simp⟩
    rw [located]
    dsimp only [bind, Except.bind]
    split
    · rfl
    · rename_i plain
      have child : above.node.child? name = some place.node := by
        rw [Holds, names, onward_of_plain plain, at?_concat, held'] at arrived
        exact arrived
      rw [child]
      rfl

/-! ## The directory above a directory -/

theorem isDir_root (t : FileTree) : t.isDir ⟨"/"⟩ = true := rfl

/-- A path that has the first pieces of another one leads to a directory, if the other one goes on
from there or ends at one. -/
theorem isDir_of_pieces {more : List String} (written : q.text ≠ "")
    (absolute : q.isAbsolute = p.isAbsolute) (started : t.startOf p = .ok here)
    (walked : (q.pieces ++ more).foldlM t.step here = .ok place) (isDir : place.node.isDir = true) :
    t.isDir q = true := by
  obtain ⟨names, held⟩ := startOf_eq_ok_iff.mp started
  obtain ⟨next, walked, rest⟩ := foldlM_append_eq_ok_iff.mp walked
  have started' : t.startOf q = .ok here := startOf_eq_ok_iff.mpr ⟨by rw [absolute, names], held⟩
  have found : t.locate q = .ok next :=
    locate_eq_ok_iff.mpr ⟨by simpa using written, here, started', walked⟩
  exact isDir_eq_true_iff.mpr ⟨next, found, isDir_of_foldlM (holds_of_locate found) rest isDir⟩

theorem isDir_parent (above : p.parent? = some q) (written : q.text ≠ "")
    (there : t.isDir p = true) : t.isDir q = true := by
  obtain ⟨place, found, isDir⟩ := isDir_eq_true_iff.mp there
  obtain ⟨-, here, started, walked⟩ := locate_eq_ok_iff.mp found
  rcases Path.parent?_cases above written with rfl | ⟨absolute, between, last, after, pieces, -, -⟩
  · exact isDir_root t
  · rw [pieces, List.append_assoc] at walked
    exact isDir_of_pieces written absolute started walked isDir

/-- A directory can only be made in a directory. -/
theorem isDir_parent_of_makeDir (above : p.parent? = some q) (written : q.text ≠ "")
    (made : t.makeDir p = .ok t') : t.isDir q = true := by
  obtain ⟨names, name, inner, enters, -, -⟩ := makeDir_eq_ok_iff.mp made
  obtain ⟨here, front, started, trimmed, walked⟩ := enters.way
  obtain ⟨blanks, own, -, blank⟩ := Path.trimmed_eq_concat_iff.mp trimmed
  rcases Path.parent?_cases above written with
    rfl | ⟨absolute, between, last, after, pieces, stops, skipped⟩
  · exact isDir_root t
  · -- The last part is the same, whether it is told by the path above or by what is made.
    have byParent :
        p.pieces.reverse.dropWhile Path.passed = last :: (q.pieces ++ between).reverse := by
      refine dropWhile_reverse_eq_cons_iff.mpr ⟨after, ?_, stops, skipped⟩
      rw [List.reverse_reverse, pieces]
    have byName : p.pieces.reverse.dropWhile Path.passed = name :: front.reverse := by
      refine dropWhile_reverse_eq_cons_iff.mpr
        ⟨blanks, by rw [List.reverse_reverse, own], ?_, fun s listed => ?_⟩
      · have plain := enters.plain
        simp_all [Path.passed]
      · rw [blank s listed]
        rfl
    have front : q.pieces ++ between = front :=
      List.reverse_injective (List.cons.inj (byParent.symm.trans byName)).2
    rw [← front] at walked
    exact isDir_of_pieces written absolute started walked rfl

/-! ## All directories above a path -/

/-- What becomes of making a directory with others above it: the tree, and whether the directory is
there. -/
inductive Making (t : FileTree) (p : Path) (ps : List Path) : FileTree → Bool → Prop
  /-- There is nothing to make. -/
  | nameless (empty : p.text.isEmpty = true) : Making t p ps t true
  /-- It is made. -/
  | made {t' : FileTree} (written : p.text.isEmpty = false) (made : t.makeDir p = .ok t') :
    Making t p ps t' true
  /-- It has a place, but cannot be made there. -/
  | present {cause : Cause} {there : Bool} (written : p.text.isEmpty = false)
    (failed : t.makeDir p = .error cause) (isDir : t.isDir p = there) : Making t p ps t there
  /-- It has no place, and the others cannot be made. -/
  | blocked {t' : FileTree} (written : p.text.isEmpty = false)
    (missing : t.makeDir p = .error .notFound) (lost : t.makeAll ps = (t', false)) :
    Making t p ps t' false
  /-- It is made after the others. -/
  | follows {t₁ t' : FileTree} (written : p.text.isEmpty = false)
    (ready : t.makeAll ps = (t₁, true)) (made : t₁.makeDir p = .ok t') : Making t p ps t' true
  /-- It cannot be made after the others. -/
  | stuck {t' : FileTree} {cause : Cause} {there : Bool} (written : p.text.isEmpty = false)
    (ready : t.makeAll ps = (t', true)) (failed : t'.makeDir p = .error cause)
    (isDir : t'.isDir p = there) : Making t p ps t' there

section MakeAll

variable {ps : List Path} {there : Bool}

theorem making_makeAll (made : t.makeAll (p :: ps) = (t', there)) : Making t p ps t' there := by
  rw [makeAll] at made
  cases written : p.text.isEmpty with
  | true =>
    rw [written] at made
    cases made
    exact .nameless written
  | false =>
    simp only [written, Bool.false_eq_true, if_false] at made
    split at made
    · rename_i own
      cases made
      exact .made written own
    · rename_i missing
      split at made
      · rename_i lost
        cases made
        exact .blocked written missing lost
      · rename_i ready
        split at made
        · rename_i own
          cases made
          exact .follows written ready own
        · rename_i failed
          cases made
          exact .stuck written ready failed rfl
    · rename_i failed
      cases made
      exact .present written failed rfl

/-- What was to be made is there. -/
theorem isDir_of_makeAll (written : p.text.isEmpty = false)
    (made : t.makeAll (p :: ps) = (t', true)) : t'.isDir p = true := by
  cases making_makeAll made with
  | nameless empty =>
    rw [written] at empty
    cases empty
  | made _ made | follows _ _ made => exact isDir_of_makeDir made
  | present _ _ isDir | stuck _ _ _ isDir => exact isDir

theorem makeAll_of_isDir (there : t.isDir p = true) : t.makeAll (p :: ps) = (t, true) := by
  rw [makeAll, makeDir_of_isDir there, there]
  split <;> rfl

theorem text_ne_of_makeAll (failed : t.makeAll (p :: ps) = (t', false)) : p.text ≠ "" := by
  have written : p.text.isEmpty = false := by
    cases making_makeAll failed with
    | present written _ _ | blocked written _ _ | stuck written _ _ _ => exact written
  simpa using written

/-- Below what could not be made there is nothing, and nothing can be made there. -/
theorem absent_of_blocked (chain : (p :: ps).IsChain Path.IsAbove)
    (missing : t.makeDir p = .error .notFound) (lost : t.makeAll ps = (t', false))
    (absent : ∀ q ∈ ps.head?, t'.isDir q = false) :
    t'.isDir p = false ∧ ∀ made, t'.makeDir p ≠ .ok made := by
  cases ps with
  | nil =>
    cases lost
    refine ⟨?_, fun made own => ?_⟩
    · rw [← Bool.not_eq_true]
      intro there
      rw [makeDir_of_isDir there] at missing
      cases missing
    · rw [missing] at own
      cases own
  | cons q ps =>
    -- The directory above is missing, and so is all that would lie in it.
    have above : p.parent? = some q := (List.isChain_cons_cons.mp chain).1
    have written := text_ne_of_makeAll lost
    have absent : t'.isDir q = false := absent q rfl
    refine ⟨?_, fun made own => ?_⟩
    · rw [← Bool.not_eq_true]
      intro there
      rw [isDir_parent above written there] at absent
      cases absent
    · rw [isDir_parent_of_makeDir above written own] at absent
      cases absent

/-- What cannot be made with all that is above it is not there. -/
theorem isDir_of_makeAll_eq_false (chain : ps.IsChain Path.IsAbove)
    (failed : t.makeAll ps = (t', false)) : ∀ p ∈ ps.head?, t'.isDir p = false := by
  induction ps with
  | nil => nofun
  | cons p ps ih =>
    rintro _ ⟨⟩
    cases making_makeAll failed with
    | present _ _ isDir | stuck _ _ _ isDir => exact isDir
    | blocked _ missing lost =>
      exact (absent_of_blocked chain missing lost (ih chain.tail lost)).1

/-- Where a directory cannot be made and nothing else is changed either, it is there or not. -/
theorem makeAll_of_refused {ready : Bool} (written : p.text.isEmpty = false)
    (refused : ∀ made, t.makeDir p ≠ .ok made) (others : t.makeAll ps = (t, ready))
    (isDir : t.isDir p = there) (absent : ready = false → there = false) :
    t.makeAll (p :: ps) = (t, there) := by
  rw [makeAll, if_neg (by simp [written]), isDir]
  cases own : t.makeDir p with
  | ok made => exact absurd own (refused made)
  | error cause =>
    cases cause with
    | notFound =>
      rw [others]
      cases ready with
      | false => rw [absent rfl]
      | true =>
        dsimp only
        rw [own, isDir]
    | notADirectory | isADirectory | invalidData | alreadyExists => rfl

/-- Making directories again changes nothing. -/
theorem makeAll_again (chain : ps.IsChain Path.IsAbove) (made : t.makeAll ps = (t', there)) :
    t'.makeAll ps = (t', there) := by
  induction ps generalizing t t' there with
  | nil =>
    cases made
    rfl
  | cons p ps ih =>
    cases making_makeAll made with
    | nameless | present => exact made
    | made _ own | follows _ _ own => exact makeAll_of_isDir (isDir_of_makeDir own)
    | blocked written missing lost =>
      -- The others may have made some directories, but not the one this one would go into.
      obtain ⟨absent, refused⟩ := absent_of_blocked chain missing lost
        (isDir_of_makeAll_eq_false chain.tail lost)
      exact makeAll_of_refused written refused (ih chain.tail lost) absent fun _ => rfl
    | stuck written ready failed isDir =>
      -- The others are all there, so the attempt that failed is made in the same tree.
      refine makeAll_of_refused written (fun made own => ?_) (ih chain.tail ready) isDir nofun
      rw [failed] at own
      cases own

end MakeAll

theorem makeDirs_again {there : Bool} (made : t.makeDirs p = (t', there)) :
    t'.makeDirs p = (t', there) := by
  unfold makeDirs at made ⊢
  split_ifs at made ⊢
  · cases made
    rfl
  · exact makeAll_again p.isChain_withParents made

theorem isDir_of_makeDirs (written : p.text.isEmpty = false) (made : t.makeDirs p = (t', true)) :
    t'.isDir p = true := by
  obtain ⟨ps, parents⟩ := p.exists_withParents_eq_cons
  rw [makeDirs, parents] at made
  split_ifs at made
  · obtain ⟨rfl, there⟩ := Prod.mk.inj made
    exact there
  · exact isDir_of_makeAll written made

theorem makeDirs_of_isDir (there : t.isDir p = true) : t.makeDirs p = (t, true) := by
  obtain ⟨ps, parents⟩ := p.exists_withParents_eq_cons
  rw [makeDirs, parents, there, makeAll_of_isDir there, ite_self]

end PageLint.FileTree
