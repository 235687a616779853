import PageLint.Proofs.FileTree.Writing

/-!
# Paths that never go up

A path that never goes up names its place by what it says alone: it leads to the names that it
spells out if there is something at their end, whatever else the tree has. So all that reading
along such paths can tell of a tree is its files, and a tree with the same files cannot be told from
it.

## Main definitions

* `Path.IsStraight` — the path never goes up
* `FileTree.destination` — the names that a path spells out
* `FileTree.AgreesBut` — a tree has the same files as another one, except at one place

## Main results

* `read_eq_ok_iff_of_isStraight` — what is read along a path that never goes up
* `AgreesBut.read_eq_ok_iff` — trees with the same files are read alike
-/

namespace PageLint

/-! ## Straight paths -/

namespace Path

/-- The path never goes up. -/
def IsStraight (p : Path) : Prop := ".." ∉ p.pieces

instance (p : Path) : Decidable p.IsStraight := inferInstanceAs (Decidable (¬ _))

/-- The pieces of a path that goes on are those of the directory and then its own, except for what a
separator at the end of the directory leaves. -/
theorem exists_pieces_join_eq {base p : Path} (written : base.text ≠ "")
    (relative : p.isAbsolute = false) :
    ∃ front blanks, base.pieces = front ++ blanks ∧ (∀ s ∈ blanks, s = "") ∧
      (base.join p).pieces = front ++ p.pieces := by
  have nonempty : base.text.isEmpty = false := by simpa using written
  rw [join, relative, nonempty, if_neg (by simp)]
  split
  · rename_i ends
    obtain ⟨front, text⟩ := List.getLast?_eq_some_iff.mp ends
    refine ⟨(front.splitOn '/').map String.ofList, [""], ?_, by simp, ?_⟩
    · rw [pieces, text, List.splitOn_append_cons_self, List.map_append]
      rfl
    · rw [pieces, String.toList_append, text, List.append_assoc, List.singleton_append,
        List.splitOn_append_cons_self, List.map_append]
      rfl
  · have text : (base.text ++ "/" ++ p.text).toList =
        base.text.toList ++ '/' :: p.text.toList := by simp
    refine ⟨base.pieces, [], by simp, by simp, ?_⟩
    rw [pieces, text, List.splitOn_append_cons_self, List.map_append]
    rfl

/-- A path that goes on has no pieces but those of its parts. -/
theorem mem_or_mem_of_mem_pieces_join {base p : Path} {s : String}
    (listed : s ∈ (base.join p).pieces) : s ∈ base.pieces ∨ s ∈ p.pieces := by
  by_cases alone : (p.isAbsolute || base.text.isEmpty) = true
  · rw [join, if_pos alone] at listed
    exact .inr listed
  · obtain ⟨relative, written⟩ := by simpa using alone
    obtain ⟨front, blanks, split, -, joined⟩ := exists_pieces_join_eq written relative
    rw [joined] at listed
    rw [split]
    exact (List.mem_append.mp listed).imp_left (List.mem_append_left blanks)

theorem IsStraight.join {base p : Path} (straight : base.IsStraight) (straight' : p.IsStraight) :
    (base.join p).IsStraight := fun up =>
  (mem_or_mem_of_mem_pieces_join up).elim straight straight'

end Path

namespace FileTree

variable {t t' t'' : FileTree} {here place : Place} {p : Path} {pieces names : List String}

/-- The names that a path spells out. -/
def destination (t : FileTree) (p : Path) : List String :=
  p.pieces.foldl onward (if p.isAbsolute then [] else t.cwd)

/-- Without a step up, names are only added. -/
theorem exists_foldl_onward_eq (straight : ".." ∉ pieces) (names : List String) :
    ∃ more, pieces.foldl onward names = names ++ more := by
  induction pieces generalizing names with
  | nil => exact ⟨[], (List.append_nil names).symm⟩
  | cons piece pieces ih =>
    rw [List.mem_cons, not_or] at straight
    obtain ⟨more, rest⟩ := ih straight.2 (onward names piece)
    rw [List.foldl_cons, rest, onward]
    split
    · exact ⟨more, rfl⟩
    · rw [if_neg (Ne.symm straight.1), List.append_assoc]
      exact ⟨_, rfl⟩

/-- A place that is spelled out is reached. A piece that leads nowhere can only come last where a
directory is. -/
theorem foldlM_step_eq_ok_of_straight (straight : ".." ∉ pieces) (held : t.Holds here)
    (arrived : t.Holds place) (names : place.names = pieces.foldl onward here.names)
    (ends : place.node.isDir = true ∨ ∀ piece ∈ pieces.getLast?, ¬ (piece = "" ∨ piece = ".")) :
    pieces.foldlM t.step here = .ok place := by
  induction pieces using List.reverseRecOn generalizing place with
  | nil =>
    rw [held.eq_of_names arrived names]
    rfl
  | append_singleton pieces piece ih =>
    rw [List.mem_append, not_or, List.mem_singleton] at straight
    rw [List.foldl_append, List.foldl_cons, List.foldl_nil] at names
    rw [foldlM_concat_eq_ok_iff]
    by_cases stays : piece = "" ∨ piece = "."
    · have isDir : place.node.isDir = true := by
        rcases ends with isDir | moves
        · exact isDir
        · exact absurd stays (moves piece (by simp))
      have front := ih straight.1 arrived (by rw [names, onward, if_pos stays]) (.inl isDir)
      have stepped : t.step place piece = .ok place :=
        (step_eq_ok_iff arrived).mpr ⟨isDir, by rw [onward, if_pos stays], arrived⟩
      exact ⟨place, front, stepped⟩
    · -- The place above is a directory, since it has the place as an entry.
      have moves : onward (pieces.foldl onward here.names) piece =
          pieces.foldl onward here.names ++ [piece] := by
        rw [onward, if_neg stays, if_neg (Ne.symm straight.2)]
      have found : t.at? (pieces.foldl onward here.names ++ [piece]) = some place.node := by
        rw [← moves, ← names]
        exact arrived
      rw [at?_concat] at found
      obtain ⟨above, there, child⟩ := Option.bind_eq_some_iff.mp found
      have isDir : above.isDir = true := Node.isDir_of_child? above child
      have held' : t.Holds ⟨pieces.foldl onward here.names, above⟩ := there
      have stepped : t.step ⟨pieces.foldl onward here.names, above⟩ piece = .ok place :=
        (step_eq_ok_iff held').mpr ⟨isDir, names, arrived⟩
      exact ⟨_, ih straight.1 held' rfl (.inl isDir), stepped⟩

/-- A way that ends with a piece that leads nowhere ends at a directory. -/
theorem isDir_of_getLast?_stays {piece : String} (held : t.Holds here)
    (walked : pieces.foldlM t.step here = .ok place) (last : pieces.getLast? = some piece)
    (stays : piece = "" ∨ piece = ".") : place.node.isDir = true := by
  obtain ⟨front, rfl⟩ := List.getLast?_eq_some_iff.mp last
  obtain ⟨above, walked, stepped⟩ := foldlM_concat_eq_ok_iff.mp walked
  have held' := holds_of_foldlM held walked
  obtain ⟨isDir, names, arrived⟩ := (step_eq_ok_iff held').mp stepped
  rw [onward, if_pos stays] at names
  rw [held'.eq_of_names arrived names]
  exact isDir

/-- Along a path that never goes up the text of a file is read exactly if the path ends with a name
and the file lies where it leads. -/
theorem read_eq_ok_iff_of_isStraight (straight : p.IsStraight) {text : String} :
    t.read p = .ok text ↔
      p.text.isEmpty = false ∧ (∀ piece ∈ p.pieces.getLast?, ¬ (piece = "" ∨ piece = ".")) ∧
        t.at? (t.destination p) = some (.file (some text)) := by
  rw [read_eq_ok_iff]
  constructor
  · rintro ⟨place, found, file⟩
    obtain ⟨written, here, started, walked⟩ := locate_eq_ok_iff.mp found
    obtain ⟨names, held⟩ := startOf_eq_ok_iff.mp started
    refine ⟨written, fun piece last stays => ?_, ?_⟩
    · have isDir := isDir_of_getLast?_stays held walked last stays
      rw [file] at isDir
      cases isDir
    · have arrived := holds_of_locate found
      rw [Holds, names_of_foldlM held walked, names, file] at arrived
      exact arrived
  · rintro ⟨written, ends, found⟩
    obtain ⟨more, longer⟩ := exists_foldl_onward_eq straight
      (if p.isAbsolute then [] else t.cwd)
    have arrived : t.Holds ⟨t.destination p, .file (some text)⟩ := found
    -- A place below the start tells that the start is there.
    rw [destination, longer, at?, Node.descend_append] at found
    obtain ⟨node, there, -⟩ := Option.bind_eq_some_iff.mp found
    have held : t.Holds ⟨if p.isAbsolute then [] else t.cwd, node⟩ := there
    have walked := foldlM_step_eq_ok_of_straight straight held arrived rfl (.inr ends)
    exact ⟨_, locate_eq_ok_iff.mpr ⟨written, _, startOf_eq_ok_iff.mpr ⟨rfl, held⟩, walked⟩, rfl⟩

/-! ## Trees with the same files -/

/-- Relative paths start from the same place in both trees, and the files are the same, except
perhaps at the end of the given names. -/
structure AgreesBut (names : List String) (t t' : FileTree) : Prop where
  cwd : t'.cwd = t.cwd
  files : ∀ {others text}, others ≠ names →
    (t'.at? others = some (.file text) ↔ t.at? others = some (.file text))

namespace AgreesBut

theorem refl (names : List String) (t : FileTree) : AgreesBut names t t := ⟨rfl, fun _ => .rfl⟩

theorem trans (same : AgreesBut names t t') (same' : AgreesBut names t' t'') :
    AgreesBut names t t'' where
  cwd := same'.cwd.trans same.cwd
  files apart := (same'.files apart).trans (same.files apart)

theorem destination_eq (same : AgreesBut names t t') (p : Path) :
    t'.destination p = t.destination p := by
  rw [destination, destination, same.cwd]

/-- What is not at that place is read alike in both trees, along a path that never goes up. -/
theorem read_eq_ok_iff (same : AgreesBut names t t') (straight : p.IsStraight)
    (apart : t.destination p ≠ names) {text : String} :
    t'.read p = .ok text ↔ t.read p = .ok text := by
  rw [read_eq_ok_iff_of_isStraight straight, read_eq_ok_iff_of_isStraight straight,
    same.destination_eq p, same.files apart]

end AgreesBut

end FileTree

end PageLint
