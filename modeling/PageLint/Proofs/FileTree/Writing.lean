import PageLint.Proofs.FileTree.Locating
import PageLint.Run

/-!
# Written files

Writing puts a file at the end of a path, in the place of a file or where there was nothing. All
places of the tree are kept, so the path still leads there, and what was written is read back.

## Main definitions

* `FileTree.EntersAt` — a path leads to an entry of a directory, which need not be there yet
* `FileTree.prepare` — makes the directories above a path

## Main results

* `keeps_put` — a node that is put where there was none leaves all places
* `EntersAt.put` — the path leads to what is put there
* `read_of_write`, `read_of_save` — what was written is read back
-/

namespace PageLint.FileTree

/-! ## Entries -/

/-- A way that ends at a directory starts at one. -/
theorem Node.exists_dir_of_descend {n : Node} {names : List String}
    {inner : List (String × Node)} (way : n.descend names = some (.dir inner)) :
    ∃ entries, n = .dir entries := by
  cases n with
  | dir entries => exact ⟨entries, rfl⟩
  | file text => cases names <;> simp [Node.descend, Node.child?, Node.entries] at way

theorem Node.exists_dir_of_isDir {n : Node} (isDir : n.isDir = true) :
    ∃ entries, n = .dir entries := by
  cases n with
  | file text => cases isDir
  | dir entries => exact ⟨entries, rfl⟩

section Entries

variable {name other : String} {n : Node} {entries inner : List (String × Node)}

theorem child?_putEntry_self : (Node.dir (putEntry name n entries)).child? name = some n := by
  induction entries with
  | nil => simp [putEntry, Node.child?, Node.entries]
  | cons entry entries ih =>
    obtain ⟨key, old⟩ := entry
    by_cases same : key = name
    · simp [putEntry, same, Node.child?, Node.entries]
    · simpa [putEntry, same, Node.child?, Node.entries] using ih

theorem child?_putEntry_of_ne (apart : other ≠ name) :
    (Node.dir (putEntry name n entries)).child? other = (Node.dir entries).child? other := by
  induction entries with
  | nil => simp [putEntry, Node.child?, Node.entries, apart.symm]
  | cons entry entries ih =>
    obtain ⟨key, old⟩ := entry
    by_cases same : key = name
    · simp [putEntry, same, Node.child?, Node.entries, apart.symm]
    · by_cases own : key = other
      · simp [putEntry, own, apart, Node.child?, Node.entries]
      · simpa [putEntry, same, own, Node.child?, Node.entries] using ih

/-- What is put below a directory is put into it, and it stays where it is. -/
theorem putAt_cons (names : List String)
    (below : (Node.dir entries).child? other = some (.dir inner)) :
    putAt n (other :: (names ++ [name])) entries =
      putEntry other (.dir (putAt n (names ++ [name]) inner)) entries := by
  obtain ⟨⟨key, node⟩, found, rfl⟩ := Option.map_eq_some_iff.mp below
  cases names with
  | nil =>
    simp only [List.nil_append, putAt, Node.entries] at found ⊢
    rw [found]
  | cons next names =>
    simp only [List.cons_append, putAt, Node.entries] at found ⊢
    rw [found]

/-- What was put at the end of a way lies there, if the way leads through directories. -/
theorem descend_putAt_self {names : List String}
    (above : (Node.dir entries).descend names = some (.dir inner)) :
    (Node.dir (putAt n (names ++ [name]) entries)).descend (names ++ [name]) = some n := by
  induction names generalizing entries with
  | nil => simp [putAt, Node.descend, child?_putEntry_self]
  | cons first names ih =>
    obtain ⟨next, child, rest⟩ := Option.bind_eq_some_iff.mp above
    obtain ⟨middle, rfl⟩ := Node.exists_dir_of_descend rest
    rw [List.cons_append, putAt_cons names child, Node.descend, child?_putEntry_self]
    exact ih rest

/-- Putting a node where there was nothing, or one file for another, moves no other node. -/
theorem exists_descend_putAt {names way : List String} {m : Node}
    (above : (Node.dir entries).descend names = some (.dir inner))
    (replaces : ∀ old, (Node.dir inner).child? name = some old →
      old.isDir = false ∧ n.isDir = false)
    (there : (Node.dir entries).descend way = some m) :
    ∃ m', (Node.dir (putAt n (names ++ [name]) entries)).descend way = some m' ∧
      m'.isDir = m.isDir := by
  induction names generalizing entries way with
  | nil =>
    cases above
    cases way with
    | nil =>
      cases there
      exact ⟨_, rfl, rfl⟩
    | cons first way =>
      by_cases same : first = name
      · subst same
        obtain ⟨old, child, rest⟩ := Option.bind_eq_some_iff.mp there
        obtain ⟨isFile, isFile'⟩ := replaces old child
        -- Nothing lies below a file, so the way ends here.
        obtain rfl : way = [] := by
          cases way with
          | nil => rfl
          | cons second way =>
            obtain ⟨_, below, -⟩ := Option.bind_eq_some_iff.mp rest
            rw [Node.isDir_of_child? _ below] at isFile
            cases isFile
        cases rest
        refine ⟨n, ?_, isFile'.trans isFile.symm⟩
        simp [putAt, Node.descend, child?_putEntry_self]
      · refine ⟨m, ?_, rfl⟩
        rw [List.nil_append, putAt, Node.descend, child?_putEntry_of_ne same]
        exact there
  | cons second names ih =>
    obtain ⟨next, child, rest⟩ := Option.bind_eq_some_iff.mp above
    obtain ⟨middle, rfl⟩ := Node.exists_dir_of_descend rest
    rw [List.cons_append, putAt_cons names child]
    cases way with
    | nil =>
      cases there
      exact ⟨_, rfl, rfl⟩
    | cons first way =>
      by_cases same : first = second
      · subst same
        rw [Node.descend, child, Option.bind_some] at there
        rw [Node.descend, child?_putEntry_self, Option.bind_some]
        exact ih rest there
      · refine ⟨m, ?_, rfl⟩
        rw [Node.descend, child?_putEntry_of_ne same]
        exact there

end Entries

/-! ## Nodes put into a tree -/

variable {t t' : FileTree} {p : Path} {pieces names : List String} {name : String}
  {inner : List (String × Node)} {n : Node}

theorem at?_put (above : t.at? names = some (.dir inner)) :
    (t.put (names ++ [name]) n).at? (names ++ [name]) = some n :=
  descend_putAt_self above

/-- A node that takes the place of one of its kind without entries leaves all places. -/
theorem keeps_put (above : t.at? names = some (.dir inner))
    (replaces : ∀ old, (Node.dir inner).child? name = some old →
      old.isDir = false ∧ n.isDir = false) :
    t.Keeps (t.put (names ++ [name]) n) where
  cwd := rfl
  at? there := exists_descend_putAt above replaces there

theorem read_eq_ok_iff {text : String} :
    t.read p = .ok text ↔ ∃ place, t.locate p = .ok place ∧ place.node = .file (some text) := by
  unfold read
  rw [bind_eq_ok_iff]
  refine exists_congr fun place => and_congr_right fun _ => ?_
  split <;> simp_all

theorem onward_of_plain (plain : ¬ (name = "" ∨ name = "." ∨ name = "..")) (names : List String) :
    onward names name = names ++ [name] := by
  rw [onward, if_neg (by simp_all), if_neg (by simp_all)]

/-! ## Entries that paths lead to -/

/-- The last of some pieces of a path is the name of an entry in a directory, whether or not it has
one, and the other pieces lead to the directory. -/
structure EntersAt (t : FileTree) (p : Path) (pieces names : List String) (name : String)
    (inner : List (String × Node)) : Prop where
  written : p.text.isEmpty = false
  plain : ¬ (name = "" ∨ name = "." ∨ name = "..")
  nameable : isNameable name = true
  way : ∃ here front, t.startOf p = .ok here ∧ pieces = front ++ [name] ∧
    front.foldlM t.step here = .ok ⟨names, .dir inner⟩

theorem locateLast_eq_ok_iff {place : Place} :
    t.locateLast p pieces = .ok (place, name) ↔
      p.text.isEmpty = false ∧
        (∃ here, t.startOf p = .ok here ∧ pieces.dropLast.foldlM t.step here = .ok place) ∧
        place.node.isDir = true ∧ pieces.getLast?.getD "" = name := by
  unfold locateLast
  cases p.text.isEmpty with
  | true => simp [bind, Except.bind]
  | false =>
    simp only [Bool.false_eq_true, if_false, true_and, bind_eq_ok_iff, pure, Except.pure]
    constructor
    · rintro ⟨here, started, found, walked, ended⟩
      split at ended
      · rename_i isDir
        cases ended
        exact ⟨⟨here, started, walked⟩, isDir, rfl⟩
      · cases ended
    · rintro ⟨⟨here, started, walked⟩, isDir, last⟩
      refine ⟨here, started, place, walked, ?_⟩
      rw [if_pos isDir, last]

theorem exists_entersAt {place : Place} (located : t.locateLast p pieces = .ok (place, name))
    (plain : ¬ (name = "" ∨ name = "." ∨ name = "..")) (nameable : isNameable name = true) :
    ∃ inner, place.node = .dir inner ∧ t.EntersAt p pieces place.names name inner := by
  obtain ⟨written, ⟨here, started, walked⟩, isDir, last⟩ := locateLast_eq_ok_iff.mp located
  obtain ⟨names, node⟩ := place
  obtain ⟨inner, rfl⟩ := Node.exists_dir_of_isDir isDir
  refine ⟨inner, rfl, written, plain, nameable, here, pieces.dropLast, started, ?_, walked⟩
  rcases List.eq_nil_or_concat pieces with rfl | ⟨front, piece, rfl⟩
  · exact absurd (Or.inl last.symm) plain
  · obtain rfl : piece = name := by simpa using last
    rw [List.concat_eq_append, List.dropLast_concat]

namespace EntersAt

variable (enters : t.EntersAt p pieces names name inner)

include enters

theorem at?_eq : t.at? names = some (.dir inner) := by
  obtain ⟨here, front, started, -, walked⟩ := enters.way
  exact holds_of_foldlM (startOf_eq_ok_iff.mp started).2 walked

theorem locateLast_eq : t.locateLast p pieces = .ok (⟨names, .dir inner⟩, name) := by
  obtain ⟨here, front, started, rfl, walked⟩ := enters.way
  refine locateLast_eq_ok_iff.mpr ⟨enters.written, ⟨here, started, ?_⟩, rfl, by simp⟩
  rw [List.dropLast_concat]
  exact walked

/-- The entry is what the pieces say. -/
theorem foldl_onward_eq :
    pieces.foldl onward (if p.isAbsolute then [] else t.cwd) = names ++ [name] := by
  obtain ⟨here, front, started, rfl, walked⟩ := enters.way
  obtain ⟨start, held⟩ := startOf_eq_ok_iff.mp started
  have above : names = front.foldl onward here.names := names_of_foldlM held walked
  rw [List.foldl_append, ← start, ← above]
  exact onward_of_plain enters.plain names

/-- All pieces lead to the entry, if there is one. -/
theorem exists_walk (child : (Node.dir inner).child? name = some n) :
    ∃ here, t.startOf p = .ok here ∧ pieces.foldlM t.step here = .ok ⟨names ++ [name], n⟩ := by
  obtain ⟨here, front, started, rfl, walked⟩ := enters.way
  have held : t.Holds ⟨names, .dir inner⟩ := enters.at?_eq
  refine ⟨here, started, foldlM_concat_eq_ok_iff.mpr ⟨_, walked, (step_eq_ok_iff held).mpr ?_⟩⟩
  refine ⟨rfl, (onward_of_plain enters.plain names).symm, ?_⟩
  rw [Holds, at?_concat, enters.at?_eq]
  exact child

/-- A node takes the place of the entry, if it is a file for a file, or if there is none. The path
then leads to it. -/
theorem put (replaces : ∀ old, (Node.dir inner).child? name = some old →
      old.isDir = false ∧ n.isDir = false) :
    ∃ inner', (t.put (names ++ [name]) n).EntersAt p pieces names name inner' ∧
      (Node.dir inner').child? name = some n := by
  have keeps := keeps_put enters.at?_eq replaces
  have new : (t.put (names ++ [name]) n).at? (names ++ [name]) = some n := at?_put enters.at?_eq
  generalize t.put (names ++ [name]) n = t' at keeps new
  obtain ⟨here, front, started, rfl, walked⟩ := enters.way
  have held := (startOf_eq_ok_iff.mp started).2
  -- All pieces but the last lead through the new tree as they did through the old one.
  obtain ⟨here', started', same⟩ := keeps.startOf started
  have held' := (startOf_eq_ok_iff.mp started').2
  obtain ⟨⟨names', node'⟩, walked', rfl⟩ := keeps.foldlM held held' same walked
  have arrived := holds_of_foldlM held' walked'
  obtain ⟨inner', rfl⟩ :=
    Node.exists_dir_of_isDir (keeps.isDir_eq (holds_of_foldlM held walked) arrived rfl)
  refine ⟨inner', ⟨enters.written, enters.plain, enters.nameable, here', front, started', rfl,
    walked'⟩, ?_⟩
  rw [at?_concat, arrived] at new
  exact new

end EntersAt

/-! ## Written files -/

/-- Writing puts a file in the place of an entry that is no directory. -/
theorem write_eq_ok_iff {text : String} :
    t.write p text = .ok t' ↔
      ∃ names name inner, t.EntersAt p p.pieces names name inner ∧
        (∀ old, (Node.dir inner).child? name = some old → old.isDir = false) ∧
        t.put (names ++ [name]) (.file (some text)) = t' := by
  unfold write
  constructor
  · intro written
    obtain ⟨⟨place, name⟩, located, written⟩ := bind_eq_ok_iff.mp written
    dsimp only at written
    split_ifs at written with taken unnameable
    · obtain ⟨inner, dir, enters⟩ := exists_entersAt located taken (by simpa using unnameable)
      rw [dir] at written
      refine ⟨place.names, name, inner, enters, ?_⟩
      cases found : (Node.dir inner).child? name with
      | none =>
        rw [found] at written
        exact ⟨nofun, Except.ok.inj written⟩
      | some old =>
        rw [found] at written
        cases old with
        | dir entries => cases written
        | file old =>
          -- Only a file is ever replaced.
          refine ⟨fun _ same => ?_, Except.ok.inj written⟩
          rw [← Option.some.inj same]
          rfl
  · rintro ⟨names, name, inner, enters, free, rfl⟩
    refine bind_eq_ok_iff.mpr ⟨_, enters.locateLast_eq, ?_⟩
    dsimp only
    rw [if_neg enters.plain, enters.nameable, if_neg (by simp)]
    cases found : (Node.dir inner).child? name with
    | none => rfl
    | some old =>
      cases old with
      | dir entries => cases free _ found
      | file old => rfl

/-- Writing keeps all places. -/
theorem keeps_of_write {text : String} (written : t.write p text = .ok t') : t.Keeps t' := by
  obtain ⟨names, name, inner, enters, free, rfl⟩ := write_eq_ok_iff.mp written
  exact keeps_put enters.at?_eq fun old found => ⟨free old found, rfl⟩

/-- What was written lies where the path leads. -/
theorem exists_entersAt_of_write {text : String} (written : t.write p text = .ok t') :
    ∃ names name inner, t'.EntersAt p p.pieces names name inner ∧
      (Node.dir inner).child? name = some (.file (some text)) := by
  obtain ⟨names, name, inner, enters, free, rfl⟩ := write_eq_ok_iff.mp written
  have replaces : ∀ old, (Node.dir inner).child? name = some old →
      old.isDir = false ∧ (Node.file (some text)).isDir = false :=
    fun old found => ⟨free old found, rfl⟩
  obtain ⟨inner', after, child⟩ := enters.put replaces
  exact ⟨names, name, inner', after, child⟩

/-- What was written is read back. -/
theorem read_of_write {text : String} (written : t.write p text = .ok t') :
    t'.read p = .ok text := by
  obtain ⟨names, name, inner, enters, child⟩ := exists_entersAt_of_write written
  obtain ⟨here, started, walked⟩ := enters.exists_walk child
  exact read_eq_ok_iff.mpr ⟨_, locate_eq_ok_iff.mpr ⟨enters.written, here, started, walked⟩, rfl⟩

/-! ## Saved files -/

/-- Makes the directories above a path, and says whether they are there now. -/
def prepare (t : FileTree) (p : Path) : FileTree × Bool :=
  match p.parent? with
  | some dir => if dir.text.isEmpty then (t, true) else t.makeDirs dir
  | none => (t, true)

/-- Saving is writing once all is prepared. -/
theorem save_eq (t : FileTree) (p : Path) (text : String) :
    t.save p text =
      if (t.prepare p).2 then
        match (t.prepare p).1.write p text with
        | .ok after => (after, true)
        | .error _ => ((t.prepare p).1, false)
      else ((t.prepare p).1, false) := by
  rfl

/-- A file that was saved is read back. -/
theorem read_of_save {text : String} (saved : t.save p text = (t', true)) :
    t'.read p = .ok text := by
  rw [save_eq] at saved
  split at saved
  · split at saved
    · rename_i written
      cases saved
      exact read_of_write written
    · cases saved
  · cases saved

end PageLint.FileTree
