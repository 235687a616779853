import PageLint.Proofs.FileTree.Making
import PageLint.Proofs.FileTree.Straight

/-!
# Saved files

Saving a file makes the directories above it and then writes it. Directories are made where there
was nothing, and a file takes the place of a file or of nothing, so no other file is touched,
whether saving succeeds or not. Saving again finds everything in its place.

## Main results

* `agreesBut_save` — saving touches no other file
* `save_again` — saving again changes nothing
-/

namespace PageLint.FileTree

variable {t t' : FileTree} {p q : Path} {names : List String} {name text : String}

/-! ## Other files -/

section Entries

variable {n : Node} {entries inner : List (String × Node)}

/-- A node without entries that is put where there were none adds no file, save itself, and takes
none away, save what was there. -/
theorem descend_putAt_eq_file_iff {way : List String} {text : Option String}
    (above : (Node.dir entries).descend names = some (.dir inner))
    (replaces : ∀ old, (Node.dir inner).child? name = some old → old.entries = [])
    (plain : n.entries = []) (apart : way ≠ names ++ [name]) :
    (Node.dir (putAt n (names ++ [name]) entries)).descend way = some (.file text) ↔
      (Node.dir entries).descend way = some (.file text) := by
  -- Nothing lies below a node without entries.
  have bare {m : Node} (none : m.entries = []) {first : String} {rest : List String} :
      ¬ m.descend (first :: rest) = some (.file text) := by
    simp [Node.descend, Node.child?, none]
  induction names generalizing entries way with
  | nil =>
    cases above
    cases way with
    | nil => simp [Node.descend]
    | cons first way =>
      by_cases same : first = name
      · subst same
        obtain ⟨second, rest, rfl⟩ : ∃ second rest, way = second :: rest := by
          cases way with
          | nil => exact absurd rfl apart
          | cons second rest => exact ⟨second, rest, rfl⟩
        rw [List.nil_append, putAt, Node.descend, child?_putEntry_self, Option.bind_some,
          iff_false_left (bare plain), Node.descend]
        intro found
        obtain ⟨old, child, below⟩ := Option.bind_eq_some_iff.mp found
        exact bare (replaces old child) below
      · rw [List.nil_append, putAt, Node.descend, child?_putEntry_of_ne same, Node.descend]
  | cons second names ih =>
    obtain ⟨next, child, rest⟩ := Option.bind_eq_some_iff.mp above
    obtain ⟨middle, rfl⟩ := Node.exists_dir_of_descend rest
    rw [List.cons_append, putAt_cons names child]
    cases way with
    | nil => simp [Node.descend]
    | cons first way =>
      by_cases same : first = second
      · subst same
        rw [Node.descend, child?_putEntry_self, Option.bind_some, Node.descend, child,
          Option.bind_some]
        refine ih rest fun same => apart ?_
        rw [same, List.cons_append]
      · rw [Node.descend, child?_putEntry_of_ne same, Node.descend]

end Entries

theorem agreesBut_makeDir (made : t.makeDir p = .ok t') (names : List String) :
    AgreesBut names t t' := by
  obtain ⟨above, name, inner, enters, free, rfl⟩ := makeDir_eq_ok_iff.mp made
  refine ⟨rfl, fun {others text} _ => ?_⟩
  by_cases own : others = above ++ [name]
  · -- Where the directory is made there was no file, and there is none now.
    rw [own, at?_put enters.at?_eq, at?_concat, enters.at?_eq, Option.bind_some, free]
    simp
  · refine descend_putAt_eq_file_iff enters.at?_eq (fun old found => ?_) rfl own
    rw [free] at found
    cases found

theorem agreesBut_write (written : t.write p text = .ok t') :
    AgreesBut (t.destination p) t t' := by
  obtain ⟨above, name, inner, enters, free, rfl⟩ := write_eq_ok_iff.mp written
  have own : t.destination p = above ++ [name] := enters.foldl_onward_eq
  refine ⟨rfl, fun apart => ?_⟩
  rw [own] at apart
  refine descend_putAt_eq_file_iff enters.at?_eq (fun old found => ?_) rfl apart
  cases old with
  | file text => rfl
  | dir entries => cases free _ found

theorem agreesBut_makeAll (ps : List Path) (names : List String) :
    AgreesBut names t (t.makeAll ps).1 := by
  induction ps with
  | nil => exact .refl names t
  | cons p ps ih =>
    rw [makeAll]
    split
    · exact .refl names t
    · split
      · rename_i made
        exact agreesBut_makeDir made names
      · split
        · rename_i failed
          rw [failed] at ih
          exact ih
        · rename_i prepared
          rw [prepared] at ih
          split
          · rename_i made
            exact ih.trans (agreesBut_makeDir made names)
          · exact ih
      · exact .refl names t

theorem agreesBut_prepare (t : FileTree) (p : Path) (names : List String) :
    AgreesBut names t (t.prepare p).1 := by
  rw [prepare]
  split
  · split
    · exact .refl names t
    · rw [makeDirs]
      split
      · exact .refl names t
      · exact agreesBut_makeAll _ names
  · exact .refl names t

/-- Saving touches no other file. -/
theorem agreesBut_save (t : FileTree) (p : Path) (text : String) :
    AgreesBut (t.destination p) t (t.save p text).1 := by
  have prepared := agreesBut_prepare t p (t.destination p)
  rw [save_eq]
  split
  · split
    · rename_i written
      have last := agreesBut_write written
      rw [prepared.destination_eq p] at last
      exact prepared.trans last
    · exact prepared
  · exact prepared

/-! ## Saving again -/

section Entries

variable {n : Node} {entries inner : List (String × Node)}

theorem putEntry_self (there : (Node.dir entries).child? name = some n) :
    putEntry name n entries = entries := by
  induction entries with
  | nil => cases there
  | cons entry entries ih =>
    obtain ⟨key, old⟩ := entry
    by_cases same : key = name
    · simp [Node.child?, Node.entries, same] at there
      rw [putEntry, if_pos same, same, there]
    · simp [Node.child?, Node.entries, same] at there
      rw [putEntry, if_neg same, ih (by simpa [Node.child?, Node.entries] using there)]

/-- Putting a node where it is changes nothing. -/
theorem putAt_self (above : (Node.dir entries).descend names = some (.dir inner))
    (there : (Node.dir inner).child? name = some n) :
    putAt n (names ++ [name]) entries = entries := by
  induction names generalizing entries with
  | nil =>
    cases above
    exact putEntry_self there
  | cons first names ih =>
    obtain ⟨next, child, rest⟩ := Option.bind_eq_some_iff.mp above
    obtain ⟨middle, rfl⟩ := Node.exists_dir_of_descend rest
    rw [List.cons_append, putAt_cons names child, ih rest]
    exact putEntry_self child

end Entries

/-- Writing again changes nothing. -/
theorem write_again (written : t.write p text = .ok t') : t'.write p text = .ok t' := by
  obtain ⟨names, name, inner, enters, child⟩ := exists_entersAt_of_write written
  refine write_eq_ok_iff.mpr ⟨names, name, inner, enters, fun old found => ?_, ?_⟩
  · rw [child] at found
    cases found
    rfl
  · rw [put, putAt_self enters.at?_eq child]

theorem prepare_eq_of_parent? (above : p.parent? = some q) :
    t.prepare p = if q.text.isEmpty then (t, true) else t.makeDirs q := by
  rw [prepare, above]

theorem prepare_again {ready : Bool} (prepared : t.prepare p = (t', ready)) :
    t'.prepare p = (t', ready) := by
  cases above : p.parent? with
  | none =>
    rw [prepare, above] at prepared ⊢
    cases prepared
    rfl
  | some q =>
    rw [prepare_eq_of_parent? above] at prepared ⊢
    split at prepared
    · cases prepared
      exact if_pos ‹_›
    · rw [if_neg ‹_›]
      exact makeDirs_again prepared

/-- Where all is prepared it stays so as long as all places are kept. -/
theorem prepare_of_keeps (ready : t.prepare p = (t', true)) {t'' : FileTree}
    (keeps : t'.Keeps t'') : t''.prepare p = (t'', true) := by
  cases above : p.parent? with
  | none => rw [prepare, above]
  | some q =>
    rw [prepare_eq_of_parent? above] at ready ⊢
    split at ready
    · exact if_pos ‹_›
    · rename_i written
      rw [Bool.not_eq_true] at written
      rw [written, if_neg Bool.false_ne_true]
      exact makeDirs_of_isDir (keeps.isDir (isDir_of_makeDirs written ready))

/-- Saving again changes nothing, and succeeds if it did so before. -/
theorem save_again {saved : Bool} (done : t.save p text = (t', saved)) :
    t'.save p text = (t', saved) := by
  rw [save_eq] at done ⊢
  cases prepared : t.prepare p with
  | mk t₁ ready =>
    rw [prepared] at done
    cases ready with
    | false =>
      cases done
      rw [prepare_again prepared]
      rfl
    | true =>
      dsimp only at done
      rw [if_pos rfl] at done
      cases written : t₁.write p text with
      | error cause =>
        -- The tree is left as it was prepared, and writing fails there as it did.
        rw [written] at done
        cases done
        rw [prepare_again prepared]
        dsimp only
        rw [if_pos rfl, written]
      | ok after =>
        -- Writing leaves the directories that were prepared.
        rw [written] at done
        cases done
        rw [prepare_of_keeps prepared (keeps_of_write written)]
        dsimp only
        rw [if_pos rfl, write_again written]

end PageLint.FileTree
