import PageLint.Proofs.Text.Trail

/-!
# The layout of a descriptor does not matter

A fragment is looked for by an expression that lets any blanks stand between its characters. A line
therefore shows it exactly if the fragment occurs in the line once the blanks are taken out of both.
So a search sees of every line, and of every fragment, only what is left without blanks: it can be
done on that alone, and descriptors that differ in nothing but their layout give the same answers.

## Main definitions

* `SameButBlanks` — two texts differ in nothing but their blanks

## Main results

* `chain_squeeze` — the search for a chain of fragments without any blanks
* `isMatch_fragmentRegex_iff` — the expression of a fragment tests containment without blanks
-/

namespace PageLint.Text

/-- The texts are the same but for their blanks. -/
def SameButBlanks (cs ds : List Char) : Prop := squeeze cs = squeeze ds

instance (cs ds : List Char) : Decidable (SameButBlanks cs ds) := inferInstanceAs (Decidable (_ = _))

/-- Texts that are pairwise the same but for their blanks leave the same without them. -/
theorem map_squeeze_eq_iff {as bs : List (List Char)} :
    as.map squeeze = bs.map squeeze ↔ List.Forall₂ SameButBlanks as bs := by
  rw [← List.forall₂_eq_eq_eq, List.forall₂_map_left_iff, List.forall₂_map_right_iff]
  rfl

/-- A line shows a fragment exactly if it does so without the blanks of either. -/
theorem shows_squeeze (line fragment : List Char) :
    shows (squeeze line) (squeeze fragment) = shows line fragment := by
  rw [Bool.eq_iff_iff, shows_iff, shows_iff, squeeze_squeeze, squeeze_squeeze]

/-- The search takes the same lines when there are no blanks. -/
theorem chain_squeeze (fragments ls : List (List Char)) :
    chain (fragments.map squeeze) (ls.map squeeze) = chain fragments ls := by
  induction fragments generalizing ls with
  | nil => rfl
  | cons fragment fragments ih =>
    have taken : (ls.map squeeze).findIdx? (shows · (squeeze fragment)) =
        ls.findIdx? (shows · fragment) := by
      rw [List.findIdx?_map]
      congr 1
      funext line
      exact shows_squeeze line fragment
    rw [List.map_cons, chain, chain, taken]
    cases ls.findIdx? (shows · fragment) with
    | none => rfl
    | some i =>
      dsimp only
      rw [← List.map_drop, ih]

/-- The fragments that are not blank throughout are those of which something is left. -/
theorem map_squeeze_visible (fragments : List String) :
    (visible fragments).map squeeze =
      ((fragments.map String.toList).map squeeze).filter fun cs => !cs.isEmpty := by
  rw [visible, List.filter_map (f := squeeze)]
  congr 1
  refine List.filter_congr fun f _ => ?_
  rw [Bool.eq_iff_iff]
  simp [squeeze]

/-- The answer to a search depends on what is left of the lines and of the fragments without their
blanks. -/
theorem findLine_congr {text text' : String} {fragments fragments' : List String}
    (lined : List.Forall₂ SameButBlanks (lines text.toList) (lines text'.toList))
    (worded : List.Forall₂ (fun f f' => SameButBlanks f.toList f'.toList) fragments fragments') :
    findLine text fragments = findLine text' fragments' := by
  have sameLines : (lines text.toList).map squeeze = (lines text'.toList).map squeeze :=
    map_squeeze_eq_iff.mpr lined
  have sameWords : (visible fragments).map squeeze = (visible fragments').map squeeze := by
    have left : (fragments.map String.toList).map squeeze =
        (fragments'.map String.toList).map squeeze :=
      map_squeeze_eq_iff.mpr
        (List.forall₂_map_left_iff.mpr (List.forall₂_map_right_iff.mpr worded))
    rw [map_squeeze_visible, map_squeeze_visible, left]
  rw [findLine_eq, findLine_eq, ← chain_squeeze, ← chain_squeeze (visible fragments'), sameLines,
    sameWords]

/-- A fragment that is not blank throughout is looked for by an expression, which is found in a line
exactly if the fragment is a part of the line, where the blanks of both are left out. So a search
gives the same answer for texts whose lines are the same but for their blanks, and for fragments
that are. -/
theorem isMatch_fragmentRegex_iff :
    (∀ fragment line : List Char, (∃ c ∈ fragment, isBlank c = false) →
        ∃ r, fragmentRegex? fragment = some r ∧
          (r.isMatch line = true ↔ squeeze fragment <:+: squeeze line)) ∧
      ∀ (text text' : String) (fragments fragments' : List String),
        List.Forall₂ SameButBlanks (lines text.toList) (lines text'.toList) →
          List.Forall₂ (fun f f' => SameButBlanks f.toList f'.toList) fragments fragments' →
            findLine text fragments = findLine text' fragments' := by
  constructor
  · intro fragment line solid
    have some_left : squeeze fragment ≠ [] := by simpa [squeeze] using solid
    refine ⟨_, (fragmentRegex?_eq fragment).trans (if_neg some_left), ?_⟩
    exact Regex.isMatch_spaced_iff fun _ => not_isBlank_of_mem_squeeze
  · intro text text' fragments fragments' lined worded
    exact findLine_congr lined worded

/-- A selector that is full of characters with a meaning to expressions is found in two layouts of
one descriptor. -/
theorem isMatch_fragmentRegex_iff_anchor :
    let fragment := quoted "a[href$='.(*)'] | \\^x"
    let line := " \"css\" :\t\"a [href $= '.(*)']|\\^x\" ,"
    let text := "\x7b\n" ++ line
    let text' := " \x7b\r\n\"css\":\"a[href$='. ( * )'] | \\ ^x\"\u00a0,\n"
    (∃ c ∈ fragment.toList, isBlank c = false) ∧
      (∃ r, fragmentRegex? fragment.toList = some r ∧
        (r.isMatch line.toList = true ↔ squeeze fragment.toList <:+: squeeze line.toList) ∧
        r.isMatch line.toList = true) ∧
      List.Forall₂ SameButBlanks (lines text.toList) (lines text'.toList) ∧
      findLine text [fragment] = findLine text' [fragment ++ " "] ∧
      findLine text [fragment] = 2 := by
  intro fragment line text text'
  have solid : ∃ c ∈ fragment.toList, isBlank c = false := ⟨'a', by decide, by decide⟩
  obtain ⟨r, compiled, found⟩ := isMatch_fragmentRegex_iff.1 fragment.toList line.toList solid
  have lined : List.Forall₂ SameButBlanks (lines text.toList) (lines text'.toList) :=
    map_squeeze_eq_iff.mp (by decide)
  refine ⟨solid, ⟨r, compiled, found, ?_⟩, lined, ?_, ?_⟩
  · exact found.mpr (by decide)
  · exact isMatch_fragmentRegex_iff.2 _ _ _ _ lined (.cons (by decide) .nil)
  · decide

end PageLint.Text
