import Mathlib.Data.List.Infix
import PageLint.Text.Lines

/-!
# What an expression finds

The reader and the matcher of expressions work character by character. What they amount to is said
here apart from them: which texts are matches of an expression, and that an expression is found
exactly where a part of the text is a match.

The expression of a fragment is written with escapes, so that every character of the fragment is
read back as itself, whatever it means to an expression. Its matches are the characters of the
fragment with any blanks between them. Such a part occurs in a line exactly if the fragment occurs
in it once the blanks are taken out of both.

## Main definitions

* `Regex.Matches` — a text is a match of items
* `Regex.spaced` — the items for some characters with any blanks between them

## Main results

* `Regex.isMatch_iff` — an expression is found where some part of the text is a match
* `fragmentRegex?_eq` — the expression of a fragment
* `shows_iff` — which fragments a line shows
-/

namespace PageLint.Text

namespace Regex

/-! ## Matches -/

/-- The item stands for the characters: its atom stands for each of them, and unless it is repeated
there is one. -/
def Item.Covers (i : Item) (run : List Char) : Prop :=
  (∀ c ∈ run, i.atom.accepts c = true) ∧ (i.repeated = true ∨ run.length = 1)

/-- The text is a match of the items: each of them stands for some characters of it, one item after
the other. -/
def Matches : List Item → List Char → Prop
  | [], cs => cs = []
  | i :: is, cs => ∃ run rest, run ++ rest = cs ∧ i.Covers run ∧ Matches is rest

theorem Atom.mem_rests {a : Atom} {cs rest : List Char} :
    rest ∈ a.rests cs ↔ ∃ run, run ++ rest = cs ∧ ∀ c ∈ run, a.accepts c = true := by
  induction cs with
  | nil => simp [Atom.rests]
  | cons c cs ih =>
    -- Either nothing is taken off the text, or its first character is.
    rw [Atom.rests, List.mem_cons]
    constructor
    · intro left
      rcases left with whole | left
      · exact ⟨[], whole, by simp⟩
      · by_cases accepted : a.accepts c = true
        · rw [if_pos accepted] at left
          obtain ⟨run, parts, all⟩ := ih.mp left
          exact ⟨c :: run, congrArg (c :: ·) parts, List.forall_mem_cons.mpr ⟨accepted, all⟩⟩
        · rw [if_neg accepted] at left
          exact absurd left List.not_mem_nil
    · intro taken
      obtain ⟨run, parts, all⟩ := taken
      cases run with
      | nil => exact .inl parts
      | cons d run =>
        obtain ⟨rfl, behind⟩ := List.cons.inj parts
        obtain ⟨accepted, all⟩ := List.forall_mem_cons.mp all
        rw [if_pos accepted]
        exact .inr (ih.mpr ⟨run, behind, all⟩)

/-- An item that is not repeated stands for one character. -/
theorem Item.covers_once_iff {a : Atom} {run : List Char} :
    Item.Covers ⟨a, false⟩ run ↔ ∃ c, a.accepts c = true ∧ run = [c] := by
  constructor
  · intro covered
    obtain ⟨all, one⟩ := covered
    obtain ⟨c, rfl⟩ := List.length_eq_one_iff.mp (one.resolve_left Bool.false_ne_true)
    exact ⟨c, all c List.mem_cons_self, rfl⟩
  · intro single
    obtain ⟨c, accepted, rfl⟩ := single
    exact ⟨by simpa using accepted, .inr rfl⟩

theorem Item.mem_rests {i : Item} {cs rest : List Char} :
    rest ∈ i.rests cs ↔ ∃ run, run ++ rest = cs ∧ i.Covers run := by
  obtain ⟨a, repeated⟩ := i
  cases repeated with
  | true => simp [Item.rests, Item.Covers, Atom.mem_rests]
  | false =>
    simp only [Item.covers_once_iff]
    cases cs with
    | nil => simp [Item.rests]
    | cons c cs =>
      constructor
      · intro left
        by_cases accepted : a.accepts c = true
        · have whole : rest = cs := by simpa [Item.rests, accepted] using left
          exact ⟨[c], by rw [whole]; rfl, c, accepted, rfl⟩
        · simp [Item.rests, accepted] at left
      · intro taken
        obtain ⟨_, parts, d, accepted, rfl⟩ := taken
        obtain ⟨rfl, behind⟩ := List.cons.inj parts
        simpa [Item.rests, accepted] using behind

/-- What is left behind the items is what stands behind a match at the front. -/
theorem mem_restsBehind {is : List Item} {cs rest : List Char} :
    rest ∈ restsBehind is cs ↔ ∃ found, found ++ rest = cs ∧ Matches is found := by
  induction is generalizing cs with
  | nil => simp [restsBehind, Matches, eq_comm]
  | cons i is ih =>
    rw [restsBehind, List.mem_flatMap]
    constructor
    · intro left
      obtain ⟨mid, behind, left⟩ := left
      obtain ⟨run, rfl, covered⟩ := Item.mem_rests.mp behind
      obtain ⟨found, rfl, others⟩ := ih.mp left
      exact ⟨run ++ found, List.append_assoc .., run, found, rfl, covered, others⟩
    · intro front
      obtain ⟨_, rfl, run, found, rfl, covered, others⟩ := front
      refine ⟨found ++ rest, Item.mem_rests.mpr ⟨run, ?_, covered⟩, ih.mpr ⟨found, rfl, others⟩⟩
      exact (List.append_assoc ..).symm

theorem beginsMatch_iff {r : Regex} {cs : List Char} :
    r.beginsMatch cs = true ↔ ∃ found, found <+: cs ∧ Matches r.items found := by
  have some_left : r.beginsMatch cs = true ↔ ∃ rest, rest ∈ restsBehind r.items cs := by
    rw [beginsMatch, Bool.not_eq_true', List.isEmpty_eq_false_iff_exists_mem]
  rw [some_left]
  constructor
  · intro left
    obtain ⟨rest, left⟩ := left
    obtain ⟨found, parts, whole⟩ := mem_restsBehind.mp left
    exact ⟨found, ⟨rest, parts⟩, whole⟩
  · intro front
    obtain ⟨found, ⟨rest, parts⟩, whole⟩ := front
    exact ⟨rest, mem_restsBehind.mpr ⟨found, parts, whole⟩⟩

/-- An expression is found in a text exactly if some part of the text is a match. -/
theorem isMatch_iff {r : Regex} {cs : List Char} :
    r.isMatch cs = true ↔ ∃ found, found <:+: cs ∧ Matches r.items found := by
  induction cs with
  | nil =>
    rw [isMatch, beginsMatch_iff]
    simp only [List.prefix_nil, List.infix_nil]
  | cons c cs ih =>
    rw [isMatch, Bool.or_eq_true, beginsMatch_iff, ih, ← exists_or]
    simp only [List.infix_cons_iff, or_and_right]

/-! ## Characters with any blanks between them -/

/-- The items for the characters, with any blanks between them. -/
def spaced : List Char → List Item
  | [] => []
  | [c] => [⟨.literal c, false⟩]
  | c :: d :: cs => ⟨.literal c, false⟩ :: ⟨.blank, true⟩ :: spaced (d :: cs)

@[simp] theorem covers_literal_iff {c : Char} {run : List Char} :
    Item.Covers ⟨.literal c, false⟩ run ↔ run = [c] := by
  simp [Item.covers_once_iff, Atom.accepts]

@[simp] theorem covers_blank_iff {run : List Char} :
    Item.Covers ⟨.blank, true⟩ run ↔ squeeze run = [] := by
  simp [Item.Covers, Atom.accepts, squeeze]

/-- A match of spaced characters has nothing but them and blanks. -/
theorem squeeze_of_matches {cs found : List Char} (solid : ∀ c ∈ cs, isBlank c = false)
    (whole : Matches (spaced cs) found) : squeeze found = cs := by
  induction cs using spaced.induct generalizing found with
  | case1 =>
    rw [whole]
    rfl
  | case2 c =>
    obtain ⟨run, rest, rfl, covered, rfl⟩ := whole
    have own : isBlank c = false := solid c List.mem_cons_self
    rw [covers_literal_iff.mp covered, List.append_nil]
    simp [squeeze, own]
  | case3 c d cs ih =>
    obtain ⟨run, _, rfl, covered, gap, rest, rfl, blanks, others⟩ := whole
    obtain ⟨own, later⟩ := List.forall_mem_cons.mp solid
    rw [squeeze_append, squeeze_append, covers_literal_iff.mp covered,
      covers_blank_iff.mp blanks, ih later others]
    simp [squeeze, own]

/-- A text that begins with a character, and is some others without its blanks, begins with a match
of all of them. -/
theorem exists_matches_spaced {c : Char} {cs text : List Char} (kept : squeeze text = cs) :
    ∃ found, found <+: c :: text ∧ Matches (spaced (c :: cs)) found := by
  induction cs generalizing c text with
  | nil =>
    refine ⟨[c], ⟨text, rfl⟩, [c], [], rfl, covers_literal_iff.mpr rfl, rfl⟩
  | cons d cs ih =>
    -- The text goes on with blanks up to the next character, which begins a match of the others.
    obtain ⟨blanks, later, rfl, blank, -, others⟩ := List.filter_eq_cons_iff.mp kept
    obtain ⟨found, ⟨rest, behind⟩, whole⟩ := ih (c := d) others
    have none_left : squeeze blanks = [] := List.filter_eq_nil_iff.mpr blank
    refine ⟨c :: (blanks ++ found), ⟨rest, ?_⟩, [c], _, rfl, covers_literal_iff.mpr rfl,
      blanks, found, rfl, covers_blank_iff.mpr none_left, whole⟩
    simp [behind]

/-- Spaced characters are found in a text exactly if they occur in it without its blanks. -/
theorem isMatch_spaced_iff {cs text : List Char} (solid : ∀ c ∈ cs, isBlank c = false) :
    (Regex.mk (spaced cs)).isMatch text = true ↔ cs <:+: squeeze text := by
  rw [isMatch_iff]
  constructor
  · intro found
    obtain ⟨found, part, whole⟩ := found
    rw [← squeeze_of_matches solid whole]
    exact part.filter _
  · intro part
    cases cs with
    | nil => exact ⟨[], List.nil_infix, rfl⟩
    | cons c cs =>
      obtain ⟨front, back, parts⟩ := part
      -- What the characters are left of is cut out of the text, from their first one on.
      obtain ⟨head, tail, rfl, parts, -⟩ := List.filter_eq_append_iff.mp parts.symm
      obtain ⟨before, inside, rfl, -, kept⟩ := List.filter_eq_append_iff.mp parts
      obtain ⟨blanks, text, rfl, -, -, others⟩ := List.filter_eq_cons_iff.mp kept
      obtain ⟨found, first, whole⟩ := exists_matches_spaced (c := c) others
      refine ⟨found, ?_, whole⟩
      have placed : c :: text <:+: before ++ (blanks ++ c :: text) ++ tail :=
        ⟨before ++ blanks, tail, by simp⟩
      exact first.isInfix.trans placed

/-! ## What is written is read -/

theorem signs?_escape (c : Char) (cs : List Char) :
    signs? (escape c ++ cs) = (signs? cs).map (.atom (.literal c) :: ·) := by
  unfold escape
  split
  · rename_i special
    have read : escaped? c = some (.literal c) := if_pos special
    simp [signs?, read]
  · rename_i plain
    rw [List.singleton_append, signs?, if_neg plain]
    -- The character is neither a backslash nor a star, both of which are escaped.
    · intro _ _ same _
      exact plain (by rw [same]; rfl)
    · intro same
      exact plain (by rw [same]; rfl)

theorem signs?_anyBlanks (cs : List Char) :
    signs? (anyBlanks ++ cs) = (signs? cs).map fun signs => .atom .blank :: .star :: signs := by
  have read : escaped? 's' = some .blank := rfl
  simp [anyBlanks, signs?, read, Function.comp_def]

/-- Escaped characters with any blanks between them are read as these items. -/
theorem ofText?_intercalate (cs : List Char) :
    ofText? (anyBlanks.intercalate (cs.map escape)) = some ⟨spaced cs⟩ := by
  have read : ∃ signs, signs? (anyBlanks.intercalate (cs.map escape)) = some signs ∧
      items? signs = some (spaced cs) := by
    induction cs using spaced.induct with
    | case1 => exact ⟨[], rfl, rfl⟩
    | case2 c =>
      refine ⟨[.atom (.literal c)], ?_, rfl⟩
      have alone := signs?_escape c []
      rw [List.append_nil] at alone
      simp [alone, signs?]
    | case3 c d cs ih =>
      obtain ⟨signs, later, items⟩ := ih
      refine ⟨.atom (.literal c) :: .atom .blank :: .star :: signs, ?_, ?_⟩
      · rw [List.map_cons, List.map_cons, List.intercalate_cons_cons, ← List.map_cons,
          List.append_assoc, signs?_escape, signs?_anyBlanks, later]
        rfl
      · simp [items?, items, spaced]
  obtain ⟨signs, written, items⟩ := read
  simp [ofText?, written, items]

end Regex

/-- The expression of a fragment is that of its characters with any blanks between them, where the
blanks of the fragment are left out. -/
theorem fragmentRegex?_eq (fragment : List Char) :
    fragmentRegex? fragment =
      if squeeze fragment = [] then none else some ⟨Regex.spaced (squeeze fragment)⟩ := by
  unfold fragmentRegex?
  simp [Regex.ofText?_intercalate]

/-- A fragment has an expression exactly if it is not blank throughout. -/
theorem isSome_fragmentRegex? (fragment : List Char) :
    (fragmentRegex? fragment).isSome = fragment.any fun c => !isBlank c := by
  rw [fragmentRegex?_eq, Bool.eq_iff_iff]
  split
  · rename_i none
    simpa [squeeze] using none
  · rename_i some
    simpa [squeeze] using some

theorem not_isBlank_of_mem_squeeze {c : Char} {cs : List Char} (kept : c ∈ squeeze cs) :
    isBlank c = false := by
  simpa using (List.mem_filter.mp kept).2

/-- A line shows a fragment exactly if the fragment occurs in it, where the blanks of both are left
out. No line shows a fragment of blanks alone. -/
theorem shows_iff {line fragment : List Char} :
    shows line fragment = true ↔
      squeeze fragment ≠ [] ∧ squeeze fragment <:+: squeeze line := by
  rw [shows, fragmentRegex?_eq]
  split
  · rename_i none
    simp [none]
  · rename_i some
    simp [Regex.isMatch_spaced_iff fun _ => not_isBlank_of_mem_squeeze, some]

end PageLint.Text
