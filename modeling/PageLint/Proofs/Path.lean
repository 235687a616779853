import Mathlib.Data.List.Infix
import Mathlib.Data.List.Induction
import PageLint.Path

/-!
# Pieces, parts and names

A path is cut at its slashes, and pieces without slashes are what comes out when they were put
between slashes. So an absolute path that is made of names has these names for its pieces, and the
paths above it are made of the names before the last. The parts of a path forget the pieces that lead
nowhere, and nothing else.

## Main definitions

* `Path.IsName` — a text that can name an entry of a directory
* `Path.ofNames` — the absolute path of some names

## Main results

* `pieces_intercalate` — pieces without slashes are cut where they were put together
* `withParents_ofNames` — the paths above a path that is made of names
* `eq_of_parts_eq` — what two paths with the same parts have in common
-/

namespace PageLint.Path

/-! ## Pieces -/

theorem pieces_ne_nil (p : Path) : p.pieces ≠ [] := by
  rw [pieces, Ne, List.map_eq_nil_iff]
  exact List.splitOn_ne_nil _ _

theorem not_mem_of_mem_splitOn {cs piece : List Char} (listed : piece ∈ cs.splitOn '/') :
    '/' ∉ piece := by
  induction cs generalizing piece with
  | nil =>
    rw [List.splitOn_nil, List.mem_singleton] at listed
    rw [listed]
    exact List.not_mem_nil
  | cons c cs ih =>
    rw [List.splitOn_cons_eq_if_modifyHead] at listed
    split at listed
    · rcases List.mem_cons.mp listed with rfl | later
      · exact List.not_mem_nil
      · exact ih later
    · rename_i plain
      obtain ⟨first, later, found⟩ := List.exists_cons_of_ne_nil (List.splitOn_ne_nil '/' cs)
      rw [found] at listed ih
      -- The first piece is longer by a character that is no slash, and the others are the same.
      rcases List.mem_cons.mp listed with rfl | other
      · have clean : '/' ∉ first := ih List.mem_cons_self
        rw [List.mem_cons, not_or]
        exact ⟨fun same => plain (beq_iff_eq.mpr same.symm), clean⟩
      · exact ih (List.mem_cons_of_mem _ other)

theorem not_mem_of_mem_pieces {p : Path} {piece : String} (listed : piece ∈ p.pieces) :
    '/' ∉ piece.toList := by
  obtain ⟨cs, member, rfl⟩ := List.mem_map.mp listed
  rw [String.toList_ofList]
  exact not_mem_of_mem_splitOn member

/-- What is put together has no characters but those of its pieces and the one between them. -/
theorem mem_of_mem_intercalate {c d : Char} {pieces : List (List Char)}
    (within : c ∈ [d].intercalate pieces) : c = d ∨ ∃ piece ∈ pieces, c ∈ piece := by
  induction pieces with
  | nil => cases within
  | cons piece pieces ih =>
    cases pieces with
    | nil =>
      rw [List.intercalate_singleton] at within
      exact .inr ⟨piece, List.mem_singleton_self piece, within⟩
    | cons next pieces =>
      simp only [List.intercalate_cons_cons, List.mem_append, List.mem_singleton] at within
      rcases within with (own | between) | others
      · exact .inr ⟨piece, List.mem_cons_self, own⟩
      · exact .inl between
      · obtain separates | ⟨other, listed, inner⟩ := ih others
        · exact .inl separates
        · exact .inr ⟨other, List.mem_cons_of_mem piece listed, inner⟩

/-- What is put together has all characters of its pieces. -/
theorem mem_intercalate_of_mem {c : Char} {separator piece : List Char} {pieces : List (List Char)}
    (listed : piece ∈ pieces) (within : c ∈ piece) : c ∈ separator.intercalate pieces := by
  induction pieces with
  | nil => cases listed
  | cons first pieces ih =>
    cases pieces with
    | nil =>
      rw [List.intercalate_singleton, ← List.mem_singleton.mp listed]
      exact within
    | cons next pieces =>
      rw [List.intercalate_cons_cons, List.append_assoc, List.mem_append, List.mem_append]
      rcases List.mem_cons.mp listed with rfl | other
      · exact .inl within
      · exact .inr (.inr (ih other))

theorem mem_of_mem_of_mem_splitOn {cs piece : List Char} {c : Char}
    (listed : piece ∈ cs.splitOn '/') (within : c ∈ piece) : c ∈ cs := by
  have whole : ['/'].intercalate (cs.splitOn '/') = cs := List.intercalate_splitOn '/'
  rw [← whole]
  exact mem_intercalate_of_mem listed within

/-- A piece of a path has no characters but those of the path. -/
theorem mem_of_mem_of_mem_pieces {p : Path} {piece : String} {c : Char} (listed : piece ∈ p.pieces)
    (within : c ∈ piece.toList) : c ∈ p.text.toList := by
  obtain ⟨cs, member, rfl⟩ := List.mem_map.mp listed
  rw [String.toList_ofList] at within
  exact mem_of_mem_of_mem_splitOn member within

/-- The pieces of a text that was put together with slashes. -/
theorem pieces_intercalate {pieces : List String} (nonempty : pieces ≠ [])
    (plain : ∀ piece ∈ pieces, '/' ∉ piece.toList) :
    (Path.mk ("/".intercalate pieces)).pieces = pieces := by
  have split : ("/".intercalate pieces).toList.splitOn '/' = pieces.map String.toList := by
    rw [String.toList_intercalate]
    refine List.splitOn_intercalate '/' (fun piece listed => ?_) (by simpa using nonempty)
    obtain ⟨piece, member, rfl⟩ := List.mem_map.mp listed
    exact plain piece member
  rw [Path.pieces, split, List.map_map]
  simp [Function.comp_def]

/-! ## Names -/

/-- The text can name an entry of a directory. -/
def IsName (s : String) : Prop := s ≠ "" ∧ s ≠ "." ∧ s ≠ ".." ∧ '/' ∉ s.toList

instance (s : String) : Decidable (IsName s) := inferInstanceAs (Decidable (_ ∧ _))

/-- The absolute path of some names. -/
def ofNames (names : List String) : Path := ⟨"/" ++ "/".intercalate names⟩

variable {names : List String} {name : String}

theorem ofNames_eq_intercalate (nonempty : names ≠ []) :
    ofNames names = ⟨"/".intercalate ("" :: names)⟩ := by
  rw [ofNames, String.intercalate_cons_of_ne_nil nonempty, String.empty_append]

theorem intercalate_concat_name (nonempty : names ≠ []) :
    "/".intercalate (names ++ [name]) = "/".intercalate names ++ "/" ++ name := by
  rw [String.intercalate_append_of_ne_nil nonempty (List.cons_ne_nil _ _),
    String.intercalate_singleton]

/-- The text of a path that is made of names ends in the last of them. -/
theorem exists_text_ofNames_concat (names : List String) (name : String) :
    ∃ front, (ofNames (names ++ [name])).text = front ++ name := by
  cases names with
  | nil => exact ⟨"/", by rw [List.nil_append, ofNames, String.intercalate_singleton]⟩
  | cons first names =>
    refine ⟨"/" ++ ("/".intercalate (first :: names) ++ "/"), ?_⟩
    rw [ofNames, intercalate_concat_name (List.cons_ne_nil _ _)]
    simp only [String.append_assoc]

theorem pieces_ofNames_nil : (ofNames []).pieces = ["", ""] := by decide

theorem pieces_ofNames (nonempty : names ≠ []) (proper : ∀ s ∈ names, IsName s) :
    (ofNames names).pieces = "" :: names := by
  rw [ofNames_eq_intercalate nonempty]
  refine pieces_intercalate nofun fun piece listed => ?_
  rcases List.mem_cons.mp listed with rfl | listed
  · decide
  · exact (proper piece listed).2.2.2

theorem IsName.isAbsolute_eq_false (proper : IsName name) : (Path.mk name).isAbsolute = false := by
  rw [isAbsolute, beq_eq_false_iff_ne]
  intro starts
  exact proper.2.2.2 (List.mem_of_head? starts)

/-- A path that is made of names goes on with a name. -/
theorem join_ofNames (proper : ∀ s ∈ names, IsName s) (proper' : IsName name) :
    (ofNames names).join ⟨name⟩ = ofNames (names ++ [name]) := by
  have written : (ofNames names).text.isEmpty = false := by simp [ofNames]
  rw [join, proper'.isAbsolute_eq_false, written, if_neg (by simp)]
  rcases List.eq_nil_or_concat names with rfl | ⟨above, last, rfl⟩
  · rw [if_pos (by decide), ofNames, ofNames, List.nil_append, String.intercalate_singleton]
    rfl
  · rw [List.concat_eq_append] at proper ⊢
    obtain ⟨front, text⟩ := exists_text_ofNames_concat above last
    have own : IsName last := proper last (by simp)
    -- The last name has characters, and none of them is a slash.
    have open' : (ofNames (above ++ [last])).text.toList.getLast? ≠ some '/' := by
      have characters : last.toList ≠ [] := by simpa using own.1
      rw [text, String.toList_append, List.getLast?_append_of_ne_nil _ characters]
      exact fun ends => own.2.2.2 (List.mem_of_getLast? ends)
    have joined :
        "/".intercalate (above ++ [last] ++ [name]) =
          "/".intercalate (above ++ [last]) ++ "/" ++ name :=
      intercalate_concat_name (by simp)
    rw [if_neg open', ofNames, ofNames, joined]
    simp only [String.append_assoc]

/-! ## Paths above a path -/

/-- Above a path that is made of names is the one that is made of the names before the last. -/
theorem parent?_ofNames_concat (proper : ∀ s ∈ names ++ [name], IsName s) :
    (ofNames (names ++ [name])).parent? = some (ofNames names) := by
  have own : IsName name := proper name (by simp)
  have others : names.reverse.dropWhile (fun s => s = "" || s = ".") = names.reverse := by
    rcases List.eq_nil_or_concat names with rfl | ⟨above, last, rfl⟩
    · rfl
    · have last : IsName last := proper last (by simp)
      simp [last.1, last.2.1]
  rw [parent?, pieces_ofNames (by simp) proper]
  simp only [List.reverse_append, List.reverse_singleton, List.singleton_append]
  rw [List.dropWhile_cons_of_neg (by simp [own.1, own.2.1])]
  dsimp only
  rw [others, List.reverse_reverse]
  cases names with
  | nil => rfl
  | cons first names => rw [ofNames_eq_intercalate (List.cons_ne_nil _ _)]

theorem length_splitOn_le (cs : List Char) : (cs.splitOn '/').length ≤ cs.length + 1 := by
  induction cs with
  | nil => exact Nat.le_refl _
  | cons c cs ih =>
    rw [List.splitOn_cons_eq_if_modifyHead]
    split
    · exact Nat.succ_le_succ ih
    · rw [List.length_modifyHead]
      exact Nat.le_succ_of_le ih

/-- A path has enough characters for its names to be counted by them. -/
theorem length_le_length_ofNames (proper : ∀ s ∈ names, IsName s) :
    names.length ≤ (ofNames names).text.length := by
  cases names with
  | nil => exact Nat.zero_le _
  | cons first names =>
    have count := congrArg List.length (pieces_ofNames (List.cons_ne_nil _ _) proper)
    have bound := length_splitOn_le (ofNames (first :: names)).text.toList
    rw [pieces, List.length_map] at count
    rw [count, String.length_toList] at bound
    exact Nat.le_of_succ_le_succ bound

theorem upwards_ofNames {count : Nat} (enough : names.length ≤ count)
    (proper : ∀ s ∈ names, IsName s) :
    upwards count (ofNames names) = names.inits.reverse.map ofNames := by
  induction names using List.reverseRecOn generalizing count with
  | nil =>
    cases count with
    | zero => rfl
    | succ count => rfl
  | append_singleton names name ih =>
    cases count with
    | zero => simp at enough
    | succ count =>
      have fewer : names.length ≤ count := by simpa using enough
      have above := ih fewer fun s listed => proper s (List.mem_append_left _ listed)
      rw [upwards, parent?_ofNames_concat proper]
      simp [above, List.inits_append]

/-- The paths above a path that is made of names are made of fewer and fewer of them. -/
theorem withParents_ofNames (proper : ∀ s ∈ names, IsName s) :
    (ofNames names).withParents = names.inits.reverse.map ofNames :=
  upwards_ofNames (length_le_length_ofNames proper) proper

/-! ## Parts -/

/-- A part of a path that leads somewhere from where the path starts. -/
def Part.leads : Part → Bool
  | .root | .here => false
  | .up | .name _ => true

/-- The part that says where a path starts, if it says so. -/
def start? (p : Path) : Option Part :=
  if p.isAbsolute then some .root else if p.pieces.head? = some "." then some .here else none

theorem pieces_of_isAbsolute {p : Path} (absolute : p.isAbsolute = true) :
    ∃ rest, p.pieces = "" :: rest := by
  rw [isAbsolute, beq_iff_eq] at absolute
  obtain ⟨cs, text⟩ := List.head?_eq_some_iff.mp absolute
  rw [pieces, text, List.splitOn_cons_eq_if_modifyHead, if_pos (beq_self_eq_true '/')]
  exact ⟨_, rfl⟩

/-- A path says where it starts, and then its pieces lead on. -/
theorem parts_eq (p : Path) : p.parts = p.start?.toList ++ p.pieces.filterMap Part.ofPiece? := by
  rw [parts, start?]
  cases split : p.pieces with
  | nil => exact absurd split p.pieces_ne_nil
  | cons first rest =>
    cases absolute : p.isAbsolute with
    | true =>
      -- An absolute path starts with an empty piece, which leads nowhere.
      obtain ⟨_, starts⟩ := pieces_of_isAbsolute absolute
      obtain rfl : first = "" := by
        rw [split] at starts
        exact (List.cons.inj starts).1
      rfl
    | false =>
      by_cases here : first = "."
      · subst here
        rfl
      · cases part : Part.ofPiece? first <;> simp [here, part]

theorem filter_leads_filterMap (ss : List String) :
    (ss.filterMap Part.ofPiece?).filter Part.leads = ss.filterMap Part.ofPiece? := by
  refine List.filter_eq_self.mpr fun a listed => ?_
  obtain ⟨s, -, part⟩ := List.mem_filterMap.mp listed
  unfold Part.ofPiece? at part
  grind [Part.leads]

theorem filter_leads_start? (p : Path) : p.start?.toList.filter Part.leads = [] := by
  unfold start?
  split
  · rfl
  · split <;> rfl

theorem isAbsolute_eq_start? (p : Path) : p.isAbsolute = (p.start? == some .root) := by
  unfold start?
  split
  · rename_i absolute
    exact absolute
  · rename_i relative
    rw [Bool.not_eq_true] at relative
    rw [relative]
    split <;> rfl

/-- Paths with the same parts start at the same place and lead on in the same way. -/
theorem eq_of_parts_eq {p q : Path} (same : p.parts = q.parts) :
    p.isAbsolute = q.isAbsolute ∧
      p.pieces.filterMap Part.ofPiece? = q.pieces.filterMap Part.ofPiece? := by
  rw [parts_eq, parts_eq] at same
  have onward : p.pieces.filterMap Part.ofPiece? = q.pieces.filterMap Part.ofPiece? := by
    simpa only [List.filter_append, filter_leads_start?, filter_leads_filterMap,
      List.nil_append] using congrArg (List.filter Part.leads) same
  rw [onward] at same
  have starts : p.start? = q.start? := by
    simpa only [Option.head?_toList] using congrArg List.head? (List.append_cancel_right same)
  rw [isAbsolute_eq_start?, isAbsolute_eq_start?, starts]
  exact ⟨rfl, onward⟩

end PageLint.Path
