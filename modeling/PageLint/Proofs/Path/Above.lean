import Mathlib.Data.List.Chain
import Mathlib.Data.List.TakeWhile
import PageLint.Proofs.Path

/-!
# The path above a path

The path above a path ends before its last part. Pieces that are no parts, like those between two
slashes, go with it, and they count neither behind the last part nor in front of it.

## Main definitions

* `Path.trimmed` — the pieces of a path up to the last that has characters
* `Path.IsAbove` — a path is the one above another

## Main results

* `parent?_cases` — what the path above a path has of its pieces
* `isChain_withParents` — all paths above a path are above one another
-/

namespace PageLint

/-- The last item that does not pass, and the items in front of it. -/
theorem dropWhile_reverse_eq_cons_iff {α : Type} {passes : α → Bool} {as front : List α}
    {last : α} :
    as.reverse.dropWhile passes = last :: front ↔
      ∃ after, as = front.reverse ++ last :: after ∧ passes last = false ∧
        ∀ a ∈ after, passes a = true := by
  constructor
  · intro found
    have split := List.takeWhile_append_dropWhile (p := passes) (l := as.reverse)
    have stops := List.head?_dropWhile_not passes as.reverse
    rw [found] at split stops
    refine ⟨(as.reverse.takeWhile passes).reverse, ?_, ?_, fun a listed => ?_⟩
    · calc
        as = (as.reverse.takeWhile passes ++ last :: front).reverse := by
          rw [split, List.reverse_reverse]
        _ = front.reverse ++ last :: (as.reverse.takeWhile passes).reverse := by simp
    · simpa using stops
    · exact List.mem_takeWhile_imp (List.mem_reverse.mp listed)
  · rintro ⟨after, rfl, stops, passed⟩
    have skipped : after.reverse.dropWhile passes = [] :=
      List.dropWhile_eq_nil_iff.mpr fun a listed => passed a (List.mem_reverse.mp listed)
    simp [List.dropWhile_append, skipped, stops]

namespace Path

variable {p q : Path} {front : List String} {name : String}

/-- The pieces of a path up to the last that has characters. -/
def trimmed (p : Path) : List String := (p.pieces.reverse.dropWhile (· = "")).reverse

theorem trimmed_eq_concat_iff :
    p.trimmed = front ++ [name] ↔
      ∃ blanks, p.pieces = front ++ name :: blanks ∧ name ≠ "" ∧ ∀ s ∈ blanks, s = "" := by
  rw [trimmed, List.reverse_eq_iff, List.reverse_append, List.reverse_singleton,
    List.singleton_append, dropWhile_reverse_eq_cons_iff, List.reverse_reverse]
  simp

/-- What a path has behind them is empty. -/
theorem exists_pieces_eq_trimmed_append (p : Path) :
    ∃ blanks, p.pieces = p.trimmed ++ blanks ∧ ∀ s ∈ blanks, s = "" := by
  have split := List.takeWhile_append_dropWhile (p := (· = "")) (l := p.pieces.reverse)
  refine ⟨(p.pieces.reverse.takeWhile (· = "")).reverse, ?_, fun s listed => ?_⟩
  · rw [trimmed, ← List.reverse_append, split, List.reverse_reverse]
  · simpa using List.mem_takeWhile_imp (List.mem_reverse.mp listed)

theorem first_eq_of_isAbsolute {first : String} {rest : List String}
    (pieces : p.pieces = first :: rest) (absolute : p.isAbsolute = true) : first = "" := by
  obtain ⟨_, starts⟩ := pieces_of_isAbsolute absolute
  exact (List.cons.inj (pieces.symm.trans starts)).1

/-- A path with several pieces is absolute if the first of them is empty. -/
theorem isAbsolute_eq_of_pieces {first s : String} {rest : List String}
    (pieces : p.pieces = first :: s :: rest) : p.isAbsolute = decide (first = "") := by
  refine Bool.eq_iff_iff.mpr ⟨fun absolute => ?_, fun none => ?_⟩
  · exact decide_eq_true (first_eq_of_isAbsolute pieces absolute)
  · obtain rfl := of_decide_eq_true none
    obtain ⟨first, others, split, none, more⟩ := List.map_eq_cons_iff.mp pieces
    obtain ⟨second, others, rfl, -, -⟩ := List.map_eq_cons_iff.mp more
    have bare : first = [] := by simpa using none
    have text : ['/'].intercalate (p.text.toList.splitOn '/') = p.text.toList :=
      List.intercalate_splitOn '/'
    rw [split, bare, List.intercalate_cons_cons] at text
    rw [isAbsolute, ← text]
    rfl

/-- The piece is no part of a path. -/
def passed (s : String) : Bool := s = "" || s = "."

theorem parent?_eq {first : String} {rest : List String} (pieces : p.pieces = first :: rest) :
    p.parent? =
      match rest.reverse.dropWhile passed with
      | [] => if first = "" then none else some ⟨""⟩
      | _ :: above =>
        match (above.dropWhile passed).reverse with
        | [] => some ⟨if first = "" then "/" else first⟩
        | rest => some ⟨"/".intercalate (first :: rest)⟩ := by
  rw [parent?, pieces]
  rfl

/-- The path above a path is the root, or it has the first pieces of the path, and behind them comes
one last piece that is a part. -/
theorem parent?_cases (above : p.parent? = some q) (written : q.text ≠ "") :
    q = ⟨"/"⟩ ∨ q.isAbsolute = p.isAbsolute ∧
      ∃ between last after, p.pieces = q.pieces ++ between ++ last :: after ∧
        passed last = false ∧ ∀ s ∈ after, passed s = true := by
  cases pieces : p.pieces with
  | nil => exact absurd pieces p.pieces_ne_nil
  | cons first rest =>
    have plain (s : String) (listed : s ∈ first :: rest) : '/' ∉ s.toList :=
      not_mem_of_mem_pieces (pieces ▸ listed)
    rw [parent?_eq pieces] at above
    cases behind : rest.reverse.dropWhile passed with
    | nil =>
      rw [behind] at above
      dsimp only at above
      split at above
      · cases above
      · cases above
        exact absurd rfl written
    | cons last front =>
      rw [behind] at above
      obtain ⟨after, rfl, stops, skipped⟩ := dropWhile_reverse_eq_cons_iff.mp behind
      obtain ⟨s, rest', several⟩ : ∃ s rest', front.reverse ++ last :: after = s :: rest' := by
        cases front.reverse with
        | nil => exact ⟨_, _, rfl⟩
        | cons s others => exact ⟨s, _, rfl⟩
      have absolute : p.isAbsolute = decide (first = "") :=
        isAbsolute_eq_of_pieces (pieces.trans (congrArg (first :: ·) several))
      -- In front of the last part there may be pieces that are none, and they go with it.
      have split := List.takeWhile_append_dropWhile (p := passed) (l := front)
      dsimp only at above
      cases kept : (front.dropWhile passed).reverse with
      | nil =>
        rw [kept] at above
        by_cases none : first = ""
        · left
          rw [if_pos none] at above
          exact (Option.some.inj above).symm
        · right
          rw [if_neg none] at above
          obtain rfl := Option.some.inj above
          have single : (Path.mk first).pieces = [first] := by
            rw [Path.pieces, List.splitOn_eq_singleton (plain first List.mem_cons_self)]
            simp
          refine ⟨?_, front.reverse, last, after, by rw [single]; rfl, stops, skipped⟩
          rw [absolute, decide_eq_false none, ← Bool.not_eq_true]
          exact fun starts => none (first_eq_of_isAbsolute single starts)
      | cons s others =>
        right
        rw [kept] at above
        obtain rfl := Option.some.inj above
        have own : (Path.mk ("/".intercalate (first :: s :: others))).pieces =
            first :: s :: others := by
          refine pieces_intercalate (List.cons_ne_nil _ _) fun piece listed => plain piece ?_
          rw [← kept, List.mem_cons, List.mem_reverse] at listed
          rcases listed with rfl | listed
          · exact List.mem_cons_self
          · have member : piece ∈ front.reverse :=
              List.mem_reverse.mpr ((List.dropWhile_sublist _).subset listed)
            exact List.mem_cons_of_mem _ (List.mem_append_left _ member)
        refine ⟨(isAbsolute_eq_of_pieces own).trans absolute.symm,
          (front.takeWhile passed).reverse, last, after, ?_, stops, skipped⟩
        rw [own, List.cons_append, ← kept, ← List.reverse_append, split, List.cons_append]

/-- The second path is the one above the first. -/
def IsAbove (p q : Path) : Prop := p.parent? = some q

theorem head?_upwards (count : Nat) (p : Path) : (upwards count p).head? = some p := by
  cases count with
  | zero => rfl
  | succ count =>
    rw [upwards]
    split <;> rfl

theorem isChain_upwards (count : Nat) (p : Path) : (upwards count p).IsChain IsAbove := by
  induction count generalizing p with
  | zero => exact .singleton p
  | succ count ih =>
    rw [upwards]
    split
    · exact .singleton p
    · rename_i q above
      refine (ih q).cons fun r first => ?_
      rw [head?_upwards] at first
      obtain rfl := Option.some.inj first
      exact above

theorem exists_withParents_eq_cons (p : Path) : ∃ ps, p.withParents = p :: ps := by
  obtain ⟨ps, eq⟩ := List.head?_eq_some_iff.mp (head?_upwards p.text.length p)
  exact ⟨ps, eq⟩

/-- All paths above a path are above one another. -/
theorem isChain_withParents (p : Path) : p.withParents.IsChain IsAbove := isChain_upwards _ p

end Path

end PageLint
