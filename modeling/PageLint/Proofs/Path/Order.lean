import Mathlib.Data.List.Lex
import Mathlib.Data.Prod.Lex
import Mathlib.Data.String.Basic
import PageLint.Path

/-!
# The order of paths

Paths are in the order of their parts, and parts are in the order of their kinds; of two names the
one with the lesser text comes first. So each part has a rank, paths are in the lexicographic order
of the ranks of their parts, and only paths with the same parts come at the same place.

## Main definitions

* `Path.Part.rank`, `Path.ranks` — the kind of a part with its text, and the ranks of all parts

## Main results

* `le_iff_ranks_le` — paths are in the order of the ranks of their parts
* `pairwise_mergeSort_le` — sorted paths are in this order
-/

namespace PageLint.Path

/-- The kind of a part; a name also has its text. -/
def Part.rank : Part → ℕ ×ₗ String
  | .root => toLex (0, "")
  | .here => toLex (1, "")
  | .up => toLex (2, "")
  | .name s => toLex (3, s)

/-- The ranks of the parts of a path, by which it is compared with others. -/
def ranks (p : Path) : List (ℕ ×ₗ String) := p.parts.map Part.rank

theorem Part.rank_injective : Function.Injective Part.rank := by
  intro a b same
  cases a <;> cases b <;> simp [rank] at same ⊢
  exact same

theorem Part.le_iff_rank_le {a b : Part} : a.le b = true ↔ a.rank ≤ b.rank := by
  cases a <;> cases b <;> simp [le, rank, Prod.Lex.toLex_le_toLex, -String.lt_iff_ltb]

theorem ranks_eq_iff {p q : Path} : p.ranks = q.ranks ↔ p.parts = q.parts :=
  (List.map_injective_iff.mpr Part.rank_injective).eq_iff

theorem partsLe_iff {as bs : List Part} :
    partsLe as bs = true ↔ as.map Part.rank ≤ bs.map Part.rank := by
  induction as generalizing bs with
  | nil => simp [partsLe, ← not_lt]
  | cons a as ih =>
    cases bs with
    | nil => simp [partsLe, ← not_lt]
    | cons b bs =>
      rw [partsLe, List.map_cons, List.map_cons, ← not_lt, List.cons_lt_cons_iff]
      split
      · rename_i same
        simp [same, ih]
      · rename_i differ
        have distinct : b.rank ≠ a.rank := Part.rank_injective.ne (Ne.symm differ)
        simp [Part.le_iff_rank_le, distinct]

/-- Paths are in the order of the ranks of their parts. -/
theorem le_iff_ranks_le {p q : Path} : p.le q = true ↔ p.ranks ≤ q.ranks := partsLe_iff

theorem pairwise_mergeSort_le (ps : List Path) :
    (ps.mergeSort le).Pairwise fun p q => p.ranks ≤ q.ranks := by
  have trans (p q r : Path) (first : p.le q = true) (second : q.le r = true) : p.le r = true :=
    le_iff_ranks_le.mpr ((le_iff_ranks_le.mp first).trans (le_iff_ranks_le.mp second))
  have total (p q : Path) : (p.le q || q.le p) = true := by
    rw [Bool.or_eq_true, le_iff_ranks_le, le_iff_ranks_le]
    exact le_total p.ranks q.ranks
  exact (List.pairwise_mergeSort trans total ps).imp le_iff_ranks_le.mp

end PageLint.Path
