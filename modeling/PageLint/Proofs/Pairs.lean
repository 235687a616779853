import Mathlib.Algebra.BigOperators.Group.Finset.Piecewise
import Mathlib.Algebra.Order.Ring.Nat
import Mathlib.Data.Finset.Dedup
import Mathlib.Data.List.FinRange
import Mathlib.Data.List.ProdSigma
import Mathlib.Data.Prod.Lex
import PageLint.Rule.Detection

/-!
# Pairs of places

A batch of page objects is compared by twos, every two once. The law of that comparison is the order
in which it happens, what becomes of it when items are taken out of the list or put into another
order, and how many pairs have something in common. Nothing here knows what is compared.

## Main definitions

* `indexPairs` — the pairs of places below a bound, the smaller place first
* `pairsByPlace` — the items at these places
* `ShareKey` — two items with one key

## Main results

* `pairs_eq_pairsByPlace` — the pairs of a list come in the lexicographic order of their places
* `pairs_filter` — taking items out takes out the pairs that they are in
* `flatMap_pairs_perm` — a symmetric function gathers the same from any order of the list
* `pairs_filter_shareKey_eq_nil_iff` — when no two items share a key
* `length_pairs_filter_shareKey` — how many pairs of items do
-/

namespace PageLint

variable {α β : Type}

@[simp] theorem pairs_nil : pairs ([] : List α) = [] := rfl

@[simp] theorem pairs_cons (a : α) (as : List α) :
    pairs (a :: as) = as.map (a, ·) ++ pairs as := rfl

/-- The pairs of places below a bound in lexicographic order, the smaller place first. -/
def indexPairs (n : Nat) : List (Fin n × Fin n) :=
  (List.finRange n ×ˢ List.finRange n).filter fun ij => ij.1 < ij.2

/-- The items at all pairs of places, in the order of the places. -/
def pairsByPlace (as : List α) : List (α × α) :=
  (indexPairs as.length).map fun ij => (as[ij.1], as[ij.2])

theorem mem_indexPairs_iff {n : Nat} {ij : Fin n × Fin n} : ij ∈ indexPairs n ↔ ij.1 < ij.2 := by
  obtain ⟨i, j⟩ := ij
  simp [indexPairs]

/-- The pairs of places come in lexicographic order. -/
theorem pairwise_indexPairs (n : Nat) :
    (indexPairs n).Pairwise fun ij kl => toLex ij < toLex kl := by
  refine List.Pairwise.filter _ (List.pairwise_flatMap.mpr ⟨fun i _ => ?_, ?_⟩)
  · rw [List.pairwise_map]
    exact (List.pairwise_lt_finRange n).imp fun later => Prod.Lex.right _ later
  · refine (List.pairwise_lt_finRange n).imp fun later ij listed kl listed' => ?_
    obtain ⟨_, -, rfl⟩ := List.mem_map.mp listed
    obtain ⟨_, -, rfl⟩ := List.mem_map.mp listed'
    exact Prod.Lex.left _ _ later

/-- The first place comes with every later one, and then the later ones with one another. -/
theorem indexPairs_succ (n : Nat) :
    indexPairs (n + 1) =
      (List.finRange n).map (fun j => (0, j.succ)) ++
        (indexPairs n).map fun ij => (ij.1.succ, ij.2.succ) := by
  -- Behind the first place nothing changes but the names of the places.
  have later (i : Fin n) :
      ((0 :: (List.finRange n).map Fin.succ).map (i.succ, ·)).filter (fun ij => ij.1 < ij.2) =
        (((List.finRange n).map (i, ·)).filter fun ij => ij.1 < ij.2).map
          fun ij => (ij.1.succ, ij.2.succ) := by
    simp [List.filter_map, Function.comp_def]
  unfold indexPairs
  rw [List.finRange_succ, List.product_cons, List.filter_append]
  congr 1
  · simp [List.filter_map, Function.comp_def]
  · simp only [SProd.sprod, List.product, List.flatMap_map, List.filter_flatMap, List.map_flatMap,
      later]

/-- The pairs of a list come in the lexicographic order of their places. -/
theorem pairs_eq_pairsByPlace (as : List α) : pairs as = pairsByPlace as := by
  induction as with
  | nil => rfl
  | cons a as ih =>
    have first : as.map (a, ·) = (List.finRange as.length).map fun j => (a, as[j]) := by
      conv_lhs => rw [← List.map_getElem_finRange as]
      rw [List.map_map]
      rfl
    change _ = (indexPairs (as.length + 1)).map fun ij => ((a :: as)[ij.1], (a :: as)[ij.2])
    rw [pairs_cons, first, ih, pairsByPlace, indexPairs_succ, List.map_append,
      List.map_map, List.map_map]
    rfl

/-- Taking items out of a list takes out the pairs that they are in, and moves no other pair. -/
theorem pairs_filter (keep : α → Bool) (as : List α) :
    pairs (as.filter keep) = (pairs as).filter fun ab => keep ab.1 && keep ab.2 := by
  induction as with
  | nil => rfl
  | cons a as ih =>
    rw [pairs_cons, List.filter_append, List.filter_map]
    cases kept : keep a with
    | true => simp [kept, ih, Function.comp_def]
    | false => simp [kept, ih, Function.comp_def]

/-- A function that treats both members of a pair alike gathers the same from any order of the
list, up to order. -/
theorem flatMap_pairs_perm {g : α × α → List β} (symmetric : ∀ a b, g (a, b) = g (b, a))
    {as bs : List α} (reordered : as.Perm bs) :
    ((pairs as).flatMap g).Perm ((pairs bs).flatMap g) := by
  induction reordered with
  | nil => exact .refl _
  | cons a reordered ih =>
    simp only [pairs_cons, List.flatMap_append]
    exact ((reordered.map _).flatMap_right g).append ih
  | swap a b as =>
    -- Only the pair of the two swapped items is turned round; the others are moved as they are.
    simp only [pairs_cons, List.map_cons, List.flatMap_append, List.flatMap_cons, List.cons_append]
    rw [symmetric b a]
    refine List.Perm.append_left _ ?_
    simp only [← List.append_assoc]
    exact List.perm_append_comm.append_right _
  | trans _ _ ih₁ ih₂ => exact ih₁.trans ih₂

/-- A relation between the members of all pairs is one between every two items. -/
theorem forall_mem_pairs_iff {R : α → α → Prop} {as : List α} :
    (∀ ab ∈ pairs as, R ab.1 ab.2) ↔ as.Pairwise R := by
  induction as with
  | nil => simp
  | cons a as ih =>
    rw [pairs_cons, List.forall_mem_append, List.forall_mem_map, List.pairwise_cons, ih]

/-! ## Pairs that share a key -/

section Key

variable {κ : Type} {key? : α → Option κ} {a : α} {as : List α}

/-- Both items have a key, and they have the same. -/
def ShareKey (key? : α → Option κ) (a b : α) : Prop := ∃ k ∈ key? a, k ∈ key? b

theorem not_shareKey_of_none (unkeyed : key? a = none) (b : α) : ¬ ShareKey key? a b := by
  rintro ⟨k, keyed, _⟩
  rw [unkeyed] at keyed
  cases keyed

theorem shareKey_iff_of_some {k : κ} (keyed : key? a = some k) {b : α} :
    ShareKey key? a b ↔ key? b = some k := by
  simp [ShareKey, keyed]

variable [DecidableEq κ]

instance (key? : α → Option κ) (a b : α) : Decidable (ShareKey key? a b) :=
  inferInstanceAs (Decidable (∃ k ∈ key? a, k ∈ key? b))

/-- No two items share a key if and only if each key that occurs occurs once. -/
theorem pairs_filter_shareKey_eq_nil_iff :
    (pairs as).filter (fun ab => ShareKey key? ab.1 ab.2) = [] ↔ (as.filterMap key?).Nodup := by
  rw [List.filter_eq_nil_iff, List.Nodup, List.pairwise_filterMap, ← forall_mem_pairs_iff]
  simp only [decide_eq_true_eq]
  refine forall₂_congr fun ab _ => ?_
  constructor
  · rintro apart k first _ second rfl
    exact apart ⟨k, first, second⟩
  · rintro distinct ⟨k, first, second⟩
    exact distinct k first k second rfl

/-- One more item of a key is in as many more pairs of that key as there were items of it. -/
theorem triangle_countP_cons {k : κ} (keyed : key? a = some k) (k' : κ) :
    (a :: as).countP (key? · = some k') * ((a :: as).countP (key? · = some k') - 1) / 2 =
      (if k = k' then as.countP (key? · = some k) else 0) +
        as.countP (key? · = some k') * (as.countP (key? · = some k') - 1) / 2 := by
  by_cases same : k = k'
  · subst same
    rw [List.countP_cons, if_pos (decide_eq_true keyed), if_pos rfl, Nat.triangle_succ, Nat.add_comm]
  · have other : key? a ≠ some k' := by simpa [keyed] using same
    rw [List.countP_cons, if_neg (by simpa using other), if_neg same, Nat.add_zero, Nat.zero_add]

/-- Among items of which `n` have one key there are `n * (n - 1) / 2` pairs with that key. The sum
may be taken over more keys than occur. -/
theorem length_pairs_filter_shareKey {keys : Finset κ}
    (listed : ∀ k ∈ as.filterMap key?, k ∈ keys) :
    ((pairs as).filter fun ab => ShareKey key? ab.1 ab.2).length =
      ∑ k ∈ keys, as.countP (key? · = some k) * (as.countP (key? · = some k) - 1) / 2 := by
  -- The keys stay the same in the induction. One that does not occur any more adds nothing.
  induction as with
  | nil => simp
  | cons a as ih =>
    have behind : ∀ k ∈ as.filterMap key?, k ∈ keys := by
      intro k occurs
      obtain ⟨b, member, keyed⟩ := List.mem_filterMap.mp occurs
      exact listed k (List.mem_filterMap.mpr ⟨b, List.mem_cons_of_mem a member, keyed⟩)
    rw [pairs_cons, List.filter_append, List.length_append, ih behind, List.filter_map,
      List.length_map]
    cases keyed : key? a with
    | none =>
      -- The item is in no pair, and counts for no key.
      simp [Function.comp_def, not_shareKey_of_none keyed, keyed]
    | some k =>
      have inside : k ∈ keys := listed k (List.mem_filterMap.mpr ⟨a, List.mem_cons_self, keyed⟩)
      have partners : as.filter (fun b => ShareKey key? a b) = as.filter (key? · = some k) :=
        List.filter_congr fun b _ => decide_eq_decide.mpr (shareKey_iff_of_some keyed)
      simp only [Function.comp_def, partners, ← List.countP_eq_length_filter,
        triangle_countP_cons keyed, Finset.sum_add_distrib, Finset.sum_ite_eq, inside, if_true]

end Key

end PageLint
