import Mathlib.Data.Prod.Lex
import PageLint.Proofs.Session.SharedRoots

/-!
# Elements that borrow a root

An element may be found by the locator of another page object's root, and then it should have that
page object's type. The rule is asked about two page objects at a time and looks from either at the
other, so over a whole session each page object is the owner of a root for every other one, and
never for itself. A borrowing is told by three places: of the owner, of the borrower, and of the
element in the borrower.

## Main definitions

* `Borrowing` — the places of an owner, of a borrower, and of its element
* `Borrowing.Wrong` — the element has the locator of the root, and another type
* `Borrowing.rank` — where a borrowing comes in the findings

## Main results

* `Config.mem_borrowings_iff`, `Config.pairwise_borrowings` — which borrowings are found, and in
  which order
* `foundAtEnd_rootSelectorTypes` — the findings of the rule, borrowing by borrowing
-/

namespace PageLint

/-- A page object as the owner of a root, another one as the borrower, and an element of the
borrower, by their places. -/
structure Borrowing (ps : List PageObject) where
  owner : Fin ps.length
  borrower : Fin ps.length
  place : Fin ps[borrower].elements.length
deriving DecidableEq

namespace Borrowing

variable {ps : List PageObject}

/-- The element of the borrower. -/
def element (b : Borrowing ps) : Element := ps[b.borrower].elements[b.place]

/-- The root and the element have locators with one strategy and one value, which is not empty. -/
def SharesLocator (b : Borrowing ps) : Prop :=
  ∃ l ∈ ps[b.owner].rootLocator, ∃ l' ∈ b.element.locator,
    l.strategy = l'.strategy ∧ l.value = l'.value ∧ l.value ≠ ""

/-- The element is found like the root, but does not have the type of the root's page object. -/
def Wrong (b : Borrowing ps) : Prop :=
  b.SharesLocator ∧ b.element.typeName ≠ ps[b.owner].type

instance (b : Borrowing ps) : Decidable b.SharesLocator :=
  inferInstanceAs (Decidable (∃ l ∈ ps[b.owner].rootLocator, ∃ l' ∈ b.element.locator, _))

instance (b : Borrowing ps) : Decidable b.Wrong := inferInstanceAs (Decidable (_ ∧ _))

/-- Where a borrowing comes: first the pair of page objects counts, the earlier one before the
later, then whether the owner is the later one, and then the place of the element. -/
def rank (b : Borrowing ps) : (Fin ps.length ×ₗ Fin ps.length) ×ₗ Bool ×ₗ Nat :=
  toLex (toLex (min b.owner b.borrower, max b.owner b.borrower),
    toLex (decide (b.borrower < b.owner), b.place.val))

/-- The borrowings of one page object's root by another one, in the order of its elements. -/
def between (owner borrower : Fin ps.length) : List (Borrowing ps) :=
  (List.finRange ps[borrower].elements.length).map fun place => ⟨owner, borrower, place⟩

theorem mem_between_iff {owner borrower : Fin ps.length} {b : Borrowing ps} :
    b ∈ between owner borrower ↔ b.owner = owner ∧ b.borrower = borrower := by
  rw [between, List.mem_map]
  constructor
  · rintro ⟨place, -, rfl⟩
    exact ⟨rfl, rfl⟩
  · obtain ⟨owner', borrower', place⟩ := b
    rintro ⟨rfl, rfl⟩
    exact ⟨place, List.mem_finRange place, rfl⟩

theorem pairwise_between (owner borrower : Fin ps.length) :
    (between owner borrower).Pairwise fun a b => a.rank < b.rank := by
  rw [between, List.pairwise_map]
  refine (List.pairwise_lt_finRange _).imp fun before => ?_
  exact Prod.Lex.right _ (Prod.Lex.right _ before)

section Rank

variable {i j : Fin ps.length} {b : Borrowing ps} (before : i < j)

include before

/-- The earlier page object is the owner. -/
theorem rank_of_mem_between (listed : b ∈ between i j) :
    b.rank = toLex (toLex (i, j), toLex (false, b.place.val)) := by
  obtain ⟨rfl, rfl⟩ := mem_between_iff.mp listed
  rw [rank, min_eq_left before.le, max_eq_right before.le, decide_eq_false before.asymm]

/-- The later page object is the owner. -/
theorem rank_of_mem_between' (listed : b ∈ between j i) :
    b.rank = toLex (toLex (i, j), toLex (true, b.place.val)) := by
  obtain ⟨rfl, rfl⟩ := mem_between_iff.mp listed
  rw [rank, min_eq_right before.le, max_eq_left before.le, decide_eq_true before]

end Rank

end Borrowing

/-! ## The detections of the rule -/

namespace Rule

variable (find : Lookup) (owner borrower : PageObject)

/-- The rule's own words on an element with the root of another page object, against the page object
that it is in. -/
def borrowedRoot (e : Element) : Detection where
  pageObject := borrower.path
  related := some owner.path
  message :=
    "element " ++ Text.quoted e.name ++ " should have type " ++ Text.quoted owner.type ++
      " because it uses its root selector"
  fix :=
    "change the element " ++ Text.quoted e.name ++ " type to the type of the page object " ++
      Text.quoted owner.type
  line := find borrower.path [Text.nameFragment e.name]

end Rule

namespace Config

variable (c : Config) {ps : List PageObject}

/-- The rule compares the two page objects, and the borrowing is wrong. -/
def Forbids (b : Borrowing ps) : Prop :=
  (¬ c.Excludes .rootSelectorTypes ps[b.owner] ∧ ¬ c.Excludes .rootSelectorTypes ps[b.borrower]) ∧
    b.Wrong

instance (b : Borrowing ps) : Decidable (c.Forbids b) := inferInstanceAs (Decidable (_ ∧ _))

/-- The borrowings that the rule objects to, pair by pair, and in a pair those from the earlier page
object first. -/
def borrowings (ps : List PageObject) : List (Borrowing ps) :=
  (indexPairs ps.length).flatMap fun ij =>
    (Borrowing.between ij.1 ij.2 ++ Borrowing.between ij.2 ij.1).filter fun b => c.Forbids b

variable {c}

/-- Every borrowing that the rule objects to is found, but never one from the borrower itself. -/
theorem mem_borrowings_iff {b : Borrowing ps} :
    b ∈ c.borrowings ps ↔ b.owner ≠ b.borrower ∧ c.Forbids b := by
  simp only [borrowings, List.mem_flatMap, List.mem_filter, List.mem_append,
    Borrowing.mem_between_iff, decide_eq_true_eq, mem_indexPairs_iff]
  constructor
  · rintro ⟨⟨i, j⟩, before, ⟨rfl, rfl⟩ | ⟨rfl, rfl⟩, forbidden⟩
    · exact ⟨before.ne, forbidden⟩
    · exact ⟨before.ne', forbidden⟩
  · rintro ⟨apart, forbidden⟩
    rcases lt_or_gt_of_ne apart with first | first
    · exact ⟨(b.owner, b.borrower), first, .inl ⟨rfl, rfl⟩, forbidden⟩
    · exact ⟨(b.borrower, b.owner), first, .inr ⟨rfl, rfl⟩, forbidden⟩

/-- The borrowings of two page objects are ranked by this pair. -/
theorem rank_fst_of_mem {i j : Fin ps.length} (before : i < j) {b : Borrowing ps}
    (listed : b ∈ Borrowing.between i j ++ Borrowing.between j i) :
    (ofLex b.rank).1 = toLex (i, j) := by
  rcases List.mem_append.mp listed with here | here
  · rw [Borrowing.rank_of_mem_between before here]
    rfl
  · rw [Borrowing.rank_of_mem_between' before here]
    rfl

/-- The borrowings come by rank, so no one comes twice. -/
theorem pairwise_borrowings : (c.borrowings ps).Pairwise fun a b => a.rank < b.rank := by
  refine List.pairwise_flatMap.mpr ⟨fun ij listed => List.Pairwise.filter _ ?_, ?_⟩
  -- In a pair the owner decides, and then the element.
  · have before := mem_indexPairs_iff.mp listed
    refine List.pairwise_append.mpr
      ⟨Borrowing.pairwise_between _ _, Borrowing.pairwise_between _ _, fun a first b second => ?_⟩
    rw [Borrowing.rank_of_mem_between before first, Borrowing.rank_of_mem_between' before second]
    exact Prod.Lex.right _ (Prod.Lex.left _ _ rfl)
  -- Of two pairs the places of the page objects do.
  · refine (pairwise_indexPairs ps.length).imp_of_mem fun first second later a here b there => ?_
    have rank := rank_fst_of_mem (mem_indexPairs_iff.mp first) (List.mem_of_mem_filter here)
    have rank' := rank_fst_of_mem (mem_indexPairs_iff.mp second) (List.mem_of_mem_filter there)
    refine Prod.Lex.lt_iff.mpr (.inl ?_)
    rw [rank, rank']
    exact later

/-- One direction of a pair. -/
theorem map_between_eq (find : Lookup) {i j : Fin ps.length}
    (compared : ¬ c.Excludes .rootSelectorTypes ps[i] ∧ ¬ c.Excludes .rootSelectorTypes ps[j]) :
    ((Borrowing.between i j).filter fun b => c.Forbids b).map (fun b =>
        Rule.borrowedRoot find ps[b.owner] ps[b.borrower] b.element) =
      Rule.detectRootTypes find ps[i] ps[j] := by
  -- The rule filters the elements; a borrowing has the place of the element instead.
  let wrong (e : Element) : Bool :=
    e.hasLocator ps[i].rootLocator && e.typeName != ps[i].type
  have elements : ps[j].elements.filter wrong =
      ((List.finRange ps[j].elements.length).filter fun k => wrong ps[j].elements[k]).map
        fun k => ps[j].elements[k] := by
    conv_lhs => rw [← List.map_getElem_finRange ps[j].elements, List.filter_map]
    rfl
  have forbidden (k : Fin ps[j].elements.length) :
      decide (c.Forbids (⟨i, j, k⟩ : Borrowing ps)) = wrong ps[j].elements[k] := by
    rw [Bool.eq_iff_iff, decide_eq_true_iff, Forbids, and_iff_right compared, Bool.and_eq_true,
      bne_iff_ne, Element.hasLocator, Locator.same_comm, Locator.same_iff_parts]
    rfl
  rw [Rule.detectRootTypes, elements, List.map_map, Borrowing.between, List.filter_map,
    List.map_map]
  simp only [Function.comp_def, forbidden]
  rfl

/-- Both directions of a pair. -/
theorem findingsBetween_rootSelectorTypes (find : Lookup) (i j : Fin ps.length) :
    c.findingsBetween find .rootSelectorTypes ps[i] ps[j] =
      ((Borrowing.between i j ++ Borrowing.between j i).filter fun b => c.Forbids b).map fun b =>
        c.finding .rootSelectorTypes
          (Rule.borrowedRoot find ps[b.owner] ps[b.borrower] b.element) := by
  rw [findingsBetween]
  split
  -- Leaving out either page object leaves out both directions.
  · rename_i left
    refine (List.map_eq_nil_iff.mpr (List.filter_eq_nil_iff.mpr fun b listed forbidden => ?_)).symm
    obtain ⟨⟨owner, borrower⟩, -⟩ := of_decide_eq_true forbidden
    rcases List.mem_append.mp listed with here | here
    · obtain ⟨rfl, rfl⟩ := Borrowing.mem_between_iff.mp here
      exact left.elim owner borrower
    · obtain ⟨rfl, rfl⟩ := Borrowing.mem_between_iff.mp here
      exact left.elim borrower owner
  · rename_i compared
    rw [not_or] at compared
    rw [Rule.detectBetween, ← map_between_eq find compared, ← map_between_eq find compared.symm,
      ← List.map_append, ← List.filter_append, List.map_map]
    rfl

end Config

namespace Session

variable {c : Config} (find : Lookup)

/-- At the end of a session the rule makes one finding for every element that borrows the root of
another page object and has another type, against the page object of the element. The findings come
pair by pair; in a pair the roots of the earlier page object come first, and then the elements count
in their order. -/
theorem foundAtEnd_rootSelectorTypes (on : c.disable = false)
    (enabled : c.Enables .rootSelectorTypes) (s : Session) :
    let ps := s.pageObjects
    let wrong := c.borrowings ps
    Rule.rootSelectorTypes.foundAtEnd c find s =
        wrong.map (fun b =>
          c.finding .rootSelectorTypes
            (Rule.borrowedRoot find ps[b.owner] ps[b.borrower] b.element)) ∧
      (∀ b, b ∈ wrong ↔ b.owner ≠ b.borrower ∧ c.Forbids b) ∧
      wrong.Nodup ∧
      wrong.Pairwise fun a b => a.rank < b.rank := by
  intro ps wrong
  have sorted : wrong.Pairwise fun a b => a.rank < b.rank := Config.pairwise_borrowings
  refine ⟨?_, fun b => Config.mem_borrowings_iff, sorted.imp ?_, sorted⟩
  · rw [Rule.foundAtEnd_eq find on enabled rfl, pairsByPlace, List.flatMap_map]
    simp only [wrong, Config.borrowings, List.map_flatMap]
    exact List.flatMap_congr fun ij _ => Config.findingsBetween_rootSelectorTypes find ij.1 ij.2
  · rintro a _ before rfl
    exact lt_irrefl _ before

/-- A page whose root is found like the buttons of the others, with a list of their pages, and with
an element that is found like its own root. -/
def pagesPage : PageObject where
  name := "pages"
  path := "pages/pages.json"
  type := "app.Pages"
  elements :=
    [⟨"pages", none, some ⟨⟨.css, ".page"⟩, true⟩, none⟩,
      ⟨"whole", some "basic", some ⟨⟨.css, ".submit"⟩, false⟩, none⟩]
  methods := []
  shadowBoundaries := []
  root := some ⟨true, true, some ⟨⟨.css, ".submit"⟩, false⟩⟩

/-- The list of pages borrows two roots, the form of the sign-up page one, and both buttons
another one. -/
theorem foundAtEnd_rootSelectorTypes_pagesPage :
    let s : Session := ⟨[signUp, signIn, pagesPage], []⟩
    let ps := s.pageObjects
    let wrong := strict.borrowings ps
    let found := Rule.rootSelectorTypes.foundAtEnd strict atTop s
    (strict.disable = false ∧ strict.Enables .rootSelectorTypes) ∧
      found =
        wrong.map (fun b =>
          strict.finding .rootSelectorTypes
            (Rule.borrowedRoot atTop ps[b.owner] ps[b.borrower] b.element)) ∧
      (∀ b, b ∈ wrong ↔ b.owner ≠ b.borrower ∧ strict.Forbids b) ∧
      wrong.Nodup ∧
      found.map (fun f => (f.pageObject, f.related)) =
        [(signUp.path, some signIn.path), (pagesPage.path, some signUp.path),
          (signUp.path, some pagesPage.path), (pagesPage.path, some signIn.path),
          (signIn.path, some pagesPage.path)] := by
  intro s ps wrong found
  have enabled : strict.Enables .rootSelectorTypes := by decide
  obtain ⟨told, listed, distinct, -⟩ := foundAtEnd_rootSelectorTypes atTop rfl enabled s
  exact ⟨⟨rfl, enabled⟩, told, listed, distinct, by decide⟩

end Session

end PageLint
