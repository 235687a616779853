import Mathlib.Data.List.Forall2
import Mathlib.Order.Bounds.Basic
import PageLint.Proofs.Text.Regex

/-!
# The search for a chain of fragments finds the shortest way

The search takes the first line that shows a fragment and never comes back to that choice. It loses
nothing by it: whatever lines show the fragments one below the other, the first of them is not above
the line that was taken, so the others still lie below it. The search therefore succeeds if any
lines will do, and no choice of lines ends higher up than its own.

## Main definitions

* `Text.IsTrail` — places of lines that show fragments one below the other
* `Text.depth` — how many lines it takes to come to the end of some places
* `Text.AllFit` — a limit on the size of expressions makes no difference to a search

## Main results

* `exists_isTrail_of_chain` — the search finds a trail
* `exists_chain_le` — and it finds one wherever there is one, not deeper than that
* `findLine_least` — the line that a search answers
-/

namespace PageLint.Text

/-- The line at a place shows the fragment. -/
def ShownAt (ls : List (List Char)) (fragment : List Char) (place : Nat) : Prop :=
  ∃ line, ls[place]? = some line ∧ shows line fragment

/-- The lines at the places show the fragments, each below the one before. -/
def IsTrail (fragments ls : List (List Char)) (places : List Nat) : Prop :=
  List.Forall₂ (ShownAt ls) fragments places ∧ places.Pairwise (· < ·)

/-- How many lines it takes to come to the last of some places. -/
def depth (places : List Nat) : Nat := (places.getLast?.map (· + 1)).getD 0

variable {fragment : List Char} {fragments ls : List (List Char)} {places : List Nat}

@[simp] theorem depth_nil : depth [] = 0 := rfl

theorem depth_of_getLast? {last : Nat} (ends : places.getLast? = some last) :
    depth places = last + 1 := by
  rw [depth, ends]
  rfl

/-- Places further down by a number of lines end further down by as many, if there are any. -/
theorem depth_map_add_le (k : Nat) (places : List Nat) :
    depth (places.map (k + ·)) ≤ k + depth places := by
  rw [depth, depth, List.getLast?_map]
  cases places.getLast? with
  | none => simp
  | some last => simp [Nat.add_assoc]

theorem depth_cons_map (n : Nat) (places : List Nat) :
    depth (n :: places.map (n + 1 + ·)) = n + 1 + depth places := by
  cases places with
  | nil => rfl
  | cons m places =>
    rw [depth, depth, List.getLast?_cons, List.getLast?_map,
      List.getLast?_eq_some_getLast (List.cons_ne_nil m places)]
    simp [Nat.add_assoc]

/-! ## Trails -/

theorem shownAt_drop {k place : Nat} :
    ShownAt (ls.drop k) fragment place ↔ ShownAt ls fragment (k + place) := by
  rw [ShownAt, ShownAt, List.getElem?_drop]

@[simp] theorem isTrail_nil_iff : IsTrail [] ls places ↔ places = [] := by
  rw [IsTrail, List.forall₂_nil_left_iff]
  constructor
  · rintro ⟨rfl, -⟩
    rfl
  · rintro rfl
    exact ⟨rfl, .nil⟩

/-- A trail below some lines is one of the whole text. -/
theorem IsTrail.of_drop {k : Nat} (trail : IsTrail fragments (ls.drop k) places) :
    IsTrail fragments ls (places.map (k + ·)) := by
  refine ⟨List.forall₂_map_right_iff.mpr (trail.1.imp fun _ _ => shownAt_drop.mp), ?_⟩
  exact List.pairwise_map.mpr (trail.2.imp fun before => Nat.add_lt_add_left before k)

/-- A trail that keeps below some lines is one of what is left of the text. -/
theorem IsTrail.exists_drop {k : Nat} (trail : IsTrail fragments ls places)
    (low : ∀ n ∈ places, k ≤ n) :
    ∃ below, IsTrail fragments (ls.drop k) below ∧ places = below.map (k + ·) := by
  have shifted : places = (places.map (· - k)).map (k + ·) := by
    have kept : places.map ((k + ·) ∘ (· - k)) = places.map id :=
      List.map_congr_left fun n listed => Nat.add_sub_of_le (low n listed)
    rw [List.map_map, kept, List.map_id]
  rw [shifted] at trail
  refine ⟨places.map (· - k), ⟨?_, ?_⟩, shifted⟩
  · exact (List.forall₂_map_right_iff.mp trail.1).imp fun _ _ => shownAt_drop.mpr
  · exact (List.pairwise_map.mp trail.2).imp Nat.lt_of_add_lt_add_left

/-- A trail goes on below its first place. -/
theorem isTrail_cons_iff {n : Nat} :
    IsTrail (fragment :: fragments) ls (n :: places) ↔
      ShownAt ls fragment n ∧
        ∃ below, IsTrail fragments (ls.drop (n + 1)) below ∧ places = below.map (n + 1 + ·) := by
  rw [IsTrail, List.forall₂_cons, List.pairwise_cons]
  constructor
  · rintro ⟨⟨shown, others⟩, before, ordered⟩
    have trail : IsTrail fragments ls places := ⟨others, ordered⟩
    exact ⟨shown, trail.exists_drop before⟩
  · rintro ⟨shown, below, trail, rfl⟩
    obtain ⟨others, ordered⟩ := trail.of_drop
    refine ⟨⟨shown, others⟩, fun m listed => ?_, ordered⟩
    obtain ⟨m, -, rfl⟩ := List.mem_map.mp listed
    omega

/-! ## The search -/

/-- The line that is taken shows the fragment, and no line above it does. -/
theorem shownAt_of_findIdx? {first : Nat}
    (taken : ls.findIdx? (shows · fragment) = some first) :
    ShownAt ls fragment first ∧ ∀ n, ShownAt ls fragment n → first ≤ n := by
  obtain ⟨bound, shown, before⟩ := List.findIdx?_eq_some_iff_getElem.mp taken
  refine ⟨⟨ls[first], List.getElem?_eq_getElem bound, shown⟩, fun n shownAt => ?_⟩
  obtain ⟨line, there, shown⟩ := shownAt
  obtain ⟨_, rfl⟩ := List.getElem?_eq_some_iff.mp there
  by_contra above
  exact before n (Nat.not_le.mp above) shown

/-- A line is taken if any line shows the fragment. -/
theorem isSome_findIdx?_of_shownAt {n : Nat} (shown : ShownAt ls fragment n) :
    (ls.findIdx? (shows · fragment)).isSome := by
  obtain ⟨line, there, shown⟩ := shown
  rw [List.findIdx?_isSome]
  exact List.any_eq_true.mpr ⟨line, List.mem_of_getElem? there, shown⟩

/-- The search finds a trail, and tells how deep it is. -/
theorem exists_isTrail_of_chain {n : Nat} (found : chain fragments ls = some n) :
    ∃ places, IsTrail fragments ls places ∧ depth places = n := by
  induction fragments generalizing ls n with
  | nil =>
    cases found
    exact ⟨[], isTrail_nil_iff.mpr rfl, rfl⟩
  | cons fragment fragments ih =>
    rw [chain] at found
    split at found
    · cases found
    · rename_i first taken
      obtain ⟨m, rest, rfl⟩ := Option.map_eq_some_iff.mp found
      obtain ⟨below, trail, rfl⟩ := ih rest
      have shown : ShownAt ls fragment first := (shownAt_of_findIdx? taken).1
      exact ⟨_, isTrail_cons_iff.mpr ⟨shown, below, trail, rfl⟩, depth_cons_map first below⟩

/-- Where there is a trail, the search succeeds, and does not go deeper. -/
theorem exists_chain_le (trail : IsTrail fragments ls places) :
    ∃ n, chain fragments ls = some n ∧ n ≤ depth places := by
  induction fragments generalizing ls places with
  | nil =>
    exact ⟨0, rfl, Nat.zero_le _⟩
  | cons fragment fragments ih =>
    obtain ⟨place, places, -, -, rfl⟩ := List.forall₂_cons_left_iff.mp trail.1
    obtain ⟨shown, below, others, rfl⟩ := isTrail_cons_iff.mp trail
    obtain ⟨first, taken⟩ := Option.isSome_iff_exists.mp (isSome_findIdx?_of_shownAt shown)
    -- The line that is taken is not below the place where the trail begins.
    have higher : first ≤ place := (shownAt_of_findIdx? taken).2 place shown
    -- What lies below the place lies below the first line too, further down from there.
    have onward : ls.drop (place + 1) = (ls.drop (first + 1)).drop (place - first) := by
      rw [List.drop_drop]
      congr 1
      omega
    rw [onward] at others
    obtain ⟨n, rest, bound⟩ := ih others.of_drop
    -- Seen from there, the trail ends lower by what the first line is higher.
    have shifted := depth_map_add_le (place - first) below
    refine ⟨first + 1 + n, ?_, ?_⟩
    · rw [chain, taken]
      simp [rest]
    · rw [depth_cons_map]
      omega

/-! ## The line that is answered -/

/-- The fragments of a chain that are not blank throughout. -/
def visible (fragments : List String) : List (List Char) :=
  (fragments.map String.toList).filter fun f => f.any fun c => !isBlank c

/-- The places where trails of the fragments end. -/
def trailEnds (fragments ls : List (List Char)) : Set Nat :=
  {last | ∃ places, IsTrail fragments ls places ∧ places.getLast? = some last}

theorem depth_eq_zero_iff : depth places = 0 ↔ places = [] := by
  rw [← List.getLast?_eq_none_iff, depth]
  cases places.getLast? <;> simp

/-- The last place of a trail is that of a line, and the line shows the last fragment. -/
theorem IsTrail.shownAt_last {last : Nat} (trail : IsTrail fragments ls places)
    (ends : places.getLast? = some last) :
    ∃ fragment, fragments.getLast? = some fragment ∧ ShownAt ls fragment last := by
  obtain ⟨front, rfl⟩ := List.getLast?_eq_some_iff.mp ends
  have reversed := List.forall₂_reverse_iff.mpr trail.1
  rw [List.reverse_append, List.reverse_singleton, List.singleton_append] at reversed
  obtain ⟨fragment, others, shown, -, backwards⟩ := List.forall₂_cons_right_iff.mp reversed
  exact ⟨fragment, by rw [← List.head?_reverse, backwards, List.head?_cons], shown⟩

theorem ShownAt.lt_length {place : Nat} (shown : ShownAt ls fragment place) :
    place < ls.length := by
  obtain ⟨_, there, -⟩ := shown
  exact (List.getElem?_eq_some_iff.mp there).1

theorem trailEnds_nonempty_iff :
    (trailEnds fragments ls).Nonempty ↔
      fragments ≠ [] ∧ ∃ places, IsTrail fragments ls places := by
  constructor
  · rintro ⟨last, places, trail, ends⟩
    obtain ⟨fragment, final, -⟩ := trail.shownAt_last ends
    exact ⟨List.ne_nil_of_mem (List.mem_of_getLast? final), places, trail⟩
  · rintro ⟨some, places, trail⟩
    have nonempty : places ≠ [] := by
      rintro rfl
      exact some (List.forall₂_nil_right_iff.mp trail.1)
    exact ⟨_, places, trail, List.getLast?_eq_some_getLast nonempty⟩

/-- The search comes to the highest place in which a trail ends. -/
theorem isLeast_trailEnds_of_chain {n : Nat} (found : chain fragments ls = some (n + 1)) :
    IsLeast (trailEnds fragments ls) n := by
  constructor
  · obtain ⟨places, trail, depth⟩ := exists_isTrail_of_chain found
    cases ends : places.getLast? with
    | none => simp [Text.depth, ends] at depth
    | some last =>
      rw [depth_of_getLast? ends] at depth
      exact ⟨places, trail, ends.trans (congrArg some (Nat.succ.inj depth))⟩
  · -- Any other trail is as deep as what the search comes to, or deeper.
    rintro last ⟨places, trail, ends⟩
    obtain ⟨m, found', bound⟩ := exists_chain_le trail
    rw [found] at found'
    rw [← Option.some.inj found', depth_of_getLast? ends] at bound
    exact Nat.le_of_succ_le_succ bound

/-- A search that goes through no line at all leaves no trail to be found. -/
theorem trailEnds_eq_empty_of_chain (none : ∀ n, chain fragments ls ≠ some (n + 1)) :
    trailEnds fragments ls = ∅ := by
  rw [Set.eq_empty_iff_forall_notMem]
  rintro last ⟨places, trail, ends⟩
  obtain ⟨m, found, -⟩ := exists_chain_le trail
  cases m with
  | succ m => exact none m found
  | zero =>
    -- The search goes through no line only if nothing is looked for.
    obtain ⟨_, trail', shallow⟩ := exists_isTrail_of_chain found
    rw [depth_eq_zero_iff.mp shallow] at trail'
    rw [List.forall₂_nil_right_iff.mp trail'.1, isTrail_nil_iff] at trail
    rw [trail] at ends
    cases ends

/-- The expressions of all fragments are within a limit. -/
def AllFit (fits : Regex → Bool) (fragments : List String) : Prop :=
  ∀ f ∈ fragments, ∀ r, fragmentRegex? f.toList = some r → fits r = true

/-- Within the limit, the fragments that are looked for are those that are not blank throughout. -/
theorem findLineWithin_eq {fits : Regex → Bool} {fragments : List String}
    (small : AllFit fits fragments) (text : String) :
    findLineWithin fits text fragments =
      match chain (visible fragments) (lines text.toList) with
      | some (n + 1) => n + 1
      | _ => firstLine := by
  have kept : (fragments.map String.toList).filter (fun f => (fragmentRegex? f).any fits) =
      visible fragments := by
    refine List.filter_congr fun cs listed => ?_
    obtain ⟨f, given, rfl⟩ := List.mem_map.mp listed
    rw [← isSome_fragmentRegex?]
    cases compiled : fragmentRegex? f.toList with
    | none => rfl
    | some r => exact small f given r compiled
  exact congrArg (fun wanted => match chain wanted (lines text.toList) with
    | some (n + 1) => n + 1
    | _ => firstLine) kept

theorem findLine_eq (text : String) (fragments : List String) :
    findLine text fragments =
      match chain (visible fragments) (lines text.toList) with
      | some (n + 1) => n + 1
      | _ => firstLine :=
  findLineWithin_eq (fun _ _ _ _ => rfl) text

/-- A limit that no expression exceeds makes no difference. -/
theorem findLineWithin_of_allFit {fits : Regex → Bool} {fragments : List String}
    (small : AllFit fits fragments) (text : String) :
    findLineWithin fits text fragments = findLine text fragments :=
  (findLineWithin_eq small text).trans (findLine_eq text fragments).symm

/-- A search ends in the highest place in which a trail ends, or there is no such place. -/
theorem findLine_cases (text : String) (fragments : List String) :
    (∃ last, IsLeast (trailEnds (visible fragments) (lines text.toList)) last ∧
        findLine text fragments = 1 + last) ∨
      trailEnds (visible fragments) (lines text.toList) = ∅ ∧ findLine text fragments = 1 := by
  rw [findLine_eq]
  split
  · rename_i n found
    exact .inl ⟨n, isLeast_trailEnds_of_chain found, Nat.add_comm n 1⟩
  · rename_i none
    exact .inr ⟨trailEnds_eq_empty_of_chain none, rfl⟩

/-- The line that is answered to a chain of fragments is the highest one in which a trail of them
ends, blank fragments aside; it is the first line if there is no trail, or nothing to look for. So
the answer is the number of a line, or the first one of an empty text, and below the first line it
is the number of a line that shows the last fragment. -/
theorem findLine_least (text : String) (fragments : List String) :
    let wanted := visible fragments
    let ls := lines text.toList
    let answer := findLine text fragments
    (wanted = [] ∨ (¬ ∃ places, IsTrail wanted ls places) → answer = 1) ∧
      (wanted ≠ [] → (∃ places, IsTrail wanted ls places) →
        ∃ last, IsLeast (trailEnds wanted ls) last ∧ answer = 1 + last) ∧
      1 ≤ answer ∧ answer ≤ max 1 ls.length ∧
      (1 < answer →
        ∃ fragment, wanted.getLast? = some fragment ∧ ShownAt ls fragment (answer - 1)) := by
  intro wanted ls answer
  have ends : (trailEnds wanted ls).Nonempty ↔ wanted ≠ [] ∧ ∃ places, IsTrail wanted ls places :=
    trailEnds_nonempty_iff
  rcases findLine_cases text fragments with ⟨last, least, answered⟩ | ⟨empty, answered⟩
  · obtain ⟨some, trails⟩ := ends.mp ⟨last, least.1⟩
    obtain ⟨places, trail, final⟩ := least.1
    obtain ⟨fragment, own, shown⟩ := trail.shownAt_last final
    have bound : last < ls.length := shown.lt_length
    have number : answer = 1 + last := answered
    refine ⟨?_, fun _ _ => ⟨last, least, number⟩, by omega, by omega, fun _ => ?_⟩
    · rintro (nothing | none)
      · exact absurd nothing some
      · exact absurd trails none
    · exact ⟨fragment, own, by rwa [number, Nat.add_sub_cancel_left]⟩
  · have number : answer = 1 := answered
    refine ⟨fun _ => number, fun some trails => ?_, by omega, by omega, fun below => ?_⟩
    · have nonempty : (trailEnds wanted ls).Nonempty := ends.mpr ⟨some, trails⟩
      exact absurd empty nonempty.ne_empty
    · omega

/-- The first line that mentions a shadow is above the declaration, and is passed over. -/
theorem findLine_least_shadow :
    let text := "\"shadow\": true,\n \"name\"  :\"list\",\r\n \t\"shadow\" : true"
    let fragments := [nameFragment "list", " ", quoted "shadow"]
    let wanted := visible fragments
    let ls := lines text.toList
    wanted ≠ [] ∧ IsTrail wanted ls [1, 2] ∧ IsLeast (trailEnds wanted ls) 2 ∧
      findLine text fragments = 3 ∧ 1 < findLine text fragments ∧
      ∃ fragment, wanted.getLast? = some fragment ∧ ShownAt ls fragment 2 := by
  intro text fragments wanted ls
  have declared : ShownAt ls (nameFragment "list").toList 1 :=
    ⟨" \"name\"  :\"list\",".toList, by decide, by decide⟩
  have opened : ShownAt ls (quoted "shadow").toList 2 :=
    ⟨" \t\"shadow\" : true".toList, by decide, by decide⟩
  have trail : IsTrail wanted ls [1, 2] := ⟨.cons declared (.cons opened .nil), by decide⟩
  obtain ⟨-, found, -, -, shown⟩ := findLine_least text fragments
  have answered : findLine text fragments = 3 := by decide
  obtain ⟨last, least, number⟩ := found (by decide) ⟨_, trail⟩
  obtain rfl : last = 2 := by omega
  have below : 1 < findLine text fragments := by omega
  have final := shown below
  rw [answered] at final
  exact ⟨by decide, trail, least, answered, below, final⟩

end PageLint.Text
