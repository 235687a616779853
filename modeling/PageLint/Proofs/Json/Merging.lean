import Mathlib.Data.List.Nodup
import PageLint.Json.Basic

/-!
# Objects as maps

The value of a text has the entries of an object as they are written, also where a key comes back. A
program that holds its objects as maps has room for one entry under each key: the last one stays,
in the place of the first. As long as no object repeats a key this is the value itself.

## Main definitions

* `Json.merged` — the value with one entry for each key
* `Json.Unrepeated` — no object of the value repeats a key

## Main results

* `Unrepeated.merged_eq` — nothing is merged where no key is repeated
-/

namespace PageLint.Json

/-- Adds an entry, in the place of the former entry under its key if there is one. -/
def mergeEntry (key : String) (v : Json) : List (String × Json) → List (String × Json)
  | [] => [(key, v)]
  | e :: es => if e.1 = key then (key, v) :: es else e :: mergeEntry key v es

mutual

/-- The value with one entry for each key of an object: the last one, in the place of the first. -/
def merged : Json → Json
  | .array items => .array (mergedItems items)
  | .object entries => .object (mergedEntries [] entries)
  | v => v

/-- The items of an array, each merged. -/
def mergedItems : List Json → List Json
  | [] => []
  | v :: vs => v.merged :: mergedItems vs

/-- The entries of an object after those that were kept before. -/
def mergedEntries (kept : List (String × Json)) : List (String × Json) → List (String × Json)
  | [] => kept
  | (key, v) :: es => mergedEntries (mergeEntry key v.merged kept) es

end

/-- No object of the value repeats a key, at any depth. -/
inductive Unrepeated : Json → Prop
  | null : Unrepeated .null
  | bool (b : Bool) : Unrepeated (.bool b)
  | number (n : Numeral) : Unrepeated (.number n)
  | string (s : String) : Unrepeated (.string s)
  | array {items : List Json} (inner : ∀ v ∈ items, Unrepeated v) : Unrepeated (.array items)
  | object {entries : List (String × Json)} (distinct : (entries.map (·.1)).Nodup)
    (inner : ∀ e ∈ entries, Unrepeated e.2) : Unrepeated (.object entries)

theorem mergeEntry_of_not_mem {key : String} {v : Json} {es : List (String × Json)}
    (new : key ∉ es.map (·.1)) : mergeEntry key v es = es ++ [(key, v)] := by
  induction es with
  | nil => rfl
  | cons e es ih =>
    rw [List.map_cons, List.mem_cons, not_or] at new
    rw [mergeEntry, if_neg (Ne.symm new.1), ih new.2, List.cons_append]

theorem mergedItems_eq_map (items : List Json) : mergedItems items = items.map merged := by
  induction items with
  | nil => rfl
  | cons v vs ih => rw [mergedItems, ih, List.map_cons]

/-- Entries under new keys come behind those that were kept before. -/
theorem mergedEntries_eq_append {kept es : List (String × Json)}
    (distinct : ((kept ++ es).map (·.1)).Nodup) (inner : ∀ e ∈ es, e.2.merged = e.2) :
    mergedEntries kept es = kept ++ es := by
  induction es generalizing kept with
  | nil => rw [mergedEntries, List.append_nil]
  | cons e es ih =>
    obtain ⟨own, others⟩ := List.forall_mem_cons.mp inner
    have new : e.1 ∉ kept.map (·.1) := by
      intro known
      rw [List.map_append, List.nodup_append] at distinct
      exact distinct.2.2 e.1 known e.1 (List.mem_map_of_mem List.mem_cons_self) rfl
    rw [mergedEntries, own, mergeEntry_of_not_mem new, ih (by simpa using distinct) others]
    simp

/-- Nothing is merged where no key is repeated. -/
theorem Unrepeated.merged_eq {v : Json} (once : v.Unrepeated) : v.merged = v := by
  induction once with
  | array inner ih =>
    rw [merged, mergedItems_eq_map, List.map_congr_left ih, List.map_id']
  | object distinct inner ih =>
    rw [merged, mergedEntries_eq_append (by simpa using distinct) ih, List.nil_append]
  | _ => rfl

/-- A key that comes back counts as it is given last. -/
example : (Json.object [("a", .bool true), ("b", .null), ("a", .bool false)]).merged =
    .object [("a", .bool false), ("b", .null)] := by
  rfl

end PageLint.Json
