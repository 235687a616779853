import PageLint.Json.Document
import PageLint.Proofs.Computation

/-!
# Documents without faults

A document without faults has a value, and the value tells what the document looks like from
outside. Only the spelling of its strings is left open.

## Main definitions

* `Json.Document.Shows` — a document without faults, by the outermost part of its value

## Main results

* `toJson_eq_ok_iff` — a document has a value exactly if it shows that value
* `exists_items_of_toJson`, `exists_entries_of_toJson` — the values of containers
-/

namespace PageLint.Json

/-! ## Values of documents -/

namespace Document

/-- The entry has the given key and value. -/
def Spells (e : Quoted × Document) (f : String × Json) : Prop :=
  e.1.text = .ok f.1 ∧ e.2.toJson = .ok f.2

/-- What a document without faults looks like from outside, by its value. -/
def Shows (d : Document) : Json → Prop
  | .null => d = .word .null none
  | .bool b => d = .word (if b then .true else .false) none
  | .number n => d = .number (.ok n)
  | .string s => ∃ q, d = .text q ∧ q.text = .ok s
  | .array vs => ∃ items, d = .array items .closed ∧
    List.Forall₂ (fun item v => item.toJson = .ok v) items vs
  | .object es => ∃ entries, d = .object entries .closed ∧ List.Forall₂ Spells entries es

theorem toJsonItems_eq_ok_iff {ds : List Document} {vs : List Json} :
    toJsonItems ds = .ok vs ↔ List.Forall₂ (fun d v => d.toJson = .ok v) ds vs := by
  have mapped : toJsonItems ds = ds.mapM toJson := by
    induction ds with
    | nil => rfl
    | cons d ds ih => rw [toJsonItems, ih, List.mapM_cons]
  rw [mapped, mapM_eq_ok_iff]

theorem toJsonEntries_eq_ok_iff {ds : List (Quoted × Document)} {es : List (String × Json)} :
    toJsonEntries ds = .ok es ↔ List.Forall₂ Spells ds es := by
  have mapped : toJsonEntries ds = ds.mapM fun e => do return (← e.1.text, ← e.2.toJson) := by
    induction ds with
    | nil => rfl
    | cons e ds ih =>
      rw [toJsonEntries, ih, List.mapM_cons]
      simp only [bind_assoc, pure_bind]
  have entry (e : Quoted × Document) (f : String × Json) :
      (do return (← e.1.text, ← e.2.toJson) : Except Fault _) = .ok f ↔ Spells e f := by
    obtain ⟨k, v⟩ := f
    simp [bind_eq_ok_iff, pure, Except.pure, Spells]
  rw [mapped, mapM_eq_ok_iff]
  simp only [entry]

/-- A document has a value exactly if it shows that value. -/
theorem toJson_eq_ok_iff {d : Document} {v : Json} : d.toJson = .ok v ↔ d.Shows v := by
  cases d with
  | absent f => cases v <;> simp [toJson, Shows]
  | word w fault =>
    cases v with
    | bool b => cases fault <;> cases w <;> cases b <;> simp [toJson, Shows, Word.toJson]
    | _ => cases fault <;> cases w <;> simp [toJson, Shows, Word.toJson]
  | number n => cases v <;> simp [toJson, Shows, map_eq_ok_iff]
  | text q => cases v <;> simp [toJson, Shows, map_eq_ok_iff]
  | array items ending =>
    cases ending <;> cases v <;> simp [toJson, Shows, bind_eq_ok_iff, toJsonItems_eq_ok_iff]
  | object entries ending =>
    cases ending <;> cases v <;> simp [toJson, Shows, bind_eq_ok_iff, toJsonEntries_eq_ok_iff]

/-- The value of an array is the array of the values of its items. -/
theorem exists_items_of_toJson {items : List Document} {ending : Ending} {v : Json}
    (valued : (Document.array items ending).toJson = .ok v) :
    ∃ vs, v = .array vs ∧ ending = .closed ∧
      List.Forall₂ (fun item v => item.toJson = .ok v) items vs := by
  obtain ⟨vs, inner, ended⟩ := bind_eq_ok_iff.mp valued
  cases ending with
  | closed =>
    cases ended
    exact ⟨vs, rfl, rfl, toJsonItems_eq_ok_iff.mp inner⟩
  | broken => cases ended

/-- The value of an object is the object of what its entries spell. -/
theorem exists_entries_of_toJson {entries : List (Quoted × Document)} {ending : Ending} {v : Json}
    (valued : (Document.object entries ending).toJson = .ok v) :
    ∃ es, v = .object es ∧ ending = .closed ∧ List.Forall₂ Spells entries es := by
  obtain ⟨es, inner, ended⟩ := bind_eq_ok_iff.mp valued
  cases ending with
  | closed =>
    cases ended
    exact ⟨es, rfl, rfl, toJsonEntries_eq_ok_iff.mp inner⟩
  | broken => cases ended

end Document

end PageLint.Json
