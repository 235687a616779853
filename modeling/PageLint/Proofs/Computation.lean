import Mathlib.Data.List.Forall2

/-!
# Computations that succeed

What it takes for a computation that can fail to have a result: every step of it has one. Otherwise
it fails as the first of its steps that has none.

## Main results

* `bind_eq_ok_iff`, `map_eq_ok_iff` — one computation after another
* `mapM_eq_ok_iff`, `mapM_append_eq_ok_iff`, `mapM_eq_ok_of_forall₂`, `exists_mapM_eq_ok` — one
  computation for each item of a list
* `exists_mapM_eq_error` — the first item without a result
* `exists_mem_of_forall₂` — what an item has to do with those of a related list
-/

namespace PageLint

variable {ε α β : Type}

theorem bind_eq_ok_iff {x : Except ε α} {f : α → Except ε β} {b : β} :
    x >>= f = .ok b ↔ ∃ a, x = .ok a ∧ f a = .ok b := by
  cases x <;> simp [bind, Except.bind]

theorem map_eq_ok_iff {x : Except ε α} {f : α → β} {b : β} :
    f <$> x = .ok b ↔ ∃ a, x = .ok a ∧ f a = b := by
  cases x <;> simp

theorem mapM_eq_ok_iff {f : α → Except ε β} {as : List α} {bs : List β} :
    as.mapM f = .ok bs ↔ List.Forall₂ (fun a b => f a = .ok b) as bs := by
  induction as generalizing bs with
  | nil =>
    rw [List.mapM_nil, List.forall₂_nil_left_iff]
    exact ⟨fun result => by cases result; rfl, fun empty => by rw [empty]; rfl⟩
  | cons a as ih =>
    simp only [List.mapM_cons, bind_eq_ok_iff, ih, List.forall₂_cons_left_iff]
    constructor
    · rintro ⟨b, first, cs, others, result⟩
      cases result
      exact ⟨b, cs, first, others, rfl⟩
    · rintro ⟨b, cs, first, others, rfl⟩
      exact ⟨b, first, cs, others, rfl⟩

theorem mapM_append_eq_ok_iff {f : α → Except ε β} {as as' : List α} {bs : List β} :
    (as ++ as').mapM f = .ok bs ↔
      ∃ cs ds, as.mapM f = .ok cs ∧ as'.mapM f = .ok ds ∧ bs = cs ++ ds := by
  simp only [List.mapM_append, bind_eq_ok_iff]
  constructor
  · rintro ⟨cs, first, ds, second, result⟩
    cases result
    exact ⟨cs, ds, first, second, rfl⟩
  · rintro ⟨cs, ds, first, second, rfl⟩
    exact ⟨cs, first, ds, second, rfl⟩

theorem mapM_append_of_error {f : α → Except ε β} {as : List α} {e : ε}
    (failed : as.mapM f = .error e) (as' : List α) : (as ++ as').mapM f = .error e := by
  rw [List.mapM_append, failed]
  rfl

/-- Items that give what other items give do so in a list too. -/
theorem mapM_eq_ok_of_forall₂ {α' : Type} {f : α → Except ε β} {g : α' → Except ε β} {as : List α}
    {as' : List α'} {bs : List β}
    (gives : List.Forall₂ (fun a a' => ∀ b, f a = .ok b → g a' = .ok b) as as')
    (results : as.mapM f = .ok bs) : as'.mapM g = .ok bs := by
  rw [mapM_eq_ok_iff] at results ⊢
  induction gives generalizing bs with
  | nil => exact List.forall₂_nil_left_iff.mpr (List.forall₂_nil_left_iff.mp results)
  | cons first _ ih =>
    cases results with
    | cons result results => exact .cons (first _ result) (ih results)

/-- Of two lists that are related item by item, each item of one is related to one of the other. -/
theorem exists_mem_of_forall₂ {R : α → β → Prop} {as : List α} {bs : List β}
    (related : List.Forall₂ R as bs) {a : α} (listed : a ∈ as) : ∃ b ∈ bs, R a b := by
  induction related with
  | nil => cases listed
  | cons first _ ih =>
    rcases List.mem_cons.mp listed with rfl | later
    · exact ⟨_, List.mem_cons_self, first⟩
    · obtain ⟨b, member, result⟩ := ih later
      exact ⟨b, List.mem_cons_of_mem _ member, result⟩

section Members

variable {f : α → Except ε β} {as : List α} {bs : List β}

theorem exists_mem_of_mapM_eq_ok (results : as.mapM f = .ok bs) {a : α} (listed : a ∈ as) :
    ∃ b ∈ bs, f a = .ok b :=
  exists_mem_of_forall₂ (mapM_eq_ok_iff.mp results) listed

theorem exists_of_mem_mapM (results : as.mapM f = .ok bs) {b : β} (listed : b ∈ bs) :
    ∃ a ∈ as, f a = .ok b :=
  exists_mem_of_forall₂ (mapM_eq_ok_iff.mp results).flip listed

/-- All items have a result together if each of them has one. -/
theorem exists_mapM_eq_ok (each : ∀ a ∈ as, ∃ b, f a = .ok b) : ∃ bs, as.mapM f = .ok bs := by
  induction as with
  | nil => exact ⟨[], rfl⟩
  | cons a as ih =>
    obtain ⟨b, first⟩ := each a List.mem_cons_self
    obtain ⟨bs, others⟩ := ih fun a listed => each a (List.mem_cons_of_mem _ listed)
    exact ⟨b :: bs, mapM_eq_ok_iff.mpr (.cons first (mapM_eq_ok_iff.mp others))⟩

/-- If an item has no result, then the first such item says why there is none for the list. -/
theorem exists_mapM_eq_error (fails : ∃ a ∈ as, ¬ ∃ b, f a = .ok b) :
    ∃ before a after e, as = before ++ a :: after ∧ (∀ earlier ∈ before, ∃ b, f earlier = .ok b) ∧
      f a = .error e ∧ as.mapM f = .error e := by
  induction as with
  | nil =>
    obtain ⟨a, listed, -⟩ := fails
    cases listed
  | cons a as ih =>
    rw [List.mapM_cons]
    cases own : f a with
    | error e => exact ⟨[], a, as, e, rfl, by simp, own, rfl⟩
    | ok b =>
      have later : ∃ a ∈ as, ¬ ∃ b, f a = .ok b := by
        obtain ⟨a', listed, none⟩ := fails
        rcases List.mem_cons.mp listed with rfl | later
        · exact absurd ⟨b, own⟩ none
        · exact ⟨a', later, none⟩
      obtain ⟨before, a', after, e, rfl, fine, failed, result⟩ := ih later
      refine ⟨a :: before, a', after, e, rfl, ?_, failed, by rw [result]; rfl⟩
      exact List.forall_mem_cons.mpr ⟨⟨b, own⟩, fine⟩

end Members

end PageLint
