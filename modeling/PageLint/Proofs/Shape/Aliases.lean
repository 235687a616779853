import PageLint.Proofs.Shape.Conformance

/-!
# Keys of the same field

A field may have several keys. It is looked up under all of them at once, so that a record says the
same under any of them, in its values and in its troubles. A field with two entries is refused at
the second, under whatever keys they stand, and what is wrong is named by the first key of the
field, unless the entry in front is wrong in itself. Entries of other fields do not come into it.

## Main definitions

* `Shape.Fields.primary?` — the first key of the field with a key
* `Shape.Fields.Renamed` — two entries that differ in keys of the same field
* `Shape.Fields.refusal?` — what is wrong with a value under a key

## Main results

* `readEntries_renamed` — records with renamed entries have the same outcome
* `readKeyed_eq_ok_congr` — fields are read from their own entries
* `readEntries_twice` — the outcome when a field is given twice
-/

namespace PageLint.Shape

/-- What is wrong, if anything is. -/
def trouble? {α : Type} : Except Trouble α → Option Trouble
  | .error t => some t
  | .ok _ => none

namespace Fields

variable {δ : Type} {D : Dialect δ}

/-- The first key of the field that has the given key. -/
def primary? {ρ : Type} : Fields ρ → String → Option String
  | .nil, _ => none
  | .field key aliases _ _ _ rest, k => if k ∈ key :: aliases then some key else rest.primary? k

/-- What is wrong with the value for the field that has the given key. -/
def refusal? (D : Dialect δ) {ρ : Type} : Fields ρ → String → δ → Option Trouble
  | .nil, _, _ => none
  | .field key aliases _ _ shape rest, k, d =>
    if k ∈ key :: aliases then trouble? (read D shape d) else rest.refusal? D k d

/-- The fields of a record that has the given entries and nothing wrong at its end. -/
def readEntries (D : Dialect δ) {ρ : Type} (fields : Fields ρ) (es : List (String × δ)) :
    Except Trouble ρ :=
  settle D.skip fields.keys es none (fields.readKeyed D (numbered es) (es.length + 1))

/-- The entries have the same value, under keys of the same field or under keys of none. -/
def Renamed {ρ : Type} (fields : Fields ρ) (e e' : String × δ) : Prop :=
  fields.primary? e.1 = fields.primary? e'.1 ∧ e.2 = e'.2

/-! ## The field of a key -/

theorem mem_keys_of_primary? {ρ : Type} {k p : String} :
    (fields : Fields ρ) → fields.primary? k = some p → k ∈ fields.keys ∧ p ∈ fields.keys
  | .field key aliases _ _ _ rest, own => by
    rw [primary?] at own
    split at own
    · rename_i here
      cases own
      exact ⟨List.mem_append_left _ here, List.mem_cons_self⟩
    · obtain ⟨known, first⟩ := mem_keys_of_primary? rest own
      exact ⟨List.mem_append_right _ known, List.mem_append_right (key :: aliases) first⟩

theorem primary?_eq_none_iff {ρ : Type} {k : String} :
    (fields : Fields ρ) → (fields.primary? k = none ↔ k ∉ fields.keys)
  | .nil => by simp [primary?, keys]
  | .field key aliases _ _ _ rest => by
    rw [primary?, keys, List.mem_append, not_or, ← primary?_eq_none_iff rest]
    by_cases here : k ∈ key :: aliases
    · simp [here]
    · rw [if_neg here, iff_and_self]
      exact fun _ => here

section Field

variable {α ρ : Type} {key : String} {aliases : List String} {absent beyond : Option α}
  {shape : Shape α} {rest : Fields ρ}

/-- The keys of a field are not those of a later one. -/
theorem not_mem_keys_of_mem
    (distinct : (Fields.field key aliases absent beyond shape rest).keys.Nodup) {k : String}
    (here : k ∈ key :: aliases) : k ∉ rest.keys :=
  fun later => (List.nodup_append.mp distinct).2.2 k here k later rfl

/-- A key belongs to the first field exactly if this field's first key stands for it. -/
theorem mem_iff_primary?
    (distinct : (Fields.field key aliases absent beyond shape rest).keys.Nodup) {k : String} :
    k ∈ key :: aliases ↔
      (Fields.field key aliases absent beyond shape rest).primary? k = some key := by
  constructor
  · intro here
    rw [primary?, if_pos here]
  · intro own
    by_contra other
    rw [primary?, if_neg other] at own
    exact not_mem_keys_of_mem distinct List.mem_cons_self (mem_keys_of_primary? rest own).2

theorem mem_congr
    (distinct : (Fields.field key aliases absent beyond shape rest).keys.Nodup) {k k' : String}
    (same : (Fields.field key aliases absent beyond shape rest).primary? k =
      (Fields.field key aliases absent beyond shape rest).primary? k') :
    k ∈ key :: aliases ↔ k' ∈ key :: aliases := by
  rw [mem_iff_primary? distinct, same, ← mem_iff_primary? distinct]

/-- Keys of the same field are so among the later fields too. -/
theorem primary?_rest_congr
    (distinct : (Fields.field key aliases absent beyond shape rest).keys.Nodup) {k k' : String}
    (same : (Fields.field key aliases absent beyond shape rest).primary? k =
      (Fields.field key aliases absent beyond shape rest).primary? k') :
    rest.primary? k = rest.primary? k' := by
  by_cases here : k ∈ key :: aliases
  · have here' := (mem_congr distinct same).mp here
    rw [(primary?_eq_none_iff rest).mpr (not_mem_keys_of_mem distinct here),
      (primary?_eq_none_iff rest).mpr (not_mem_keys_of_mem distinct here')]
  · have other := mt (mem_congr distinct same).mpr here
    rwa [primary?, primary?, if_neg here, if_neg other] at same

end Field

/-! ## Other keys of the same fields -/

/-- The same of two entries with their places. -/
def RenamedAt {ρ : Type} (fields : Fields ρ) (f f' : Entry δ) : Prop :=
  f.1 = f'.1 ∧ fields.Renamed f.2 f'.2

theorem forall₂_numbered {ρ : Type} {fields : Fields ρ} {es es' : List (String × δ)}
    (renamed : List.Forall₂ fields.Renamed es es') :
    List.Forall₂ fields.RenamedAt (numbered es) (numbered es') := by
  have counted (n : Nat) :
      List.Forall₂ (fun f f' => f.2 = f'.2 ∧ fields.Renamed f.1 f'.1) (es.zipIdx n)
        (es'.zipIdx n) := by
    induction renamed generalizing n with
    | nil => exact .nil
    | cons first _ ih => exact .cons ⟨rfl, first⟩ (ih (n + 1))
  rw [numbered, numbered, List.forall₂_map_left_iff, List.forall₂_map_right_iff]
  exact counted 0

/-- The value of a field is settled by the places and the values of its entries. -/
theorem valueOf_congr {α : Type} {key : String} {absent : Option α} {shape : Shape α} {atEnd : Nat}
    {own own' : List (Entry δ)}
    (pairs : List.Forall₂ (fun f f' => f.1 = f'.1 ∧ f.2.2 = f'.2.2) own own') :
    valueOf D key absent shape atEnd own = valueOf D key absent shape atEnd own' := by
  cases pairs with
  | nil => rfl
  | cons first others =>
    obtain ⟨place, value⟩ := first
    cases others with
    | nil => simp only [valueOf, place, value]
    | cons second _ => simp only [valueOf, place, value, second.1]

/-- Fields are read alike from entries under other keys of the same fields. -/
theorem readKeyed_renamed {ρ : Type} {hits hits' : List (Entry δ)} {atEnd : Nat} :
    (fields : Fields ρ) → fields.keys.Nodup → List.Forall₂ fields.RenamedAt hits hits' →
      fields.readKeyed D hits atEnd = fields.readKeyed D hits' atEnd
  | .nil, _, _ => rfl
  | .field key aliases absent beyond shape rest, distinct, renamed => by
    have hit (f f' : Entry δ)
        (same : (field key aliases absent beyond shape rest).RenamedAt f f') :
        (key :: aliases).contains f.2.1 = true ↔ (key :: aliases).contains f'.2.1 = true := by
      rw [List.contains_iff_mem, List.contains_iff_mem, mem_congr distinct same.2.1]
    -- The field meets the same values at the same places, and later fields are left with entries
    -- that are renamed for them.
    have own := List.rel_filter hit renamed
    have others : List.Forall₂ rest.RenamedAt hits hits' :=
      renamed.imp fun _ _ ⟨place, same, value⟩ =>
        ⟨place, primary?_rest_congr distinct same, value⟩
    rw [readKeyed_field, readKeyed_field,
      valueOf_congr (own.imp fun _ _ ⟨place, _, value⟩ => ⟨place, value⟩),
      readKeyed_renamed rest (List.nodup_append.mp distinct).2.1 others]

/-- What is wrong beside the fields is settled by the places and values of the other entries. -/
theorem unknown_renamed {ρ : Type} {fields : Fields ρ} {skip : δ → Option Trouble}
    {hits hits' : List (Entry δ)} (renamed : List.Forall₂ fields.RenamedAt hits hits') :
    unknown skip fields.keys hits = unknown skip fields.keys hits' := by
  unfold unknown
  induction renamed with
  | nil => rfl
  | @cons f f' _ _ first _ ih =>
    obtain ⟨place, k, d⟩ := f
    obtain ⟨place', k', d'⟩ := f'
    obtain ⟨rfl, same, rfl⟩ := first
    have known : fields.keys.contains k = fields.keys.contains k' := by
      rw [Bool.eq_iff_iff, List.contains_iff_mem, List.contains_iff_mem, ← not_iff_not,
        ← primary?_eq_none_iff, ← primary?_eq_none_iff, same]
    simp only [List.findSome?_cons, known, ih]

/-- A record has the same outcome under other keys of its fields. -/
theorem readEntries_renamed {ρ : Type} {fields : Fields ρ} (distinct : fields.keys.Nodup)
    {es es' : List (String × δ)} (renamed : List.Forall₂ fields.Renamed es es') :
    fields.readEntries D es = fields.readEntries D es' := by
  have places := forall₂_numbered renamed
  rw [readEntries, readEntries, settle, settle, readKeyed_renamed fields distinct places,
    unknown_renamed places, renamed.length_eq]

/-! ## Entries of other fields -/

/-- Entries under some keys, of two lists that have the same entries under more keys. -/
theorem filter_keys_of_subset {keys all : List String} (inner : keys ⊆ all)
    {es es' : List (String × δ)}
    (same : (es.filter fun e => all.contains e.1) = es'.filter fun e => all.contains e.1) :
    (es.filter fun e => keys.contains e.1) = es'.filter fun e => keys.contains e.1 := by
  have narrow (fs : List (String × δ)) :
      (fs.filter fun e => keys.contains e.1) =
        (fs.filter fun e => all.contains e.1).filter fun e => keys.contains e.1 := by
    rw [List.filter_filter]
    refine List.filter_congr fun e _ => ?_
    by_cases own : e.1 ∈ keys
    · simp [own, inner own]
    · simp [own]
  rw [narrow es, same, ← narrow es']

/-- Fields are read from their own entries. -/
theorem readKeyed_eq_ok_congr {ρ : Type} {es es' : List (String × δ)} {n m : Nat} :
    (fields : Fields ρ) → {r : ρ} →
      (es.filter fun e => fields.keys.contains e.1) =
        es'.filter (fun e => fields.keys.contains e.1) →
      (fields.readKeyed D (numbered es) n = .ok r ↔ fields.readKeyed D (numbered es') m = .ok r)
  | .nil, (), _ => Iff.rfl
  | .field key aliases _ _ _ rest, (a, r), same => by
    have own := filter_keys_of_subset (List.subset_append_left (key :: aliases) rest.keys) same
    have others := filter_keys_of_subset (List.subset_append_right (key :: aliases) rest.keys) same
    rw [readKeyed_field_eq_ok_iff, readKeyed_field_eq_ok_iff, own]
    exact and_congr_right' (readKeyed_eq_ok_congr rest others)

/-- An entry of another field, or of none, is not among the entries under some keys. -/
theorem filter_keys_insert {keys : List String} {k : String} (other : k ∉ keys)
    (before after : List (String × δ)) (v : δ) :
    ((before ++ (k, v) :: after).filter fun e => keys.contains e.1) =
      (before ++ after).filter fun e => keys.contains e.1 := by
  rw [List.filter_append, List.filter_append, List.filter_cons_of_neg (by simpa using other)]

/-! ## A second entry of a field -/

/-- One more entry, before or behind the only one that is looked for. -/
theorem filter_insert_of_singleton {q : String × δ → Bool} {before after : List (String × δ)}
    {e f : String × δ} (single : (before ++ after).filter q = [e]) (own : q f = true) :
    (e ∈ before → (before ++ f :: after).filter q = [e, f]) ∧
      (e ∈ after → (before ++ f :: after).filter q = [f, e]) := by
  have hit : q e = true := (List.mem_filter.mp (single ▸ List.mem_singleton_self e)).2
  rw [List.filter_append, List.append_eq_singleton_iff] at single
  rw [List.filter_append, List.filter_cons_of_pos own]
  rcases single with ⟨front, back⟩ | ⟨front, back⟩
  · rw [front, back]
    exact ⟨fun listed => absurd hit (List.filter_eq_nil_iff.mp front e listed), fun _ => rfl⟩
  · rw [front, back]
    exact ⟨fun _ => rfl, fun listed => absurd hit (List.filter_eq_nil_iff.mp back e listed)⟩

/-- The fields are refused for this reason, whatever the place. -/
def FailsWith (D : Dialect δ) {ρ : Type} (fields : Fields ρ) (es : List (String × δ)) (atEnd : Nat)
    (t : Trouble) : Prop :=
  ∃ place, fields.readKeyed D (numbered es) atEnd = .error ⟨place, t⟩

section Field

variable {α ρ : Type} {key : String} {aliases : List String} {absent beyond : Option α}
  {shape : Shape α} {rest : Fields ρ} {es : List (String × δ)} {n : Nat}

/-- A field with two entries fails at the first, or else because of the second. -/
theorem failsWith_of_pair {f g : String × δ} {r : ρ}
    (pair : (es.filter fun e => (key :: aliases).contains e.1) = [f, g])
    (others : rest.readKeyed D (numbered es) n = .ok r) :
    (field key aliases absent beyond shape rest).FailsWith D es n
      ((trouble? (read D shape f.2)).getD (.mismatch (.duplicate key))) := by
  rw [← map_snd_filter_numbered es fun k => (key :: aliases).contains k,
    List.map_eq_cons_iff] at pair
  obtain ⟨⟨place, k, d⟩, _, hits, rfl, more⟩ := pair
  obtain ⟨⟨second, _⟩, rfl, -⟩ := List.map_eq_singleton_iff.mp more
  rw [FailsWith, readKeyed_field, hits, others]
  cases value : read D shape d with
  | error t => exact ⟨place, by simp only [valueOf, value, both, trouble?, Option.getD_some]⟩
  | ok a => exact ⟨second, by simp only [valueOf, value, both, trouble?, Option.getD_none]⟩

/-- A field with one more entry fails at what comes first of the two, or else because of what comes
second. -/
theorem failsWith_insert {before after : List (String × δ)} {e : String × δ} {k : String} {v : δ}
    {a : α} {r : ρ} (given : e ∈ before ++ after) (own : e.1 ∈ key :: aliases)
    (here : k ∈ key :: aliases)
    (once : Once (absent = some a) (fun d => read D shape d = .ok a)
      ((before ++ after).filter fun e => (key :: aliases).contains e.1))
    (others : rest.readKeyed D (numbered (before ++ (k, v) :: after)) n = .ok r) :
    (e ∈ before →
        (field key aliases absent beyond shape rest).FailsWith D (before ++ (k, v) :: after) n
          (.mismatch (.duplicate key))) ∧
      (e ∈ after →
        (field key aliases absent beyond shape rest).FailsWith D (before ++ (k, v) :: after) n
          ((trouble? (read D shape v)).getD (.mismatch (.duplicate key)))) := by
  obtain ⟨single, value⟩ := once.eq_singleton
    (List.mem_filter.mpr ⟨given, List.contains_iff_mem.mpr own⟩)
  obtain ⟨behind, inFront⟩ :=
    filter_insert_of_singleton single (f := (k, v)) (List.contains_iff_mem.mpr here)
  refine ⟨fun listed => ?_, fun listed => failsWith_of_pair (inFront listed) others⟩
  -- The entry in front is one that was read, so its own value is not what fails.
  have failed : (field key aliases absent beyond shape rest).FailsWith D
      (before ++ (k, v) :: after) n _ := failsWith_of_pair (behind listed) others
  rwa [value] at failed

/-- A later field fails for the whole. -/
theorem FailsWith.of_rest {a : α} {t : Trouble} (fails : rest.FailsWith D es n t)
    (once : Once (absent = some a) (fun d => read D shape d = .ok a)
      (es.filter fun e => (key :: aliases).contains e.1)) :
    (field key aliases absent beyond shape rest).FailsWith D es n t := by
  rw [← map_snd_filter_numbered es fun k => (key :: aliases).contains k] at once
  have value : valueOf D key absent shape n _ = .ok a := valueOf_eq_ok_iff.mpr once
  obtain ⟨place, failed⟩ := fails
  refine ⟨place, ?_⟩
  rw [readKeyed_field, value, failed]
  rfl

end Field

/-- An entry under a further key of a field that has one. If it comes behind, then it is a
duplicate, and if it comes in front, then the other one is, unless the entry in front is refused
for its value. -/
theorem failsWith_twice {ρ : Type} {before after : List (String × δ)} {e : String × δ}
    {k p : String} {v : δ} {n m : Nat} (given : e ∈ before ++ after) :
    (fields : Fields ρ) → {r : ρ} → fields.keys.Nodup →
      fields.readKeyed D (numbered (before ++ after)) n = .ok r →
      fields.primary? e.1 = some p → fields.primary? k = some p →
      (e ∈ before →
          fields.FailsWith D (before ++ (k, v) :: after) m (.mismatch (.duplicate p))) ∧
        (e ∈ after →
          fields.FailsWith D (before ++ (k, v) :: after) m
            ((fields.refusal? D k v).getD (.mismatch (.duplicate p))))
  | .field key aliases absent beyond shape rest, (a, r), distinct, read, first, again => by
    obtain ⟨once, others⟩ := readKeyed_field_eq_ok_iff.mp read
    have same := first.trans again.symm
    -- Only the field of the two entries fails; the fields before and behind it are read as before.
    by_cases here : k ∈ key :: aliases
    · obtain rfl := Option.some.inj (((mem_iff_primary? distinct).mp here).symm.trans again)
      have elsewhere := filter_keys_insert (not_mem_keys_of_mem distinct here) before after v
      rw [refusal?, if_pos here]
      exact failsWith_insert given ((mem_congr distinct same).mpr here) here once
        ((readKeyed_eq_ok_congr rest elsewhere).mpr others)
    · rw [← filter_keys_insert here before after v] at once
      rw [primary?, if_neg here] at again
      have first' := (primary?_rest_congr distinct same).trans again
      rw [refusal?, if_neg here]
      exact (failsWith_twice given rest (List.nodup_append.mp distinct).2.1 others first' again).imp
        (fun behind listed => (behind listed).of_rest once)
        (fun inFront listed => (inFront listed).of_rest once)

/-- One more entry under a known key adds nothing to what is wrong beside the fields. -/
theorem skipped_insert {keys : List String} {before after : List (String × δ)} {k : String} {v : δ}
    (known : k ∈ keys)
    (others : ∀ e ∈ before ++ after, e.1 ∉ keys → D.skip e.2 = none) :
    ∀ e ∈ before ++ (k, v) :: after, e.1 ∉ keys → D.skip e.2 = none := by
  intro e listed unknown
  rw [List.mem_append, List.mem_cons] at listed
  rcases listed with front | rfl | back
  · exact others e (List.mem_append_left _ front) unknown
  · exact absurd known unknown
  · exact others e (List.mem_append_right _ back) unknown

theorem FailsWith.readEntries_eq {ρ : Type} {fields : Fields ρ} {es : List (String × δ)}
    {t : Trouble} (fails : fields.FailsWith D es (es.length + 1) t)
    (others : ∀ e ∈ es, e.1 ∉ fields.keys → D.skip e.2 = none) :
    fields.readEntries D es = .error t := by
  obtain ⟨place, failed⟩ := fails
  rw [readEntries, settle, unknown_eq_none_iff.mpr others, failed]
  rfl

/-- A record that is accepted is refused with a further entry for a field that it has: behind the
entry that it has as a duplicate, and in front of it for its own value, or else because this makes
the other one a duplicate. -/
theorem readEntries_twice {ρ : Type} {fields : Fields ρ} (distinct : fields.keys.Nodup)
    {before after : List (String × δ)} {r : ρ}
    (accepted : fields.readEntries D (before ++ after) = .ok r) {e : String × δ} {k p : String}
    (v : δ) (first : fields.primary? e.1 = some p) (again : fields.primary? k = some p) :
    (e ∈ before →
        fields.readEntries D (before ++ (k, v) :: after) = .error (.mismatch (.duplicate p))) ∧
      (e ∈ after →
        fields.readEntries D (before ++ (k, v) :: after) =
          .error ((fields.refusal? D k v).getD (.mismatch (.duplicate p)))) := by
  obtain ⟨others, -, read⟩ := settle_eq_ok_iff.mp accepted
  have others' := skipped_insert (v := v) (mem_keys_of_primary? fields again).1 others
  have twice (given : e ∈ before ++ after) :=
    failsWith_twice (v := v) (m := (before ++ (k, v) :: after).length + 1) given fields distinct
      read first again
  exact ⟨fun listed => ((twice (List.mem_append_left _ listed)).1 listed).readEntries_eq others',
    fun listed => ((twice (List.mem_append_right _ listed)).2 listed).readEntries_eq others'⟩

end Fields

end PageLint.Shape
