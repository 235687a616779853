import Mathlib.Data.List.Perm.Basic
import PageLint.Proofs.Shape.Conformance

/-!
# Documents that differ in order and in unknown keys

Two documents are alike for a shape if one comes from the other by moving entries of objects about
and by adding and removing entries under keys that no field has, at every level of records that the
shape knows. Lists keep their order, and so do records that are written as arrays.

Whether a document conforms to the shape, and as which value, does not depend on anything else.

## Main definitions

* `Shape.Alike` — the documents differ in order and in unknown keys

## Main results

* `conforms_iff_of_alike` — alike documents are the same values
-/

namespace PageLint.Shape

open Json (Document Quoted)

/-- The entry stands under none of the given keys. -/
def Unknown (keys : List String) (e : Quoted × Document) : Prop := ∃ k, e.1.Says k ∧ k ∉ keys

mutual

/-- The documents differ only in the order of entries and in entries under unknown keys. -/
def Alike {α : Type} : Shape α → Document → Document → Prop
  | .text, d, d' => d = d'
  | .flag, d, d' => d = d'
  | .choice _ _, d, d' => d = d'
  | .optional shape, d, d' => shape.Alike d d'
  | .many shape, d, d' =>
    d = d' ∨ ∃ items items', d = .array items .closed ∧ d' = .array items' .closed ∧
      List.Forall₂ (fun item item' => shape.Alike item item') items items'
  | .record _ fields _ _, d, d' =>
    d = d' ∨
      (∃ entries entries', d = .object entries .closed ∧ d' = .object entries' .closed ∧
        ∃ known known' extra extra',
          entries.Perm (known ++ extra) ∧ entries'.Perm (known' ++ extra') ∧
            List.Forall₂ (fun e e' => e.1 = e'.1 ∧ fields.AlikeAt e.1 e.2 e'.2) known known' ∧
            (∀ e ∈ extra, Unknown fields.keys e) ∧ ∀ e ∈ extra', Unknown fields.keys e) ∨
      ∃ items items', d = .array items .closed ∧ d' = .array items' .closed ∧
        fields.AlikeItems items items'

/-- The documents are alike for the field with the given key, if there is one. -/
def Fields.AlikeAt {ρ : Type} : Fields ρ → Quoted → Document → Document → Prop
  | .nil, _, _, _ => True
  | .field key aliases _ _ shape rest, q, d, d' =>
    (∀ k ∈ key :: aliases, q.Says k → shape.Alike d d') ∧ rest.AlikeAt q d d'

/-- The items are alike, each for its field. -/
def Fields.AlikeItems {ρ : Type} : Fields ρ → List Document → List Document → Prop
  | .nil, items, items' => items = items'
  | .field _ _ _ _ _ _, [], items' => items' = []
  | .field _ _ _ _ _ _, _ :: _, [] => False
  | .field _ _ _ _ shape rest, d :: ds, d' :: ds' => shape.Alike d d' ∧ rest.AlikeItems ds ds'

end

/-! ## Nothing moved, and either way round -/

mutual

theorem Alike.refl {α : Type} : (shape : Shape α) → {d : Document} → shape.Alike d d
  | .text, _ => rfl
  | .flag, _ => rfl
  | .choice _ _, _ => rfl
  | .optional shape, _ => Alike.refl shape
  | .many _, _ => .inl rfl
  | .record _ _ _ _, _ => .inl rfl

theorem Fields.AlikeAt.refl {ρ : Type} : (fields : Fields ρ) → {q : Quoted} → {d : Document} →
    fields.AlikeAt q d d
  | .nil, _, _ => trivial
  | .field _ _ _ _ shape rest, _, _ => ⟨fun _ _ _ => Alike.refl shape, Fields.AlikeAt.refl rest⟩

end

mutual

theorem Alike.symm {α : Type} : (shape : Shape α) → {d d' : Document} → shape.Alike d d' →
    shape.Alike d' d
  | .text, _, _, alike => Eq.symm alike
  | .flag, _, _, alike => Eq.symm alike
  | .choice _ _, _, _, alike => Eq.symm alike
  | .optional shape, _, _, alike => Alike.symm shape alike
  | .many shape, _, _, alike => by
    rcases alike with rfl | ⟨items, items', rfl, rfl, pairs⟩
    · exact .inl rfl
    · exact .inr ⟨items', items, rfl, rfl, pairs.flip.imp fun _ _ => Alike.symm shape⟩
  | .record _ fields _ _, _, _, alike => by
    rcases alike with rfl | ⟨entries, entries', rfl, rfl, known, known', extra, extra', perm, perm',
      pairs, unknown, unknown'⟩ | ⟨items, items', rfl, rfl, pairs⟩
    · exact .inl rfl
    · refine .inr (.inl ⟨entries', entries, rfl, rfl, known', known, extra', extra, perm', perm,
        pairs.flip.imp fun e e' both => ⟨both.1.symm, ?_⟩, unknown', unknown⟩)
      rw [← both.1]
      exact Fields.AlikeAt.symm fields both.2
    · exact .inr (.inr ⟨items', items, rfl, rfl, Fields.AlikeItems.symm fields pairs⟩)

theorem Fields.AlikeAt.symm {ρ : Type} : (fields : Fields ρ) → {q : Quoted} → {d d' : Document} →
    fields.AlikeAt q d d' → fields.AlikeAt q d' d
  | .nil, _, _, _, _ => trivial
  | .field _ _ _ _ shape rest, _, _, _, alike =>
    ⟨fun k listed text => Alike.symm shape (alike.1 k listed text),
      Fields.AlikeAt.symm rest alike.2⟩

theorem Fields.AlikeItems.symm {ρ : Type} : (fields : Fields ρ) → {items items' : List Document} →
    fields.AlikeItems items items' → fields.AlikeItems items' items
  | .nil, _, _, alike => Eq.symm alike
  | .field _ _ _ _ _ _, [], [], _ => rfl
  | .field _ _ _ _ _ _, [], _ :: _, alike => by cases alike
  | .field _ _ _ _ _ _, _ :: _, [], alike => alike.elim
  | .field _ _ _ _ shape rest, _ :: _, _ :: _, alike =>
    ⟨Alike.symm shape alike.1, Fields.AlikeItems.symm rest alike.2⟩

end

/-! ## Entries of an object -/

variable {entries entries' known known' extra : List (Quoted × Document)}
  {named named' : List (String × Document)}

theorem exists_keyedBy_of_unknown {keys : List String} (unknown : ∀ e ∈ extra, Unknown keys e) :
    ∃ named, List.Forall₂ KeyedBy extra named ∧ ∀ f ∈ named, f.1 ∉ keys := by
  induction extra with
  | nil => exact ⟨[], .nil, List.forall_mem_nil _⟩
  | cons e extra ih =>
    obtain ⟨⟨k, text, other⟩, later⟩ := List.forall_mem_cons.mp unknown
    obtain ⟨named, keyed, others⟩ := ih later
    exact ⟨(k, e.2) :: named, .cons ⟨text, rfl⟩ keyed, List.forall_mem_cons.mpr ⟨other, others⟩⟩

/-- Entries under unknown keys have unknown keys when these are read. -/
theorem not_mem_of_unknown {keys : List String} (unknown : ∀ e ∈ extra, Unknown keys e)
    (keyed : List.Forall₂ KeyedBy extra named) : ∀ f ∈ named, f.1 ∉ keys := by
  induction keyed with
  | nil => exact List.forall_mem_nil _
  | cons first others ih =>
    obtain ⟨⟨k, text, other⟩, later⟩ := List.forall_mem_cons.mp unknown
    rw [text.unique first.1] at other
    exact List.forall_mem_cons.mpr ⟨other, ih later⟩

theorem Once.perm {δ : Type} {missing : Prop} {p : δ → Prop} {es es' : List (String × δ)}
    (perm : es.Perm es') : Once missing p es ↔ Once missing p es' := by
  rcases es with _ | ⟨e, _ | ⟨f, es⟩⟩
  · rw [List.nil_perm.mp perm]
  · rw [List.singleton_perm.mp perm]
  · rcases es' with _ | ⟨e', _ | ⟨f', es'⟩⟩
    · cases List.perm_nil.mp perm
    · cases List.perm_singleton.mp perm
    · exact Iff.rfl

namespace Fields

/-- The fields of an object do not depend on the order of its entries. -/
theorem keyed_perm {ρ : Type} (perm : named.Perm named') :
    (fields : Fields ρ) → {r : ρ} → (fields.Keyed named r ↔ fields.Keyed named' r)
  | .nil, _ => Iff.rfl
  | .field key aliases _ _ shape rest, r => by
    obtain ⟨a, r⟩ := r
    rw [Keyed, Keyed, Once.perm (perm.filter _), keyed_perm perm rest]

/-- The fields of an object do not depend on entries under other keys. -/
theorem keyed_append {ρ : Type} :
    (fields : Fields ρ) → {r : ρ} → (∀ f ∈ named', f.1 ∉ fields.keys) →
      (fields.Keyed (named ++ named') r ↔ fields.Keyed named r)
  | .nil, (), _ => Iff.rfl
  | .field key aliases _ _ shape rest, (a, r), unknown => by
    have quiet : (named'.filter fun e => (key :: aliases).contains e.1) = [] := by
      refine List.filter_eq_nil_iff.mpr fun f listed own => unknown f listed ?_
      exact List.mem_append_left _ (List.contains_iff_mem.mp own)
    have others : ∀ f ∈ named', f.1 ∉ rest.keys := fun f listed later =>
      unknown f listed (List.mem_append_right _ later)
    rw [Keyed, Keyed, List.filter_append, quiet, List.append_nil, keyed_append rest others]

end Fields

/-! ## Values of alike documents -/

theorem forall₂_of_pairs {α β γ : Type} {R : α → β → Prop} {S : α → γ → Prop} {T : β → γ → Prop}
    (step : ∀ a b c, R a b → S a c → T b c) {as : List α} {bs : List β} {cs : List γ}
    (pairs : List.Forall₂ R as bs) (values : List.Forall₂ S as cs) : List.Forall₂ T bs cs := by
  induction pairs generalizing cs with
  | nil =>
    cases values
    exact .nil
  | cons first others ih =>
    cases values with
    | cons value values => exact .cons (step _ _ _ first value) (ih values)

theorem eq_word_of_alike {α : Type} {w : Json.Word} {fault : Option Json.Fault} :
    (shape : Shape α) → {d : Document} → shape.Alike (.word w fault) d → d = .word w fault
  | .text, _, alike => Eq.symm alike
  | .flag, _, alike => Eq.symm alike
  | .choice _ _, _, alike => Eq.symm alike
  | .optional shape, _, alike => eq_word_of_alike shape alike
  | .many shape, _, alike => by
    rcases alike with same | ⟨_, _, impossible, -⟩
    · exact same.symm
    · cases impossible
  | .record _ fields _ _, _, alike => by
    rcases alike with same | ⟨_, _, impossible, -⟩ | ⟨_, _, impossible, -⟩
    · exact same.symm
    · cases impossible
    · cases impossible

/-- The values of two entries are alike for the field with their key. -/
def Fields.AlikeNamed {ρ : Type} (fields : Fields ρ) (f f' : String × Document) : Prop :=
  f.1 = f'.1 ∧ ∃ q : Quoted, q.Says f.1 ∧ fields.AlikeAt q f.2 f'.2

/-- Entries with the same keys as written have the same keys. -/
theorem exists_keyedBy_of_alike {ρ : Type} {fields : Fields ρ}
    (pairs : List.Forall₂ (fun e e' => e.1 = e'.1 ∧ fields.AlikeAt e.1 e.2 e'.2) known known')
    (keyed : List.Forall₂ KeyedBy known named) :
    ∃ named', List.Forall₂ KeyedBy known' named' ∧
      List.Forall₂ fields.AlikeNamed named named' := by
  induction pairs generalizing named with
  | nil =>
    cases keyed
    exact ⟨[], .nil, .nil⟩
  | @cons e e' _ _ first others ih =>
    obtain ⟨key, alike⟩ := first
    cases keyed with
    | @cons _ f _ _ here later =>
      obtain ⟨named', keyed', named⟩ := ih later
      obtain ⟨text, same⟩ := here
      refine ⟨(f.1, e'.2) :: named', .cons ⟨key ▸ text, rfl⟩ keyed',
        .cons ⟨rfl, e.1, text, ?_⟩ named⟩
      rw [← same]
      exact alike

/-- The entries under some keys of two lists with the same keys. -/
theorem forall₂_filter_key {δ ε : Type} (p : String → Bool) {R : String × δ → String × ε → Prop}
    {es : List (String × δ)} {fs : List (String × ε)}
    (pairs : List.Forall₂ (fun e f => e.1 = f.1 ∧ R e f) es fs) :
    List.Forall₂ (fun e f => p e.1 = true ∧ e.1 = f.1 ∧ R e f) (es.filter fun e => p e.1)
      (fs.filter fun f => p f.1) := by
  induction pairs with
  | nil => exact .nil
  | @cons e f es fs first others ih =>
    by_cases own : p e.1 = true
    · have own' : p f.1 = true := first.1 ▸ own
      rw [List.filter_cons, List.filter_cons, if_pos own, if_pos own']
      exact .cons ⟨own, first⟩ ih
    · have own' : ¬ p f.1 = true := first.1 ▸ own
      rw [List.filter_cons, List.filter_cons, if_neg own, if_neg own']
      exact ih

/-- What goes with the two parts of a list that was put together and moved about. -/
theorem exists_split_of_perm {α β : Type} {R : α → β → Prop} {as front back : List α} {bs : List β}
    (perm : as.Perm (front ++ back)) (pairs : List.Forall₂ R as bs) :
    ∃ front' back', List.Forall₂ R front front' ∧ List.Forall₂ R back back' ∧
      (front' ++ back').Perm bs := by
  obtain ⟨sorted, pairs, moved⟩ := List.perm_comp_forall₂ perm.symm pairs
  have first := List.forall₂_take front.length pairs
  have last := List.forall₂_drop front.length pairs
  rw [List.take_left] at first
  rw [List.drop_left] at last
  refine ⟨_, _, first, last, ?_⟩
  rwa [List.take_append_drop]

/-- Entries that are moved about, or that stand under unknown keys, do not count. -/
theorem exists_keyed_of_perm {ρ : Type} {fields : Fields ρ} {r : ρ}
    (perm : entries.Perm (known ++ extra)) (unknown : ∀ e ∈ extra, Unknown fields.keys e)
    (keyed : List.Forall₂ KeyedBy entries named) (held : fields.Keyed named r) :
    ∃ named', List.Forall₂ KeyedBy known named' ∧ fields.Keyed named' r := by
  obtain ⟨front, back, keyed, others, moved⟩ := exists_split_of_perm perm keyed
  refine ⟨front, keyed, ?_⟩
  rw [← Fields.keyed_perm moved] at held
  exact (Fields.keyed_append fields (not_mem_of_unknown unknown others)).mp held

/-- Entries may be moved about, and others added under unknown keys. -/
theorem exists_keyed_of_known {ρ : Type} {fields : Fields ρ} {r : ρ}
    (perm : entries.Perm (known ++ extra)) (unknown : ∀ e ∈ extra, Unknown fields.keys e)
    (keyed : List.Forall₂ KeyedBy known named) (held : fields.Keyed named r) :
    ∃ named', List.Forall₂ KeyedBy entries named' ∧ fields.Keyed named' r := by
  obtain ⟨others, keyed', apart⟩ := exists_keyedBy_of_unknown unknown
  have both : List.Forall₂ KeyedBy (known ++ extra) (named ++ others) :=
    List.rel_append keyed keyed'
  obtain ⟨moved, keyed'', back⟩ := List.perm_comp_forall₂ perm both
  refine ⟨moved, keyed'', ?_⟩
  rw [Fields.keyed_perm back, Fields.keyed_append fields apart]
  exact held

mutual

/-- A document that is alike to one of a value is one of that value. -/
theorem conforms_of_alike {α : Type} :
    (shape : Shape α) → {d d' : Document} → {a : α} → shape.Alike d d' → shape.Conforms d a →
      shape.Conforms d' a
  | .text, _, _, _, alike, conforms => alike ▸ conforms
  | .flag, _, _, _, alike, conforms => alike ▸ conforms
  | .choice _ _, _, _, _, alike, conforms => alike ▸ conforms
  | .optional shape, _, _, none, alike, conforms => by
    obtain rfl := conforms
    exact eq_word_of_alike shape alike
  | .optional shape, d, d', some a, alike, conforms => by
    obtain ⟨present, conforms⟩ := conforms
    refine ⟨fun null => present ?_, conforms_of_alike shape alike conforms⟩
    subst null
    exact eq_word_of_alike shape (Alike.symm shape alike)
  | .many shape, _, _, as, alike, conforms => by
    rcases alike with rfl | ⟨items, items', rfl, rfl, pairs⟩
    · exact conforms
    · obtain ⟨listed, same, values⟩ := conforms
      obtain ⟨rfl, -⟩ := Document.array.inj same
      refine ⟨items', rfl, forall₂_of_pairs (fun _ _ _ here value => ?_) pairs values⟩
      exact conforms_of_alike shape here value
  | .record _ fields _ _, _, _, a, alike, conforms => by
    rcases alike with rfl | ⟨entries, entries', rfl, rfl, known, known', extra, extra', perm, perm',
      pairs, unknown, unknown'⟩ | ⟨items, items', rfl, rfl, pairs⟩
    · exact conforms
    · obtain ⟨r, made, ⟨_, named, same, keyed, held⟩ | ⟨_, impossible, -⟩⟩ := conforms
      · obtain ⟨rfl, -⟩ := Document.object.inj same
        obtain ⟨namedKnown, keyed, held⟩ := exists_keyed_of_perm perm unknown keyed held
        obtain ⟨namedKnown', keyed', alike⟩ := exists_keyedBy_of_alike pairs keyed
        obtain ⟨named', keyed', held⟩ :=
          exists_keyed_of_known perm' unknown' keyed' (Fields.keyed_of_alike fields alike held)
        exact ⟨r, made, .inl ⟨entries', named', rfl, keyed', held⟩⟩
      · cases impossible
    · obtain ⟨r, made, ⟨_, _, impossible, -⟩ | ⟨_, same, listed⟩⟩ := conforms
      · cases impossible
      · obtain ⟨rfl, -⟩ := Document.array.inj same
        exact ⟨r, made, .inr ⟨items', rfl, Fields.listed_of_alike fields pairs listed⟩⟩

theorem Fields.keyed_of_alike {ρ : Type} {named named' : List (String × Document)} :
    (fields : Fields ρ) → {r : ρ} → List.Forall₂ fields.AlikeNamed named named' →
      fields.Keyed named r → fields.Keyed named' r
  | .nil, (), _, _ => trivial
  | .field key aliases _ _ shape rest, (a, r), pairs, keyed => by
    obtain ⟨once, others⟩ := keyed
    have later : List.Forall₂ rest.AlikeNamed named named' :=
      pairs.imp fun f f' alike => ⟨alike.1, alike.2.imp fun q both => ⟨both.1, both.2.2⟩⟩
    refine ⟨once.of_forall₂ ?_, Fields.keyed_of_alike rest later others⟩
    refine (forall₂_filter_key (fun k => (key :: aliases).contains k) pairs).imp fun f f' both => ?_
    obtain ⟨own, -, q, text, here, -⟩ := both
    exact conforms_of_alike shape (here f.1 (List.contains_iff_mem.mp own) text)

theorem Fields.listed_of_alike {ρ : Type} :
    (fields : Fields ρ) → {items items' : List Document} → {r : ρ} →
      fields.AlikeItems items items' → fields.Listed items r → fields.Listed items' r
  | .nil, _, _, (), alike, listed => Eq.trans (Eq.symm alike) listed
  | .field _ _ _ _ _ _, [], [], _, _, listed => listed
  | .field _ _ _ _ _ _, [], _ :: _, _, alike, _ => by cases alike
  | .field _ _ _ _ _ _, _ :: _, [], _, alike, _ => alike.elim
  | .field _ _ _ _ shape rest, _ :: _, _ :: _, (a, r), alike, listed =>
    ⟨conforms_of_alike shape alike.1 listed.1, Fields.listed_of_alike rest alike.2 listed.2⟩

end

/-- Alike documents are the same values. -/
theorem conforms_iff_of_alike {α : Type} {shape : Shape α} {d d' : Document} {a : α}
    (alike : shape.Alike d d') : shape.Conforms d a ↔ shape.Conforms d' a :=
  ⟨conforms_of_alike shape alike, conforms_of_alike shape (Alike.symm shape alike)⟩

/-- Texts of alike documents are read as the same values. -/
theorem parse_eq_ok_iff_of_alike {α : Type} {shape : Shape α} {s s' : String} {d d' : Document}
    (spells : Json.Spells s.toList d) (spells' : Json.Spells s'.toList d')
    (alike : shape.Alike d d') {a : α} : parse shape s = .ok a ↔ parse shape s' = .ok a := by
  have only {s : String} {d : Document} (spells : Json.Spells s.toList d) :
      parse shape s = .ok a ↔ shape.Conforms d a := by
    rw [parse_eq_ok_iff]
    constructor
    · rintro ⟨e, spelled, conforms⟩
      rwa [spells.unique spelled]
    · exact fun conforms => ⟨d, spells, conforms⟩
  rw [only spells, only spells', conforms_iff_of_alike alike]

end PageLint.Shape
