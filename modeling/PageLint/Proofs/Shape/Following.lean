import PageLint.Proofs.Json.Faultless
import PageLint.Proofs.Shape.Conformance
import PageLint.Shape.Value

/-!
# Dialects that follow one another

All that the reader knows of a format is what its dialect shows. So if one dialect shows whatever
another one shows, for two documents that belong together, then the first reads whatever the other
reads, by every shape and as the same value. Nothing is said of documents that are refused: which
trouble a dialect names is its own.

The dialect of JSON texts and the one of JSON values follow each other where the value is that of
the text. So it makes no difference to what is read whether a text is read directly or by way of
its value.

## Main definitions

* `Shape.Follows` — a dialect shows whatever another one shows

## Main results

* `read_of_follows` — a dialect reads whatever a dialect reads that it follows
* `read_ofValue_eq_ok_iff`, `read_ofValue_eq_ok_iff_parse` — a text is read as its value is
-/

namespace PageLint.Shape

open Json (Document Quoted)

variable {δ δ' : Type} {R : δ → δ' → Prop}

/-- The entries have the same key, and documents that belong together. -/
def Paired (R : δ → δ' → Prop) (e : String × δ) (e' : String × δ') : Prop :=
  e.1 = e'.1 ∧ R e.2 e'.2

/-- The second place is free of trouble if the first one is. -/
def Clears (first second : Option Trouble) : Prop := first = none → second = none

/-- The layouts are of one kind and hold documents that belong together, and trouble is in the
second only where it is in the first. -/
inductive Layout.Follows (R : δ → δ' → Prop) : Layout δ → Layout δ' → Prop
  | keyed {entries entries' ending ending'} (pairs : List.Forall₂ (Paired R) entries entries')
    (ends : Clears ending ending') : Follows R (.keyed entries ending) (.keyed entries' ending')
  | listed {items items' ending ending' surplus surplus'} (pairs : List.Forall₂ R items items')
    (ends : Clears ending ending') (goesOn : Clears surplus surplus') :
    Follows R (.listed items ending surplus) (.listed items' ending' surplus')

/-- Whatever the first dialect shows of a document, the second one shows of the documents that
belong to it. -/
structure Follows (D : Dialect δ) (D' : Dialect δ') (R : δ → δ' → Prop) : Prop where
  text {d d' s} : R d d' → D.text d = .ok s → D'.text d' = .ok s
  flag {d d' b} : R d d' → D.flag d = .ok b → D'.flag d' = .ok b
  choice {d d' name} : R d d' → D.choice d = .ok ⟨name, none⟩ → D'.choice d' = .ok ⟨name, none⟩
  isNull {d d' b} : R d d' → D.isNull d = .ok b → D'.isNull d' = .ok b
  sequence {d d' items} : R d d' → D.sequence d = .ok (items, none) →
    ∃ items', D'.sequence d' = .ok (items', none) ∧ List.Forall₂ R items items'
  layout {title d d' l} : R d d' → D.layout title d = .ok l →
    ∃ l', D'.layout title d' = .ok l' ∧ l.Follows R l'
  skip {d d'} : R d d' → Clears (D.skip d) (D'.skip d')

/-! ## Reading -/

theorem forall₂_filter_keys {es : List (String × δ)} {es' : List (String × δ')}
    (pairs : List.Forall₂ (Paired R) es es') (keys : List String) :
    List.Forall₂ (Paired R) (es.filter fun e => keys.contains e.1)
      (es'.filter fun e => keys.contains e.1) :=
  List.rel_filter (fun e e' pair => by simp only [pair.1]) pairs

/-- What stands beside the fields of a record can be skipped if what belongs to it can be. -/
theorem skipped_of_follows {D : Dialect δ} {D' : Dialect δ'} (follows : Follows D D' R)
    {keys : List String} {es : List (String × δ)} {es' : List (String × δ')}
    (pairs : List.Forall₂ (Paired R) es es')
    (skipped : ∀ e ∈ es, e.1 ∉ keys → D.skip e.2 = none) :
    ∀ e ∈ es', e.1 ∉ keys → D'.skip e.2 = none := by
  intro e' listed other
  obtain ⟨e, member, key, related⟩ := exists_mem_of_forall₂ pairs.flip listed
  exact follows.skip related (skipped e member (key ▸ other))

section Reading

variable {D : Dialect δ} {D' : Dialect δ'}

mutual

/-- A dialect reads whatever a dialect reads that it follows. -/
theorem read_of_follows (follows : Follows D D' R) {α : Type} :
    (shape : Shape α) → {d : δ} → {d' : δ'} → {a : α} → R d d' →
      read D shape d = .ok a → read D' shape d' = .ok a
  | .text, _, _, _, related, result => follows.text related result
  | .flag, _, _, _, related, result => follows.flag related result
  | .choice values name, d, d', a, related, result => by
    obtain ⟨⟨tag, after⟩, tagged, picked⟩ := bind_eq_ok_iff.mp result
    -- A tag with trouble after it is not picked, so only tags without any have to be shown.
    obtain rfl : after = none := (pick_eq_ok_iff.mp picked).2
    exact bind_eq_ok_iff.mpr ⟨_, follows.choice related tagged, picked⟩
  | .optional shape, d, d', a, related, result => by
    rw [read] at result ⊢
    obtain ⟨null, shown, onward⟩ := bind_eq_ok_iff.mp result
    refine bind_eq_ok_iff.mpr ⟨null, follows.isNull related shown, ?_⟩
    cases null with
    | true => exact onward
    | false =>
      obtain ⟨b, inner, same⟩ := bind_eq_ok_iff.mp onward
      exact bind_eq_ok_iff.mpr ⟨b, read_of_follows follows shape related inner, same⟩
  | .many shape, d, d', as, related, result => by
    obtain ⟨⟨items, ending⟩, shown, onward⟩ := bind_eq_ok_iff.mp result
    obtain ⟨values, mapped, ended⟩ := bind_eq_ok_iff.mp onward
    obtain ⟨rfl, rfl⟩ := orTrouble_eq_ok_iff.mp ended
    obtain ⟨items', shown', pairs⟩ := follows.sequence related shown
    refine bind_eq_ok_iff.mpr ⟨_, shown', bind_eq_ok_iff.mpr ⟨values, ?_, ended⟩⟩
    exact mapM_eq_ok_of_forall₂
      (pairs.imp fun _ _ here _ => read_of_follows follows shape here) mapped
  | .record title fields make parts, d, d', a, related, result => by
    obtain ⟨layout, shown, made⟩ := bind_eq_ok_iff.mp result
    obtain ⟨layout', shown', pairs⟩ := follows.layout related shown
    refine bind_eq_ok_iff.mpr ⟨layout', shown', ?_⟩
    cases pairs with
    | keyed pairs ends =>
      obtain ⟨r, settled, rfl⟩ := map_eq_ok_iff.mp made
      obtain ⟨others, ended, held⟩ := settle_eq_ok_iff.mp settled
      refine map_eq_ok_iff.mpr ⟨r, settle_eq_ok_iff.mpr ⟨?_, ends ended, ?_⟩, rfl⟩
      · exact skipped_of_follows follows pairs others
      · exact Fields.readKeyed_of_follows follows fields pairs held
    | listed pairs ends goesOn =>
      obtain ⟨r, listed, rfl⟩ := map_eq_ok_iff.mp made
      exact map_eq_ok_iff.mpr
        ⟨r, Fields.readListed_of_follows follows fields pairs ends goesOn listed, rfl⟩

theorem Fields.readKeyed_of_follows (follows : Follows D D' R) {ρ : Type} {es : List (String × δ)}
    {es' : List (String × δ')} {n n' : Nat} :
    (fields : Fields ρ) → {r : ρ} → List.Forall₂ (Paired R) es es' →
      fields.readKeyed D (numbered es) n = .ok r → fields.readKeyed D' (numbered es') n' = .ok r
  | .nil, _, _, result => result
  | .field key aliases _ _ shape rest, (a, r), pairs, result => by
    rw [readKeyed_field_eq_ok_iff] at result ⊢
    obtain ⟨once, others⟩ := result
    refine ⟨once.of_forall₂ ?_, Fields.readKeyed_of_follows follows rest pairs others⟩
    exact (forall₂_filter_keys pairs (key :: aliases)).imp fun _ _ pair =>
      read_of_follows follows shape pair.2

theorem Fields.readListed_of_follows (follows : Follows D D' R) {ρ : Type} {title : String}
    {total : Nat} {ending ending' surplus surplus' : Option Trouble} :
    (fields : Fields ρ) → {index : Nat} → {items : List δ} → {items' : List δ'} → {r : ρ} →
      List.Forall₂ R items items' → Clears ending ending' → Clears surplus surplus' →
      fields.readListed D title total index ending surplus items = .ok r →
      fields.readListed D' title total index ending' surplus' items' = .ok r
  | .nil, _, _, _, _, .nil, ends, _, result => by
    rw [Fields.readListed, orTrouble_eq_ok_iff] at result ⊢
    exact ⟨ends result.1, result.2⟩
  | .nil, _, _, _, _, .cons _ _, ends, goesOn, result => by
    rw [Fields.readListed, orTrouble_eq_ok_iff] at result ⊢
    obtain ⟨clear, same⟩ := result
    rw [Option.orElse_eq_none] at clear ⊢
    exact ⟨⟨goesOn clear.1, ends clear.2⟩, same⟩
  | .field _ _ _ beyond _ rest, _, _, _, (a, r), .nil, ends, goesOn, result => by
    -- A list that breaks off is refused, so only one that ends in order has to be read.
    cases ending with
    | some t => simp [Fields.readListed] at result
    | none =>
      obtain rfl := ends rfl
      cases beyond with
      | none => simp [Fields.readListed] at result
      | some b =>
        simp only [Fields.readListed] at result ⊢
        obtain ⟨r, values, made⟩ := map_eq_ok_iff.mp result
        exact map_eq_ok_iff.mpr
          ⟨r, Fields.readListed_of_follows follows rest .nil (fun _ => rfl) goesOn values, made⟩
  | .field _ _ _ _ shape rest, _, _, _, (a, r), .cons first others, ends, goesOn, result => by
    rw [Fields.readListed] at result ⊢
    obtain ⟨a, value, onward⟩ := bind_eq_ok_iff.mp result
    obtain ⟨r, values, whole⟩ := bind_eq_ok_iff.mp onward
    refine bind_eq_ok_iff.mpr ⟨a, read_of_follows follows shape first value, ?_⟩
    refine bind_eq_ok_iff.mpr ⟨r, ?_, whole⟩
    exact Fields.readListed_of_follows follows rest others ends goesOn values

end

end Reading

/-! ## Texts and their values -/

theorem refuseValue_ne_ok {α : Type} {wanted : Wanted} {v : Json} {a : α} :
    refuseValue wanted v ≠ .ok a := by
  intro accepted
  obtain ⟨found, -, refused⟩ := bind_eq_ok_iff.mp accepted
  cases refused

theorem besideName_eq_none_iff {v : Json} : besideName v = none ↔ v = .null := by
  cases v with
  | null => simp [besideName]
  | _ =>
    simp only [besideName, reduceCtorEq, iff_false]
    split <;> simp

/-- The dialect of values shows of a value whatever the dialect of texts shows of its document. -/
theorem ofDocument_follows : Follows ofDocument ofValue fun d v => d.toJson = .ok v where
  text := by
    intro d v s valued shown
    obtain ⟨q, rfl, text⟩ := text_eq_ok_iff.mp shown
    rw [Document.toJson, Quoted.text_eq_ok_iff.mpr text] at valued
    cases valued
    rfl
  flag := by
    intro d v b valued shown
    obtain rfl := flag_eq_ok_iff.mp shown
    cases b <;> cases valued <;> rfl
  choice := by
    intro d v name valued shown
    obtain ⟨q, text, rfl | rfl⟩ := choice_eq_ok_iff.mp shown
    · rw [Document.toJson, Quoted.text_eq_ok_iff.mpr text] at valued
      cases valued
      rfl
    · obtain ⟨es, rfl, -, spelled⟩ := Document.exists_entries_of_toJson valued
      obtain ⟨⟨key, w⟩, rest, ⟨said, value⟩, single, rfl⟩ := List.forall₂_cons_left_iff.mp spelled
      obtain rfl := List.forall₂_nil_left_iff.mp single
      obtain rfl := Except.ok.inj (said.symm.trans (Quoted.text_eq_ok_iff.mpr text))
      cases value
      rfl
  isNull := by
    intro d v b valued shown
    cases b with
    | true =>
      obtain rfl := isNull_eq_true_iff.mp shown
      cases valued
      rfl
    | false =>
      cases v with
      | null =>
        obtain rfl := Document.toJson_eq_ok_iff.mp valued
        cases shown
      | _ => rfl
  sequence := by
    intro d v items valued shown
    obtain ⟨ending, rfl, -⟩ := sequence_eq_ok_iff.mp shown
    obtain ⟨vs, rfl, -, pairs⟩ := Document.exists_items_of_toJson valued
    exact ⟨vs, rfl, pairs⟩
  layout := by
    intro title d v l valued shown
    rcases layout_eq_ok_iff.mp shown with ⟨items, ending, rfl, rfl⟩ | ⟨entries, ending, rfl, rfl⟩
    · obtain ⟨vs, rfl, -, pairs⟩ := Document.exists_items_of_toJson valued
      exact ⟨_, rfl, .listed pairs (fun _ => rfl) fun none => by cases none⟩
    · obtain ⟨es, rfl, rfl, spelled⟩ := Document.exists_entries_of_toJson valued
      obtain ⟨named, keys, pairs⟩ := exists_readKeys spelled
      rw [keys]
      exact ⟨_, rfl, .keyed pairs fun _ => rfl⟩
  skip := fun _ _ => rfl

/-- The dialect of texts shows of the document of a value whatever the dialect of values shows. -/
theorem ofValue_follows : Follows ofValue ofDocument fun v d => d.toJson = .ok v where
  text := by
    intro v d s valued shown
    cases v with
    | string s' =>
      obtain ⟨q, rfl, text⟩ := Document.toJson_eq_ok_iff.mp valued
      cases shown
      exact congrArg orFault text
    | _ => exact absurd shown refuseValue_ne_ok
  flag := by
    intro v d b valued shown
    cases v with
    | bool b' =>
      obtain rfl := Document.toJson_eq_ok_iff.mp valued
      cases shown
      cases b <;> rfl
    | _ => exact absurd shown refuseValue_ne_ok
  choice := by
    intro v d name valued shown
    cases v with
    | string s =>
      obtain ⟨q, rfl, text⟩ := Document.toJson_eq_ok_iff.mp valued
      cases shown
      exact choice_text text
    | object es =>
      obtain ⟨ds, rfl, spelled⟩ := Document.toJson_eq_ok_iff.mp valued
      rcases es with _ | ⟨⟨key, w⟩, _ | ⟨e, es⟩⟩
      · cases shown
      · obtain ⟨named, beside⟩ := Tag.mk.inj (Except.ok.inj shown)
        obtain rfl := besideName_eq_none_iff.mp beside
        obtain ⟨⟨q, d⟩, rest, ⟨text, value⟩, single, rfl⟩ := List.forall₂_cons_right_iff.mp spelled
        obtain rfl := List.forall₂_nil_right_iff.mp single
        obtain rfl : d = .word .null none := Document.toJson_eq_ok_iff.mp value
        exact choice_eq_ok_iff.mpr ⟨q, named ▸ Quoted.text_eq_ok_iff.mp text, .inr rfl⟩
      · cases shown
    | _ => exact absurd shown refuseValue_ne_ok
  isNull := by
    intro v d b valued shown
    cases v with
    | null =>
      obtain rfl := Document.toJson_eq_ok_iff.mp valued
      cases shown
      rfl
    | _ =>
      cases shown
      exact isNull_of_toJson valued nofun
  sequence := by
    intro v d items valued shown
    cases v with
    | array items' =>
      obtain ⟨ds, rfl, pairs⟩ := Document.toJson_eq_ok_iff.mp valued
      cases shown
      exact ⟨ds, rfl, pairs.flip⟩
    | _ => exact absurd shown refuseValue_ne_ok
  layout := by
    intro title v d l valued shown
    cases v with
    | array items =>
      obtain ⟨ds, rfl, pairs⟩ := Document.toJson_eq_ok_iff.mp valued
      cases shown
      exact ⟨_, rfl, .listed pairs.flip (fun _ => rfl) nofun⟩
    | object entries =>
      obtain ⟨ds, rfl, spelled⟩ := Document.toJson_eq_ok_iff.mp valued
      cases shown
      obtain ⟨named, keys, pairs⟩ := exists_readKeys spelled
      refine ⟨_, layout_object keys, .keyed ?_ fun _ => rfl⟩
      exact pairs.flip.imp fun e f pair => ⟨pair.1.symm, pair.2⟩
    | _ => exact absurd shown refuseValue_ne_ok
  skip := by
    intro v d valued _
    exact skipped_iff.mpr (Document.faultless_of_toJson _ valued)

/-- A document without faults is read as its value is. -/
theorem read_ofValue_eq_ok_iff {α : Type} {shape : Shape α} {d : Document} {v : Json} {a : α}
    (valued : d.toJson = .ok v) :
    read ofValue shape v = .ok a ↔ read ofDocument shape d = .ok a :=
  ⟨read_of_follows ofValue_follows shape valued, read_of_follows ofDocument_follows shape valued⟩

/-- A text that has a value is read as its value is. -/
theorem read_ofValue_eq_ok_iff_parse {α : Type} {shape : Shape α} {s : String} {v : Json} {a : α}
    (denotes : Json.ofString s = .ok v) :
    read ofValue shape v = .ok a ↔ parse shape s = .ok a := by
  obtain ⟨d, spells, valued⟩ := Json.ofString_eq_ok_iff.mp denotes
  obtain ⟨parsed, -⟩ := Json.spells_iff.mp spells
  have whole : parse shape s = read ofDocument shape d := by
    rw [parse, parseWith, parsed]
    exact bind_pure _
  rw [read_ofValue_eq_ok_iff valued, whole]

end PageLint.Shape
