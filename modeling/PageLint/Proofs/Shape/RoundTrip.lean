import Mathlib.Data.List.Nodup
import PageLint.Proofs.Json.Faultless
import PageLint.Proofs.Json.Printing
import PageLint.Shape.Document

/-!
# Reading undoes writing, shape by shape

A shape loses nothing in writing if each of its parts loses nothing: a choice names all values and
no two alike, an optional shape writes no value as nothing, a record has no key twice and can be put
together again. What such a shape has written is read back from every document that has the written
value, whatever the spelling of its strings, and so from every text that denotes it.

A record is read by looking for the entry of each field, so the order of the entries does not
matter; the entries that were written are found because no key belongs to two fields.

## Main definitions

* `Shape.Faithful` — a shape loses nothing in writing
* `Shape.Fields.Holds` — the entries of an object hold the fields of a record, once each

## Main results

* `read_of_toJson` — reading a document of a written value
* `parse_of_denotes` — reading a text that denotes a written value
-/

namespace PageLint

open Json (Document Quoted)

namespace Shape

/-! ## Shapes that lose nothing -/

mutual

/-- A value can be told from what the shape writes for it. -/
def Faithful {α : Type} : Shape α → Prop
  | .text => True
  | .flag => True
  | .choice values name => (∀ a, a ∈ values) ∧ Function.Injective name
  | .optional shape => shape.Faithful ∧ ∀ a, shape.write a ≠ .null
  | .many shape => shape.Faithful
  | .record _ fields make parts =>
    fields.Faithful ∧ fields.keys.Nodup ∧ ∀ a, make (parts a) = a

/-- The values of all fields can be told from what is written for them. -/
def Fields.Faithful {ρ : Type} : Fields ρ → Prop
  | .nil => True
  | .field _ _ _ _ shape rest => shape.Faithful ∧ rest.Faithful

end

/-! ## What is written -/

mutual

/-- Shapes write no numbers. -/
theorem isCounted_write {α : Type} : (shape : Shape α) → (a : α) → (shape.write a).IsCounted
  | .text, s => .string s
  | .flag, b => .bool b
  | .choice _ name, a => .string (name a)
  | .optional _, none => .null
  | .optional shape, some a => isCounted_write shape a
  | .many shape, as => .array fun v listed => by
    obtain ⟨a, -, rfl⟩ := List.mem_map.mp listed
    exact isCounted_write shape a
  | .record _ fields _ parts, a => .object (Fields.isCounted_writeEntries fields (parts a))

theorem Fields.isCounted_writeEntries {ρ : Type} :
    (fields : Fields ρ) → (r : ρ) → ∀ e ∈ fields.writeEntries r, e.2.IsCounted
  | .nil, () => List.forall_mem_nil _
  | .field _ _ _ _ shape rest, (a, r) =>
    List.forall_mem_cons.mpr ⟨isCounted_write shape a, Fields.isCounted_writeEntries rest r⟩

end

namespace Fields

/-- The entries of a record stand under keys of its fields. -/
theorem mem_keys_of_mem_writeEntries {ρ : Type} :
    (fields : Fields ρ) → (r : ρ) → ∀ e ∈ fields.writeEntries r, e.1 ∈ fields.keys
  | .nil, () => List.forall_mem_nil _
  | .field key aliases _ _ shape rest, (a, r) => by
    refine List.forall_mem_cons.mpr ⟨List.mem_cons_self, fun e listed => ?_⟩
    exact List.mem_append_right (key :: aliases) (mem_keys_of_mem_writeEntries rest r e listed)

/-! ## Entries of a record -/

section Holds

variable {δ : Type} (D : Dialect δ)

/-- Each field has one entry, under one of its keys, with a document of its value. -/
def Holds (entries : List (String × δ)) {ρ : Type} : Fields ρ → ρ → Prop
  | .nil, () => True
  | .field key aliases _ _ shape rest, (a, r) =>
    (∃ e, (entries.filter fun e => (key :: aliases).contains e.1) = [e] ∧
      read D shape e.2 = .ok a) ∧ Holds entries rest r

/-- An entry under a further key does not get in the way. -/
theorem Holds.cons {e : String × δ} {entries : List (String × δ)} {ρ : Type} :
    (fields : Fields ρ) → {r : ρ} → Holds D entries fields r → e.1 ∉ fields.keys →
      Holds D (e :: entries) fields r
  | .nil, (), _, _ => trivial
  | .field key aliases _ _ shape rest, (a, r), holds, other => by
    obtain ⟨⟨f, found, value⟩, others⟩ := holds
    obtain ⟨here, later⟩ := not_or.mp (mt List.mem_append.mpr other)
    refine ⟨⟨f, ?_, value⟩, Holds.cons rest others later⟩
    rw [List.filter_cons_of_neg (by simpa using here), found]

/-- An entry under a key of the first field, before entries that hold the other fields. -/
theorem holds_field {e : String × δ} {entries : List (String × δ)} {α ρ : Type} {key : String}
    {aliases : List String} {absent beyond : Option α} {shape : Shape α} {rest : Fields ρ} {a : α}
    {r : ρ} (keyed : e.1 ∈ key :: aliases) (value : read D shape e.2 = .ok a)
    (distinct : (key :: aliases).Disjoint rest.keys) (known : ∀ f ∈ entries, f.1 ∈ rest.keys)
    (others : Holds D entries rest r) :
    Holds D (e :: entries) (.field key aliases absent beyond shape rest) (a, r) := by
  have elsewhere : (entries.filter fun f => (key :: aliases).contains f.1) = [] := by
    refine List.filter_eq_nil_iff.mpr fun f listed found => ?_
    exact distinct (List.contains_iff_mem.mp found) (known f listed)
  refine ⟨⟨e, ?_, value⟩, others.cons D rest fun again => distinct keyed again⟩
  rw [List.filter_cons_of_pos (by simpa using keyed), elsewhere]

/-- Numbered entries are the entries themselves, each with its place. -/
theorem map_snd_numbered (entries : List (String × δ)) :
    (numbered entries).map (·.2) = entries := by
  simp [numbered, Function.comp_def]

theorem map_snd_filter_numbered (entries : List (String × δ)) (p : String → Bool) :
    ((numbered entries).filter fun (_, k, _) => p k).map (·.2) =
      entries.filter fun e => p e.1 := by
  conv_rhs => rw [← map_snd_numbered entries, List.filter_map]
  rfl

/-- Fields are read from entries that hold them. -/
theorem readKeyed_of_holds {entries : List (String × δ)} {ρ : Type} (atEnd : Nat) :
    (fields : Fields ρ) → {r : ρ} → Holds D entries fields r →
      fields.readKeyed D (numbered entries) atEnd = .ok r
  | .nil, (), _ => rfl
  | .field key aliases _ _ shape rest, (a, r), holds => by
    obtain ⟨⟨⟨k, d⟩, found, value⟩, others⟩ := holds
    rw [← map_snd_filter_numbered entries, List.map_eq_singleton_iff] at found
    obtain ⟨⟨place, entry⟩, foundAt, rfl⟩ := found
    simp only [readKeyed, foundAt, value, readKeyed_of_holds atEnd rest others]
    rfl

/-- A record without entries beside its fields is settled once its fields are. -/
theorem settle_of_known {skip : δ → Option Trouble} {keys : List String}
    {entries : List (String × δ)} (known : ∀ e ∈ entries, e.1 ∈ keys) {ρ : Type} (r : ρ) :
    settle skip keys entries none (.ok r) = .ok r := by
  have quiet : unknown skip keys (numbered entries) = none := by
    refine List.findSome?_eq_none_iff.mpr fun (place, key, d) listed => ?_
    have named : (key, d) ∈ (numbered entries).map (·.2) := List.mem_map_of_mem listed
    rw [map_snd_numbered] at named
    exact if_pos (List.contains_iff_mem.mpr (known _ named))
  rw [settle, quiet]
  rfl

end Holds

end Fields

theorem read_many {δ : Type} {D : Dialect δ} {α : Type} {shape : Shape α} {d : δ} {items : List δ}
    {as : List α} (sequence : D.sequence d = .ok (items, none))
    (values : List.Forall₂ (fun item a => read D shape item = .ok a) items as) :
    read D (.many shape) d = .ok as := by
  have mapped : (items.mapM fun item => read D shape item) = .ok as :=
    mapM_eq_ok_iff.mpr values
  rw [read, sequence, bind_eq_ok_iff]
  refine ⟨(items, none), rfl, ?_⟩
  simp only [mapped]
  rfl

/-- A record is made of its fields when its entries hold them and nothing else. -/
theorem read_record {δ : Type} {D : Dialect δ} {α ρ : Type} {title : String} {fields : Fields ρ}
    {make : ρ → α} {parts : α → ρ} {d : δ} {entries : List (String × δ)} {r : ρ}
    (layout : D.layout title d = .ok (.keyed entries none)) (holds : fields.Holds D entries r)
    (known : ∀ e ∈ entries, e.1 ∈ fields.keys) :
    read D (.record title fields make parts) d = .ok (make r) := by
  rw [read, layout, bind_eq_ok_iff]
  refine ⟨.keyed entries none, rfl, ?_⟩
  simp only [Fields.readKeyed_of_holds D _ fields holds, Fields.settle_of_known known]
  rfl

/-! ## Documents of what was written -/

/-- An entry whose key has been read, and the key and value that it has. -/
def Valued (e : String × Document) (f : String × Json) : Prop :=
  e.1 = f.1 ∧ e.2.toJson = .ok f.2

/-- The keys of an object without faults are read up to its end. -/
theorem exists_readKeys {entries : List (Quoted × Document)} {es : List (String × Json)}
    (spelled : List.Forall₂ Document.Spells entries es) :
    ∃ named, readKeys entries .closed = (named, none) ∧ List.Forall₂ Valued named es := by
  induction spelled with
  | nil => exact ⟨[], rfl, .nil⟩
  | @cons e f entries es first others ih =>
    obtain ⟨named, read, valued⟩ := ih
    obtain ⟨key, value⟩ := first
    refine ⟨(f.1, e.2) :: named, ?_, .cons ⟨rfl, value⟩ valued⟩
    rw [readKeys, key, read]

/-- The entries of a written record stand under keys of its fields. -/
theorem Fields.mem_keys_of_valued {ρ : Type} {fields : Fields ρ} {r : ρ}
    {entries : List (String × Document)}
    (valued : List.Forall₂ Valued entries (fields.writeEntries r)) :
    ∀ e ∈ entries, e.1 ∈ fields.keys := by
  intro e listed
  obtain ⟨f, written, key, -⟩ := exists_mem_of_forall₂ valued listed
  exact key ▸ mem_keys_of_mem_writeEntries fields r f written

theorem layout_object {title : String} {entries : List (Quoted × Document)} {ending : Json.Ending}
    {named : List (String × Document)} {wrong : Option Trouble}
    (keys : readKeys entries ending = (named, wrong)) :
    ofDocument.layout title (.object entries ending) = .ok (.keyed named wrong) := by
  simp only [ofDocument, keys]

theorem choice_text {q : Quoted} {name : String} (text : q.text = .ok name) :
    ofDocument.choice (.text q) = .ok ⟨name, none⟩ := by
  simp only [ofDocument, readChoice, text]
  rfl

/-- A document of something is not taken for nothing. -/
theorem isNull_of_toJson {d : Document} {v : Json} (valued : d.toJson = .ok v)
    (present : v ≠ .null) : ofDocument.isNull d = .ok false := by
  cases d with
  | word w fault =>
    cases fault with
    | some f => cases valued
    | none =>
      cases w with
      | null => cases valued; exact absurd rfl present
      | true | false => rfl
  | absent | number | text | array | object => rfl

/-- The value of a choice is picked by its name. -/
theorem pick_name {α : Type} {values : List α} {name : α → String} (all : ∀ a, a ∈ values)
    (distinct : Function.Injective name) (a : α) : pick values name ⟨name a, none⟩ = .ok a := by
  cases found : values.find? (name · == name a) with
  | none => exact absurd (all a) fun listed => by simpa using List.find?_eq_none.mp found a listed
  | some b =>
    have same : b = a := distinct (by simpa using List.find?_some found)
    rw [pick, found, same]

mutual

/-- Reading a document of a written value. -/
theorem read_of_toJson {α : Type} :
    (shape : Shape α) → shape.Faithful → {d : Document} → {a : α} →
      d.toJson = .ok (shape.write a) → read ofDocument shape d = .ok a
  | .text, _, d, s, valued => by
    obtain ⟨q, rfl, text⟩ := Document.toJson_eq_ok_iff.mp valued
    exact congrArg orFault text
  | .flag, _, d, b, valued => by
    obtain rfl := Document.toJson_eq_ok_iff.mp valued
    cases b <;> rfl
  | .choice values name, faithful, d, a, valued => by
    obtain ⟨all, distinct⟩ := faithful
    obtain ⟨q, rfl, text⟩ := Document.toJson_eq_ok_iff.mp valued
    rw [read, choice_text text]
    exact pick_name all distinct a
  | .optional shape, _, d, none, valued => by
    obtain rfl := Document.toJson_eq_ok_iff.mp valued
    rfl
  | .optional shape, faithful, d, some a, valued => by
    obtain ⟨inner, present⟩ := faithful
    rw [read, isNull_of_toJson valued (present a), read_of_toJson shape inner valued]
    rfl
  | .many shape, faithful, d, as, valued => by
    obtain ⟨items, rfl, valuedItems⟩ := Document.toJson_eq_ok_iff.mp valued
    refine read_many rfl ((List.forall₂_map_right_iff.mp valuedItems).imp fun _ _ => ?_)
    exact read_of_toJson shape faithful
  | .record title fields make parts, faithful, d, a, valued => by
    obtain ⟨inner, distinct, whole⟩ := faithful
    obtain ⟨entries, rfl, spelled⟩ := Document.toJson_eq_ok_iff.mp valued
    obtain ⟨named, keys, valuedEntries⟩ := exists_readKeys spelled
    have holds : fields.Holds ofDocument named (parts a) :=
      Fields.holds_of_toJson fields inner distinct valuedEntries
    rw [read_record (layout_object keys) holds (Fields.mem_keys_of_valued valuedEntries), whole]

theorem Fields.holds_of_toJson {ρ : Type} :
    (fields : Fields ρ) → fields.Faithful → fields.keys.Nodup → {r : ρ} →
      {entries : List (String × Document)} →
      List.Forall₂ Valued entries (fields.writeEntries r) → fields.Holds ofDocument entries r
  | .nil, _, _, (), _, _ => trivial
  | .field key aliases _ _ shape rest, faithful, distinct, (a, r), entries, valued => by
    obtain ⟨inner, others⟩ := faithful
    obtain ⟨-, later, apart⟩ := List.nodup_append'.mp distinct
    rw [Fields.writeEntries] at valued
    cases valued with
    | @cons e _ entries _ first after =>
      obtain ⟨here, value⟩ := first
      refine Fields.holds_field ofDocument ?_ (read_of_toJson shape inner value) apart
        (Fields.mem_keys_of_valued after) (Fields.holds_of_toJson rest others later after)
      rw [here]
      exact List.mem_cons_self

end

/-- Reading a text that denotes a written value. -/
theorem parse_of_denotes {α : Type} {shape : Shape α} (faithful : shape.Faithful) {a : α}
    {text : List Char} (denotes : Json.Denotes text (shape.write a)) :
    parse shape (String.ofList text) = .ok a := by
  obtain ⟨d, parsed, valued⟩ := Json.exists_parse_of_denotes denotes
  rw [parse, parseWith, String.toList_ofList, parsed]
  simp only [read_of_toJson shape faithful valued]
  rfl

/-- Reading undoes writing, in either layout. -/
theorem parse_printed {α : Type} {shape : Shape α} (faithful : shape.Faithful) (a : α) :
    parse shape (String.ofList (shape.write a).compact) = .ok a ∧
      parse shape (String.ofList (shape.write a).indented) = .ok a :=
  ⟨parse_of_denotes faithful (Json.denotes_compact (isCounted_write shape a)),
    parse_of_denotes faithful (Json.denotes_indentedAt (isCounted_write shape a) 0)⟩

end Shape

end PageLint
