import PageLint.Proofs.Json.Building
import PageLint.Proofs.Shape.RoundTrip

/-!
# What conforms to a shape

A shape gives a schema: which documents are values of a type, and of which values. The schema is
stated here by recursion on the shape and says nothing about reading. A record, for instance, is an
object or an array. In an object each field has one entry or stands in for itself, and entries under
other keys may hold what they like; in an array only fields at the end may be left out. Every key
and every string that is a value has to be a text, so half of a surrogate pair is accepted only in
strings that no field reads.

The reader accepts exactly the documents without faults that conform.

## Main definitions

* `Shape.Conforms` — the document is a value by the shape, and which one
* `Shape.Fields.Keyed`, `Shape.Fields.Listed` — the two layouts of a record

## Main results

* `read_eq_ok_iff` — the documents that a shape reads
* `parse_eq_ok_iff` — the texts that a shape reads
-/

namespace PageLint.Shape

open Json (Document Ending Fault Quoted)

/-- A choice is the string of its name, or an object that maps the name to null. -/
def Names (d : Document) (name : String) : Prop :=
  ∃ q : Quoted, q.Says name ∧ (d = .text q ∨ d = .object [(q, .word .null none)] .closed)

/-- The entry as it is written has the key that is given with it. -/
def KeyedBy (e : Quoted × Document) (f : String × Document) : Prop :=
  e.1.Says f.1 ∧ e.2 = f.2

/-- Nothing is listed, and then nothing has to be; or one entry is, with such a document. -/
def Once {δ : Type} (missing : Prop) (fits : δ → Prop) : List (String × δ) → Prop
  | [] => missing
  | [e] => fits e.2
  | _ :: _ :: _ => False

mutual

/-- The document is the given value by the shape. -/
def Conforms {α : Type} : Shape α → Document → α → Prop
  | .text, d, s => ∃ q : Quoted, d = .text q ∧ q.Says s
  | .flag, d, b => d = .word (if b then .true else .false) none
  | .choice values name, d, a => ∃ s, Names d s ∧ values.find? (name · == s) = some a
  | .optional _, d, none => d = .word .null none
  | .optional shape, d, some a => d ≠ .word .null none ∧ shape.Conforms d a
  | .many shape, d, as =>
    ∃ items, d = .array items .closed ∧ List.Forall₂ (fun item a => shape.Conforms item a) items as
  | .record _ fields make _, d, a =>
    ∃ r, make r = a ∧
      ((∃ entries named, d = .object entries .closed ∧ List.Forall₂ KeyedBy entries named ∧
          fields.Keyed named r) ∨
        ∃ items, d = .array items .closed ∧ fields.Listed items r)

/-- Each field has one entry with a document of its value, or no entry and the value that stands in
for it. -/
def Fields.Keyed {ρ : Type} : Fields ρ → List (String × Document) → ρ → Prop
  | .nil, _, () => True
  | .field key aliases absent _ shape rest, entries, (a, r) =>
    Once (absent = some a) (fun d => shape.Conforms d a)
        (entries.filter fun e => (key :: aliases).contains e.1) ∧
      rest.Keyed entries r

/-- The items are documents of the values of the fields, in the order of declaration, and the fields
after the last item have values that stand in for them. -/
def Fields.Listed {ρ : Type} : Fields ρ → List Document → ρ → Prop
  | .nil, items, () => items = []
  | .field _ _ _ beyond _ rest, [], (a, r) => beyond = some a ∧ rest.Listed [] r
  | .field _ _ _ _ shape rest, item :: items, (a, r) =>
    shape.Conforms item a ∧ rest.Listed items r

end

/-! ## Faults -/

theorem refuse_ne_ok {α : Type} {wanted : Wanted} {d : Document} {a : α} :
    refuse wanted d ≠ .ok a := by
  intro accepted
  obtain ⟨found, -, refused⟩ := bind_eq_ok_iff.mp accepted
  cases refused

theorem orFault_eq_ok_iff {α : Type} {x : Except Fault α} {a : α} :
    orFault x = .ok a ↔ x = .ok a := by
  cases x <;> simp [orFault]

theorem orTrouble_eq_ok_iff {α : Type} {a b : α} {wrong : Option Trouble} :
    orTrouble a wrong = .ok b ↔ wrong = none ∧ a = b := by
  cases wrong <;> simp [orTrouble]

theorem endTrouble_eq_none_iff {ending : Ending} : endTrouble ending = none ↔ ending = .closed := by
  rw [endTrouble, Option.map_eq_none_iff, Document.ending_fault_eq_none_iff]

/-! ## Leaves -/

theorem text_eq_ok_iff {d : Document} {s : String} :
    ofDocument.text d = .ok s ↔ ∃ q : Quoted, d = .text q ∧ q.Says s := by
  cases d with
  | text q => simp [ofDocument, orFault_eq_ok_iff, Quoted.text_eq_ok_iff]
  | _ => simp [ofDocument, refuse_ne_ok]

theorem flag_eq_ok_iff {d : Document} {b : Bool} :
    ofDocument.flag d = .ok b ↔ d = .word (if b then .true else .false) none := by
  cases d with
  | word w fault =>
    cases w <;> cases fault <;> cases b <;> simp [ofDocument, refuse_ne_ok]
  | _ => simp [ofDocument, refuse_ne_ok]

theorem isNull_eq_true_iff {d : Document} :
    ofDocument.isNull d = .ok true ↔ d = .word .null none := by
  cases d with
  | word w fault => cases w <;> cases fault <;> simp [ofDocument]
  | _ => simp [ofDocument]

theorem isNull_eq_false {d : Document} (faultless : d.Faultless) (other : d ≠ .word .null none) :
    ofDocument.isNull d = .ok false := by
  cases faultless with
  | word w =>
    cases w with
    | null => exact absurd rfl other
    | true | false => rfl
  | _ => rfl

theorem afterName_eq_none_iff {d : Document} {more : List (Quoted × Document)} {ending : Ending} :
    afterName d more ending = none ↔ d = .word .null none ∧ more = [] ∧ ending = .closed := by
  by_cases null : d = .word .null none
  · subst null
    rcases more with _ | ⟨e, more⟩ <;> rcases ending with _ | ⟨_ | _, f⟩ <;> simp [afterName]
  · have named : afterName d more ending ≠ none := by
      rw [afterName.eq_def]
      split
      · exact absurd rfl null
      · split <;> simp
    simp [null, named]

theorem choice_eq_ok_iff {d : Document} {name : String} :
    ofDocument.choice d = .ok ⟨name, none⟩ ↔ Names d name := by
  change readChoice d = _ ↔ ∃ q : Quoted, q.Says name ∧ _
  cases d with
  | text q =>
    simp [readChoice, bind_eq_ok_iff, orFault_eq_ok_iff, Quoted.text_eq_ok_iff, pure, Except.pure]
  | object entries ending =>
    rcases entries with _ | ⟨⟨q, d⟩, more⟩
    · cases ending <;> simp [readChoice]
    · simp [readChoice, bind_eq_ok_iff, orFault_eq_ok_iff, Quoted.text_eq_ok_iff, pure, Except.pure,
        afterName_eq_none_iff, and_assoc]
  | _ => simp [readChoice]

theorem pick_eq_ok_iff {α : Type} {values : List α} {name : α → String} {tag : Tag} {a : α} :
    pick values name tag = .ok a ↔
      values.find? (name · == tag.name) = some a ∧ tag.after = none := by
  unfold pick
  cases values.find? (name · == tag.name) <;> cases tag.after <;> simp

theorem Names.faultless {d : Document} {name : String} (names : Names d name) : d.Faultless := by
  obtain ⟨q, text, rfl | rfl⟩ := names
  · exact Document.faultless_text_iff.mpr text.1
  · have entry : q.fault = none ∧ (Document.word .null none).Faultless := ⟨text.1, .word .null⟩
    exact Document.faultless_object_iff.mpr ⟨List.forall_mem_singleton.mpr entry, rfl⟩

theorem read_choice_eq_ok_iff {α : Type} {values : List α} {name : α → String} {d : Document}
    {a : α} :
    read ofDocument (.choice values name) d = .ok a ↔
      ∃ s, Names d s ∧ values.find? (name · == s) = some a := by
  simp only [read, bind_eq_ok_iff, pick_eq_ok_iff]
  constructor
  · rintro ⟨⟨s, after⟩, tagged, found, rfl⟩
    exact ⟨s, choice_eq_ok_iff.mp tagged, found⟩
  · rintro ⟨s, names, found⟩
    exact ⟨⟨s, none⟩, choice_eq_ok_iff.mpr names, found, rfl⟩

/-! ## Records -/

/-- The keys of an object are read to its end exactly if all have texts and nothing goes wrong. -/
theorem readKeys_eq_iff {entries : List (Quoted × Document)} {ending : Ending}
    {named : List (String × Document)} :
    readKeys entries ending = (named, none) ↔
      ending = .closed ∧ List.Forall₂ KeyedBy entries named := by
  induction entries generalizing named with
  | nil =>
    rw [readKeys, Prod.mk.injEq, endTrouble_eq_none_iff, List.forall₂_nil_left_iff, and_comm,
      eq_comm (a := [])]
  | cons e entries ih =>
    obtain ⟨q, d⟩ := e
    rw [List.forall₂_cons_left_iff, readKeys]
    cases key : q.text with
    | error f =>
      have silent (s : String) : ¬ q.Says s := by
        rw [← Quoted.text_eq_ok_iff, key]
        intro said
        cases said
      simp [KeyedBy, silent]
    | ok k =>
      rcases rest : readKeys entries ending with ⟨others, wrong⟩
      have text (s : String) : q.Says s ↔ k = s := by
        rw [← Quoted.text_eq_ok_iff, key, Except.ok.injEq]
      constructor
      · intro read
        obtain ⟨rfl, rfl⟩ := Prod.mk.inj read
        obtain ⟨closed, keyed⟩ := ih.mp rest
        exact ⟨closed, (k, d), others, ⟨(text k).mpr rfl, rfl⟩, keyed, rfl⟩
      · rintro ⟨closed, ⟨s, d'⟩, others', ⟨here, same⟩, keyed, rfl⟩
        obtain rfl := (text s).mp here
        obtain rfl : d = d' := same
        rw [ih.mpr ⟨closed, keyed⟩] at rest
        obtain ⟨rfl, rfl⟩ := Prod.mk.inj rest
        rfl

/-- An entry that is listed is the one that there is. -/
theorem Once.eq_singleton {δ : Type} {missing : Prop} {p : δ → Prop} {es : List (String × δ)}
    {e : String × δ} (once : Once missing p es) (listed : e ∈ es) : es = [e] ∧ p e.2 := by
  rcases es with _ | ⟨f, _ | ⟨g, es⟩⟩
  · cases listed
  · obtain rfl := List.mem_singleton.mp listed
    exact ⟨rfl, once⟩
  · exact once.elim

/-- One list has its single entry, or none, where the other has it. -/
theorem Once.of_forall₂ {δ δ' : Type} {missing : Prop} {p : δ → Prop} {q : δ' → Prop}
    {es : List (String × δ)} {es' : List (String × δ')}
    (pairs : List.Forall₂ (fun e e' => p e.2 → q e'.2) es es') (once : Once missing p es) :
    Once missing q es' := by
  cases pairs with
  | nil => exact once
  | cons first others =>
    cases others with
    | nil => exact first once
    | cons => exact once.elim

theorem once_and_iff {δ : Type} {missing : Prop} {p q : δ → Prop} {es : List (String × δ)} :
    Once missing (fun d => p d ∧ q d) es ↔ (∀ e ∈ es, p e.2) ∧ Once missing q es := by
  rcases es with _ | ⟨e, _ | ⟨f, es⟩⟩ <;> simp [Once]

section Settled

variable {δ : Type} {skip : δ → Option Trouble} {keys : List String}
  {entries : List (String × δ)}

theorem unlessBefore_eq_ok_iff {α : Type} {q : Option Problem} {x : Except Problem α} {a : α} :
    unlessBefore q x = .ok a ↔ q = none ∧ x = .ok a := by
  cases q <;> cases x <;> simp [unlessBefore]

theorem both_eq_ok_iff {α ρ : Type} {x : Except Problem α} {y : Except Problem ρ} {a : α} {r : ρ} :
    both x y = .ok (a, r) ↔ x = .ok a ∧ y = .ok r := by
  cases x <;> cases y <;> simp [both]

theorem unknown_eq_none_iff :
    unknown skip keys (numbered entries) = none ↔
      ∀ e ∈ entries, e.1 ∉ keys → skip e.2 = none := by
  rw [unknown, List.findSome?_eq_none_iff]
  conv_rhs => rw [← Fields.map_snd_numbered entries]
  rw [List.forall_mem_map]
  refine forall₂_congr fun e _ => ?_
  by_cases known : e.2.1 ∈ keys <;> simp [known]

/-- A record is settled exactly if its fields are read and nothing beside them is wrong. -/
theorem settle_eq_ok_iff {ρ : Type} {ending : Option Trouble} {fields : Except Problem ρ} {r : ρ} :
    settle skip keys entries ending fields = .ok r ↔
      (∀ e ∈ entries, e.1 ∉ keys → skip e.2 = none) ∧ ending = none ∧ fields = .ok r := by
  rw [← unknown_eq_none_iff, ← Option.map_eq_none_iff (f := Problem.mk entries.length),
    ← unlessBefore_eq_ok_iff, ← unlessBefore_eq_ok_iff, settle]
  split
  · rename_i same
    simp [same]
  · rename_i same
    simp [same]

end Settled

/-- The value of a field from the entries that are its own. -/
def valueOf {δ α : Type} (D : Dialect δ) (key : String) (absent : Option α) (shape : Shape α)
    (atEnd : Nat) : List (Entry δ) → Except Problem α
  | [] =>
    match absent with
    | some a => .ok a
    | none => .error ⟨atEnd, .mismatch (.missing key)⟩
  | (place, _, d) :: more =>
    match read D shape d with
    | .error t => .error ⟨place, t⟩
    | .ok a =>
      match more with
      | [] => .ok a
      | (second, _) :: _ => .error ⟨second, .mismatch (.duplicate key)⟩

section Field

variable {δ : Type} {D : Dialect δ} {entries : List (String × δ)} {atEnd : Nat} {α ρ : Type}
  {key : String} {aliases : List String} {absent beyond : Option α} {shape : Shape α}
  {rest : Fields ρ} {a : α} {r : ρ}

theorem readKeyed_field {hits : List (Entry δ)} :
    (Fields.field key aliases absent beyond shape rest).readKeyed D hits atEnd =
      both (valueOf D key absent shape atEnd (hits.filter fun e => (key :: aliases).contains e.2.1))
        (rest.readKeyed D hits atEnd) := by
  rw [Fields.readKeyed.eq_def]
  rfl

/-- A field has a value exactly if it has one entry with that value, or none and stands in for
itself. -/
theorem valueOf_eq_ok_iff {own : List (Entry δ)} :
    valueOf D key absent shape atEnd own = .ok a ↔
      Once (absent = some a) (fun d => read D shape d = .ok a) (own.map (·.2)) := by
  rcases own with _ | ⟨⟨place, k, d⟩, _ | ⟨second, more⟩⟩
  · cases absent <;> simp [valueOf, Once]
  · cases value : read D shape d <;> simp [valueOf, Once, value]
  · cases value : read D shape d <;> simp [valueOf, Once, value]

theorem readKeyed_field_eq_ok_iff :
    (Fields.field key aliases absent beyond shape rest).readKeyed D (numbered entries) atEnd =
        .ok (a, r) ↔
      Once (absent = some a) (fun d => read D shape d = .ok a)
          (entries.filter fun e => (key :: aliases).contains e.1) ∧
        rest.readKeyed D (numbered entries) atEnd = .ok r := by
  rw [readKeyed_field, both_eq_ok_iff, valueOf_eq_ok_iff,
    ← Fields.map_snd_filter_numbered entries fun k => (key :: aliases).contains k]

end Field

theorem sequence_eq_ok_iff {d : Document} {items : List Document} {ending : Option Trouble} :
    ofDocument.sequence d = .ok (items, ending) ↔
      ∃ e, d = .array items e ∧ endTrouble e = ending := by
  cases d with
  | array items' e => simp [ofDocument, eq_comm]
  | _ => simp [ofDocument, refuse_ne_ok]

theorem layout_eq_ok_iff {title : String} {d : Document} {layout : Layout Document} :
    ofDocument.layout title d = .ok layout ↔
      (∃ items ending, d = .array items ending ∧
        layout = .listed items (endTrouble ending) (some (.fault .malformed))) ∨
      ∃ entries ending, d = .object entries ending ∧
        layout = .keyed (readKeys entries ending).1 (readKeys entries ending).2 := by
  cases d with
  | array items ending => simp [ofDocument, eq_comm]
  | object entries ending => simp [ofDocument, eq_comm]
  | _ => simp [ofDocument, refuse_ne_ok]

theorem skipped_iff {d : Document} : ofDocument.skip d = none ↔ d.Faultless := by
  rw [← d.skip_eq_none_iff]
  exact Option.map_eq_none_iff

/-- The keys of an object are complete where they have texts, so faults are left only in its
values. -/
theorem faultless_iff_of_keyedBy {entries : List (Quoted × Document)}
    {named : List (String × Document)} (keyed : List.Forall₂ KeyedBy entries named) :
    (∀ e ∈ entries, e.1.fault = none ∧ e.2.Faultless) ↔ ∀ f ∈ named, f.2.Faultless := by
  induction keyed with
  | nil => simp
  | cons first others ih =>
    obtain ⟨⟨complete, -⟩, same⟩ := first
    rw [List.forall_mem_cons, List.forall_mem_cons, ih, complete, same]
    simp only [true_and]

/-- An object is settled as a record exactly if it has no faults and its entries hold the fields,
where this is known of reading the fields. -/
theorem settle_object_eq_ok_iff {ρ : Type} {fields : Fields ρ} {r : ρ}
    {entries : List (Quoted × Document)} {ending : Ending}
    (held : ∀ {named : List (String × Document)} {atEnd : Nat},
      fields.readKeyed ofDocument (numbered named) atEnd = .ok r ↔
        (∀ e ∈ named, e.1 ∈ fields.keys → e.2.Faultless) ∧ fields.Keyed named r) :
    settle ofDocument.skip fields.keys (readKeys entries ending).1 (readKeys entries ending).2
        (fields.readKeyed ofDocument (numbered (readKeys entries ending).1)
          ((readKeys entries ending).1.length + 1)) = .ok r ↔
      (Document.object entries ending).Faultless ∧
        ∃ named, List.Forall₂ KeyedBy entries named ∧ fields.Keyed named r := by
  rw [settle_eq_ok_iff, held]
  constructor
  · rintro ⟨others, complete, inner, keyed⟩
    obtain ⟨rfl, named⟩ := readKeys_eq_iff.mp (Prod.ext rfl complete)
    -- What the fields do not read is skipped, and skipping meets the same faults.
    have whole : ∀ f ∈ (readKeys entries .closed).1, f.2.Faultless := by
      intro f listed
      by_cases known : f.1 ∈ fields.keys
      · exact inner f listed known
      · exact skipped_iff.mp (others f listed known)
    have faultless := (faultless_iff_of_keyedBy named).mpr whole
    exact ⟨Document.faultless_object_iff.mpr ⟨faultless, rfl⟩, _, named, keyed⟩
  · rintro ⟨faultless, named, keys, keyed⟩
    obtain ⟨complete, rfl⟩ := Document.faultless_object_iff.mp faultless
    have whole : readKeys entries .closed = (named, none) := readKeys_eq_iff.mpr ⟨rfl, keys⟩
    have inner := (faultless_iff_of_keyedBy keys).mp complete
    rw [whole]
    exact ⟨fun e listed _ => skipped_iff.mpr (inner e listed), rfl,
      fun e listed _ => inner e listed, keyed⟩

theorem ne_null_of_isNull {d : Document} (present : ofDocument.isNull d = .ok false) :
    d ≠ .word .null none := by
  rintro rfl
  cases present

theorem read_optional_eq_ok_iff {α : Type} {shape : Shape α} {d : Document} {a : Option α} :
    read ofDocument (.optional shape) d = .ok a ↔
      d = .word .null none ∧ a = none ∨
        ofDocument.isNull d = .ok false ∧ ∃ b, read ofDocument shape d = .ok b ∧ a = some b := by
  rw [read, bind_eq_ok_iff, ← isNull_eq_true_iff]
  constructor
  · rintro ⟨_ | _, null, value⟩
    · obtain ⟨b, read, found⟩ := bind_eq_ok_iff.mp value
      cases found
      exact .inr ⟨null, b, read, rfl⟩
    · cases value
      exact .inl ⟨null, rfl⟩
  · rintro (⟨null, rfl⟩ | ⟨present, b, read, rfl⟩)
    · exact ⟨true, null, rfl⟩
    · exact ⟨false, present, bind_eq_ok_iff.mpr ⟨b, read, rfl⟩⟩

mutual

/-- The documents that a shape reads are those without faults that conform to it. -/
theorem read_eq_ok_iff {α : Type} :
    (shape : Shape α) → {d : Document} → {a : α} →
      (read ofDocument shape d = .ok a ↔ d.Faultless ∧ shape.Conforms d a)
  | .text, d, s => by
    rw [read, Conforms, text_eq_ok_iff]
    refine ⟨?_, And.right⟩
    rintro ⟨q, rfl, text⟩
    exact ⟨Document.faultless_text_iff.mpr text.1, q, rfl, text⟩
  | .flag, d, b => by
    rw [read, Conforms, flag_eq_ok_iff]
    refine ⟨?_, And.right⟩
    rintro rfl
    exact ⟨.word _, rfl⟩
  | .choice values name, d, a => by
    rw [read_choice_eq_ok_iff, Conforms]
    refine ⟨?_, And.right⟩
    rintro ⟨s, names, found⟩
    exact ⟨names.faultless, s, names, found⟩
  | .optional shape, d, none => by
    rw [read_optional_eq_ok_iff, Conforms]
    constructor
    · rintro (⟨rfl, -⟩ | ⟨-, b, -, impossible⟩)
      · exact ⟨.word .null, rfl⟩
      · cases impossible
    · rintro ⟨-, rfl⟩
      exact .inl ⟨rfl, rfl⟩
  | .optional shape, d, some a => by
    rw [read_optional_eq_ok_iff, Conforms]
    constructor
    · rintro (⟨-, impossible⟩ | ⟨present, b, read, same⟩)
      · cases impossible
      · obtain rfl := Option.some.inj same
        obtain ⟨faultless, conforms⟩ := (read_eq_ok_iff shape).mp read
        exact ⟨faultless, ne_null_of_isNull present, conforms⟩
    · rintro ⟨faultless, present, conforms⟩
      exact .inr ⟨isNull_eq_false faultless present, a,
        (read_eq_ok_iff shape).mpr ⟨faultless, conforms⟩, rfl⟩
  | .many shape, d, as => by
    simp only [read, Conforms, bind_eq_ok_iff, mapM_eq_ok_iff, orTrouble_eq_ok_iff]
    constructor
    · rintro ⟨⟨items, wrong⟩, sequence, values, read, rfl, rfl⟩
      obtain ⟨ending, rfl, complete⟩ := sequence_eq_ok_iff.mp sequence
      obtain rfl := endTrouble_eq_none_iff.mp complete
      obtain ⟨inner, conform⟩ :=
        (List.forall₂_and_left _ _).mp (read.imp fun _ _ => (read_eq_ok_iff shape).mp)
      exact ⟨.array inner, items, rfl, conform⟩
    · rintro ⟨faultless, items, rfl, conform⟩
      obtain ⟨inner, -⟩ := Document.faultless_array_iff.mp faultless
      exact ⟨(items, none), rfl, as,
        ((List.forall₂_and_left _ _).mpr ⟨inner, conform⟩).imp fun _ _ =>
          (read_eq_ok_iff shape).mpr,
        rfl, rfl⟩
  | .record title fields make parts, d, a => by
    simp only [read, Conforms, bind_eq_ok_iff, layout_eq_ok_iff]
    constructor
    · rintro ⟨layout, ⟨items, ending, rfl, rfl⟩ | ⟨entries, ending, rfl, rfl⟩, made⟩
      · obtain ⟨r, read, rfl⟩ := map_eq_ok_iff.mp made
        obtain ⟨complete, inner, listed⟩ := (Fields.readListed_eq_ok_iff fields).mp read
        obtain rfl := endTrouble_eq_none_iff.mp complete
        exact ⟨.array inner, r, rfl, .inr ⟨items, rfl, listed⟩⟩
      · obtain ⟨r, settled, rfl⟩ := map_eq_ok_iff.mp made
        obtain ⟨faultless, named, keys, keyed⟩ :=
          (settle_object_eq_ok_iff (Fields.readKeyed_eq_ok_iff fields)).mp settled
        obtain ⟨-, rfl⟩ := Document.faultless_object_iff.mp faultless
        exact ⟨faultless, r, rfl, .inl ⟨entries, named, rfl, keys, keyed⟩⟩
    · rintro ⟨faultless, r, rfl, ⟨entries, named, rfl, keys, keyed⟩ | ⟨items, rfl, listed⟩⟩
      · have settled := (settle_object_eq_ok_iff (Fields.readKeyed_eq_ok_iff fields)).mpr
          ⟨faultless, named, keys, keyed⟩
        exact ⟨_, .inr ⟨entries, .closed, rfl, rfl⟩, map_eq_ok_iff.mpr ⟨r, settled, rfl⟩⟩
      · obtain ⟨inner, -⟩ := Document.faultless_array_iff.mp faultless
        exact ⟨_, .inl ⟨items, .closed, rfl, rfl⟩,
          map_eq_ok_iff.mpr ⟨r, (Fields.readListed_eq_ok_iff fields).mpr ⟨rfl, inner, listed⟩, rfl⟩⟩

/-- The fields of a record are read from entries that hold them in documents without faults. -/
theorem Fields.readKeyed_eq_ok_iff {ρ : Type} {entries : List (String × Document)} {atEnd : Nat} :
    (fields : Fields ρ) → {r : ρ} →
      (fields.readKeyed ofDocument (numbered entries) atEnd = .ok r ↔
        (∀ e ∈ entries, e.1 ∈ fields.keys → e.2.Faultless) ∧ fields.Keyed entries r)
  | .nil, () => by simp [Fields.readKeyed, Fields.keys, Fields.Keyed]
  | .field key aliases absent beyond shape rest, (a, r) => by
    have own :
        (∀ e ∈ entries, e.1 ∈ key :: aliases ++ rest.keys → e.2.Faultless) ↔
          (∀ e ∈ entries.filter fun e => (key :: aliases).contains e.1, e.2.Faultless) ∧
            ∀ e ∈ entries, e.1 ∈ rest.keys → e.2.Faultless := by
      simp only [List.mem_append, List.mem_filter, List.contains_iff_mem, or_imp, forall_and,
        and_imp]
    simp only [readKeyed_field_eq_ok_iff, read_eq_ok_iff shape, once_and_iff,
      Fields.readKeyed_eq_ok_iff rest, Fields.Keyed, Fields.keys, own, and_assoc, and_left_comm]

/-- The fields of a record are read from a list of documents of their values. -/
theorem Fields.readListed_eq_ok_iff {ρ : Type} {title : String} {total : Nat}
    {ending : Option Trouble} {t : Trouble} :
    (fields : Fields ρ) → {index : Nat} → {items : List Document} → {r : ρ} →
      (fields.readListed ofDocument title total index ending (some t) items = .ok r ↔
        ending = none ∧ (∀ d ∈ items, d.Faultless) ∧ fields.Listed items r)
  | .nil, index, [], () => by
    simp [Fields.readListed, Fields.Listed, orTrouble_eq_ok_iff]
  | .nil, index, item :: items, () => by
    simp [Fields.readListed, Fields.Listed, orTrouble_eq_ok_iff]
  | .field key aliases absent beyond shape rest, index, [], (a, r) => by
    cases ending with
    | some t => simp [Fields.readListed]
    | none =>
      cases beyond with
      | none => simp [Fields.readListed, Fields.Listed]
      | some b =>
        simp [Fields.readListed, Fields.Listed, Fields.readListed_eq_ok_iff rest, map_eq_ok_iff,
          and_comm]
  | .field key aliases absent beyond shape rest, index, item :: items, (a, r) => by
    simp only [Fields.readListed, Fields.Listed, bind_eq_ok_iff, read_eq_ok_iff shape,
      Fields.readListed_eq_ok_iff rest, pure, Except.pure, List.forall_mem_cons]
    constructor
    · rintro ⟨a, ⟨here, conforms⟩, r, ⟨complete, later, listed⟩, whole⟩
      cases whole
      exact ⟨complete, ⟨here, later⟩, conforms, listed⟩
    · rintro ⟨complete, ⟨here, later⟩, conforms, listed⟩
      exact ⟨a, ⟨here, conforms⟩, r, ⟨complete, later, listed⟩, rfl⟩

end

/-- A text is read by a shape exactly if it spells a document that conforms to the shape. -/
theorem parse_eq_ok_iff {α : Type} {shape : Shape α} {s : String} {a : α} :
    parse shape s = .ok a ↔ ∃ d, Json.Spells s.toList d ∧ shape.Conforms d a := by
  have read : parse shape s = .ok a ↔
      (Json.parse s.toList).trailing = none ∧
        read ofDocument shape (Json.parse s.toList).document = .ok a := by
    simp only [parse, parseWith, bind_eq_ok_iff, orTrouble_eq_ok_iff, Option.map_eq_none_iff]
    constructor
    · rintro ⟨b, read, ended, rfl⟩
      exact ⟨ended, read⟩
    · rintro ⟨ended, read⟩
      exact ⟨a, read, ended, rfl⟩
  rw [read, read_eq_ok_iff]
  constructor
  · rintro ⟨ended, faultless, conforms⟩
    exact ⟨_, Json.spells_iff.mpr ⟨congrArg (Json.Parsed.mk _) ended, faultless⟩, conforms⟩
  · rintro ⟨d, spells, conforms⟩
    obtain ⟨parsed, faultless⟩ := Json.spells_iff.mp spells
    rw [parsed]
    exact ⟨rfl, faultless, conforms⟩

end PageLint.Shape
