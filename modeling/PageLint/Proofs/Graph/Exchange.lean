import Mathlib.Data.List.Permutation
import PageLint.Graph.Exchange
import PageLint.Guardrail
import PageLint.Proofs.Facts
import PageLint.Proofs.Shape.Reordering

/-!
# Exchanged graphs are the graphs that were written

The value of a node has an entry for each of its parts and the entries of its kind. Reading finds
them wherever they stand, and whatever else stands beside them: the parts that belong to every node
are read from their entries as they come, all others are kept until the object has ended and the
kind is looked for among them.

What is kept has to be small enough for the reader, in depth and in its numbers. Nothing else is
asked of entries that belong to no node.

## Main definitions

* `Json.Fits` — the value is small enough to be kept
* `Graph.Node.ShownBy` — the value shows the node, in any order and with further entries

## Main results

* `Graph.keep_of_fits` — what is small enough is kept as it is
* `Graph.Node.readIn_of_shownBy` — reading a node from a document that shows it
* `Graph.Node.exchange_lossless` — reading nodes and graphs from texts that show them
-/

namespace PageLint

/-- The value opens no more containers inside one another than there is room for, and the machine
can hold its numbers. -/
inductive Json.Fits : Nat → Json → Prop
  | null (room : Nat) : Fits room .null
  | bool (room : Nat) (value : Bool) : Fits room (.bool value)
  | number (room : Nat) {n : Json.Numeral} (held : n.magnitude?.isSome = true) :
    Fits room (.number n)
  | string (room : Nat) (s : String) : Fits room (.string s)
  | array {room : Nat} {items : List Json} (inner : ∀ v ∈ items, Fits room v) :
    Fits (room + 1) (.array items)
  | object {room : Nat} {entries : List (String × Json)} (inner : ∀ e ∈ entries, Fits room e.2) :
    Fits (room + 1) (.object entries)

namespace Graph

open Json (Document Quoted Fits)
open Shape (Dialect Fields Trouble Valued)

variable {room : Nat} {d : Document} {v : Json}

/-! ## Values kept until the end -/

theorem keepItems_eq (room : Nat) (ds : List Document) :
    keepItems room ds = ds.mapM (keep room) := by
  induction ds with
  | nil => rfl
  | cons d ds ih => rw [keepItems, ih, List.mapM_cons]

theorem keepEntries_eq (room : Nat) (es : List (Quoted × Document)) :
    keepEntries room es = es.mapM fun e => do return (← e.1.text, ← keep room e.2) := by
  induction es with
  | nil => rfl
  | cons e es ih =>
    rw [keepEntries, ih, List.mapM_cons]
    simp only [bind_assoc, pure_bind]

/-- Pairs whose second parts have a property. -/
theorem forall₂_and_right {α β : Type} {R : α → β → Prop} {p : β → Prop} {as : List α} {bs : List β}
    (pairs : List.Forall₂ R as bs) (holds : ∀ b ∈ bs, p b) :
    List.Forall₂ (fun a b => p b ∧ R a b) as bs :=
  ((List.forall₂_and_left bs as).mpr ⟨holds, pairs.flip⟩).flip

/-- What is small enough is kept as it is. -/
theorem keep_of_fits (fits : v.Fits room) (valued : d.toJson = .ok v) : keep room d = .ok v := by
  induction fits generalizing d with
  | null =>
    obtain rfl := Document.toJson_eq_ok_iff.mp valued
    rfl
  | bool room b =>
    obtain rfl := Document.toJson_eq_ok_iff.mp valued
    cases b <;> rfl
  | number room held =>
    obtain rfl := Document.toJson_eq_ok_iff.mp valued
    rw [keep, if_pos held]
  | string room s =>
    obtain ⟨q, rfl, text⟩ := Document.toJson_eq_ok_iff.mp valued
    rw [keep, text]
    rfl
  | @array room items inner ih =>
    obtain ⟨ds, rfl, pairs⟩ := Document.toJson_eq_ok_iff.mp valued
    have kept : keepItems room ds = .ok items := by
      rw [keepItems_eq, mapM_eq_ok_iff]
      exact (forall₂_and_right pairs ih).imp fun d v both => both.1 both.2
    rw [keep, kept]
    rfl
  | @object room entries inner ih =>
    obtain ⟨es, rfl, pairs⟩ := Document.toJson_eq_ok_iff.mp valued
    have kept : keepEntries room es = .ok entries := by
      rw [keepEntries_eq, mapM_eq_ok_iff]
      refine (forall₂_and_right pairs ih).imp fun e f both => ?_
      obtain ⟨keeps, key, value⟩ := both
      rw [key, keeps value]
      rfl
    rw [keep, kept]
    rfl

/-- Entries with small values are kept as they are. -/
theorem kept_of_fits {entries : List (String × Document)} {es : List (String × Json)}
    (valued : List.Forall₂ Valued entries es) (fits : ∀ f ∈ es, f.2.Fits room) :
    kept room entries = es := by
  induction valued with
  | nil => rfl
  | @cons e f entries es first others ih =>
    obtain ⟨here, later⟩ := List.forall_mem_cons.mp fits
    obtain ⟨key, value⟩ := first
    obtain ⟨k, d⟩ := e
    obtain rfl : k = f.1 := key
    have keeps : keep room d = .ok f.2 := keep_of_fits here value
    rw [kept, List.filterMap_cons]
    simp only [keeps]
    rw [← kept, ih later]

theorem keepTrouble_of_fits (fits : v.Fits room) (valued : d.toJson = .ok v) :
    keepTrouble room d = none := by
  rw [keepTrouble, keep_of_fits fits valued]

/-! ## Kinds -/

/-- The keys of the entries that say what kind a node has. -/
def kindKeys : List String := ["kind", enclosingKey]

theorem mem_kindKeys_of_mem_write (kind : Kind) : ∀ e ∈ kind.write, e.1 ∈ kindKeys := by
  cases kind <;> simp [Kind.write, kindKeys]

theorem exists_string_of_mem_write (kind : Kind) : ∀ e ∈ kind.write, ∃ s, e.2 = .string s := by
  cases kind <;> simp [Kind.write]

/-- The kind is found wherever its entries stand, and whatever else stands beside them. -/
theorem Kind.read_of_perm {kind : Kind} {entries extra : List (String × Json)}
    (perm : entries.Perm (kind.write ++ extra)) (others : ∀ e ∈ extra, e.1 ∉ kindKeys) :
    Kind.read entries = .ok kind := by
  have own (p : String → Bool) (known : ∀ k, p k = true → k ∈ kindKeys) :
      (entries.filter fun e => p e.1).Perm (kind.write.filter fun e => p e.1) := by
    have quiet : (extra.filter fun e => p e.1) = [] :=
      List.filter_eq_nil_iff.mpr fun e listed same => others e listed (known e.1 same)
    have filtered := perm.filter fun e => p e.1
    rwa [List.filter_append, quiet, List.append_nil] at filtered
  have tag := own (· == "kind") (by simp [kindKeys])
  cases kind with
  | root type =>
    have enclosing := own (fun k => [enclosingKey].contains k) (by simp [kindKeys])
    have found : (entries.filter fun e => [enclosingKey].contains e.1) =
        [(enclosingKey, .string type)] := List.perm_singleton.mp enclosing
    have fields :
        Fields.readKeyed Shape.ofValue (.required enclosingKey .text .nil)
          (Shape.numbered entries) (entries.length + 1) = .ok (type, ()) := by
      rw [Fields.required, Shape.readKeyed_field_eq_ok_iff, found]
      exact ⟨rfl, rfl⟩
    have settled :
        Shape.settle (fun _ => none) [enclosingKey] entries none (.ok (type, ())) =
          .ok (type, ()) := Shape.settle_eq_ok_iff.mpr ⟨fun _ _ _ => rfl, rfl, rfl⟩
    simp only [Kind.read, List.perm_singleton.mp tag, fields, settled]
    rfl
  | custom | basic | container | document | selfReference =>
    simp only [Kind.read, List.perm_singleton.mp tag]
    rfl

/-! ## Nodes -/

namespace Node

/-- The entries of the value of a node. -/
def plainEntries (n : Node) : List (String × Json) :=
  plainFields.writeEntries (n.name, n.locator, n.declaredType, ())

/-- The keys that a node may have entries under. -/
def keys : List String := plainFields.keys ++ kindKeys

/-- The value has all entries of the node, in any order, and beside them others that are small
enough to be kept. -/
def ShownBy (room : Nat) (n : Node) (v : Json) : Prop :=
  ∃ entries extra, v = .object entries ∧
    entries.Perm (n.plainEntries ++ n.kind.write ++ extra) ∧
      ∀ e ∈ extra, e.1 ∉ keys ∧ e.2.Fits room

theorem shownBy_write (room : Nat) (n : Node) : n.ShownBy room n.write :=
  ⟨_, [], rfl, by rw [List.append_nil]; rfl, List.forall_mem_nil _⟩

theorem faithful_plainFields : plainFields.Faithful :=
  ⟨trivial, ⟨Locator.faithful_shape, nofun⟩, trivial, trivial⟩

/-- The parts that belong to every node are found wherever their entries stand. -/
theorem keyed_of_perm {n : Node} {named : List (String × Document)}
    {es others : List (String × Json)} (valued : List.Forall₂ Valued named es)
    (perm : es.Perm (n.plainEntries ++ others))
    (apart : ∀ e ∈ others, e.1 ∉ plainFields.keys) :
    plainFields.Keyed named (n.name, n.locator, n.declaredType, ()) := by
  obtain ⟨front, back, plain, rest, moved⟩ := Shape.exists_split_of_perm perm valued.flip
  have holds : plainFields.Holds Shape.ofDocument front (n.name, n.locator, n.declaredType, ()) :=
    Fields.holds_of_toJson plainFields faithful_plainFields (by decide) plain.flip
  have read := Fields.readKeyed_of_holds Shape.ofDocument 0 plainFields holds
  have keyed := ((Shape.Fields.readKeyed_eq_ok_iff plainFields).mp read).2
  have later : ∀ e ∈ back, e.1 ∉ plainFields.keys := by
    intro e listed
    obtain ⟨f, listed, key, -⟩ := exists_mem_of_forall₂ rest.flip listed
    rw [key]
    exact apart f listed
  rwa [← Fields.keyed_perm moved, Fields.keyed_append plainFields later]

theorem disjoint_keys {key : String} (known : key ∈ kindKeys) : key ∉ plainFields.keys := by
  have apart : ∀ key ∈ kindKeys, key ∉ plainFields.keys := by decide
  exact apart key known

section Shown

variable {n : Node} {named : List (String × Document)} {es extra : List (String × Json)}
  (valued : List.Forall₂ Valued named es)
  (perm : es.Perm (n.plainEntries ++ (n.kind.write ++ extra)))
  (others : ∀ e ∈ extra, e.1 ∉ keys ∧ e.2.Fits room)

include others

/-- The entries of the kind and the further ones are kept until the end. -/
theorem apart_of_others :
    ∀ f ∈ n.kind.write ++ extra, f.1 ∉ plainFields.keys ∧ f.2.Fits room := by
  intro f listed
  rcases List.mem_append.mp listed with own | further
  · refine ⟨disjoint_keys (mem_kindKeys_of_mem_write n.kind f own), ?_⟩
    obtain ⟨s, same⟩ := exists_string_of_mem_write n.kind f own
    exact same ▸ .string _ s
  · obtain ⟨other, fits⟩ := others f further
    exact ⟨fun plain => other (List.mem_append_left _ plain), fits⟩

include perm

/-- Whatever does not belong to every node is small enough to be kept. -/
theorem fits_of_not_mem_keys : ∀ f ∈ es, f.1 ∉ plainFields.keys → f.2.Fits room := by
  intro f listed other
  rcases List.mem_append.mp (perm.mem_iff.mp listed) with plain | later
  · exact absurd (Fields.mem_keys_of_mem_writeEntries plainFields _ f plain) other
  · exact (apart_of_others others f later).2

include valued

theorem readKeyed_plain :
    plainFields.readKeyed Shape.ofDocument (Shape.numbered named) (named.length + 1) =
      .ok (n.name, n.locator, n.declaredType, ()) := by
  have apart := apart_of_others (n := n) others
  refine (Shape.Fields.readKeyed_eq_ok_iff plainFields).mpr ⟨fun e listed _ => ?_,
    keyed_of_perm valued perm fun f listed => (apart f listed).1⟩
  obtain ⟨f, -, -, value⟩ := exists_mem_of_forall₂ valued listed
  exact Document.faultless_of_toJson e.2 value

theorem settle_plain :
    Shape.settle (keepTrouble room) plainFields.keys named none
        (.ok (n.name, n.locator, n.declaredType, ())) =
      .ok (n.name, n.locator, n.declaredType, ()) := by
  refine Shape.settle_eq_ok_iff.mpr ⟨fun e listed other => ?_, rfl, rfl⟩
  obtain ⟨f, listed, key, value⟩ := exists_mem_of_forall₂ valued listed
  exact keepTrouble_of_fits (fits_of_not_mem_keys perm others f listed (key ▸ other)) value

/-- What is kept until the end are the entries of the kind and the further ones. -/
theorem kept_perm :
    (kept room (named.filter fun (key, _) => !plainFields.keys.contains key)).Perm
      (n.kind.write ++ extra) := by
  have left := Shape.forall₂_filter_key (fun key => !plainFields.keys.contains key) valued
  have keeps := kept_of_fits (left.imp fun _ _ => And.right) fun f listed => by
    obtain ⟨listed, other⟩ := List.mem_filter.mp listed
    exact fits_of_not_mem_keys perm others f listed (by simpa using other)
  -- The filter drops the entries of the plain fields and none of the others.
  have plain : (n.plainEntries.filter fun f => !plainFields.keys.contains f.1) = [] := by
    refine List.filter_eq_nil_iff.mpr fun f listed other => ?_
    have known := Fields.mem_keys_of_mem_writeEntries plainFields _ f listed
    simp [known] at other
  have rest : ((n.kind.write ++ extra).filter fun f => !plainFields.keys.contains f.1) =
      n.kind.write ++ extra :=
    List.filter_eq_self.mpr fun f listed => by simpa using (apart_of_others others f listed).1
  have filtered := perm.filter fun f => !plainFields.keys.contains f.1
  rw [List.filter_append, plain, rest, List.nil_append] at filtered
  rwa [keeps]

theorem read_kind :
    Kind.read (kept room (named.filter fun (key, _) => !plainFields.keys.contains key)) =
      .ok n.kind :=
  Kind.read_of_perm (kept_perm valued perm others) fun f listed known =>
    (others f listed).1 (List.mem_append_right _ known)

end Shown

/-- Reading a node from a document of a value that shows it. -/
theorem readIn_of_shownBy {n : Node} (shown : n.ShownBy (room - 1) v) (valued : d.toJson = .ok v) :
    readIn room d = .ok n := by
  obtain ⟨es, extra, rfl, perm, others⟩ := shown
  rw [List.append_assoc] at perm
  obtain ⟨entries, rfl, spelled⟩ := Document.toJson_eq_ok_iff.mp valued
  obtain ⟨named, keys, valued⟩ := Shape.exists_readKeys spelled
  have fields := readKeyed_plain valued perm others
  have settled := settle_plain valued perm others
  have kind := read_kind valued perm others
  simp only [readIn, keys, fields, settled, kind]
  rfl

/-- Reading nodes from a document of an array of values that show them. -/
theorem readAll_of_shownBy {ns : List Node} {vs : List Json}
    (shown : List.Forall₂ (fun n v => n.ShownBy (maxDepth - 2) v) ns vs)
    (valued : d.toJson = .ok (.array vs)) : readAll d = .ok ns := by
  obtain ⟨items, rfl, pairs⟩ := Document.toJson_eq_ok_iff.mp valued
  have read : items.mapM (readIn (maxDepth - 1)) = .ok ns := by
    refine mapM_eq_ok_iff.mpr (Shape.forall₂_of_pairs (fun v item n value shows => ?_) pairs.flip
      shown.flip)
    exact readIn_of_shownBy shows value
  rw [readAll, read]
  rfl

/-! ## Texts -/

/-- A text is read as what its document is read as. -/
theorem exists_document_of_ofString {s : String} (denoted : Json.ofString s = .ok v) :
    ∃ d : Document, d.toJson = .ok v ∧
      ∀ {α : Type} {readDocument : Document → Except Trouble α} {a : α},
        readDocument d = .ok a → Shape.parseWith readDocument s = .ok a := by
  obtain ⟨d, spells, valued⟩ := Json.ofString_eq_ok_iff.mp denoted
  refine ⟨d, valued, fun read => ?_⟩
  rw [Shape.parseWith, (Json.spells_iff.mp spells).1, read]
  rfl

theorem isCounted_write (n : Node) : n.write.IsCounted := by
  refine .object fun e listed => ?_
  rcases List.mem_append.mp listed with plain | own
  · exact Fields.isCounted_writeEntries plainFields _ e plain
  · obtain ⟨s, same⟩ := exists_string_of_mem_write n.kind e own
    exact same ▸ .string s

theorem isCounted_writeAll (ns : List Node) : (Json.array (ns.map write)).IsCounted :=
  .array (List.forall_mem_map.mpr fun n _ => isCounted_write n)

/-- A printed value of which all numbers are counts is read back, in either layout. -/
theorem ofString_layout {layout : Json → List Char} (known : layout ∈ [Json.compact, Json.indented])
    (counted : v.IsCounted) : Json.ofString (String.ofList (layout v)) = .ok v := by
  rcases List.mem_pair.mp known with rfl | rfl
  · exact Json.ofString_compact counted
  · exact Json.ofString_indented counted

/-- A node is read back from the text that was written for it, and from every text of a value that
shows it; the same holds of lists of nodes, and so the guardrails find in a graph what they found
before. -/
theorem exchange_lossless (n : Node) (ns : List Node) :
    (∀ layout ∈ [Json.compact, Json.indented],
        Shape.parseWith read (String.ofList (layout n.write)) = .ok n ∧
          Shape.parseWith readAll (String.ofList (layout (.array (ns.map write)))) = .ok ns) ∧
      (∀ s v, n.ShownBy (maxDepth - 1) v → Json.ofString s = .ok v →
        Shape.parseWith read s = .ok n) ∧
      ∀ s vs, List.Forall₂ (fun n v => n.ShownBy (maxDepth - 2) v) ns vs →
        Json.ofString s = .ok (.array vs) →
        Shape.parseWith readAll s = .ok ns ∧
          Guardrail.validate <$> Shape.parseWith readAll s = .ok (Guardrail.validate ns) := by
  have one : ∀ s v, n.ShownBy (maxDepth - 1) v → Json.ofString s = .ok v →
      Shape.parseWith read s = .ok n := by
    intro s v shown denoted
    obtain ⟨d, valued, parse⟩ := exists_document_of_ofString denoted
    exact parse (readIn_of_shownBy shown valued)
  have all : ∀ s vs, List.Forall₂ (fun n v => n.ShownBy (maxDepth - 2) v) ns vs →
      Json.ofString s = .ok (.array vs) → Shape.parseWith readAll s = .ok ns := by
    intro s vs shown denoted
    obtain ⟨d, valued, parse⟩ := exists_document_of_ofString denoted
    exact parse (readAll_of_shownBy shown valued)
  refine ⟨fun layout known => ⟨?_, ?_⟩, one, fun s vs shown denoted => ?_⟩
  · exact one _ _ (shownBy_write _ n) (ofString_layout known (isCounted_write n))
  · refine all _ _ ?_ (ofString_layout known (isCounted_writeAll ns))
    exact List.forall₂_map_right_iff.mpr (List.forall₂_same.mpr fun n _ => shownBy_write _ n)
  · have read := all s vs shown denoted
    refine ⟨read, ?_⟩
    rw [read]
    rfl

/-- A root without a locator. -/
def homeRoot : Node := ⟨"home", none, "app.Home", .root "app.Home"⟩

/-- An entry that belongs to no node. -/
def note : String × Json := ("note", .array [.ofNat 1, .object [("kind", .null)]])

/-- The entries of this root and the note, last first. -/
def homeValue : Json := .object (homeRoot.plainEntries ++ homeRoot.kind.write ++ [note]).reverse

theorem fits_note (room : Nat) : note.2.Fits (room + 2) := by
  refine .array fun v listed => ?_
  rcases List.mem_pair.mp listed with rfl | rfl
  · exact .number _ (by decide)
  · exact .object (List.forall_mem_singleton.mpr (.null room))

theorem homeRoot_shownBy (room : Nat) : homeRoot.ShownBy (room + 2) homeValue :=
  ⟨_, [note], rfl, List.reverse_perm _, List.forall_mem_singleton.mpr ⟨by decide, fits_note room⟩⟩

/-- A text of a graph with that root. -/
def homeText : String :=
  "[\x7b \"note\": [1, \x7b\"kind\": null\x7d], \"enclosingPageObjectType\": \"app.Home\",\n" ++
    "\"kind\": \"root\", \"declaredType\": \"app.Home\", \"locator\": null, \"name\": \"home\" \x7d]"

theorem exchange_lossless_home :
    Json.ofString homeText = .ok (.array [homeValue]) ∧
      homeRoot.ShownBy (maxDepth - 2) homeValue ∧
      Shape.parseWith readAll homeText = .ok [homeRoot] := by
  have denoted : Json.ofString homeText = .ok (.array [homeValue]) := by cbv
  obtain ⟨-, -, graphs⟩ := exchange_lossless homeRoot [homeRoot]
  have shown : List.Forall₂ (fun n v => n.ShownBy (maxDepth - 2) v) [homeRoot] [homeValue] :=
    .cons (homeRoot_shownBy _) .nil
  exact ⟨denoted, homeRoot_shownBy _, (graphs _ _ shown denoted).1⟩

end Node

end Graph

end PageLint
