import PageLint.Shape.Basic
import PageLint.Shape.Trouble

/-!
# Reading by a shape

One shape is read from texts of several formats. A dialect says how a format shows each kind of
shape; the reader knows nothing else about the format.

Reading is a single pass in the order of the document, and the first trouble met is the one
reported. A record is read field by field all the same: each field looks at its own entries, and
says at which place of the document it fails, if it does. Of several failures the one at the first
place counts.

## Main definitions

* `Shape.Dialect` — how a format shows the kinds of shapes
* `Shape.read` — the value a document has by a shape, or the first trouble
-/

namespace PageLint.Shape

/-- A choice as it stands in a document: a name, and what is wrong after it. -/
structure Tag where
  name : String
  after : Option Trouble

/-- A record as it stands in a document. -/
inductive Layout (δ : Type) where
  /-- Entries under keys, and what is wrong after the last of them. -/
  | keyed (entries : List (String × δ)) (ending : Option Trouble)
  /-- The values of the fields in the order of declaration, what is wrong after the last of them,
  and what is wrong when there are more of them than fields. -/
  | listed (items : List δ) (ending : Option Trouble) (surplus : Option Trouble)

/-- How a format shows the kinds of shapes. -/
structure Dialect (δ : Type) where
  text : δ → Except Trouble String
  flag : δ → Except Trouble Bool
  choice : δ → Except Trouble Tag
  /-- Nothing stands where a value may be left empty. -/
  isNull : δ → Except Trouble Bool
  /-- The items of a list, and what is wrong after the last of them. -/
  sequence : δ → Except Trouble (List δ × Option Trouble)
  /-- The layout of a record with the given title. -/
  layout : String → δ → Except Trouble (Layout δ)
  /-- What is wrong with a value that nobody reads. -/
  skip : δ → Option Trouble

/-- A trouble and its place: the number of the entry where it is met. -/
structure Problem where
  place : Nat
  trouble : Trouble

/-- The value of a choice by its name. -/
def pick {α : Type} (values : List α) (name : α → String) (tag : Tag) : Except Trouble α :=
  match values.find? (name · == tag.name) with
  | none => .error (.mismatch (.unknownChoice tag.name (values.map name)))
  | some a =>
    match tag.after with
    | none => .ok a
    | some t => .error t

/-- Fails when there is something wrong. -/
def orTrouble {α : Type} (a : α) : Option Trouble → Except Trouble α
  | none => .ok a
  | some t => .error t

/-- Both results; of two problems the one met first, and at one place the first of the two. -/
def both {α ρ : Type} : Except Problem α → Except Problem ρ → Except Problem (α × ρ)
  | .ok a, .ok r => .ok (a, r)
  | .ok _, .error q => .error q
  | .error p, .ok _ => .error p
  | .error p, .error q => .error (if q.place < p.place then q else p)

/-- The result unless a problem comes before. -/
def unlessBefore {α : Type} : Option Problem → Except Problem α → Except Problem α
  | none, r => r
  | some q, .ok _ => .error q
  | some q, .error p => .error (if q.place < p.place then q else p)

/-- An entry of an object: its place, its key and its value. -/
abbrev Entry (δ : Type) := Nat × String × δ

/-- The entries with their places, counted from zero. -/
def numbered {δ : Type} (entries : List (String × δ)) : List (Entry δ) :=
  entries.zipIdx.map fun ((key, d), place) => (place, key, d)

/-- The first trouble in entries that no field reads. -/
def unknown {δ : Type} (skip : δ → Option Trouble) (keys : List String)
    (entries : List (Entry δ)) : Option Problem :=
  entries.findSome? fun (place, key, d) =>
    if keys.contains key then none else (skip d).map (Problem.mk place)

/-- The fields of a record that has the given keys, once what is wrong beside them is counted in:
the entries under other keys, and the end of the record. -/
def settle {ρ δ : Type} (skip : δ → Option Trouble) (keys : List String)
    (entries : List (String × δ)) (ending : Option Trouble) (fields : Except Problem ρ) :
    Except Trouble ρ :=
  -- The end is the place behind all entries, so what is wrong in an entry comes before it.
  let wrong := ending.map (Problem.mk entries.length)
  match unlessBefore (unknown skip keys (numbered entries)) (unlessBefore wrong fields) with
  | .ok r => .ok r
  | .error p => .error p.trouble

mutual

/-- The value a document has by a shape, or the first trouble. -/
def read {α δ : Type} (D : Dialect δ) : Shape α → δ → Except Trouble α
  | .text, d => D.text d
  | .flag, d => D.flag d
  | .choice values name, d => D.choice d >>= pick values name
  | .optional shape, d => do
    if ← D.isNull d then return none
    return some (← read D shape d)
  | .many shape, d => do
    let (items, ending) ← D.sequence d
    let values ← items.mapM fun item => read D shape item
    orTrouble values ending
  | .record title fields make _, d => do
    match ← D.layout title d with
    | .keyed entries ending =>
      make <$> settle D.skip fields.keys entries ending
        (fields.readKeyed D (numbered entries) (entries.length + 1))
    | .listed items ending surplus =>
      make <$> fields.readListed D title fields.size 0 ending surplus items

/-- The fields of a record from its entries. A field that is left out is missed at the end. -/
def Fields.readKeyed {ρ δ : Type} (D : Dialect δ) :
    Fields ρ → List (Entry δ) → Nat → Except Problem ρ
  | .nil, _, _ => .ok ()
  | .field key aliases absent _ shape rest, entries, atEnd =>
    let value :=
      match entries.filter fun (_, k, _) => (key :: aliases).contains k with
      | [] =>
        match absent with
        | some a => .ok a
        | none => .error ⟨atEnd, .mismatch (.missing key)⟩
      | (place, _, d) :: more =>
        match read D shape d with
        | .error t => .error ⟨place, t⟩
        | .ok a =>
          match more with
          | [] => .ok a
          | (second, _) :: _ => .error ⟨second, .mismatch (.duplicate key)⟩
    both value (rest.readKeyed D entries atEnd)

/-- The fields of a record from a list of their values. -/
def Fields.readListed {ρ δ : Type} (D : Dialect δ) (title : String) (total : Nat) :
    Fields ρ → Nat → Option Trouble → Option Trouble → List δ → Except Trouble ρ
  | .nil, _, ending, _, [] => orTrouble () ending
  | .nil, _, ending, surplus, _ :: _ => orTrouble () (surplus <|> ending)
  | .field _ _ _ beyond _ rest, index, ending, surplus, [] =>
    match ending, beyond with
    | some t, _ => .error t
    | none, some a => (a, ·) <$> rest.readListed D title total (index + 1) ending surplus []
    | none, none => .error (.mismatch (.tooShort index title total))
  | .field _ _ _ _ shape rest, index, ending, surplus, d :: ds => do
    let a ← read D shape d
    let r ← rest.readListed D title total (index + 1) ending surplus ds
    return (a, r)

end

end PageLint.Shape
