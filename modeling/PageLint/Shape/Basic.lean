import PageLint.Json.Basic

/-!
# Shapes

A shape says how values of a type are written down: as a text, a truth value, one of several names,
a list, a record of fields. It is data, indexed by the type it describes, and everything else is
done by recursion on it: writing, reading from any format, and the statement of what conforms to it.

Fields of a record have a key, further keys that mean the same, and up to two values that stand in
for them: one for a record whose field is left out, one for a record that is written as a sequence
and ends early. They differ: a missing optional field is empty, while a sequence may not leave it
out unless the field says so.

## Main definitions

* `Shape`, `Shape.Fields` — shapes, and the fields of a record
* `Shape.write` — the JSON value of a value
-/

namespace PageLint

mutual

/-- How the values of a type are written down. -/
inductive Shape : Type → Type 1 where
  | text : Shape String
  | flag : Shape Bool
  /-- One of the given values, by its name. -/
  | choice {α : Type} (values : List α) (name : α → String) : Shape α
  | optional {α : Type} (shape : Shape α) : Shape (Option α)
  | many {α : Type} (shape : Shape α) : Shape (List α)
  /-- Fields, and how they make up a value. -/
  | record {α ρ : Type} (title : String) (fields : Shape.Fields ρ) (make : ρ → α)
      (parts : α → ρ) : Shape α

/-- The fields of a record, in the order of declaration. -/
inductive Shape.Fields : Type → Type 1 where
  | nil : Shape.Fields Unit
  /-- A field with its keys, the value it has when it is left out, the value it has when a sequence
  ends before it, and the shape of its values. -/
  | field {α ρ : Type} (key : String) (aliases : List String) (absent : Option α)
      (beyond : Option α) (shape : Shape α) (rest : Shape.Fields ρ) : Shape.Fields (α × ρ)

end

namespace Shape

/-- The value an optional field has when it is left out. -/
def absentDefault {α : Type} : Shape α → Option α
  | .optional _ => some none
  | _ => none

namespace Fields

/-- A field without a default. An optional one is empty when it is left out. -/
def required {α ρ : Type} (key : String) (shape : Shape α) (rest : Fields ρ) : Fields (α × ρ) :=
  .field key [] shape.absentDefault none shape rest

/-- A field with a default. -/
def defaulted {α ρ : Type} (key : String) (default : α) (shape : Shape α) (rest : Fields ρ) :
    Fields (α × ρ) :=
  .field key [] (some default) (some default) shape rest

/-- A field with a default and a second key. -/
def aliased {α ρ : Type} (key second : String) (default : α) (shape : Shape α)
    (rest : Fields ρ) : Fields (α × ρ) :=
  .field key [second] (some default) (some default) shape rest

/-- How many fields there are. -/
def size {ρ : Type} : Fields ρ → Nat
  | .nil => 0
  | .field _ _ _ _ _ rest => rest.size + 1

/-- The keys of all fields, aliases included. -/
def keys {ρ : Type} : Fields ρ → List String
  | .nil => []
  | .field key aliases _ _ _ rest => key :: aliases ++ rest.keys

end Fields

mutual

/-- The JSON value of a value: records are objects with all their fields, in the order of
declaration, under their first keys. -/
def write {α : Type} : Shape α → α → Json
  | .text, s => .string s
  | .flag, b => .bool b
  | .choice _ name, a => .string (name a)
  | .optional _, none => .null
  | .optional shape, some a => shape.write a
  | .many shape, as => .array (as.map shape.write)
  | .record _ fields _ parts, a => .object (fields.writeEntries (parts a))

/-- The entries of a record. -/
def Fields.writeEntries {ρ : Type} : Fields ρ → ρ → List (String × Json)
  | .nil, () => []
  | .field key _ _ _ shape rest, (a, r) => (key, shape.write a) :: rest.writeEntries r

end

end Shape

end PageLint
