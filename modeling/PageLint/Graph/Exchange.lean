import PageLint.Graph.Node
import PageLint.Shape.Document
import PageLint.Shape.Value

/-!
# Exchange of element graphs

A compiler hands its element graph over as JSON. A node is an object whose entry `kind` says what
the element is, and with it which further entries belong to it. Since `kind` may come last, all
entries that do not belong to every node are kept as plain values until the object has ended; that
takes what skipping them does not: bounded nesting, and numbers that the machine can hold.

## Main definitions

* `Graph.Node.read`, `Graph.Node.readAll` — the node, or the nodes, of a document
* `Graph.Node.write` — the value of a node
-/

namespace PageLint.Graph

open Json (Document Fault Quoted)
open Shape (Fields Trouble Problem)

/-! ## Values kept until the end -/

/-- How many containers may be open at once, so that a document nests to a bounded depth. -/
def maxDepth : Nat := 127

mutual

/-- A value to be kept, when so many containers may still be opened. -/
def keep (room : Nat) : Document → Except Fault Json
  | .absent f => .error f
  | .word _ (some f) => .error f
  | .word w none => .ok w.toJson
  | .number (.error f) => .error f
  | .number (.ok n) => if n.magnitude?.isSome then .ok (.number n) else .error .malformed
  | .text q => .string <$> q.text
  | .array items ending =>
    match room with
    | 0 => .error .malformed
    | room + 1 => do
      let items ← keepItems room items
      match ending.fault with
      | none => .ok (.array items)
      | some f => .error f
  | .object entries ending =>
    match room with
    | 0 => .error .malformed
    | room + 1 => do
      let entries ← keepEntries room entries
      match ending.fault with
      | none => .ok (.object entries)
      | some f => .error f

/-- The items of an array to be kept. -/
def keepItems (room : Nat) : List Document → Except Fault (List Json)
  | [] => .ok []
  | d :: ds => do return (← keep room d) :: (← keepItems room ds)

/-- The entries of an object to be kept. -/
def keepEntries (room : Nat) :
    List (Quoted × Document) → Except Fault (List (String × Json))
  | [] => .ok []
  | (q, d) :: es => do return (← q.text, ← keep room d) :: (← keepEntries room es)

end

/-- What is wrong with a value to be kept. -/
def keepTrouble (room : Nat) (d : Document) : Option Trouble :=
  match keep room d with
  | .ok _ => none
  | .error f => some (.fault f)

/-- The values that can be kept of the given entries. -/
def kept (room : Nat) (entries : List (String × Document)) : List (String × Json) :=
  entries.filterMap fun (key, d) =>
    match keep room d with
    | .ok v => some (key, v)
    | .error _ => none

/-! ## Kinds -/

/-- The names of the kinds, in the order in which messages name them. -/
def kindNames : List String := ["root", "custom", "basic", "container", "document", "self"]

/-- The entry that says of which type the page object of a root is. -/
def enclosingKey : String := "enclosingPageObjectType"

/-- The name of a kind, written as a string or as its number counted from zero. -/
def kindName : Json → Except Trouble String
  | .string s => if kindNames.contains s then .ok s else
    .error (.mismatch (.unknownChoice s kindNames))
  | v =>
    match v.nat? with
    | some i =>
      match kindNames[i]? with
      | some s => .ok s
      | none =>
        if i ≤ Json.maxWord then .error (.mismatch (.beyondLast i kindNames.length))
        else Shape.refuseValue .choice v
    | none => Shape.refuseValue .choice v

/-- The kind of a node by the entries that do not belong to every node. -/
def Kind.read (entries : List (String × Json)) : Except Trouble Kind := do
  match entries.filter (·.1 == "kind") with
  | [] => .error (.mismatch (.missing "kind"))
  | (_, tag) :: more =>
    -- The first tag is read before a second one is refused.
    let name ← kindName tag
    if !more.isEmpty then .error (.mismatch (.duplicate "kind"))
    let named : List (String × Kind) :=
      [("custom", .custom), ("basic", .basic), ("container", .container),
        ("document", .document), ("self", .selfReference)]
    match named.find? (·.1 == name) with
    | some (_, kind) => return kind
    | none =>
      let (enclosingType, ()) ←
        Shape.settle (fun _ => none) [enclosingKey] entries none
          (Fields.readKeyed Shape.ofValue (.required enclosingKey .text .nil)
            (Shape.numbered entries) (entries.length + 1))
      return .root enclosingType

/-- The entries that say what kind a node has. -/
def Kind.write : Kind → List (String × Json)
  | .root type => [("kind", .string "root"), (enclosingKey, .string type)]
  | .custom => [("kind", .string "custom")]
  | .basic => [("kind", .string "basic")]
  | .container => [("kind", .string "container")]
  | .document => [("kind", .string "document")]
  | .selfReference => [("kind", .string "self")]

/-! ## Nodes -/

/-- The fields that belong to every node. -/
def plainFields : Fields (String × Option Locator × String × Unit) :=
  .required "name" .text <|
    .defaulted "locator" none (.optional Locator.shape) <|
    .required "declaredType" .text <|
    .nil

namespace Node

/-- The node of a document that may open so many containers. -/
def readIn (room : Nat) : Document → Except Trouble Node
  | .object entries ending => do
    let (entries, wrong) := Shape.readKeys entries ending
    let room := room - 1
    let (name, locator, declaredType, ()) ←
      Shape.settle (keepTrouble room) plainFields.keys entries wrong
        (plainFields.readKeyed Shape.ofDocument (Shape.numbered entries) (entries.length + 1))
    let others := entries.filter fun (key, _) => !plainFields.keys.contains key
    return ⟨name, locator, declaredType, ← Kind.read (kept room others)⟩
  | d => Shape.refuse (.record "ElementNode") d

/-- The node of a document. -/
def read (d : Document) : Except Trouble Node := readIn maxDepth d

/-- The nodes of a document that holds an array of them. -/
def readAll : Document → Except Trouble (List Node)
  | .array items ending => do
    let nodes ← items.mapM (readIn (maxDepth - 1))
    Shape.orTrouble nodes (Shape.endTrouble ending)
  | d => Shape.refuse .sequence d

/-- The value of a node. -/
def write (n : Node) : Json :=
  .object (plainFields.writeEntries (n.name, n.locator, n.declaredType, ()) ++ n.kind.write)

end Node

end PageLint.Graph
