import PageLint.Yaml.Token

/-!
# Nodes of YAML

A document is a tree of nodes. A node may have a name under which it can be used again; an alias
stands for the node with its name. Names are known by numbers, because a name may be given again.

## Main definitions

* `Yaml.Tag`, `Yaml.Node` — tags and nodes
* `Yaml.Node.numbered` — the nodes that have numbers
* `Yaml.Document` — a tree with what its aliases stand for
-/

namespace PageLint.Yaml

/-- A tag: an address, as octets. -/
structure Tag where
  octets : List UInt8
deriving DecidableEq, Repr

namespace Tag

/-- The tag with the given address. -/
def ofText (s : String) : Tag := ⟨s.toUTF8.toList⟩

/-- What the addresses of the standard tags begin with. -/
def standard : String := "tag:yaml.org,2002:"

/-- The tag of truth values. -/
def truth : Tag := ofText (standard ++ "bool")

/-- The tag of the value that says nothing. -/
def nothing : Tag := ofText (standard ++ "null")

/-- The tag that says no more than that there is one. -/
def bare : Tag := ofText "!"

/-- The name that a local tag gives; a tag is local if it begins with an exclamation mark. -/
def name? (t : Tag) : Option String :=
  match t.octets with
  | [] => none
  | o :: octets =>
    if o = '!'.toUInt8 then
      String.fromUTF8? ⟨(if octets.isEmpty then [o] else octets).toArray⟩
    else none

end Tag

/-- A node. -/
inductive Node where
  | scalar (tag : Option Tag) (style : Style) (text : String)
  | sequence (tag : Option Tag) (items : List Node)
  | mapping (tag : Option Tag) (entries : List (Node × Node))
  /-- The node that has the number. -/
  | alias (number : Nat)
  /-- A node that has a number. -/
  | named (number : Nat) (node : Node)
deriving Inhabited, Repr

namespace Node

/-- The node that stands where none is written. -/
def empty : Node := .scalar none .plain ""

mutual

/-- The nodes that have numbers, in the order in which they begin. -/
def numbered : Node → List (Nat × Node)
  | .scalar _ _ _ | .alias _ => []
  | .sequence _ items => numberedItems items
  | .mapping _ entries => numberedEntries entries
  | .named number node => (number, node) :: numbered node

/-- The nodes with numbers among items. -/
def numberedItems : List Node → List (Nat × Node)
  | [] => []
  | node :: nodes => numbered node ++ numberedItems nodes

/-- The nodes with numbers among entries. -/
def numberedEntries : List (Node × Node) → List (Nat × Node)
  | [] => []
  | (key, value) :: entries => numbered key ++ numbered value ++ numberedEntries entries

end

end Node

/-- A tree of nodes. -/
structure Document where
  root : Node
deriving Inhabited, Repr

/-- The node that an alias of the document stands for; of several with one number, the last. -/
def Document.get? (d : Document) (number : Nat) : Option Node :=
  (d.root.numbered.reverse.find? (·.1 = number)).map (·.2)

/-- The node itself, without its name, and for an alias the node that it stands for. -/
def Document.resolve (d : Document) : Node → Node
  | .alias number => (d.get? number).getD .empty
  | .named _ node => node
  | node => node

end PageLint.Yaml
