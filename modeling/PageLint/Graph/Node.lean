import PageLint.Locator

/-!
# Nodes of an element graph

While a page object is compiled, its elements form a graph whose nodes are compared with one
another. Besides elements proper the graph holds containers, which have no selector, and references
to the document and to the page object itself.

## Main definitions

* `Graph.Kind` — what an element is to the compiler
* `Graph.Node` — an element of the page object that is being compiled
-/

namespace PageLint.Graph

/-- What an element is to the compiler. -/
inductive Kind where
  /-- The root of a page object of the given type. -/
  | root (enclosingType : String)
  | custom
  | basic
  | container
  | document
  | selfReference
deriving DecidableEq, Repr

/-- An element of the page object that is being compiled. -/
structure Node where
  name : String
  locator : Option Locator
  declaredType : String
  kind : Kind
deriving DecidableEq, Repr

/-- The node is subject to checks of its selector: it is neither a container nor a reference. -/
def Node.isSelected (n : Node) : Bool :=
  match n.kind with
  | .root _ | .custom | .basic => true
  | .container | .document | .selfReference => false

end PageLint.Graph
