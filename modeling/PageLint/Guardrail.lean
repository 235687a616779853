import PageLint.Graph.Node

/-!
# Guardrails

Every two different nodes of an element graph must be told apart by their selectors. Code generated
from a graph where they cannot would find the wrong element, so a conflict is fatal for the page
object, and so is a selector that depends on a text users see.

## Main definitions

* `Guardrail.check` — the verdict on two nodes
* `Guardrail.validate` — the first violation in a graph
* `Guardrail.Violation.message` — its wording
-/

namespace PageLint

open PageLint.Graph (Kind Node)

/-- The verdict on two nodes. -/
inductive Verdict where
  | none
  | duplicateOfRoot
  | componentAndElement
  | componentsOfDifferentTypes
deriving DecidableEq, Repr

namespace Verdict

/-- All verdicts, in the order in which messages name them. -/
def all : List Verdict :=
  [.none, .duplicateOfRoot, .componentAndElement, .componentsOfDifferentTypes]

/-- The name of a verdict in documents. -/
def name : Verdict → String
  | .none => "NONE"
  | .duplicateOfRoot => "DUPLICATE_WITH_ROOT_SELECTOR"
  | .componentAndElement => "COMPONENT_AND_ELEMENT_DUPLICATE_SELECTOR"
  | .componentsOfDifferentTypes => "COMPONENTS_WITH_SAME_SELECTOR_DIFFERENT_TYPES"

/-- A verdict is written as its name. -/
def shape : Shape Verdict := .choice all name

/-- The wording of a verdict. -/
def message : Verdict → String
  | .none => "no conflict"
  | .duplicateOfRoot => "element has the same selector as the root"
  | .componentAndElement => "custom component and basic element have the same selector"
  | .componentsOfDifferentTypes =>
    "custom components have the same selector but different types"

/-- The two nodes are in conflict. -/
def isViolation (v : Verdict) : Bool := v != .none

end Verdict

namespace Guardrail

/-- The node exposes a root of a page object of the given type once more: it is a component of that
type, or a root of such a page object. -/
def exposesRoot (type : String) (n : Node) : Bool :=
  match n.kind with
  | .custom => n.declaredType == type
  | .root enclosing => enclosing == type
  | .basic | .container | .document | .selfReference => false

/-- The verdict on two nodes that are found by one locator. -/
def conflict (first second : Node) : Verdict :=
  match first.kind, second.kind with
  | .root type, _ => if exposesRoot type second then .none else .duplicateOfRoot
  | .custom, .root type => if exposesRoot type first then .none else .duplicateOfRoot
  | .custom, .custom =>
    if first.declaredType = second.declaredType then .none else .componentsOfDifferentTypes
  | .custom, .basic | .basic, .custom => .componentAndElement
  | .basic, .root _ => .duplicateOfRoot
  -- The other kinds are in conflict with a root only if the root comes first.
  | _, _ => .none

/-- The verdict on two nodes. -/
def check (first second : Node) : Verdict :=
  if Locator.same first.locator second.locator then conflict first second else .none

/-- What makes a page object unusable. -/
inductive Violation where
  /-- The selector of an element depends on a visible text. -/
  | fixedText (element selector : String)
  /-- Two elements cannot be told apart. -/
  | conflict (verdict : Verdict) (first second : String)
deriving DecidableEq, Repr

/-- The selector of a node depends on a visible text. -/
def fixesText (n : Node) : Bool :=
  n.isSelected && n.locator.any (·.fixesText)

/-- The violation of a node by itself. -/
def fixedText? (n : Node) : Option Violation :=
  if fixesText n then some (.fixedText n.name ((n.locator.map (·.value)).getD "")) else none

/-- The violation of two nodes. -/
def conflict? (first second : Node) : Option Violation :=
  let verdict := check first second
  if verdict.isViolation then some (.conflict verdict first.name second.name) else none

/-- The first violation in a graph: the nodes by themselves come first, then all ordered pairs of
nodes at two different places. -/
def validate (nodes : List Node) : Option Violation :=
  nodes.findSome? fixedText? <|>
    nodes.zipIdx.findSome? fun (first, i) =>
      nodes.zipIdx.findSome? fun (second, j) =>
        if i = j then none else conflict? first second

/-- The wording of a violation in the page object of the given name. -/
def Violation.message (pageObject : String) : Violation → String
  | .fixedText element selector =>
    "page object " ++ pageObject ++ ": selector \"" ++ selector ++ "\" of the element \"" ++
      element ++ "\" hardcodes text, use a parameter instead"
  | .conflict verdict first second =>
    "page object " ++ pageObject ++ ": elements \"" ++ first ++ "\" and \"" ++ second ++ "\": " ++
      verdict.message

end Guardrail

end PageLint
