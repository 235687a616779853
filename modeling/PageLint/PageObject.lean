import PageLint.Locator

/-!
# Page objects

A page object describes a page for test code: named elements, methods built from them, and a root.
The linter works on a summary of a compiled page object, with elements, methods and shadow
boundaries in the order of their declaration.

## Main definitions

* `Selector`, `Scope`, `Element`, `Method`, `Root` — the parts of a page object
* `PageObject` — the summary of a page object
-/

namespace PageLint

/-- A locator, and whether it stands for one element or for a list of them. -/
structure Selector where
  locator : Locator
  isList : Bool
deriving DecidableEq, Repr

/-- A selector is a record. -/
def Selector.shape : Shape Selector :=
  .record "ElementSelector"
    (.required "locator" Locator.shape <|
      .defaulted "isList" false .flag <|
      .nil)
    (fun (locator, isList, ()) => ⟨locator, isList⟩)
    (fun s => (s.locator, s.isList, ()))

/-- Where an element is declared: below which other element, and whether behind a shadow
boundary. -/
structure Scope where
  parent : Option String
  isInsideShadow : Bool
deriving DecidableEq, Repr

/-- A scope is a record of two parts that may be left out. -/
def Scope.shape : Shape Scope :=
  .record "ElementScope"
    (.defaulted "parentName" none (.optional .text) <|
      .defaulted "isInsideShadow" false .flag <|
      .nil)
    (fun (parent, isInsideShadow, ()) => ⟨parent, isInsideShadow⟩)
    (fun s => (s.parent, s.isInsideShadow, ()))

/-- An element of a page object. Only the root has no scope. -/
structure Element where
  name : String
  type : Option String
  selector : Option Selector
  scope : Option Scope
deriving DecidableEq, Repr

namespace Element

/-- An element is a record of its name and three parts that may be left out. -/
def shape : Shape Element :=
  .record "ElementFact"
    (.required "name" .text <|
      .defaulted "typeFullName" none (.optional .text) <|
      .defaulted "selector" none (.optional Selector.shape) <|
      .defaulted "scope" none (.optional Scope.shape) <|
      .nil)
    (fun (name, type, selector, scope, ()) => ⟨name, type, selector, scope⟩)
    (fun e => (e.name, e.type, e.selector, e.scope, ()))

/-- The locator of the selector, when there is one. -/
def locator (e : Element) : Option Locator := e.selector.map (·.locator)

/-- The value of the locator, empty when there is none. -/
def selectorText (e : Element) : String := (e.locator.map (·.value)).getD ""

/-- The name of the type, empty when there is none. -/
def typeName (e : Element) : String := e.type.getD ""

/-- The types that are not components of their own. -/
def plainTypes : List String := ["basic", "container", "frame"]

/-- The type is a component of its own. -/
def isCustom (e : Element) : Bool :=
  match e.type with
  | some t => !plainTypes.contains t
  | none => false

/-- Both have a selector, with one locator, and both are lists or neither is. A list and a single
element may share a locator. -/
def sameSelector (e f : Element) : Bool :=
  match e.selector, f.selector with
  | some s, some t => s == t
  | _, _ => false

/-- Both are declared at one place. -/
def sameScope (e f : Element) : Bool := e.scope == f.scope

/-- The element is found by the given locator, list or not. -/
def hasLocator (e : Element) (l : Option Locator) : Bool := Locator.same e.locator l

end Element

/-- A method of a page object. -/
structure Method where
  name : String
  hasDescription : Bool
deriving DecidableEq, Repr

/-- A method is a record. -/
def Method.shape : Shape Method :=
  .record "MethodFact"
    (.required "name" .text <|
      .defaulted "hasDescription" false .flag <|
      .nil)
    (fun (name, hasDescription, ()) => ⟨name, hasDescription⟩)
    (fun m => (m.name, m.hasDescription, ()))

/-- What is declared of a page object as a whole. A root page object has a selector. -/
structure Root where
  hasDescription : Bool
  hasAuthor : Bool
  selector : Option Selector
deriving DecidableEq, Repr

namespace Root

/-- A root is a record of parts that may all be left out. -/
def shape : Shape Root :=
  .record "RootFact"
    (.defaulted "hasDescription" false .flag <|
      .defaulted "hasAuthor" false .flag <|
      .defaulted "selector" none (.optional Selector.shape) <|
      .nil)
    (fun (hasDescription, hasAuthor, selector, ()) => ⟨hasDescription, hasAuthor, selector⟩)
    (fun r => (r.hasDescription, r.hasAuthor, r.selector, ()))

/-- The locator of the selector, when there is one. -/
def locator (r : Root) : Option Locator := r.selector.map (·.locator)

/-- The name under which the root counts as an element. -/
def elementName : String := "root"

/-- The root as an element without type and scope, when it has a selector. -/
def element? (r : Root) : Option Element :=
  r.selector.map fun s => ⟨elementName, none, some s, none⟩

end Root

/-- The summary of a compiled page object. -/
structure PageObject where
  name : String
  path : String
  type : String
  elements : List Element
  methods : List Method
  /-- The names of the elements that declare a shadow boundary. -/
  shadowBoundaries : List String
  root : Option Root
deriving DecidableEq, Repr

namespace PageObject

/-- A page object is a record; all but its names may be left out. -/
def shape : Shape PageObject :=
  .record "PageObjectLintingModel"
    (.required "name" .text <|
      .required "sourcePath" .text <|
      .required "typeFullName" .text <|
      .defaulted "elements" [] (.many Element.shape) <|
      .defaulted "methods" [] (.many Method.shape) <|
      .defaulted "shadowBoundaries" [] (.many .text) <|
      .defaulted "root" none (.optional Root.shape) <|
      .nil)
    (fun (name, path, type, elements, methods, shadowBoundaries, root, ()) =>
      ⟨name, path, type, elements, methods, shadowBoundaries, root⟩)
    (fun p => (p.name, p.path, p.type, p.elements, p.methods, p.shadowBoundaries, p.root, ()))

/-- A page object without parts. -/
def bare (name path type : String) : PageObject := ⟨name, path, type, [], [], [], none⟩

/-- Declares an element after all others. -/
def addElement (p : PageObject) (e : Element) : PageObject :=
  { p with elements := p.elements ++ [e] }

/-- Declares a method after all others. -/
def addMethod (p : PageObject) (m : Method) : PageObject :=
  { p with methods := p.methods ++ [m] }

/-- Declares a shadow boundary, unless the element has one already. -/
def addShadowBoundary (p : PageObject) (element : String) : PageObject :=
  if p.shadowBoundaries.contains element then p
  else { p with shadowBoundaries := p.shadowBoundaries ++ [element] }

/-- Declares the root in place of any former one. -/
def setRoot (p : PageObject) (r : Root) : PageObject := { p with root := some r }

/-- The locator of the root, when there is one. -/
def rootLocator (p : PageObject) : Option Locator := p.root.bind (·.locator)

/-- The page object has the given name or path. -/
def isNamed (p : PageObject) (nameOrPath : String) : Bool :=
  p.name == nameOrPath || p.path == nameOrPath

end PageObject

end PageLint
