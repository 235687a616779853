import PageLint.PageObject
import PageLint.Rule.Catalog

/-!
# What the rules see

A rule is evaluated in two steps. Here the rule alone decides what it objects to, and words it;
configuration has no part in it. What becomes of a detection is decided elsewhere: whether the rule
is on at all, how grave it is, and whether other texts replace its own.

Detections come in the order of declaration. Two elements, or two page objects, are compared once,
the one declared earlier first.

## Main definitions

* `Rule.Detection` — what a rule objects to
* `Rule.detect` — the detections of a local rule in a page object
* `Rule.detectBetween` — the detections of a global rule in two page objects
-/

namespace PageLint

/-- All pairs of items at two places of a list, the earlier place first. -/
def pairs {α : Type} : List α → List (α × α)
  | [] => []
  | a :: as => as.map (a, ·) ++ pairs as

/-- Finds the line of a chain of fragments in the source at a path. -/
abbrev Lookup := String → List String → Nat

namespace Rule

open Text (quoted nameFragment firstLine)

/-- What a rule objects to, in its own words. -/
structure Detection where
  /-- The path of the page object. -/
  pageObject : String
  /-- The path of the other page object, when the rule compares two. -/
  related : Option String
  message : String
  fix : String
  line : Nat
deriving DecidableEq, Repr

/-! ## Rules on one page object -/

/-- Two elements with one selector at one place cannot be told apart. -/
def detectDuplicates (find : Lookup) (p : PageObject) : List Detection :=
  (pairs p.elements).filterMap fun (earlier, later) =>
    if earlier.sameSelector later && earlier.sameScope later then
      some
        { pageObject := p.path
          related := none
          message :=
            "duplicate selector " ++ quoted later.selectorText ++ " for the elements " ++
              quoted later.name ++ " and " ++ quoted earlier.name
          fix :=
            "remove duplicate elements: " ++ quoted earlier.name ++ " or " ++
              quoted later.name
          line := find p.path [nameFragment later.name] }
    else none

/-- A declared root has a description. -/
def detectRootDescription (p : PageObject) : List Detection :=
  match p.root with
  | some root =>
    if root.hasDescription then []
    else
      [{ pageObject := p.path
         related := none
         message := "root description is missing"
         fix := "add \"description\" property at the root"
         line := firstLine }]
  | none => []

/-- The description of a root names an author. A root without description has no place for one. -/
def detectAuthor (find : Lookup) (p : PageObject) : List Detection :=
  match p.root with
  | some root =>
    if root.hasDescription && !root.hasAuthor then
      [{ pageObject := p.path
         related := none
         message := "property \"author\" is missing in the root description"
         fix := "add \"author\" property to the root description"
         line := find p.path [quoted "description"] }]
    else []
  | none => []

/-- Every method has a description. -/
def detectMethods (find : Lookup) (p : PageObject) : List Detection :=
  (p.methods.filter fun m => !m.hasDescription).map fun m =>
    { pageObject := p.path
      related := none
      message := "method " ++ quoted m.name ++ " does not have description"
      fix := "add \"description\" property to the method " ++ quoted m.name
      line := find p.path [nameFragment m.name] }

/-- No element but the root declares a shadow boundary. -/
def detectShadowBoundaries (find : Lookup) (p : PageObject) : List Detection :=
  (p.shadowBoundaries.filter (· != Root.elementName)).map fun name =>
    { pageObject := p.path
      related := none
      message :=
        "only root shadow boundary is allowed, please create another page object for the " ++
          "element " ++ quoted name
      fix :=
        "remove \"shadow\" under element " ++ quoted name ++
          " and create separate page object for its content"
      line := find p.path [nameFragment name, quoted "shadow"] }

/-- The detections of a local rule in a page object; a global rule has none. -/
def detect (find : Lookup) (p : PageObject) : Rule → List Detection
  | .duplicateSelectors => detectDuplicates find p
  | .rootDescription => detectRootDescription p
  | .author => detectAuthor find p
  | .methodDescriptions => detectMethods find p
  | .shadowBoundaries => detectShadowBoundaries find p
  | .rootSelectors | .rootSelectorTypes | .customSelectorTypes => []

/-! ## Rules on two page objects -/

/-- No two page objects have one locator for their roots. -/
def detectRoots (find : Lookup) (first second : PageObject) : List Detection :=
  match first.rootLocator with
  | some locator =>
    if Locator.same (some locator) second.rootLocator then
      [{ pageObject := first.path
         related := some second.path
         message :=
           "same root selector " ++ quoted locator.value ++
             " is used as a root selector in the page object " ++ second.path
         fix :=
           "remove one of the page objects with same root selector: " ++ quoted first.path ++
             " or " ++ quoted second.path
         line := find first.path [quoted locator.value] }]
    else []
  | none => []

/-- An element with the locator of another page object's root has that page object's type. -/
def detectRootTypes (find : Lookup) (owner other : PageObject) : List Detection :=
  (other.elements.filter fun e =>
      e.hasLocator owner.rootLocator && e.typeName != owner.type).map fun e =>
    { pageObject := other.path
      related := some owner.path
      message :=
        "element " ++ quoted e.name ++ " should have type " ++ quoted owner.type ++
          " because it uses its root selector"
      fix :=
        "change the element " ++ quoted e.name ++ " type to the type of the page object " ++
          quoted owner.type
      line := find other.path [nameFragment e.name] }

/-- Two elements stand for different components: at least one of them is a component of its own,
their types differ, and both have a selector with one text. -/
def differ (a b : Element) : Bool :=
  (a.isCustom || b.isCustom) && a.typeName != b.typeName &&
    a.selector.isSome && b.selector.isSome && a.selectorText == b.selectorText

/-- A selector of a component has one type in all page objects. -/
def detectTypes (find : Lookup) (first second : PageObject) : List Detection :=
  first.elements.flatMap fun a =>
    (second.elements.filter (differ a)).map fun b =>
      { pageObject := second.path
        related := some first.path
        message :=
          "custom selector " ++ quoted b.selectorText ++ " of the element " ++
            quoted b.name ++ " is used for an element " ++ quoted a.name ++
            " in the page object " ++ second.path ++ ", but has a different type " ++
            quoted b.typeName
        fix :=
          "change the element " ++ quoted b.name ++ " type to the same type as the element " ++
            quoted a.name ++ " in page object " ++ quoted second.path
        line := find second.path [nameFragment b.name] }

/-- The detections of a global rule in two page objects; a local rule has none. -/
def detectBetween (find : Lookup) (first second : PageObject) : Rule → List Detection
  | .rootSelectors => detectRoots find first second
  -- An element can have the root of either, so both directions are looked at.
  | .rootSelectorTypes => detectRootTypes find first second ++ detectRootTypes find second first
  | .customSelectorTypes => detectTypes find first second
  | .duplicateSelectors | .rootDescription | .author | .methodDescriptions
  | .shadowBoundaries => []

end Rule

end PageLint
