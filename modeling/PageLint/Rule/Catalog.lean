/-!
# The catalog of rules

The rules are fixed and ordered: findings come in the order of the catalog. A local rule looks at
one page object, a global rule at two.

## Main definitions

* `Rule` — a rule of the catalog
* `Rule.all` — the catalog
* `Rule.entry` — what the catalog says of a rule
-/

namespace PageLint

/-- A rule of the catalog. -/
inductive Rule where
  | duplicateSelectors
  | rootDescription
  | author
  | methodDescriptions
  | shadowBoundaries
  | rootSelectors
  | rootSelectorTypes
  | customSelectorTypes
deriving DecidableEq, Repr

/-- What the catalog says of a rule. -/
structure Rule.Entry where
  id : String
  name : String
  code : Nat
  isGlobal : Bool
  /-- The key of the rule in configurations; its name is a second one. -/
  key : String
  description : String
deriving DecidableEq, Repr

namespace Rule

/-- The catalog. -/
def all : List Rule :=
  [.duplicateSelectors, .rootDescription, .author, .methodDescriptions, .shadowBoundaries,
    .rootSelectors, .rootSelectorTypes, .customSelectorTypes]

/-- What the catalog says of a rule. -/
def entry : Rule → Entry
  | .duplicateSelectors =>
    { id := "ULR01"
      name := "duplicate-selector-in-descriptor"
      code := 2001
      isGlobal := false
      key := "duplicateSelectors"
      description :=
        "Two elements in the same page object and scope must not use the same selector" }
  | .rootDescription =>
    { id := "ULR02"
      name := "required-root-description"
      code := 2002
      isGlobal := false
      key := "requiredRootDescription"
      description := "Page object root must have a description" }
  | .author =>
    { id := "ULR03"
      name := "required-author"
      code := 2005
      isGlobal := false
      key := "requiredAuthor"
      description := "Root description must name an author" }
  | .methodDescriptions =>
    { id := "ULR04"
      name := "required-method-description"
      code := 2003
      isGlobal := false
      key := "requiredMethodDescription"
      description := "Every declared method must have a description" }
  | .shadowBoundaries =>
    { id := "ULR05"
      name := "single-shadow-boundary"
      code := 2004
      isGlobal := false
      key := "requiredSingleShadowRoot"
      description := "Only the root element may declare a shadow boundary" }
  | .rootSelectors =>
    { id := "ULR06"
      name := "unique-root-selector"
      code := 3001
      isGlobal := true
      key := "duplicateRootSelectors"
      description := "Two page objects must not declare the same root selector" }
  | .rootSelectorTypes =>
    { id := "ULR07"
      name := "root-selector-implies-type"
      code := 3002
      isGlobal := true
      key := "elementCantHaveRootSelector"
      description :=
        "An element using another page object's root selector must have that page object's type" }
  | .customSelectorTypes =>
    { id := "ULR08"
      name := "elements-with-different-types"
      code := 3003
      isGlobal := true
      key := "duplicateCustomSelectors"
      description := "A custom component selector must map to the same type across page objects" }

/-- The rule compares two page objects. -/
def isGlobal (r : Rule) : Bool := r.entry.isGlobal

/-- The rule with the given identifier. -/
def ofId? (id : String) : Option Rule := all.find? (·.entry.id == id)

end Rule

end PageLint
