import PageLint.Shape.Basic
import PageLint.Text.Lines

/-!
# Locators

A locator finds elements of a page by a strategy and a value. To the linter both are opaque: two
locators are the same when both parts are. An empty value is the mark of an element without a
selector of its own, so an empty locator is the same as no locator, not even as itself.

## Main definitions

* `Locator` — a strategy and a value
* `Locator.same` — two elements are found by one locator
* `Locator.fixesText` — the locator depends on a text that users see
-/

namespace PageLint

/-- How a locator finds elements. -/
inductive Strategy where
  | css
  | accessId
  | classChain
  | uiAutomator
deriving DecidableEq, Repr

namespace Strategy

/-- All strategies, in the order in which messages name them. -/
def all : List Strategy := [.css, .accessId, .classChain, .uiAutomator]

/-- The name of a strategy in documents. -/
def name : Strategy → String
  | .css => "css"
  | .accessId => "accessId"
  | .classChain => "classChain"
  | .uiAutomator => "uiAutomator"

/-- A strategy is written as its name. -/
def shape : Shape Strategy := .choice all name

end Strategy

/-- A strategy and a value. -/
structure Locator where
  strategy : Strategy
  value : String
deriving DecidableEq, Repr

namespace Locator

/-- A locator that finds nothing by itself. -/
def isEmpty (l : Locator) : Bool := l.value.isEmpty

/-- The mark of a parameter that is filled in when the page is used. -/
def parameterMark : Char := '%'

/-- The value is known only when the page is used. -/
def isParameterized (l : Locator) : Bool := l.value.toList.contains parameterMark

/-- The beginnings of attribute tests that compare with a visible text. -/
def textTests : List String := ["[value", "[title"]

/-- The locator compares an attribute with a visible text that is known beforehand. -/
def fixesText (l : Locator) : Bool :=
  (textTests.any fun test => Text.occursIn test.toList l.value.toList) && !l.isParameterized

/-- Two locators are present, not empty, and equal in strategy and value. -/
def same : Option Locator → Option Locator → Bool
  | some a, some b => !a.isEmpty && !b.isEmpty && a == b
  | _, _ => false

/-- A locator is a record; the strategy may be left out. -/
def shape : Shape Locator :=
  .record "Locator"
    (.defaulted "kind" .css Strategy.shape <|
      .required "value" .text <|
      .nil)
    (fun (strategy, value, ()) => ⟨strategy, value⟩)
    (fun l => (l.strategy, l.value, ()))

end Locator

end PageLint
