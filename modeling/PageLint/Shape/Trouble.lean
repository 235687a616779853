import PageLint.Json.Magnitude
import PageLint.Json.Quoted
import PageLint.Text.Escaped

/-!
# What can be wrong with a typed document

A document that is read as a value of some type can be wrong in two ways. Its text may go wrong
before the value is complete, or the value may not have the shape that its type asks for. The second
kind is named precisely, because the author of the document has to find it.

## Main definitions

* `Shape.Found`, `Shape.Wanted` — what stands in the document, and what should stand there
* `Shape.Mismatch` — a value of the wrong shape
* `Shape.Trouble` — a fault of the text, or a mismatch
* `Shape.Mismatch.message` — the wording of a mismatch
-/

namespace PageLint.Shape

open Json (Fault Magnitude)

/-- What stands in a document, as far as messages tell. -/
inductive Found where
  | null
  | flag (value : Bool)
  | number (value : Magnitude)
  | text (value : String)
  | sequence
  | map
deriving DecidableEq, Repr

/-- What should stand in its place. -/
inductive Wanted where
  | text
  | flag
  | sequence
  | record (title : String)
  /-- The value that says nothing, beside the name of a choice. -/
  | nothing
  | choice
  | textOrMap
deriving DecidableEq, Repr

/-- A value of the wrong shape. -/
inductive Mismatch where
  | kind (found : Found) (wanted : Wanted)
  /-- A choice written as a map without exactly one key. -/
  | manyKeys
  /-- A choice written as a number, counted from zero, beyond the last one. -/
  | beyondLast (index : Nat) (count : Nat)
  /-- A record written as a sequence that ends before the given field. -/
  | tooShort (index : Nat) (title : String) (size : Nat)
  /-- A record written as a sequence that goes on after its last field. -/
  | tooLong (length : Nat)
  | missing (key : String)
  | duplicate (key : String)
  | unknownChoice (name : String) (names : List String)
deriving DecidableEq, Repr

/-- A fault of the text, or a mismatch; whichever a reader meets first. -/
inductive Trouble where
  | fault (f : Fault)
  | mismatch (m : Mismatch)
deriving DecidableEq, Repr

instance : Inhabited Trouble := ⟨.fault .malformed⟩

/-! ## Wording -/

/-- A name or value of the document inside a message. -/
def marked (s : String) : String := "`" ++ s ++ "`"

/-- The wording for what stands in the document. -/
def Found.message : Found → String
  | .null => "null"
  | .flag b => "boolean " ++ marked (if b then "true" else "false")
  | .number n =>
    (match n with
      | .whole _ => "integer "
      | .double _ => "floating point ") ++ marked n.text
  | .text s => "string " ++ Text.cite s
  | .sequence => "sequence"
  | .map => "map"

/-- The wording for what should stand there. -/
def Wanted.message : Wanted → String
  | .text => "a string"
  | .flag => "a boolean"
  | .sequence => "a sequence"
  | .record title => "struct " ++ title
  | .nothing => "unit"
  | .choice => "variant identifier"
  | .textOrMap => "string or map"

/-- The wording for the names a choice may have. -/
def choiceMessage : List String → String
  | [] => "there are no variants"
  | [a] => "expected " ++ marked a
  | [a, b] => "expected " ++ marked a ++ " or " ++ marked b
  | names => "expected one of " ++ ", ".intercalate (names.map marked)

/-- The wording of a mismatch. -/
def Mismatch.message : Mismatch → String
  | .kind found wanted => "invalid type: " ++ found.message ++ ", expected " ++ wanted.message
  | .manyKeys => "invalid value: map, expected map with a single key"
  | .beyondLast index count =>
    "invalid value: integer " ++ marked (toString index) ++
      ", expected variant index 0 <= i < " ++ toString count
  | .tooShort index title size =>
    "invalid length " ++ toString index ++ ", expected struct " ++ title ++ " with " ++
      toString size ++ (if size = 1 then " element" else " elements")
  | .tooLong length =>
    "invalid length " ++ toString length ++ ", expected fewer elements in array"
  | .missing key => "missing field " ++ marked key
  | .duplicate key => "duplicate field " ++ marked key
  | .unknownChoice name names => "unknown variant " ++ marked name ++ ", " ++ choiceMessage names

end PageLint.Shape
