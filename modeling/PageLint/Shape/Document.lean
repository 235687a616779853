import PageLint.Json.Document
import PageLint.Shape.Dialect

/-!
# Shapes in JSON texts

A JSON text is read from the left, and whatever comes first in it is reported first: a fault of the
text, or a value of the wrong shape. What a value is shows at its first character, so an array is
refused before anything in it is read, while a number or a string is read to its end to be named.

A choice is the string of its name, or an object that maps the name to null.

## Main definitions

* `Shape.ofDocument` — the dialect of JSON texts
* `Shape.parse` — the value of a JSON text by a shape
-/

namespace PageLint.Shape

open Json (Document Ending Fault Quoted)

/-- A fault of the text, as trouble of the reader. -/
def orFault {α : Type} : Except Fault α → Except Trouble α
  | .ok a => .ok a
  | .error f => .error (.fault f)

/-- What stands in the place of a document, or the fault met in naming it. -/
def foundIn : Document → Except Trouble Found
  | .absent f => .error (.fault f)
  | .word _ (some f) => .error (.fault f)
  | .word .null none => .ok .null
  | .word .true none => .ok (.flag true)
  | .word .false none => .ok (.flag false)
  | .number (.error f) => .error (.fault f)
  | .number (.ok n) =>
    match n.magnitude? with
    | some m => .ok (.number m)
    | none => .error (.fault .malformed)
  | .text q => .text <$> orFault q.text
  | .array _ _ => .ok .sequence
  | .object _ _ => .ok .map

/-- Refuses a document of the wrong kind. -/
def refuse {α : Type} (wanted : Wanted) (d : Document) : Except Trouble α := do
  .error (.mismatch (.kind (← foundIn d) wanted))

/-- The trouble at the end of a container. -/
def endTrouble (ending : Ending) : Option Trouble := ending.fault.map .fault

/-- The entries of an object up to the first key that has no text, and what is wrong after them. -/
def readKeys : List (Quoted × Document) → Ending → List (String × Document) × Option Trouble
  | [], ending => ([], endTrouble ending)
  | (q, d) :: entries, ending =>
    match q.text with
    | .error f => ([], some (.fault f))
    | .ok key =>
      let (entries, ending) := readKeys entries ending
      ((key, d) :: entries, ending)

/-- What is wrong after the name of a choice that is written as an object. -/
def afterName (d : Document) (more : List (Quoted × Document)) (ending : Ending) :
    Option Trouble :=
  match d with
  | .word .null none =>
    match more, ending with
    | [], .closed => none
    | [], .broken false f => some (.fault f)
    | [], .broken true _ => some (.fault .malformed)
    | _ :: _, _ => some (.fault .malformed)
  | d =>
    match foundIn d with
    | .error t => some t
    | .ok found => some (.mismatch (.kind found .nothing))

/-- The name of a choice. A value that is neither a string nor an object is not even named. -/
def readChoice : Document → Except Trouble Tag
  | .text q => return ⟨← orFault q.text, none⟩
  | .object [] .closed => .error (.fault .malformed)
  | .object [] (.broken _ f) => .error (.fault f)
  | .object ((q, d) :: more) ending => return ⟨← orFault q.text, afterName d more ending⟩
  | .absent f => .error (.fault f)
  | .word _ _ | .number _ | .array _ _ => .error (.fault .malformed)

/-- The dialect of JSON texts. -/
def ofDocument : Dialect Document where
  text
    | .text q => orFault q.text
    | d => refuse .text d
  flag
    | .word .true none => .ok true
    | .word .false none => .ok false
    | d => refuse .flag d
  choice := readChoice
  isNull
    | .word .null none => .ok true
    | .word .null (some f) => .error (.fault f)
    | _ => .ok false
  sequence
    | .array items ending => .ok (items, endTrouble ending)
    | d => refuse .sequence d
  layout title
    -- A record may be written as an array of its fields; an item too many is a fault of the text.
    | .array items ending => .ok (.listed items (endTrouble ending) (some (.fault .malformed)))
    | .object entries ending =>
      let (entries, ending) := readKeys entries ending
      .ok (.keyed entries ending)
    | d => refuse (.record title) d
  skip d := d.skip.map .fault

/-- Reads a whole text: the value comes first, then nothing may follow but white space. -/
def parseWith {α : Type} (readDocument : Document → Except Trouble α) (s : String) :
    Except Trouble α := do
  let parsed := Json.parse s.toList
  let a ← readDocument parsed.document
  orTrouble a (parsed.trailing.map .fault)

/-- The value of a JSON text by a shape. -/
def parse {α : Type} (shape : Shape α) (s : String) : Except Trouble α :=
  parseWith (read ofDocument shape) s

end PageLint.Shape
