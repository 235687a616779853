import PageLint.Json.Token

/-!
# Documents

A document is what a JSON text says, faults included. Reading never fails: where the text stops
being JSON, the tree stops too and records the fault at that place. A typed reader walks the tree in
the order of the text, so it meets either a mismatch with its type or the fault first, and reports
what it meets.

A skipped part of a document has rules of its own: numbers may be too large for the machine, and
strings may hold half of a surrogate pair.

## Main definitions

* `Json.Document` — the syntax tree of a text
* `Json.Parsed`, `Json.parse` — the document of a text, and what follows it
* `Json.Document.skip` — the fault that a reader meets which skips the document
* `Json.Document.toJson` — the value of a faultless document
* `Json.Document.ofJson` — the document of a value
-/

namespace PageLint.Json

/-- How the brackets of an array or object end. -/
inductive Ending where
  | closed
  /-- The text goes wrong where the container should go on or end; in an object possibly after a
  comma. -/
  | broken (afterComma : Bool) (fault : Fault)
deriving DecidableEq, Repr

/-- The syntax tree of a JSON text, as far as the text goes. -/
inductive Document where
  /-- Nothing here begins a value. -/
  | absent (fault : Fault)
  | word (w : Word) (fault : Option Fault)
  | number (n : Except Fault Numeral)
  | text (q : Quoted)
  | array (items : List Document) (ending : Ending)
  | object (entries : List (Quoted × Document)) (ending : Ending)
deriving Inhabited

/-! ## Building the tree

The builder is a machine that is fed one token at a time. Its stack holds the containers that are
open around the place where it stands, innermost first; what they hold is kept last first. -/

/-- An open container that waits for a value. -/
inductive Frame where
  | array (items : List Document)
  | object (entries : List (Quoted × Document)) (key : Quoted)

/-- Where the builder stands, and the containers around that place. -/
inductive Building where
  /-- A value has to come. -/
  | value (stack : List Frame)
  /-- An array was opened. -/
  | arrayStart (stack : List Frame)
  /-- An item of an array is complete. -/
  | arrayNext (items : List Document) (stack : List Frame)
  /-- An object was opened. -/
  | objectStart (stack : List Frame)
  /-- A comma in an object: a key has to come. -/
  | objectKey (entries : List (Quoted × Document)) (stack : List Frame)
  /-- A key was read. -/
  | objectColon (entries : List (Quoted × Document)) (key : Quoted) (stack : List Frame)
  /-- An entry of an object is complete. -/
  | objectNext (entries : List (Quoted × Document)) (stack : List Frame)
  /-- The document is complete. -/
  | done (d : Document)

/-- Puts a complete value where it belongs. -/
def deliver (d : Document) : List Frame → Building
  | [] => .done d
  | .array items :: stack => .arrayNext (d :: items) stack
  | .object entries key :: stack => .objectNext ((key, d) :: entries) stack

/-- Ends all open containers around a value that is not complete. -/
def enclose (d : Document) : List Frame → Document
  | [] => d
  | .array items :: stack => enclose (.array (d :: items).reverse (.broken false .cut)) stack
  | .object entries key :: stack =>
    enclose (.object ((key, d) :: entries).reverse (.broken false .cut)) stack

/-- The document when the text goes wrong here. -/
def Building.abandon (fault : Fault) : Building → Document
  | .value stack => enclose (.absent fault) stack
  | .arrayStart stack => enclose (.array [] (.broken false fault)) stack
  | .arrayNext items stack => enclose (.array items.reverse (.broken false fault)) stack
  | .objectStart stack => enclose (.object [] (.broken false fault)) stack
  | .objectKey entries stack => enclose (.object entries.reverse (.broken true fault)) stack
  -- The key stands already, so the entry is kept with an absent value.
  | .objectColon entries key stack => enclose (.absent fault) (.object entries key :: stack)
  | .objectNext entries stack => enclose (.object entries.reverse (.broken false fault)) stack
  | .done d => d

/-- Reads a token where a value has to come. -/
def Building.begin (stack : List Frame) : Token → Option Building
  | .opening .square => some (.arrayStart stack)
  | .opening .curly => some (.objectStart stack)
  | .word w fault => some (deliver (.word w fault) stack)
  | .number n => some (deliver (.number n) stack)
  | .text q => some (deliver (.text q) stack)
  | .closing _ | .comma | .colon | .stray => none

/-- Reads one token; nothing, when it may not stand here. -/
def Building.feed (t : Token) : Building → Option Building
  | .value stack => begin stack t
  | .arrayStart stack =>
    match t with
    | .closing .square => some (deliver (.array [] .closed) stack)
    | t => begin (.array [] :: stack) t
  | .arrayNext items stack =>
    match t with
    | .closing .square => some (deliver (.array items.reverse .closed) stack)
    | .comma => some (.value (.array items :: stack))
    | _ => none
  | .objectStart stack =>
    match t with
    | .closing .curly => some (deliver (.object [] .closed) stack)
    | .text q => some (.objectColon [] q stack)
    | _ => none
  | .objectKey entries stack =>
    match t with
    | .text q => some (.objectColon entries q stack)
    | _ => none
  | .objectColon entries key stack =>
    match t with
    | .colon => some (.value (.object entries key :: stack))
    | _ => none
  | .objectNext entries stack =>
    match t with
    | .closing .curly => some (deliver (.object entries.reverse .closed) stack)
    | .comma => some (.objectKey entries stack)
    | _ => none
  | .done _ => none

/-- The document of a text, and the fault of what follows it. -/
structure Parsed where
  document : Document
  trailing : Option Fault
deriving Inhabited

/-- Reads the tokens from here on. -/
def Building.run : Building → List Token → Parsed
  | .done d, [] => ⟨d, none⟩
  | .done d, _ :: _ => ⟨d, some .malformed⟩
  | b, [] => ⟨b.abandon .cut, none⟩
  | b, t :: ts =>
    match b.feed t with
    | some b => b.run ts
    | none => ⟨b.abandon .malformed, none⟩

/-- The document of a text. -/
def parse (cs : List Char) : Parsed :=
  (Building.value []).run (scan cs)

/-! ## Values and documents -/

/-- The value of a word. -/
def Word.toJson : Word → Json
  | .null => .null
  | .true => .bool Bool.true
  | .false => .bool Bool.false

mutual

/-- The value of a faultless document. -/
def Document.toJson : Document → Except Fault Json
  | .absent f => .error f
  | .word _ (some f) => .error f
  | .word w none => .ok w.toJson
  | .number n => Json.number <$> n
  | .text q => Json.string <$> q.text
  | .array items ending => do
    let items ← toJsonItems items
    match ending with
    | .closed => .ok (.array items)
    | .broken _ f => .error f
  | .object entries ending => do
    let entries ← toJsonEntries entries
    match ending with
    | .closed => .ok (.object entries)
    | .broken _ f => .error f

/-- The values of the items of an array. -/
def Document.toJsonItems : List Document → Except Fault (List Json)
  | [] => .ok []
  | d :: ds => do return (← d.toJson) :: (← toJsonItems ds)

/-- The entries of an object. -/
def Document.toJsonEntries : List (Quoted × Document) → Except Fault (List (String × Json))
  | [] => .ok []
  | (q, d) :: es => do return (← q.text, ← d.toJson) :: (← toJsonEntries es)

end

/-- The fault of a container that does not end as it should. -/
def Ending.fault : Ending → Option Fault
  | .closed => none
  | .broken _ f => some f

mutual

/-- The fault that a reader meets which skips the document. A number is malformed when it ends too
early, and a string is skipped without joining its pieces. -/
def Document.skip : Document → Option Fault
  | .absent f => some f
  | .word _ fault => fault
  | .number (.error _) => some .malformed
  | .number (.ok _) => none
  | .text q => q.fault
  | .array items ending => skipItems items <|> ending.fault
  | .object entries ending => skipEntries entries <|> ending.fault

/-- The first fault in the items of a skipped array. -/
def Document.skipItems : List Document → Option Fault
  | [] => none
  | d :: ds => d.skip <|> skipItems ds

/-- The first fault in the entries of a skipped object. -/
def Document.skipEntries : List (Quoted × Document) → Option Fault
  | [] => none
  | (q, d) :: es => q.fault <|> d.skip <|> skipEntries es

end

mutual

/-- The document of a value. -/
def Document.ofJson : Json → Document
  | .null => .word .null none
  | .bool true => .word .true none
  | .bool false => .word .false none
  | .number n => .number (.ok n)
  | .string s => .text (.ofString s)
  | .array items => .array (ofJsonItems items) .closed
  | .object entries => .object (ofJsonEntries entries) .closed

/-- The documents of the items of an array. -/
def Document.ofJsonItems : List Json → List Document
  | [] => []
  | v :: vs => ofJson v :: ofJsonItems vs

/-- The documents of the entries of an object. -/
def Document.ofJsonEntries : List (String × Json) → List (Quoted × Document)
  | [] => []
  | (k, v) :: es => (.ofString k, ofJson v) :: ofJsonEntries es

end

end PageLint.Json

namespace PageLint

/-- The value of a JSON text. -/
def Json.ofString (s : String) : Except Json.Fault Json := do
  let parsed := Json.parse s.toList
  let value ← parsed.document.toJson
  match parsed.trailing with
  | none => .ok value
  | some f => .error f

end PageLint
