import PageLint.Toml.Quoted
import PageLint.Toml.Scalar
import PageLint.Toml.Table

/-!
# Reading TOML

A document is read line by line; each line is empty, opens a table, or gives a key a value. Values
may span lines. What is wrong with a document is not told, so reading it gives a table or nothing.

The reader consumes characters from the front of a list. Where values nest, the recursion is bounded
by the number of characters that are left.

## Main definitions

* `Toml.ofString?` — the table of a document
-/

namespace PageLint.Toml

open Text (Reader)
open Text.Reader

/-! ## Values -/

/-- A character that ends a word. -/
def endsWord (c : Char) : Bool :=
  c = ' ' || c = '\t' || c = '\n' || c = '\r' || c = ',' || c = ']' || c = '}' || c = '#'

/-- A value that is written as a word. A date and a time of day may have a space between them. -/
def word : Reader Char Toml := do
  let cs ← takeWhile fun c => !endsWord c
  if cs = ['t', 'r', 'u', 'e'] then return .flag true
  if cs = ['f', 'a', 'l', 's', 'e'] then return .flag false
  if isNumber cs then return .quantity
  if !isMoment cs then failure
  -- A date alone is a value, so a space after it is passed over only if a time follows.
  match ← get with
  | ' ' :: d :: _ =>
    if d.isDigit && afterDate? cs == some [] then
      let _ ← take
      let time ← takeWhile fun c => !endsWord c
      if isMoment (cs ++ ' ' :: time) then return .quantity else failure
    else return .quantity
  | _ => return .quantity

mutual

/-- A value. -/
def value : (fuel : Nat) → Reader Char Toml
  | 0 => failure
  | fuel + 1 => do
    if ← taken ['"', '"', '"'] then return .text (← multiline '"' true)
    if ← taken ['"'] then return .text (← basicRest (← get).length [])
    if ← taken ['\'', '\'', '\''] then return .text (← multiline '\'' false)
    if ← taken ['\''] then return .text (← literalRest)
    if ← taken ['['] then return .array (← arrayRest fuel [])
    if ← taken ['\x7b'] then
      blanks
      if ← taken ['\x7d'] then return .table []
      return (← inlineRest fuel Body.empty).toToml
    word

/-- The rest of an array, after the given items. -/
def arrayRest : (fuel : Nat) → (before : List Toml) → Reader Char (List Toml)
  | 0, _ => failure
  | fuel + 1, before => do
    gap (← get).length
    if ← taken [']'] then return before
    let v ← value fuel
    gap (← get).length
    if ← taken [','] then arrayRest fuel (before ++ [v])
    else
      expect [']']
      return before ++ [v]

/-- The rest of a table on one line, after what has been said about it. -/
def inlineRest : (fuel : Nat) → (before : Body) → Reader Char Body
  | 0, _ => failure
  | fuel + 1, before => do
    blanks
    let (keys, last) ← key
    expect ['=']
    blanks
    let v ← value fuel
    blanks
    let some body := before.assign keys last v | failure
    if ← taken [','] then inlineRest fuel body
    else
      expect ['\x7d']
      return body

end

/-! ## Documents -/

/-- The table of the document, and the way to the table that statements fill. -/
structure Filling where
  root : Body
  keys : List String

/-- The statement of a line. -/
def statement (f : Filling) : Reader Char Filling := do
  if ← taken ['[', '['] then
    blanks
    let (keys, last) ← key
    expect [']', ']']
    let some root := f.root.openItem keys last | failure
    return ⟨root, keys ++ [last]⟩
  else if ← taken ['['] then
    blanks
    let (keys, last) ← key
    expect [']']
    let some root := f.root.openTable keys last | failure
    return ⟨root, keys ++ [last]⟩
  else
    let (keys, last) ← key
    expect ['=']
    blanks
    let v ← value ((← get).length + 1)
    let some root := Body.modify false (fun b => b.assign keys last v) f.keys f.root | failure
    return { f with root }

/-- The lines of a document; at most so many. -/
def lines : (fuel : Nat) → Filling → Reader Char Filling
  | 0, f => return f
  | fuel + 1, f => do
    blanks
    match ← peek? with
    | none => return f
    | some c =>
      let f ← if c = '#' || c = '\n' || c = '\r' then pure f else statement f
      endLine
      lines fuel f

/-- The table of a document. -/
def ofString? (s : String) : Option Toml :=
  let cs := s.toList
  let cs := if cs.head? = some '\ufeff' then cs.drop 1 else cs
  match (lines (cs.length + 1) ⟨.empty, []⟩).run cs with
  | some (f, []) => some f.root.toToml
  | _ => none

end PageLint.Toml
