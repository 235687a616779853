import PageLint.Text.Hex
import PageLint.Text.Reader

/-!
# Strings and keys of TOML

A string is written on one line or over several, with escapes or without. A key is a string or a
bare word; several of them with dots between lead from table to table.

## Main definitions

* `Toml.basicRest`, `Toml.literalRest`, `Toml.multiline` — the four kinds of strings
* `Toml.key` — a key with dots
-/

namespace PageLint.Toml

open Text (Reader)
open Text.Reader

/-! ## White space -/

/-- White space within a line. -/
def blanks : Reader Char Unit := do
  let _ ← takeWhile fun c => c = ' ' || c = '\t'

/-- A control character that may not stand in a line; a tab may. -/
def isControl (c : Char) : Bool := (c.toNat < 0x20 && c ≠ '\t') || c.toNat = 0x7F

/-- A comment, if one begins here. -/
def comment : Reader Char Unit := do
  if ← taken ['#'] then
    let _ ← takeWhile fun c => !isControl c

/-- The end of a line, if it stands here. -/
def lineEnd : Reader Char Bool := do
  if ← taken ['\n'] then return true
  taken ['\r', '\n']

/-- The rest of a line that has nothing more to say. -/
def endLine : Reader Char Unit := do
  blanks
  comment
  if ← lineEnd then return ()
  if (← peek?).isSome then failure

/-- White space, comments and line ends; at most so many lines. -/
def gap : (fuel : Nat) → Reader Char Unit
  | 0 => return ()
  | fuel + 1 => do
    blanks
    comment
    if ← lineEnd then gap fuel

/-! ## Strings -/

/-- The character with a number of so many hexadecimal digits. -/
def numbered : (digits : Nat) → (before : List Char) → Reader Char Char
  | 0, before =>
    match Text.charOfHex? before.reverse with
    | some c => return c
    | none => failure
  | digits + 1, before => do numbered digits ((← take) :: before)

/-- The character that an escape stands for, after the backslash. -/
def escape : Reader Char Char := do
  match ← take with
  | '"' => return '"'
  | '\\' => return '\\'
  | 'b' => return Char.ofNat 0x8
  | 't' => return '\t'
  | 'n' => return '\n'
  | 'f' => return Char.ofNat 0xC
  | 'r' => return '\r'
  | 'u' => numbered 4 []
  | 'U' => numbered 8 []
  | _ => failure

/-- The rest of a string on one line, after the given characters, last first. -/
def basicRest : (fuel : Nat) → (before : List Char) → Reader Char String
  | 0, _ => failure
  | fuel + 1, before => do
    let c ← take
    if c = '"' then return String.ofList before.reverse
    else if c = '\\' then basicRest fuel ((← escape) :: before)
    else if isControl c then failure
    else basicRest fuel (c :: before)

/-- The rest of a string on one line that knows no escapes. -/
def literalRest : Reader Char String := do
  let cs ← takeWhile fun c => c ≠ '\'' && !isControl c
  expect ['\'']
  return String.ofList cs

/-- White space and line ends; at most so many lines. -/
def blankLines : (fuel : Nat) → Reader Char Unit
  | 0 => return ()
  | fuel + 1 => do
    blanks
    if ← lineEnd then blankLines fuel

/-- A backslash at the end of a line: white space is passed over up to the next text. -/
def continuation : Reader Char Unit := do
  blanks
  if !(← lineEnd) then failure
  blankLines (← get).length

/-- The rest of a string over several lines. Three quotes end it, and up to two more quotes in front
of those belong to it. -/
def multilineRest (quote : Char) (escapes : Bool) :
    (fuel : Nat) → (before : List Char) → Reader Char String
  | 0, _ => failure
  | fuel + 1, before => do
    let cs ← get
    if [quote, quote, quote].isPrefixOf cs then
      let quotes := cs.takeWhile (· = quote)
      let extra := quotes.length - 3
      if 2 < extra then failure
      set (cs.drop quotes.length)
      return String.ofList (before.reverse ++ List.replicate extra quote)
    let c ← take
    if c = '\\' && escapes then
      match ← peek? with
      | some d =>
        if d = ' ' || d = '\t' || d = '\n' || d = '\r' then
          continuation
          multilineRest quote escapes fuel before
        else multilineRest quote escapes fuel ((← escape) :: before)
      | none => failure
    else if c = '\r' then
      if (← peek?) = some '\n' then multilineRest quote escapes fuel (c :: before) else failure
    else if isControl c && c ≠ '\n' then failure
    else multilineRest quote escapes fuel (c :: before)

/-- A string over several lines, after its opening quotes; a line end right there is left out. -/
def multiline (quote : Char) (escapes : Bool) : Reader Char String := do
  let _ ← lineEnd
  multilineRest quote escapes (← get).length []

/-! ## Keys -/

/-- A character of a key without quotes. -/
def isKeyChar (c : Char) : Bool := c.isAlphanum || c = '_' || c = '-'

/-- One part of a key. -/
def keyPart : Reader Char String := do
  if ← taken ['"'] then basicRest (← get).length []
  else if ← taken ['\''] then literalRest
  else
    let cs ← takeWhile isKeyChar
    if cs.isEmpty then failure
    return String.ofList cs

/-- The further parts of a key, after the given ones: all but the last, and the last. -/
def keyRest : (fuel : Nat) → (before : List String) → (last : String) →
    Reader Char (List String × String)
  | 0, _, _ => failure
  | fuel + 1, before, last => do
    blanks
    if ← taken ['.'] then
      blanks
      keyRest fuel (before ++ [last]) (← keyPart)
    else return (before, last)

/-- A key: all parts but the last, and the last. -/
def key : Reader Char (List String × String) := do
  let first ← keyPart
  keyRest ((← get).length + 1) [] first

end PageLint.Toml
