import PageLint.Json.Basic
import PageLint.Json.Quoted
import PageLint.Text.Hex

/-!
# Tokens of a JSON text

The scanner is a machine that is fed one character at a time. A token that goes wrong is still a
token, and the last one: what its reader would have expected decides which error is reported, so the
scanner may not decide it.

Two readers may judge one faulty token differently. A number that ends too early is `cut` for a
reader that wants its value, while a reader that skips it calls it malformed; a string with half of
a surrogate pair can be skipped but has no text. Tokens keep what both need.

## Main definitions

* `Json.Token` — a token, possibly faulty
* `Json.Scanning` — where the scanner stands
* `Json.scan` — the tokens of a text
-/

namespace PageLint.Json

/-- The words of JSON. -/
inductive Word where
  | null
  | true
  | false
deriving DecidableEq, Repr, Inhabited

/-- The letters of a word after its first. -/
def Word.tail : Word → List Char
  | .null => ['u', 'l', 'l']
  | .true => ['r', 'u', 'e']
  | .false => ['a', 'l', 's', 'e']

/-- Arrays stand between square brackets, objects between curly ones. -/
inductive Bracket where
  | square
  | curly
deriving DecidableEq, Repr

/-- A token of a JSON text. -/
inductive Token where
  | opening (b : Bracket)
  | closing (b : Bracket)
  | comma
  | colon
  | word (w : Word) (fault : Option Fault)
  | number (n : Except Fault Numeral)
  | text (q : Quoted)
  /-- A character that begins no token. -/
  | stray
deriving Repr

/-! ## Numbers -/

/-- How far a numeral has been read. -/
inductive NumeralStage where
  | sign
  | zero
  | whole
  | point
  | fraction
  | mark
  | markSign
  | exponent
deriving DecidableEq, Repr

/-- A numeral may end here. -/
def NumeralStage.complete : NumeralStage → Bool
  | .zero | .whole | .fraction | .exponent => true
  | .sign | .point | .mark | .markSign => false

/-- What a character does to a numeral. -/
inductive NumeralStep where
  | go (stage : NumeralStage) (n : Numeral)
  | stop
  | fault

/-- The value of a decimal digit. -/
def digit? (c : Char) : Option Nat :=
  if '0' ≤ c ∧ c ≤ '9' then some (c.toNat - '0'.toNat) else none

/-- Reads one character of a numeral. A numeral stops at the first character that does not belong to
it, if it is complete there; a digit after a leading zero is a fault. -/
def NumeralStage.next (n : Numeral) (c : Char) : NumeralStage → NumeralStep
  | .sign =>
    match digit? c with
    | some 0 => .go .zero n
    | some d => .go .whole { n with whole := d }
    | none => .fault
  | .zero =>
    match digit? c with
    | some _ => .fault
    | none => if c = '.' then .go .point n else if c = 'e' ∨ c = 'E' then .go .mark n else .stop
  | .whole =>
    match digit? c with
    | some d => .go .whole { n with whole := n.whole * 10 + d }
    | none => if c = '.' then .go .point n else if c = 'e' ∨ c = 'E' then .go .mark n else .stop
  | .point =>
    match digit? c with
    | some d => .go .fraction { n with fraction := [d] }
    | none => .fault
  | .fraction =>
    match digit? c with
    | some d => .go .fraction { n with fraction := n.fraction ++ [d] }
    | none => if c = 'e' ∨ c = 'E' then .go .mark n else .stop
  | .mark =>
    match digit? c with
    | some d => .go .exponent { n with exponent := some (false, d) }
    | none =>
      if c = '+' then .go .markSign { n with exponent := some (false, 0) }
      else if c = '-' then .go .markSign { n with exponent := some (true, 0) }
      else .fault
  | .markSign | .exponent =>
    match digit? c, n.exponent with
    | some d, some (minus, e) => .go .exponent { n with exponent := some (minus, e * 10 + d) }
    | some d, none => .go .exponent { n with exponent := some (false, d) }
    | none, _ => .stop

/-! ## The machine -/

/-- Where in a string the scanner stands. -/
inductive Escape where
  | plain
  | backslash
  /-- Inside a hexadecimal escape: how many bytes of it have passed, and its value as long as all of
  them were digits. -/
  | hex (bytes : Nat) (value : Option Nat)
deriving DecidableEq, Repr

/-- Where the scanner stands. -/
inductive Scanning where
  | between
  | word (w : Word) (left : List Char)
  | number (stage : NumeralStage) (n : Numeral)
  /-- Inside a string; its pieces are kept last first. -/
  | text (pieces : List Piece) (escape : Escape)
deriving Repr

/-- White space of JSON, which is less than what Unicode calls white space. -/
def isSpace (c : Char) : Bool :=
  c = ' ' || c = '\t' || c = '\n' || c = '\r'

/-- The tokens a character completes, and where the scanner stands after it; nowhere, when the last
token is faulty. -/
abbrev Scanned := List Token × Option Scanning

/-- Reads a character between two tokens. -/
def start (c : Char) : Scanned :=
  if isSpace c then ([], some .between)
  else if c = '[' then ([.opening .square], some .between)
  else if c = ']' then ([.closing .square], some .between)
  else if c = '{' then ([.opening .curly], some .between)
  else if c = '}' then ([.closing .curly], some .between)
  else if c = ',' then ([.comma], some .between)
  else if c = ':' then ([.colon], some .between)
  else if c = '"' then ([], some (.text [] .plain))
  else if c = 'n' then ([], some (.word .null Word.null.tail))
  else if c = 't' then ([], some (.word .true Word.true.tail))
  else if c = 'f' then ([], some (.word .false Word.false.tail))
  else if c = '-' then ([], some (.number .sign ⟨true, 0, [], none⟩))
  else
    match digit? c with
    | some 0 => ([], some (.number .zero ⟨false, 0, [], none⟩))
    | some d => ([], some (.number .whole ⟨false, d, [], none⟩))
    | none => ([.stray], none)

/-- The character that a backslash and one letter stand for. -/
def unescape? (c : Char) : Option Char :=
  if c = '"' ∨ c = '\\' ∨ c = '/' then some c
  else if c = 'b' then some (Char.ofNat 0x8)
  else if c = 'f' then some (Char.ofNat 0xC)
  else if c = 'n' then some '\n'
  else if c = 'r' then some '\r'
  else if c = 't' then some '\t'
  else none

/-- The token of a string that goes wrong after the given pieces, last first. -/
def brokenText (pieces : List Piece) : Scanned :=
  ([.text ⟨pieces.reverse, some .malformed⟩], none)

/-- Reads one character of a string. -/
def Escape.next (pieces : List Piece) (c : Char) : Escape → Scanned
  | .plain =>
    if c = '"' then ([.text ⟨pieces.reverse, none⟩], some .between)
    else if c = '\\' then ([], some (.text pieces .backslash))
    else if c.toNat < 0x20 then brokenText pieces
    else ([], some (.text (.char c :: pieces) .plain))
  | .backslash =>
    if c = 'u' then ([], some (.text pieces (.hex 0 (some 0))))
    else
      match unescape? c with
      | some d => ([], some (.text (.char d :: pieces) .plain))
      | none => brokenText pieces
  | .hex bytes value =>
    -- Four bytes belong to the escape whatever they are, and are judged only together.
    let bytes := bytes + c.utf8Size
    let value := do return (← value) * 16 + (← Text.hexValue? c)
    if bytes < 4 then ([], some (.text pieces (.hex bytes value)))
    else
      match value with
      | some v => ([], some (.text (.unit v :: pieces) .plain))
      | none => brokenText pieces

/-- Reads one character. -/
def Scanning.feed (c : Char) : Scanning → Scanned
  | .between => start c
  | .word w left =>
    match left with
    | [] => ([.word w none], none)
    | [l] => if c = l then ([.word w none], some .between) else ([.word w (some .malformed)], none)
    | l :: ls => if c = l then ([], some (.word w ls)) else ([.word w (some .malformed)], none)
  | .number stage n =>
    match stage.next n c with
    | .go stage n => ([], some (.number stage n))
    | .fault => ([.number (.error .malformed)], none)
    | .stop =>
      -- Nothing marks the end of a numeral, so this character is already the next token's.
      if stage.complete then (.number (.ok n) :: (start c).1, (start c).2)
      else ([.number (.error .malformed)], none)
  | .text pieces escape => escape.next pieces c

/-- The tokens completed by the end of the text. -/
def Scanning.finish : Scanning → List Token
  | .between => []
  | .word w _ => [.word w (some .cut)]
  | .number stage n => [.number (if stage.complete then .ok n else .error .cut)]
  | .text pieces _ => [.text ⟨pieces.reverse, some .cut⟩]

/-- The tokens from here on. -/
def Scanning.run : Scanning → List Char → List Token
  | s, [] => s.finish
  | s, c :: cs =>
    match s.feed c with
    | (tokens, some s) => tokens ++ s.run cs
    | (tokens, none) => tokens

/-- The tokens of a text, up to the first faulty one. -/
def scan (cs : List Char) : List Token :=
  Scanning.between.run cs

end PageLint.Json
