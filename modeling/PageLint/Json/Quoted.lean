import PageLint.Text.Hex

/-!
# Strings between quotes

A JSON string is read in two steps. The first cuts it into pieces: characters, and the numbers
written by four hexadecimal digits, which are units of UTF-16. The second joins the pieces to a
text, which fails when a unit is half of a surrogate pair and its other half does not follow. A
reader that skips a string does only the first step.

Writing has one form for each character: a quote, a backslash and the control characters are
escaped, everything else stands for itself.

## Main definitions

* `Json.Fault` — how a text fails to be JSON
* `Json.Piece`, `Json.Quoted` — a string cut into pieces
* `Json.Quoted.text` — the text of a string
* `Json.quote` — the written form of a text
-/

namespace PageLint.Json

/-- How a text fails to be JSON. -/
inductive Fault where
  /-- Something stands where it may not stand. -/
  | malformed
  /-- The text ends too early. -/
  | cut
deriving DecidableEq, Repr, Inhabited

/-- A part of a string: a character, or a UTF-16 unit written as four hexadecimal digits. -/
inductive Piece where
  | char (c : Char)
  | unit (value : Nat)
deriving DecidableEq, Repr

/-- A string as far as it could be read: its pieces, and what went wrong after them. -/
structure Quoted where
  pieces : List Piece
  fault : Option Fault
deriving DecidableEq, Repr, Inhabited

/-- The first half of a surrogate pair. -/
def isLead (u : Nat) : Bool := 0xD800 ≤ u && u ≤ 0xDBFF

/-- The second half of a surrogate pair. -/
def isTrail (u : Nat) : Bool := 0xDC00 ≤ u && u ≤ 0xDFFF

/-- The character that a surrogate pair stands for. -/
def ofPair (lead trail : Nat) : Char :=
  Char.ofNat (0x10000 + (lead - 0xD800) * 0x400 + (trail - 0xDC00))

/-- Joins pieces to characters; `fault` is what follows the last piece. -/
def join (fault : Option Fault) : List Piece → Except Fault (List Char)
  | [] =>
    match fault with
    | none => .ok []
    | some f => .error f
  | .char c :: ps => (c :: ·) <$> join fault ps
  | .unit u :: ps =>
    if isTrail u then .error .malformed
    else if !isLead u then (Char.ofNat u :: ·) <$> join fault ps
    else
      match ps with
      | .unit v :: qs =>
        if isTrail v then (ofPair u v :: ·) <$> join fault qs else .error .malformed
      | .char _ :: _ => .error .malformed
      | [] => .error (fault.getD .malformed)

namespace Quoted

/-- The string whose pieces are the characters of a text. -/
def ofString (s : String) : Quoted := ⟨s.toList.map .char, none⟩

/-- The text of a string. -/
def text (q : Quoted) : Except Fault String :=
  String.ofList <$> join q.fault q.pieces

end Quoted

theorem join_map_char (cs : List Char) : join none (cs.map .char) = .ok cs := by
  induction cs with
  | nil => rfl
  | cons c cs ih => simp only [List.map_cons, join, ih]; rfl

@[simp] theorem Quoted.text_ofString (s : String) : (Quoted.ofString s).text = .ok s := by
  simp only [text, ofString, join_map_char]
  exact congrArg Except.ok (String.ofList_toList ..)

/-! ## Writing

Six characters have an escape of one letter, the other control characters are written by number. -/

/-- The written form of a character. -/
def quoteChar (c : Char) : List Char :=
  if c = '"' then ['\\', '"']
  else if c = '\\' then ['\\', '\\']
  else if c.toNat = 0x8 then ['\\', 'b']
  else if c.toNat = 0xC then ['\\', 'f']
  else if c = '\n' then ['\\', 'n']
  else if c = '\r' then ['\\', 'r']
  else if c = '\t' then ['\\', 't']
  else if c.toNat < 0x20 then
    ['\\', 'u', '0', '0', Text.hexDigit (c.toNat / 16), Text.hexDigit (c.toNat % 16)]
  else [c]

/-- The written form of a text, quotes included. -/
def quote (s : String) : List Char :=
  '"' :: (s.toList.flatMap quoteChar ++ ['"'])

end PageLint.Json
