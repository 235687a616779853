import PageLint.Text.Blank

/-!
# Regular expressions

A fragment is looked for in a line by a regular expression. The expression is put together as a
text first, in which some characters have a meaning; where a fragment has one of these it is escaped
by a backslash.

Of the syntax of expressions only as much is read here as fragments need: characters that stand for
themselves, escaped characters, `\s` for any blank, and stars, each of which repeats what stands in
front of it. An expression is found in a line if some part of the line matches it, wherever that
part begins and ends.

## Main definitions

* `Regex` — a regular expression
* `Regex.escape` — the text that stands for a single character
* `Regex.ofText?` — the expression that is written in a text
* `Regex.isMatch` — the expression is found in a line
-/

namespace PageLint.Text

namespace Regex

/-- What a single character is compared with. -/
inductive Atom where
  | literal (c : Char)
  | blank
deriving DecidableEq, Repr

/-- An atom that stands for one character, or for any number of them. -/
structure Item where
  atom : Atom
  repeated : Bool
deriving DecidableEq, Repr

end Regex

/-- A regular expression: items one after the other. -/
structure Regex where
  items : List Regex.Item
deriving DecidableEq, Repr

namespace Regex

/-! ## Writing and reading -/

/-- The characters that have a meaning in the text of an expression. -/
def metaCharacters : List Char :=
  ['\\', '.', '+', '*', '?', '(', ')', '|', '[', ']', '{', '}', '^', '$', '#', '&', '-', '~']

/-- The text that stands for a character, whatever the character means. -/
def escape (c : Char) : List Char :=
  if metaCharacters.contains c then ['\\', c] else [c]

/-- What a character stands for behind a backslash. -/
def escaped? (c : Char) : Option Atom :=
  if metaCharacters.contains c then some (.literal c)
  else if c = 's' then some .blank
  else none

/-- A sign in the text of an expression. -/
inductive Sign where
  | atom (a : Atom)
  | star
deriving DecidableEq, Repr

/-- The signs that a text is made of. -/
def signs? : List Char → Option (List Sign)
  | [] => some []
  | '\\' :: c :: cs =>
    match escaped? c with
    | some a => (signs? cs).map (.atom a :: ·)
    | none => none
  | '*' :: cs => (signs? cs).map (.star :: ·)
  | c :: cs =>
    if metaCharacters.contains c then none else (signs? cs).map (.atom (.literal c) :: ·)

/-- The items that signs stand for: a star belongs to the atom in front of it. -/
def items? : List Sign → Option (List Item)
  | [] => some []
  | .atom a :: .star :: signs => (items? signs).map (⟨a, true⟩ :: ·)
  | .atom a :: signs => (items? signs).map (⟨a, false⟩ :: ·)
  | .star :: _ => none

/-- The expression that is written in a text. -/
def ofText? (text : List Char) : Option Regex :=
  ((signs? text).bind items?).map Regex.mk

/-! ## Matching -/

/-- The atom stands for the character. -/
def Atom.accepts : Atom → Char → Bool
  | .literal c, d => c == d
  | .blank, d => isBlank d

/-- What can be left of a text behind any number of characters that an atom stands for. -/
def Atom.rests (a : Atom) : List Char → List (List Char)
  | [] => [[]]
  | c :: cs => (c :: cs) :: if a.accepts c then a.rests cs else []

/-- What can be left of a text behind the characters that an item stands for. -/
def Item.rests (i : Item) (cs : List Char) : List (List Char) :=
  if i.repeated then i.atom.rests cs
  else
    match cs with
    | [] => []
    | c :: cs => if i.atom.accepts c then [cs] else []

/-- What can be left of a text behind the characters that items stand for. -/
def restsBehind : List Item → List Char → List (List Char)
  | [], cs => [cs]
  | i :: is, cs => (i.rests cs).flatMap (restsBehind is)

/-- The text begins with a match. -/
def beginsMatch (r : Regex) (cs : List Char) : Bool := !(restsBehind r.items cs).isEmpty

/-- Some part of the text is a match. -/
def isMatch (r : Regex) : List Char → Bool
  | [] => r.beginsMatch []
  | c :: cs => r.beginsMatch (c :: cs) || r.isMatch cs

end Regex

end PageLint.Text
