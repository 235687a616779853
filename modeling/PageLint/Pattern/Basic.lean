/-!
# Patterns of file names

A pattern stands for the files whose paths match it. Within a component a question mark stands for
any character, a star for any text, and a class in square brackets for one of several characters; a
component of two stars stands for any number of directories.

A pattern is checked as a whole before it is cut at its separators, so a class that holds a
separator is refused in one of its halves.

## Main definitions

* `Pattern.Sign`, `Pattern.Component` — a component of a pattern
* `Pattern.Component.fits` — a name matches a component
* `Pattern.ofString` — the components of a pattern, or what is wrong with it
-/

namespace PageLint

namespace Pattern

/-- What is wrong with a pattern. -/
inductive Fault where
  /-- A class that is not closed, or is empty. -/
  | badClass
  /-- Two stars that share a component with other characters. -/
  | partOfComponent
  /-- More than two stars in a row. -/
  | tooManyStars
deriving DecidableEq, Repr

/-- The wording for a faulty pattern. -/
def Fault.message : Fault → String
  | .badClass => "invalid range pattern"
  | .partOfComponent => "recursive wildcards must form a single path component"
  | .tooManyStars => "wildcards are either regular `*` or recursive `**`"

/-- A range of characters; a single character is a range of its own. -/
structure Range where
  low : Char
  high : Char
deriving DecidableEq, Repr

/-- The range holds the character. -/
def Range.holds (r : Range) (c : Char) : Bool := r.low ≤ c && c ≤ r.high

/-- A sign of a pattern. -/
inductive Sign where
  | char (c : Char)
  /-- Any character. -/
  | any
  /-- Any text. -/
  | run
  /-- Any number of directories. -/
  | deep
  /-- One of the characters of a class, or none of them. -/
  | oneOf (inside : Bool) (ranges : List Range)
deriving DecidableEq, Repr

/-! ## Reading -/

/-- The ranges of a class. A hyphen between two characters makes a range, any other stands for
itself. -/
def ranges : List Char → List Range
  | a :: '-' :: b :: cs => ⟨a, b⟩ :: ranges cs
  | c :: cs => ⟨c, c⟩ :: ranges cs
  | [] => []

/-- The content of a class and what follows it. The first character is content even if it is a
closing bracket. -/
def cutClass : List Char → Option (List Char × List Char)
  | [] => none
  | first :: cs =>
    match cs.dropWhile (· ≠ ']') with
    | [] => none
    | _ :: rest => some (first :: cs.takeWhile (· ≠ ']'), rest)

/-- The sign of a class that was opened, and what follows it. -/
def readClass : List Char → Option (Sign × List Char)
  | '!' :: cs => (cutClass cs).map fun (content, rest) => (.oneOf false (ranges content), rest)
  | cs => (cutClass cs).map fun (content, rest) => (.oneOf true (ranges content), rest)

/-- The signs of a text. Two stars have to stand alone between separators; `before` is the
character before the text, and `fuel` bounds the length of the text. -/
def readSigns : (fuel : Nat) → (before : Option Char) → List Char → Except Fault (List Sign)
  | 0, _, _ => .ok []
  | _, _, [] => .ok []
  | fuel + 1, before, '*' :: cs =>
    let stars := cs.takeWhile (· = '*')
    let rest := cs.dropWhile (· = '*')
    match stars with
    | [] => (.run :: ·) <$> readSigns fuel (some '*') rest
    | [_] =>
      if before.isSome ∧ before ≠ some '/' then .error .partOfComponent
      else
        match rest with
        | [] => .ok [.deep]
        -- The separator belongs to the stars, since they may stand for no directory at all.
        | '/' :: rest => (.deep :: ·) <$> readSigns fuel (some '/') rest
        | _ => .error .partOfComponent
    | _ => .error .tooManyStars
  | fuel + 1, _, '?' :: cs => (.any :: ·) <$> readSigns fuel (some '?') cs
  | fuel + 1, _, '[' :: cs =>
    match readClass cs with
    | none => .error .badClass
    | some (sign, rest) => (sign :: ·) <$> readSigns fuel (some ']') rest
  | fuel + 1, _, c :: cs => (.char c :: ·) <$> readSigns fuel (some c) cs

/-- The signs of a text. -/
def signs (cs : List Char) : Except Fault (List Sign) := readSigns cs.length none cs

/-- A component of a pattern. -/
inductive Component where
  /-- A name without special signs, which may also be the directory itself or the one above. -/
  | name (s : String)
  /-- Names that match. -/
  | wild (signs : List Sign)
  /-- Any number of directories. -/
  | deep
deriving DecidableEq, Repr

/-- The text of signs that stand for themselves. -/
def plainText : List Sign → Option (List Char)
  | [] => some []
  | .char c :: signs => (c :: ·) <$> plainText signs
  | _ :: _ => none

/-- The component of a text between separators. -/
def Component.ofChars (cs : List Char) : Except Fault Component := do
  let signs ← signs cs
  if signs.contains .deep then return .deep
  match plainText signs with
  | some cs => return .name (String.ofList cs)
  | none => return .wild signs

/-! ## Matching -/

/-- The name matches the signs. -/
def fits : List Sign → List Char → Bool
  | [], cs => cs.isEmpty
  | .char a :: signs, c :: cs => a == c && fits signs cs
  | .any :: signs, _ :: cs => fits signs cs
  | .oneOf inside ranges :: signs, c :: cs => ranges.any (·.holds c) == inside && fits signs cs
  | .run :: signs, [] => fits signs []
  -- The star ends here, or takes one more character.
  | .run :: signs, c :: cs => fits signs (c :: cs) || fits (.run :: signs) cs
  | .deep :: _, _ => false
  | _ :: _, [] => false

/-- The name of a file or directory matches the component. -/
def Component.fits : Component → String → Bool
  | .name s, entry => s == entry
  | .wild signs, entry => Pattern.fits signs entry.toList
  | .deep, _ => false

end Pattern

/-- A pattern: whether it starts at the root, its components, and whether it ends in a separator and
so asks for directories. -/
structure Pattern where
  isAbsolute : Bool
  components : List Pattern.Component
  wantsDir : Bool
deriving DecidableEq, Repr

namespace Pattern

/-- Cuts a text at its slashes; nothing follows a slash at the end. -/
def cutAtSlashes : List Char → List (List Char)
  | [] => []
  | '/' :: cs => [] :: cutAtSlashes cs
  | [c] => [[c]]
  | c :: '/' :: cs => [c] :: cutAtSlashes cs
  | c :: cs =>
    match cutAtSlashes cs with
    | [] => [[c]]
    | piece :: pieces => (c :: piece) :: pieces

/-- Several components for any number of directories are one. -/
def collapse : List Component → List Component
  | .deep :: .deep :: cs => collapse (.deep :: cs)
  | c :: cs => c :: collapse cs
  | [] => []

/-- The pattern of a text, or what is wrong with it. -/
def ofString (s : String) : Except Fault Pattern := do
  let cs := s.toList
  -- What is wrong with the whole is reported before what is wrong with a piece.
  let _ ← signs cs
  let isAbsolute := cs.head? == some '/'
  let pieces := cutAtSlashes (if isAbsolute then cs.drop 1 else cs)
  let components ← pieces.mapM Component.ofChars
  let components := if components.isEmpty then [.name ""] else components
  return ⟨isAbsolute, collapse components, cs.getLast? == some '/'⟩

end Pattern

end PageLint
