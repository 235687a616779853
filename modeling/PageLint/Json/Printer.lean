import PageLint.Json.Basic
import PageLint.Json.Quoted

/-!
# Writing JSON

Two layouts. The compact one has no white space at all. The indented one gives each item and entry a
line of its own, two spaces deeper than its container; a container without items stays on its line.

## Main definitions

* `Json.compact` — the compact text of a value
* `Json.indented` — the indented text of a value, without a final line feed
-/

namespace PageLint.Json

/-- The written form of a numeral. -/
def Numeral.text (n : Numeral) : List Char :=
  (if n.negative then ['-'] else []) ++ Nat.toDigits 10 n.whole ++
    (if n.fraction.isEmpty then [] else '.' :: n.fraction.flatMap (Nat.toDigits 10)) ++
    match n.exponent with
    | none => []
    | some (negative, size) => 'e' :: ((if negative then ['-'] else []) ++ Nat.toDigits 10 size)

/-- The written form of a truth value. -/
def boolText : Bool → List Char
  | true => ['t', 'r', 'u', 'e']
  | false => ['f', 'a', 'l', 's', 'e']

mutual

/-- The compact text of a value. -/
def compact : Json → List Char
  | .null => ['n', 'u', 'l', 'l']
  | .bool b => boolText b
  | .number n => n.text
  | .string s => quote s
  | .array [] => ['[', ']']
  | .array (v :: vs) => '[' :: (v.compact ++ compactItems vs)
  | .object [] => ['{', '}']
  | .object ((k, v) :: es) => '{' :: (quote k ++ ':' :: (v.compact ++ compactEntries es))

/-- The items after the first, and the end of the array. -/
def compactItems : List Json → List Char
  | [] => [']']
  | v :: vs => ',' :: (v.compact ++ compactItems vs)

/-- The entries after the first, and the end of the object. -/
def compactEntries : List (String × Json) → List Char
  | [] => ['}']
  | (k, v) :: es => ',' :: (quote k ++ ':' :: (v.compact ++ compactEntries es))

end

/-- A line feed and the indentation of the given depth. -/
def newline (depth : Nat) : List Char :=
  '\n' :: List.replicate (2 * depth) ' '

mutual

/-- The indented text of a value that stands at the given depth. -/
def indentedAt (depth : Nat) : Json → List Char
  | .null => ['n', 'u', 'l', 'l']
  | .bool b => boolText b
  | .number n => n.text
  | .string s => quote s
  | .array [] => ['[', ']']
  | .array (v :: vs) =>
    '[' :: (newline (depth + 1) ++ indentedAt (depth + 1) v ++ indentedItems depth vs)
  | .object [] => ['{', '}']
  | .object ((k, v) :: es) =>
    '{' :: (newline (depth + 1) ++ quote k ++ ':' :: ' ' :: indentedAt (depth + 1) v ++
      indentedEntries depth es)

/-- The items after the first, and the end of the array. -/
def indentedItems (depth : Nat) : List Json → List Char
  | [] => newline depth ++ [']']
  | v :: vs =>
    ',' :: (newline (depth + 1) ++ indentedAt (depth + 1) v ++ indentedItems depth vs)

/-- The entries after the first, and the end of the object. -/
def indentedEntries (depth : Nat) : List (String × Json) → List Char
  | [] => newline depth ++ ['}']
  | (k, v) :: es =>
    ',' :: (newline (depth + 1) ++ quote k ++ ':' :: ' ' :: indentedAt (depth + 1) v ++
      indentedEntries depth es)

end

/-- The indented text of a value. -/
def indented (v : Json) : List Char := indentedAt 0 v

end PageLint.Json
