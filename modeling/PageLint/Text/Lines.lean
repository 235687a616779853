import PageLint.Text.Regex

/-!
# Lines and the search for a chain of fragments

A finding is placed by a chain of fragments, for example the declaration of an element and then the
word "shadow". Each fragment is looked for below the line where the one before it was found. The
blanks of a fragment do not count, and its characters may have any blanks between them in a line, so
the layout of the source does not matter.

## Main definitions

* `Text.lines` — the lines of a text, cut at line feeds
* `Text.fragmentRegex?` — the expression by which a fragment is looked for
* `Text.shows` — a fragment is found in a line
* `Text.findLine` — the number of the line where the last fragment of a chain is found
* `Text.findLineWithin` — the same under a limit on the size of expressions
-/

namespace PageLint.Text

/-- The lines of a text. A line ends at a line feed, and a carriage return directly before the line
feed belongs to the line end; a last line need not be ended. -/
def lines : List Char → List (List Char)
  | [] => []
  | '\r' :: '\n' :: cs => [] :: lines cs
  | '\n' :: cs => [] :: lines cs
  | c :: cs =>
    match lines cs with
    | [] => [[c]]
    | line :: rest => (c :: line) :: rest

/-- The first list occurs in the second as a contiguous part. -/
def occursIn (part : List Char) : List Char → Bool
  | [] => part.isEmpty
  | c :: cs => part.isPrefixOf (c :: cs) || occursIn part cs

/-- The text of an expression for any blanks, or none. -/
def anyBlanks : List Char := ['\\', 's', '*']

/-- The expression by which a fragment is looked for: its characters without the blanks, and any
blanks between them. There is none for a fragment of blanks alone. -/
def fragmentRegex? (fragment : List Char) : Option Regex :=
  let parts := (squeeze fragment).map Regex.escape
  if parts.isEmpty then none else Regex.ofText? (anyBlanks.intercalate parts)

/-- The line shows the fragment: the expression of the fragment is found in it. -/
def shows (line fragment : List Char) : Bool :=
  (fragmentRegex? fragment).any (·.isMatch line)

/-- How many lines it takes to meet the fragments one after the other, each below the one before;
nothing when the lines run out first. -/
def chain : List (List Char) → List (List Char) → Option Nat
  | [], _ => some 0
  | fragment :: fragments, ls =>
    match ls.findIdx? (shows · fragment) with
    | none => none
    | some i => (chain fragments (ls.drop (i + 1))).map (i + 1 + ·)

/-- The number of the first line, which answers every search that finds nothing. -/
def firstLine : Nat := 1

/-- The number of the line that shows the last fragment of the chain, where only the expressions
that fit a limit on their size can be used. Fragments without such an expression are passed over;
when a fragment is missing, or none is left, the answer is the first line. -/
def findLineWithin (fits : Regex → Bool) (text : String) (fragments : List String) : Nat :=
  let wanted := fragments.map String.toList |>.filter fun f => (fragmentRegex? f).any fits
  match chain wanted (lines text.toList) with
  | some (n + 1) => n + 1
  | _ => firstLine

/-- The number of the line that shows the last fragment of the chain, where every expression is
small enough. -/
def findLine (text : String) (fragments : List String) : Nat :=
  findLineWithin (fun _ => true) text fragments

/-- The text between double quotes, as a selector stands in a descriptor. -/
def quoted (value : String) : String :=
  "\"" ++ value ++ "\""

/-- The declaration of a named element or method, as it stands in a descriptor. -/
def nameFragment (name : String) : String :=
  "\"name\": " ++ quoted name

end PageLint.Text
