/-!
# Styles of a terminal

## Main definitions

* `Report.Style` — a way to show a text
* `Report.Style.paint` — the text with the marks of a style around it
-/

namespace PageLint.Report

/-- A way to show a text. -/
inductive Style where
  | red
  | yellow
  | cyan
  | grey
  | bold
deriving DecidableEq, Repr

namespace Style

/-- The mark that starts a way to show a text, or ends it. -/
def mark (number : String) : String := "\x1b[" ++ number ++ "m"

/-- The numbers of the marks before and after a text. -/
def marks : Style → String × String
  | .red => ("31", "39")
  | .yellow => ("33", "39")
  | .cyan => ("36", "39")
  | .grey => ("90", "39")
  | .bold => ("1", "0")

/-- The text with the marks of a style around it, where styles are wanted. -/
def paint (color : Bool) (style : Style) (s : String) : String :=
  if color then mark style.marks.1 ++ s ++ mark style.marks.2 else s

end Style

end PageLint.Report
