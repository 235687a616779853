import PageLint.Log.Event
import PageLint.Report.Style

/-!
# Log lines

An event is written as one line, level first. Characters of a message that would act on the terminal
instead of showing on it are written out.

## Main definitions

* `Log.line` — the line of an event
-/

namespace PageLint.Log

open Report (Style)

/-- A character of a message, written out where it would act on the terminal. -/
def visible (c : Char) : String :=
  match c.toNat with
  | 0x07 => "\\x07"
  | 0x08 => "\\x08"
  | 0x0C => "\\x0c"
  | 0x1B => "\\x1b"
  | 0x7F => "\\x7f"
  | n =>
    if 0x80 ≤ n ∧ n ≤ 0x9F then "\\u\x7b" ++ String.ofList (Nat.toDigits 16 n) ++ "\x7d"
    else c.toString

/-- The name of a level, five characters wide. -/
def paddedName (l : Level) : String :=
  String.ofList (List.replicate (5 - l.name.length) ' ') ++ l.name

/-- The color of a level. -/
def levelMark : Level → String
  | .error => "31"
  | .warn => "33"
  | .info => "32"
  | .debug => "34"
  | .trace => "35"

/-- A text between the mark with the given number and the mark that ends all styles. -/
def marked (color : Bool) (number s : String) : String :=
  if color then Style.mark number ++ s ++ Style.mark "0" else s

/-- The line of an event. -/
def line (color : Bool) (e : Event) : String :=
  let fields := e.fields.map fun (name, value) =>
    " " ++ marked color "3" name ++ marked color "2" "=" ++ value
  marked color (levelMark e.level) (paddedName e.level) ++ " " ++
    String.join (e.message.toList.map visible) ++ String.join fields

end PageLint.Log
