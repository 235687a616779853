import PageLint.Shape.Dialect

/-!
# TOML values

A configuration may be written in TOML. Of its values only those are told apart that a configuration
can hold; numbers and points in time fit nowhere, so it does not matter which they are.

## Main definitions

* `Toml` — a TOML value
* `Toml.dialect` — how shapes are shown in TOML
-/

namespace PageLint

/-- A TOML value. -/
inductive Toml where
  | text (s : String)
  | flag (b : Bool)
  /-- A number or a point in time. -/
  | quantity
  | array (items : List Toml)
  | table (entries : List (String × Toml))
deriving Inhabited, Repr

namespace Toml

open Shape (Dialect Trouble)

/-- A value that does not fit its place. -/
def unfit {α : Type} : Except Trouble α := .error (.fault .malformed)

/-- What is wrong with the value beside the name of a choice: it has to be empty. -/
def besideName : Toml → Option Trouble
  | .array [] | .table [] => none
  | _ => some (.fault .malformed)

/-- How shapes are shown in TOML. A record may be written as an array, of which further items are
passed over; a choice may be written as a table that maps its name to nothing. -/
def dialect : Dialect Toml where
  text
    | .text s => .ok s
    | _ => unfit
  flag
    | .flag b => .ok b
    | _ => unfit
  choice
    | .text s => .ok ⟨s, none⟩
    | .table [(key, v)] => .ok ⟨key, besideName v⟩
    | _ => unfit
  isNull _ := .ok false
  sequence
    | .array items => .ok (items, none)
    | _ => unfit
  layout _
    | .table entries => .ok (.keyed entries none)
    | .array items => .ok (.listed items none none)
    | _ => unfit
  skip _ := none

end Toml

end PageLint
