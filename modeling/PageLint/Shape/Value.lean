import PageLint.Shape.Dialect

/-!
# Shapes in JSON values

A value that was read before has no faults left and no text to go wrong in. Two things differ from
reading a text: a record that is written as a sequence and is too long is named by its length, and
so is a choice of the wrong kind.

## Main definitions

* `Shape.ofValue` — the dialect of JSON values
-/

namespace PageLint.Shape

/-- What stands in the place of a value. A number too large for the machine cannot be named. -/
def foundAt : Json → Except Trouble Found
  | .null => .ok .null
  | .bool b => .ok (.flag b)
  | .number n =>
    match n.magnitude? with
    | some m => .ok (.number m)
    | none => .error (.fault .malformed)
  | .string s => .ok (.text s)
  | .array _ => .ok .sequence
  | .object _ => .ok .map

/-- Refuses a value of the wrong kind. -/
def refuseValue {α : Type} (wanted : Wanted) (v : Json) : Except Trouble α := do
  .error (.mismatch (.kind (← foundAt v) wanted))

/-- What is wrong with the value beside the name of a choice. -/
def besideName : Json → Option Trouble
  | .null => none
  | v =>
    match foundAt v with
    | .error t => some t
    | .ok found => some (.mismatch (.kind found .nothing))

/-- The dialect of JSON values. -/
def ofValue : Dialect Json where
  text
    | .string s => .ok s
    | v => refuseValue .text v
  flag
    | .bool b => .ok b
    | v => refuseValue .flag v
  choice
    | .string s => .ok ⟨s, none⟩
    | .object [(key, v)] => .ok ⟨key, besideName v⟩
    | .object _ => .error (.mismatch .manyKeys)
    | v => refuseValue .textOrMap v
  isNull
    | .null => .ok true
    | _ => .ok false
  sequence
    | .array items => .ok (items, none)
    | v => refuseValue .sequence v
  layout title
    | .array items => .ok (.listed items none (some (.mismatch (.tooLong items.length))))
    | .object entries => .ok (.keyed entries none)
    | v => refuseValue (.record title) v
  skip _ := none

end PageLint.Shape
