/-!
# JSON values

Fact files, configuration and every report are JSON. Entries of an object keep the order in which
they were written, because the order shows in reports.

A numeral is kept as it is written, not as the machine number it is rounded to: the linter copies
counts and line numbers and computes with none of them.

## Main definitions

* `Json.Numeral` — a number, digit by digit
* `Json` — a JSON value
-/

namespace PageLint

namespace Json

/-- A number as JSON writes it: sign, whole part, the digits after the point, exponent. The whole
part has no leading zeros, so a natural number stands for its digits. -/
structure Numeral where
  negative : Bool
  whole : Nat
  /-- The digits after the point; none when there is no point. -/
  fraction : List Nat
  /-- Whether the exponent is negative, and its size. -/
  exponent : Option (Bool × Nat)
deriving DecidableEq, Repr, Inhabited

namespace Numeral

/-- The numeral of a natural number. -/
def ofNat (n : Nat) : Numeral := ⟨false, n, [], none⟩

/-- Written with neither point nor exponent. -/
def isWhole (n : Numeral) : Bool := n.fraction.isEmpty && n.exponent.isNone

/-- The natural number a numeral stands for, when it is written as one. -/
def toNat? (n : Numeral) : Option Nat :=
  if n.isWhole && !n.negative then some n.whole else none

@[simp] theorem toNat?_ofNat (n : Nat) : (ofNat n).toNat? = some n := rfl

end Numeral

end Json

/-- A JSON value; an object is a list of entries in the order of writing. -/
inductive Json where
  | null
  | bool (value : Bool)
  | number (value : Json.Numeral)
  | string (value : String)
  | array (items : List Json)
  | object (entries : List (String × Json))
deriving Repr, Inhabited

namespace Json

/-- The number of a count. -/
def ofNat (n : Nat) : Json := .number (.ofNat n)

/-- The value under a key, the first when the key is repeated. -/
def get? (key : String) : Json → Option Json
  | .object entries => (entries.find? (·.1 == key)).map (·.2)
  | _ => none

/-- The text of a string value. -/
def string? : Json → Option String
  | .string s => some s
  | _ => none

/-- The items of an array. -/
def array? : Json → Option (List Json)
  | .array items => some items
  | _ => none

/-- The natural number of a number value. -/
def nat? : Json → Option Nat
  | .number n => n.toNat?
  | _ => none

/-- The truth value of a boolean. -/
def bool? : Json → Option Bool
  | .bool b => some b
  | _ => none

end Json

end PageLint
