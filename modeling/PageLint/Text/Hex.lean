/-!
# Hexadecimal digits

## Main definitions

* `Text.hexValue?` — the value of a digit
* `Text.hexDigit` — the digit of a value
* `Text.hexNumber?` — the number that digits stand for
-/

namespace PageLint.Text

/-- The value of a hexadecimal digit of either case. -/
def hexValue? (c : Char) : Option Nat :=
  if '0' ≤ c ∧ c ≤ '9' then some (c.toNat - '0'.toNat)
  else if 'a' ≤ c ∧ c ≤ 'f' then some (c.toNat - 'a'.toNat + 10)
  else if 'A' ≤ c ∧ c ≤ 'F' then some (c.toNat - 'A'.toNat + 10)
  else none

/-- The digit of a number below sixteen, in lower case. -/
def hexDigit (n : Nat) : Char :=
  if n < 10 then Char.ofNat ('0'.toNat + n) else Char.ofNat ('a'.toNat + (n - 10))

/-- The number that hexadecimal digits stand for. -/
def hexNumber? (digits : List Char) : Option Nat :=
  digits.foldlM (fun value c => (hexValue? c).map (value * 16 + ·)) 0

/-- The character with a number that is written in hexadecimal digits. -/
def charOfHex? (digits : List Char) : Option Char :=
  match hexNumber? digits with
  | some n => if n.isValidChar then some (Char.ofNat n) else none
  | none => none

end PageLint.Text
