import PageLint.Json.Basic
import PageLint.Decimal.Shortest

/-!
# The magnitude of a numeral

A reader that expects something else than a number still names the number it found, so it has to
read it: a whole number that fits sixty-four bits exactly, any other as a double. A numeral that is
too large for a double cannot be read at all.

The double is not the nearest one. The significant digits that fit an unsigned word of sixty-four
bits are taken, and the result is multiplied or divided by a power of ten, each time with the
rounding of the machine.

## Main definitions

* `Json.Magnitude` — a numeral as the machine reads it
* `Json.Numeral.magnitude?` — the magnitude, unless it is too large
* `Json.Magnitude.text` — the magnitude as messages show it
-/

namespace PageLint.Json

/-- A numeral as the machine reads it: a whole number, or the bits of a double. -/
inductive Magnitude where
  | whole (value : Int)
  | double (bits : UInt64)
deriving DecidableEq, Repr

/-- Digits taken so far, the power of ten they stand for, and whether a digit was already left
out. -/
structure Significand where
  value : Nat
  exponent : Int
  full : Bool
deriving Repr

/-- The largest unsigned word. -/
def maxWord : Nat := 0xFFFFFFFFFFFFFFFF

/-- The size of the least signed word, which is also what the sign adds to the bits of a double. -/
def signBit : Nat := 0x8000000000000000

/-- Takes a digit before the point; once a digit did not fit, all later ones only count. -/
def Significand.takeWhole (s : Significand) (d : Nat) : Significand :=
  if s.full || s.value * 10 + d > maxWord then { s with exponent := s.exponent + 1, full := true }
  else { s with value := s.value * 10 + d }

/-- Takes a digit after the point; once a digit does not fit, all later ones are left out. -/
def Significand.takeFraction (s : Significand) (d : Nat) : Significand :=
  if s.full || s.value * 10 + d > maxWord then { s with full := true }
  else { s with value := s.value * 10 + d, exponent := s.exponent - 1 }

namespace Numeral

/-- The significant digits of a numeral that fit a word, without its written exponent. -/
def significand (n : Numeral) : Significand :=
  let digits := (Nat.toDigits 10 n.whole).map fun c => c.toNat - '0'.toNat
  let whole := digits.foldl Significand.takeWhole ⟨0, 0, false⟩
  n.fraction.foldl Significand.takeFraction { whole with full := false }

/-- The power of ten as a double. -/
def power (k : Nat) : Float := Float.ofScientific 1 false k

/-- Divides by a power of ten, which may be too large for a double. -/
def shrink (f : Float) (k : Nat) : Float :=
  if k ≤ 308 then f / power k
  else if f == 0.0 then f
  else shrink (f / power 308) (k - 308)
termination_by k

/-- The size of the least exponent of ten that is kept: that of a signed word of thirty-two bits. -/
def exponentBound : Nat := 0x80000000

/-- An exponent of ten, kept between its bounds. -/
def clampExponent (e : Int) : Int := max (-exponentBound) (min (exponentBound - 1) e)

/-- The double of a numeral without its sign, unless it is too large. -/
def double? (n : Numeral) : Option Float :=
  let s := n.significand
  let f := s.value.toUInt64.toFloat
  let scaleBy (e : Int) : Option Float :=
    if e < 0 then some (shrink f e.natAbs)
    else if e ≤ 308 then
      let g := f * power e.toNat
      if g.isInf then none else some g
    else if f == 0.0 then some f
    else none
  match n.exponent with
  | none => scaleBy s.exponent
  | some (negative, size) =>
    -- Such an exponent settles the number alone: it is zero, or too large.
    if size ≥ exponentBound then if s.value = 0 || negative then some 0.0 else none
    else scaleBy (clampExponent (s.exponent + if negative then -(size : Int) else size))

/-- The numeral as the machine reads it, unless it is too large. A whole number is read exactly
where a signed or unsigned word holds it; minus zero is a double. -/
def magnitude? (n : Numeral) : Option Magnitude :=
  if n.isWhole && !n.negative && n.whole ≤ maxWord then some (.whole n.whole)
  else if n.isWhole && n.negative && 0 < n.whole && n.whole ≤ signBit then some (.whole (-n.whole))
  else n.double?.map fun f => .double (if n.negative then -f else f).toBits

end Numeral

namespace Magnitude

/-- A double is written out when its leading digit stands for a power of ten between `10 ^ -5` and
`10 ^ 15`; beyond that the exponent has a sign and two digits or more. -/
def layout : Decimal.Layout := ⟨-5, 15, 2⟩

/-- The magnitude as messages show it. -/
def text : Magnitude → String
  | .whole i => toString i
  | .double bits =>
    let sign := if bits.toNat ≥ signBit then ['-'] else []
    let body :=
      match Decimal.Binary.ofBits? bits with
      | none => ['0', '.', '0']
      | some b => Decimal.write layout b.shortest
    String.ofList (sign ++ body)

end Magnitude

end PageLint.Json
