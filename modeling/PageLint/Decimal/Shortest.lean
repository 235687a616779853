/-!
# The shortest decimal of a binary number

A double is shown with the fewest digits that read back as the same double, and of several such
decimals the nearest one is taken. The double `m * 2 ^ q` stands for all reals that round to it; the
search tries the two neighbours of the double on the grid of one digit, of two digits, and so on.
All comparisons are between natural numbers.

## Main definitions

* `Decimal.Binary`, `Decimal.Value` — a positive double, and a decimal
* `Decimal.Binary.shortest` — the shortest decimal of a double
* `Decimal.Layout`, `Decimal.write` — where a decimal is written out and where with an exponent
-/

namespace PageLint.Decimal

/-- A positive finite double: `mantissa * 2 ^ exponent`. -/
structure Binary where
  mantissa : Nat
  exponent : Int
  /-- The next smaller double is only half as far away as the next larger one. -/
  narrowBelow : Bool
deriving DecidableEq, Repr

/-- The leading bit of a mantissa, which is left out of the bits of a double: `2 ^ 52`. -/
def hiddenBit : Nat := 0x10000000000000

/-- The magnitude of a double; nothing for zero. -/
def Binary.ofBits? (bits : UInt64) : Option Binary :=
  let fraction : Nat := bits.toNat % hiddenBit
  let field : Nat := bits.toNat / hiddenBit % 0x800
  if field = 0 then
    if fraction = 0 then none else some ⟨fraction, -1074, false⟩
  else some ⟨hiddenBit + fraction, (field : Int) - 1075, fraction = 0 && field ≠ 1⟩

/-- A positive rational with its interval of rounding, all three over one denominator. -/
structure Interval where
  low : Nat
  value : Nat
  high : Nat
  unit : Nat
  /-- The ends belong to the interval. -/
  closed : Bool
deriving Repr

/-- The reals that round to a double. -/
def Binary.interval (b : Binary) : Interval :=
  let scale := if b.exponent ≥ 2 then Nat.pow 2 (b.exponent - 2).toNat else 1
  let unit := if b.exponent ≥ 2 then 1 else Nat.pow 2 (2 - b.exponent).toNat
  -- In quarters of the last place, the ends are two away; below a power of two, only one.
  let m := 4 * b.mantissa
  ⟨(if b.narrowBelow then m - 1 else m - 2) * scale, m * scale, (m + 2) * scale, unit,
    b.mantissa % 2 = 0⟩

/-- The decimal `digits * 10 ^ exponent`. -/
structure Value where
  digits : Nat
  exponent : Int
deriving DecidableEq, Repr

/-- The same decimal without zeros at the end of its digits. -/
def Value.normal (d : Value) : Value :=
  if d.digits = 0 then d
  else if d.digits % 10 = 0 then normal ⟨d.digits / 10, d.exponent + 1⟩
  else d
termination_by d.digits
decreasing_by omega

/-- Both sides of a comparison of `c * 10 ^ k` with `n / unit`, as natural numbers. -/
def scaled (c : Nat) (k : Int) (n unit : Nat) : Nat × Nat :=
  if k ≥ 0 then (c * Nat.pow 10 k.toNat * unit, n) else (c * unit, n * Nat.pow 10 (-k).toNat)

/-- The decimal lies in the interval. -/
def Interval.contains (i : Interval) (d : Value) : Bool :=
  let (c, low) := scaled d.digits d.exponent i.low i.unit
  let (c', high) := scaled d.digits d.exponent i.high i.unit
  if i.closed then low ≤ c && c' ≤ high else low < c && c' < high

/-- The power of ten of the leading digit of `n / unit`. -/
def leading (n unit : Nat) : Int :=
  if n ≥ unit then (Nat.toDigits 10 (n / unit)).length - 1
  else
    match (List.range 400).find? fun j => n * Nat.pow 10 j ≥ unit with
    | some j => -(j : Int)
    | none => -400

/-- The nearest point in the interval on the grid of multiples of `10 ^ k`, if there is one; of two
points equally near, the one with even digits. -/
def Interval.onGrid (i : Interval) (k : Int) : Option Value :=
  let (one, n) := scaled 1 k i.value i.unit
  let c := n / one
  let below : Value := ⟨c, k⟩
  let above : Value := ⟨c + 1, k⟩
  match c ≠ 0 && i.contains below, i.contains above with
  | false, false => none
  | true, false => some below
  | false, true => some above
  | true, true =>
    let twice := 2 * (n - c * one)
    if twice < one || (twice = one && c % 2 = 0) then some below else some above

/-- The shortest decimal that reads back as the double. Seventeen digits always suffice. -/
def Binary.shortest (b : Binary) : Value :=
  let i := b.interval
  let e := leading i.value i.unit
  match (List.range 17).findSome? fun (n : Nat) => i.onGrid (e - n) with
  | some d => d.normal
  | none => ⟨0, 0⟩

/-- Where a decimal is written out: the least and the greatest power of ten its leading digit may
have. Outside of that an exponent is written, with its sign and at least so many digits. -/
structure Layout where
  least : Int
  greatest : Int
  exponentDigits : Nat
deriving DecidableEq, Repr

/-- Digits with a point after the first `n` of them; a point always has a digit after it. -/
def pointed (digits : List Char) (n : Nat) : List Char :=
  let rest := digits.drop n
  digits.take n ++ '.' :: (if rest.isEmpty then ['0'] else rest)

/-- The exponent of ten, with its sign. -/
def exponentText (width : Nat) (e : Int) : List Char :=
  let digits := Nat.toDigits 10 e.natAbs
  'e' :: (if e < 0 then '-' else '+') :: (List.replicate (width - digits.length) '0' ++ digits)

/-- Digits with all but one of their leading blocks moved into the exponent. -/
def scientific (layout : Layout) (digits : List Char) (e : Int) : List Char :=
  (match digits with
    | [c] => [c]
    | cs => pointed cs 1) ++ exponentText layout.exponentDigits e

/-- The written form of a decimal. -/
def write (layout : Layout) (d : Value) : List Char :=
  let digits := Nat.toDigits 10 d.digits
  let e := d.exponent + digits.length - 1
  if e < layout.least || layout.greatest < e then scientific layout digits e
  else if e < 0 then pointed ('0' :: (List.replicate (-e - 1).toNat '0' ++ digits)) 1
  else pointed (digits ++ List.replicate (e + 1 - digits.length).toNat '0') (e + 1).toNat

end PageLint.Decimal
