import PageLint.Text.Hex

/-!
# Scalars of TOML

A word of a TOML document that is no string is a truth value, a number, or a point in time. Digits
of numbers may be grouped by underscores, each between two digits.

## Main definitions

* `Toml.isNumber`, `Toml.isMoment` — a word is a number, or a point in time
-/

namespace PageLint.Toml

/-- Digits of some kind, grouped by underscores. -/
def grouped (isDigit : Char → Bool) : List Char → Bool
  | [] => false
  | [c] => isDigit c
  | c :: '_' :: cs => isDigit c && grouped isDigit cs
  | c :: cs => isDigit c && grouped isDigit cs

/-- A text without its sign. -/
def unsigned : List Char → List Char
  | '+' :: cs => cs
  | '-' :: cs => cs
  | cs => cs

/-- A decimal number without leading zeros. -/
def isWhole (cs : List Char) : Bool :=
  grouped Char.isDigit cs && (cs.head? ≠ some '0' || cs.length = 1)

/-- An exponent, from the letter on. -/
def isExponent : List Char → Bool
  | 'e' :: cs => grouped Char.isDigit (unsigned cs)
  | 'E' :: cs => grouped Char.isDigit (unsigned cs)
  | _ => false

/-- The letter that begins an exponent. -/
def isMark (c : Char) : Bool := c = 'e' || c = 'E'

/-- A decimal number with a fraction, an exponent, or both. -/
def isFraction (cs : List Char) : Bool :=
  let whole := cs.takeWhile fun c => c ≠ '.' && !isMark c
  isWhole whole &&
    match cs.drop whole.length with
    | '.' :: rest =>
      let fraction := rest.takeWhile fun c => !isMark c
      let exponent := rest.drop fraction.length
      grouped Char.isDigit fraction && (exponent.isEmpty || isExponent exponent)
    | rest => isExponent rest

/-- The size of a whole number that is written in digits of a base. -/
def sizeOf (base : Nat) (digits : List Char) : Nat :=
  (digits.filterMap Text.hexValue?).foldl (fun n d => n * base + d) 0

/-- The largest whole number that can be read, a signed or unsigned word of 128 bits. -/
def wholeLimit (negative : Bool) : Nat :=
  if negative then 0x80000000000000000000000000000000 else 0xFFFFFFFFFFFFFFFFFFFFFFFFFFFFFFFF

/-- The word is a number. A whole number has to fit a word of the machine. -/
def isNumber (cs : List Char) : Bool :=
  let fits (base : Nat) (digits : List Char) : Bool :=
    sizeOf base digits ≤ wholeLimit (cs.head? = some '-')
  match cs with
  | '0' :: 'x' :: digits => grouped (Text.hexValue? · |>.isSome) digits && fits 16 digits
  | '0' :: 'o' :: digits => grouped (fun c => '0' ≤ c && c ≤ '7') digits && fits 8 digits
  | '0' :: 'b' :: digits => grouped (fun c => c = '0' || c = '1') digits && fits 2 digits
  | cs =>
    let body := unsigned cs
    isWhole body && fits 10 body || isFraction body || body = ['i', 'n', 'f'] ||
      body = ['n', 'a', 'n']

/-! ## Points in time -/

/-- The number of two digits, if it lies between two bounds. -/
def twoDigits? (low high : Nat) (a b : Char) : Option Nat :=
  if a.isDigit && b.isDigit then
    let n := (a.toNat - '0'.toNat) * 10 + (b.toNat - '0'.toNat)
    if low ≤ n ∧ n ≤ high then some n else none
  else none

/-- How many days a month has. -/
def daysIn (year month : Nat) : Nat :=
  if month = 2 then if year % 4 = 0 ∧ (year % 100 ≠ 0 ∨ year % 400 = 0) then 29 else 28
  else if month = 4 ∨ month = 6 ∨ month = 9 ∨ month = 11 then 30
  else 31

/-- What follows a date at the beginning of a text. -/
def afterDate? : List Char → Option (List Char)
  | a :: b :: c :: d :: '-' :: e :: f :: '-' :: g :: h :: rest => do
    let year := (← twoDigits? 0 99 a b) * 100 + (← twoDigits? 0 99 c d)
    let month ← twoDigits? 1 12 e f
    let _ ← twoDigits? 1 (daysIn year month) g h
    return rest
  | _ => none

/-- What follows a time of day at the beginning of a text. -/
def afterTime? : List Char → Option (List Char)
  | a :: b :: ':' :: c :: d :: ':' :: e :: f :: rest => do
    let _ ← twoDigits? 0 23 a b
    let _ ← twoDigits? 0 59 c d
    let _ ← twoDigits? 0 60 e f
    match rest with
    | '.' :: digit :: rest => if digit.isDigit then some (rest.dropWhile Char.isDigit) else none
    | '.' :: [] => none
    | rest => some rest
  | _ => none

/-- An offset from universal time, or nothing. -/
def isOffset : List Char → Bool
  | [] | ['Z'] | ['z'] => true
  | sign :: a :: b :: ':' :: c :: d :: [] =>
    (sign = '+' || sign = '-') && (twoDigits? 0 23 a b).isSome && (twoDigits? 0 59 c d).isSome
  | _ => false

/-- The word is a date, a time of day, or both. -/
def isMoment (cs : List Char) : Bool :=
  match afterDate? cs with
  | some [] => true
  | some (separator :: rest) =>
    (separator = 'T' || separator = 't' || separator = ' ') &&
      match afterTime? rest with
      | some rest => isOffset rest
      | none => false
  | none => afterTime? cs == some []

end PageLint.Toml
