import PageLint.Text.Printable

/-!
# Texts quoted in messages

A message that names a text found in a file puts it between double quotes, with everything escaped
that could not be seen or would end the quotation.

## Main definitions

* `Text.escapeChar` — a character inside such a quotation
* `Text.cite` — a text quoted in a message
-/

namespace PageLint.Text

/-- A character by the hexadecimal digits of its code point. -/
def byCodePoint (c : Char) : List Char :=
  '\\' :: 'u' :: '{' :: (Nat.toDigits 16 c.toNat ++ ['}'])

/-- A character inside a quotation. -/
def escapeChar (c : Char) : List Char :=
  if c = '"' ∨ c = '\\' then ['\\', c]
  else if c = '\n' then ['\\', 'n']
  else if c = '\r' then ['\\', 'r']
  else if c = '\t' then ['\\', 't']
  else if c.toNat = 0 then ['\\', '0']
  else if isPrintable c then [c]
  else byCodePoint c

/-- A text quoted in a message. -/
def cite (s : String) : String :=
  String.ofList ('"' :: (s.toList.flatMap escapeChar ++ ['"']))

end PageLint.Text
