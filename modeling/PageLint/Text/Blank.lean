/-!
# Blank characters

Descriptors are laid out freely, so a search in them must not see blanks. A blank is a character
with the Unicode property White_Space; ASCII blanks alone would miss the non-breaking and the
ideographic space, which people do paste into descriptors.

## Main definitions

* `Text.isBlank` — the property White_Space
* `Text.squeeze` — a text without its blanks
-/

namespace PageLint.Text

/-- A character with the Unicode property White_Space. -/
def isBlank (c : Char) : Bool :=
  let n := c.toNat
  (0x9 ≤ n && n ≤ 0xD) || n == 0x20 || n == 0x85 || n == 0xA0 || n == 0x1680 ||
    (0x2000 ≤ n && n ≤ 0x200A) || n == 0x2028 || n == 0x2029 || n == 0x202F || n == 0x205F ||
    n == 0x3000

/-- The text without its blanks. -/
def squeeze (cs : List Char) : List Char :=
  cs.filter fun c => !isBlank c

@[simp] theorem squeeze_nil : squeeze [] = [] := rfl

theorem squeeze_append (cs ds : List Char) : squeeze (cs ++ ds) = squeeze cs ++ squeeze ds :=
  List.filter_append ..

/-- Squeezing twice is squeezing once. -/
theorem squeeze_squeeze (cs : List Char) : squeeze (squeeze cs) = squeeze cs := by
  simp [squeeze]

end PageLint.Text
