/-!
# Readers

A reader takes something off the front of a list, of characters or of what characters were made
into, or fails.

## Main definitions

* `Text.Reader` — readers, with the elementary ones in their namespace
-/

namespace PageLint.Text

/-- Takes something off the front of a list, or fails. -/
abbrev Reader (τ : Type) := StateT (List τ) Option

namespace Reader

variable {τ : Type}

/-- What stands in front, which stays there. -/
def peek? : Reader τ (Option τ) := fun cs => some (cs.head?, cs)

/-- Takes what stands in front. -/
def take : Reader τ τ
  | [] => none
  | c :: cs => some (c, cs)

/-- Takes all that has a property, up to the first that has not. -/
def takeWhile (p : τ → Bool) : Reader τ (List τ) :=
  fun cs => some (cs.takeWhile p, cs.dropWhile p)

/-- Takes the given things off the front, if they stand there. -/
def taken [BEq τ] (text : List τ) : Reader τ Bool := fun cs =>
  if text.isPrefixOf cs then some (true, cs.drop text.length) else some (false, cs)

/-- Takes the given things off the front, where they have to stand. -/
def expect [BEq τ] (text : List τ) : Reader τ Unit := do
  if ← taken text then return () else failure

end Reader

end PageLint.Text
