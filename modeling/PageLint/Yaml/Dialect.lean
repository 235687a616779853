import PageLint.Shape.Dialect
import PageLint.Yaml.Node.Parser

/-!
# Shapes in YAML

A scalar has no type of its own: a text is any scalar, and a truth value one that spells it. Where a
list or a record should stand, nothing at all may stand. What is wrong with a value is not told.

## Main definitions

* `Yaml.Document.dialect` — how shapes are shown in the nodes of a document
* `Yaml.read?` — the value of a text by a shape
-/

namespace PageLint.Yaml

open Shape (Dialect Trouble)

/-- A value that does not fit its place. -/
def unfit {α : Type} : Except Trouble α := .error (.fault .malformed)

/-- The truth value that a text spells. -/
def truth? (s : String) : Option Bool :=
  if ["true", "True", "TRUE"].contains s then some true
  else if ["false", "False", "FALSE"].contains s then some false
  else none

/-- The text spells the value that says nothing. -/
def isNothing (s : String) : Bool := ["null", "Null", "NULL", "~"].contains s

/-- The node says nothing where a list or a record should stand. -/
def isVoid : Node → Bool
  | .scalar _ .plain "" => true
  | _ => false

/-- What is wrong with a node beside the tag that gives the name of a choice: it has to say
nothing. -/
def besideTag : Node → Option Trouble
  | .scalar _ .plain text =>
    if text.isEmpty || isNothing text then none else some (.fault .malformed)
  | _ => some (.fault .malformed)

/-- The tag of a node. -/
def tag? : Node → Option Tag
  | .scalar tag _ _ | .sequence tag _ | .mapping tag _ => tag
  | .alias _ | .named _ _ => none

namespace Document

/-- The text of a scalar. -/
def text (d : Document) (n : Node) : Except Trouble String :=
  match d.resolve n with
  | .scalar _ _ text => .ok text
  | _ => unfit

/-- The truth value of a scalar. It is plain, or a literal text that is tagged as one. -/
def flag (d : Document) (n : Node) : Except Trouble Bool :=
  match d.resolve n with
  | .scalar tag style text =>
    if style = .plain || (style = .literal && tag = some .truth) then
      match truth? text with
      | some b => .ok b
      | none => unfit
    else unfit
  | _ => unfit

/-- The name of a choice: a local tag, or the text of a scalar. -/
def choice (d : Document) (n : Node) : Except Trouble Shape.Tag :=
  let n := d.resolve n
  match (tag? n).bind Tag.name?, n with
  | some name, n => .ok ⟨name, besideTag n⟩
  | none, .scalar _ _ text => .ok ⟨text, none⟩
  | none, _ => unfit

/-- Nothing stands where a value may be left out. What is tagged as nothing has to spell it. -/
def isNull (d : Document) (n : Node) : Except Trouble Bool :=
  match d.resolve n with
  | .scalar none .plain text => .ok (text.isEmpty || isNothing text)
  | .scalar (some tag) .plain text =>
    if tag = .nothing then if isNothing text then .ok true else unfit
    else .ok false
  | _ => .ok false

/-- The entries of a mapping whose keys are scalars. -/
def keyed (d : Document) : List (Node × Node) → Except Trouble (List (String × Node))
  | [] => .ok []
  | (key, value) :: entries => do return (← d.text key, value) :: (← d.keyed entries)

/-- How shapes are shown in the nodes of a document. -/
def dialect (d : Document) : Dialect Node where
  text := d.text
  flag := d.flag
  choice := d.choice
  isNull := d.isNull
  sequence n :=
    match d.resolve n with
    | .sequence _ items => .ok (items, none)
    | n => if isVoid n then .ok ([], none) else unfit
  layout _ n :=
    match d.resolve n with
    | .mapping _ entries => do return .keyed (← d.keyed entries) none
    | n => if isVoid n then .ok (.keyed [] none) else unfit
  skip _ := none

end Document

/-- The value of a text by a shape. -/
def read? {α : Type} (shape : Shape α) (s : String) : Option α := do
  let d ← Document.ofString? s
  match Shape.read d.dialect shape d.root with
  | .ok a => some a
  | .error _ => none

end PageLint.Yaml
