import PageLint.Yaml.Node
import PageLint.Yaml.Token.Lexer

/-!
# From tokens to nodes

A node is an alias, or a scalar, a sequence or a mapping with an anchor and a tag. Where the tokens
have nothing for a key, a value or an item, it is empty. A text holds one document.

Where nodes nest, each level consumes a token, and so does each item; there are at most three calls
for one token.

## Main definitions

* `Yaml.Builder` — builds something from the tokens in front
* `Yaml.Document.ofString?` — the document of a text
-/

namespace PageLint.Yaml

/-- The tokens that are left, and the names that are known, with their numbers. -/
structure Building where
  tokens : List Token
  names : List (String × Nat)

/-- Builds something from the tokens in front, or fails. -/
abbrev Builder := StateT Building Option

namespace Builder

/-- The token in front. -/
def peek? : Builder (Option Token) := return (← get).tokens.head?

/-- Passes over the token in front. -/
def drop : Builder Unit := modify fun b => { b with tokens := b.tokens.drop 1 }

/-- Passes over a token if it stands in front. -/
def passed (t : Token) : Builder Bool := do
  if (← peek?) = some t then
    drop
    return true
  else return false

/-- The token in front is one of the given ones. -/
def sees (ts : List Token) : Builder Bool := return (← peek?).any ts.contains

end Builder

open Builder

/-- What the handles of tags stand for. -/
abbrev Handles := List (List Char × List UInt8)

/-- The handles that every document knows, unless it gives them another meaning. -/
def standardHandles : Handles :=
  [("!".toList, "!".toUTF8.toList), ("!!".toList, Tag.standard.toUTF8.toList)]

/-- Numbers a name that is given to the node in front. A name that was given before takes the number
that a new one would get. -/
def giveName (name : String) : Builder Nat := do
  let b ← get
  let number := b.names.length
  set { b with names := (name, number) :: b.names.filter (·.1 ≠ name) }
  return number

/-- The number of a name. -/
def number (name : String) : Builder Nat := do
  match (← get).names.lookup name with
  | some n => return n
  | none => failure

/-- The properties in front of a node: an anchor and a tag, in either order. -/
def properties : Builder (Option String × Option (List Char × List UInt8)) := do
  match ← peek? with
  | some (.anchor name) =>
    drop
    match ← peek? with
    | some (.tag handle octets) =>
      drop
      return (some name, some (handle, octets))
    | _ => return (some name, none)
  | some (.tag handle octets) =>
    drop
    match ← peek? with
    | some (.anchor name) =>
      drop
      return (some name, some (handle, octets))
    | _ => return (none, some (handle, octets))
  | _ => return (none, none)

/-- The tag with a handle that the document knows; without a handle, the octets are the tag. -/
def resolveTag (handles : Handles) :
    Option (List Char × List UInt8) → Builder (Option Tag)
  | none => return none
  | some ([], octets) => return some ⟨octets⟩
  | some (handle, octets) =>
    match handles.lookup handle with
    | some start => return some ⟨start ++ octets⟩
    | none => failure

mutual

/-- A node. In a block it may be a block, and after a mark of a mapping even a sequence that is not
indented more than the mapping. -/
def node (handles : Handles) : (fuel : Nat) → (inBlock afterMark : Bool) → Builder Node
  | 0, _, _ => failure
  | fuel + 1, inBlock, afterMark => do
    match ← peek? with
    | some (.alias name) =>
      drop
      return .alias (← number name)
    | _ =>
      let (anchor, tag) ← properties
      let tag ← resolveTag handles tag
      -- The name is given before the node is built, so that the node may hold its own alias.
      let number ← anchor.mapM giveName
      let node ← content handles fuel inBlock afterMark (anchor.isSome || tag.isSome) tag
      match number with
      | some n => return .named n node
      | none => return node

/-- What follows the properties of a node; if there are any, it may be empty. -/
def content (handles : Handles) : (fuel : Nat) → (inBlock afterMark hasProperties : Bool) →
    Option Tag → Builder Node
  | 0, _, _, _, _ => failure
  | fuel + 1, inBlock, afterMark, hasProperties, tag => do
    match ← peek? with
    | some (.scalar style text) =>
      drop
      if tag = some .bare then return .scalar none style text
      else return .scalar tag style text
    | some .flowSequence =>
      drop
      return .sequence tag (← flowItems handles fuel true [])
    | some .flowMapping =>
      drop
      return .mapping tag (← flowEntries handles fuel true [])
    | some .blockSequence =>
      if inBlock then
        drop
        return .sequence tag (← blockItems handles fuel [])
      else if hasProperties then return .scalar tag .plain ""
      else failure
    | some .blockMapping =>
      if inBlock then
        drop
        return .mapping tag (← blockEntries handles fuel [])
      else if hasProperties then return .scalar tag .plain ""
      else failure
    | some .item =>
      if afterMark then return .sequence tag (← flatItems handles fuel [])
      else if hasProperties then return .scalar tag .plain ""
      else failure
    | _ => if hasProperties then return .scalar tag .plain "" else failure

/-- A node in a block, or an empty one if one of the given tokens follows. -/
def nodeUnless (handles : Handles) : (fuel : Nat) → (ends : List Token) →
    (inBlock afterMark : Bool) → Builder Node
  | 0, _, _, _ => failure
  | fuel + 1, ends, inBlock, afterMark => do
    if ← sees ends then return .empty
    else node handles fuel inBlock afterMark

/-- The rest of a sequence that is a block, after the given items. -/
def blockItems (handles : Handles) : (fuel : Nat) → (before : List Node) → Builder (List Node)
  | 0, _ => failure
  | fuel + 1, before => do
    if ← passed .blockEnd then return before
    if ← passed .item then
      let item ← nodeUnless handles fuel [.item, .blockEnd] true false
      blockItems handles fuel (before ++ [item])
    else failure

/-- The rest of a sequence that is no block of its own, after the given items. -/
def flatItems (handles : Handles) : (fuel : Nat) → (before : List Node) → Builder (List Node)
  | 0, _ => failure
  | fuel + 1, before => do
    if ← passed .item then
      let item ← nodeUnless handles fuel [.item, .key, .value, .blockEnd] true false
      flatItems handles fuel (before ++ [item])
    else return before

/-- The rest of a mapping that is a block, after the given entries. -/
def blockEntries (handles : Handles) :
    (fuel : Nat) → (before : List (Node × Node)) → Builder (List (Node × Node))
  | 0, _ => failure
  | fuel + 1, before => do
    if ← passed .blockEnd then return before
    if ← passed .key then
      let key ← nodeUnless handles fuel [.key, .value, .blockEnd] true true
      let value ←
        if ← passed .value then nodeUnless handles fuel [.key, .value, .blockEnd] true true
        else pure .empty
      blockEntries handles fuel (before ++ [(key, value)])
    else failure

/-- The rest of a sequence in brackets, after the given items. -/
def flowItems (handles : Handles) :
    (fuel : Nat) → (first : Bool) → (before : List Node) → Builder (List Node)
  | 0, _, _ => failure
  | fuel + 1, first, before => do
    if ← passed .flowSequenceEnd then return before
    if !first then
      if !(← passed .comma) then failure
      if ← passed .flowSequenceEnd then return before
    let item ←
      if ← passed .key then
        let entry ← flowPair handles fuel
        pure (.mapping none [entry])
      else node handles fuel false false
    flowItems handles fuel false (before ++ [item])

/-- An entry that stands as an item in brackets, after its mark. Of an entry without a key the token
that shows this is passed over. -/
def flowPair (handles : Handles) : (fuel : Nat) → Builder (Node × Node)
  | 0 => failure
  | fuel + 1 => do
    let key ←
      if ← sees [.value, .comma, .flowSequenceEnd] then
        drop
        pure Node.empty
      else node handles fuel false false
    let value ←
      if ← passed .value then nodeUnless handles fuel [.comma, .flowSequenceEnd] false false
      else pure .empty
    return (key, value)

/-- The rest of a mapping in braces, after the given entries. -/
def flowEntries (handles : Handles) : (fuel : Nat) → (first : Bool) →
    (before : List (Node × Node)) → Builder (List (Node × Node))
  | 0, _, _ => failure
  | fuel + 1, first, before => do
    if ← passed .flowMappingEnd then return before
    if !first then
      if !(← passed .comma) then failure
      if ← passed .flowMappingEnd then return before
    if ← passed .key then
      let key ← nodeUnless handles fuel [.value, .comma, .flowMappingEnd] false false
      let value ←
        if ← passed .value then nodeUnless handles fuel [.comma, .flowMappingEnd] false false
        else pure .empty
      flowEntries handles fuel false (before ++ [(key, value)])
    else
      -- A colon would have put the mark of a key in front, so this key has no value.
      let key ← node handles fuel false false
      flowEntries handles fuel false (before ++ [(key, Node.empty)])

end

/-! ## Documents -/

/-- The directives in front: at most one version, which has to be a known one, and handles, each
declared once. -/
def directives : (fuel : Nat) → (versioned : Bool) → Handles → Builder Handles
  | 0, _, _ => failure
  | fuel + 1, versioned, handles => do
    match ← peek? with
    | some (.version major minor) =>
      drop
      if versioned || major ≠ 1 || !(minor = 1 || minor = 2) then failure
      directives fuel true handles
    | some (.handle name octets) =>
      drop
      if (handles.lookup name).isSome then failure
      directives fuel versioned (handles ++ [(name, octets)])
    | _ => return handles

/-- The marks of the end of a document. -/
def documentEnds : (fuel : Nat) → Builder Unit
  | 0 => failure
  | fuel + 1 => do
    if ← passed .documentEnd then documentEnds fuel

/-- The root of the first document; without any it is empty. -/
def rootNode : Builder Node := do
  let fuel := 3 * (← get).tokens.length + 3
  match ← peek? with
  | none => return .empty
  | some (.version _ _) | some (.handle _ _) | some .documentStart =>
    let handles ← directives fuel false []
    if !(← passed .documentStart) then failure
    if (← peek?).all [.documentStart, .documentEnd].contains then return .empty
    match ← peek? with
    | some (.version _ _) | some (.handle _ _) => return .empty
    | _ => node (handles ++ standardHandles) fuel true false
  | _ => node standardHandles fuel true false

/-- The document of a text that holds one. -/
def Document.ofString? (s : String) : Option Document := do
  let tokens ← tokens? s
  let (root, rest) ← (rootNode <* documentEnds (tokens.length + 1)).run ⟨tokens, []⟩
  if rest.tokens.isEmpty then some ⟨root⟩ else none

end PageLint.Yaml
