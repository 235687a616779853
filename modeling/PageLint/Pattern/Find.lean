import PageLint.FileTree
import PageLint.Pattern.Basic

/-!
# Files that match a pattern

A plain component is followed without looking at the other entries of a directory, so it also leads
through the directory itself and the one above. All other components choose among the entries.
Paths are found as the pattern writes them: a pattern with detours finds paths with detours.

## Main definitions

* `Pattern.find` — the paths that match a pattern
-/

namespace PageLint.Pattern

open FileTree (Node)

/-- An entry of a directory, under the path it was found by. -/
structure Found where
  path : Path
  name : String
  isDir : Bool

/-- The path of an entry. The working directory does not show in the paths of its entries. -/
def entryPath (dir : Path) (name : String) : Path :=
  if dir.parts = [.here] then ⟨name⟩ else dir.join ⟨name⟩

mutual

/-- All entries below a node, at any depth. -/
def below (dir : Path) : Node → List Found
  | .file _ => []
  | .dir entries => belowEntries dir entries

/-- The given entries of a directory, each with all entries below it. -/
def belowEntries (dir : Path) : List (String × Node) → List Found
  | [] => []
  | (name, node) :: entries =>
    let path := entryPath dir name
    ⟨path, name, node.isDir⟩ :: (below path node ++ belowEntries dir entries)

end

/-- All entries below a directory, at any depth. -/
def allBelow (t : FileTree) (dir : Path) : List Found :=
  match t.locate dir with
  | .ok place => below dir place.node
  | .error _ => []

/-- The entries of a directory. -/
def children (t : FileTree) (dir : Path) : List Found :=
  (t.list dir).map fun (name, node) => ⟨entryPath dir name, name, node.isDir⟩

/-- The directory itself and the one above it, as far as they match a pattern that starts with a
dot. -/
def dots (signs : List Sign) (dir : Path) : List Path :=
  if signs.head? = some (.char '.') then
    ([".", ".."].filter fun name => fits signs name.toList).map fun name => dir.join ⟨name⟩
  else []

/-- The paths that match the components from a directory on. -/
def search (t : FileTree) (wantsDir : Bool) : List Component → Path → List Path
  | [], _ => []
  | .name s :: rest, dir =>
    let path := entryPath dir s
    let isThere := if s = "." ∨ s = ".." then t.isDir dir else t.hasPath path
    if !isThere then []
    else if rest.isEmpty then (if wantsDir && !t.isDir path then [] else [path])
    else search t wantsDir rest path
  | .wild signs :: rest, dir =>
    if !t.isDir dir then []
    else
      let onward (path : Path) (isDir : Bool) : List Path :=
        if rest.isEmpty then (if wantsDir && !isDir then [] else [path])
        else search t wantsDir rest path
      ((children t dir).flatMap fun e =>
        if fits signs e.name.toList then onward e.path e.isDir else []) ++
        (dots signs dir).flatMap fun path => onward path true
  | .deep :: rest, dir =>
    match rest with
    | [] => ((allBelow t dir).filter (·.isDir)).map (·.path)
    -- All depths are looked through at once, so the next component is matched right here.
    | next :: rest =>
      (allBelow t dir).flatMap fun e =>
        if !next.fits e.name then []
        else if rest.isEmpty then (if wantsDir && !e.isDir then [] else [e.path])
        else search t wantsDir rest e.path

/-- The paths that match a pattern. -/
def find (t : FileTree) (p : Pattern) : List Path :=
  search t p.wantsDir p.components ⟨if p.isAbsolute then "/" else "."⟩

end PageLint.Pattern
