import PageLint.Path

/-!
# File trees

The linter reads and writes files, and all it can know of them is a tree of directories together
with the place in it from which relative paths start. Every step of a path but the last has to be a
directory, also one that goes up again, and a path that ends in a separator names a directory. An
entry has a name of so many bytes at most.

## Main definitions

* `FileTree.Node`, `FileTree` — files and directories
* `FileTree.locate` — the place a path names, and what is there
* `FileTree.read`, `FileTree.write`, `FileTree.makeDirs`
-/

namespace PageLint

namespace FileTree

/-- A file or a directory. -/
inductive Node where
  /-- A file with its text, unless its bytes are no text. -/
  | file (text : Option String)
  | dir (entries : List (String × Node))
deriving Inhabited

/-- Why a file cannot be read or written. -/
inductive Cause where
  /-- There is nothing of the name, or there cannot be. -/
  | notFound
  | notADirectory
  | isADirectory
  | invalidData
  | alreadyExists
deriving DecidableEq, Repr

end FileTree

/-- The entries of the root directory, and the names on the way to the working directory. -/
structure FileTree where
  root : List (String × FileTree.Node)
  cwd : List String
deriving Inhabited

namespace FileTree

namespace Node

/-- A directory. -/
def isDir : Node → Bool
  | .dir _ => true
  | .file _ => false

/-- The entries of a directory; a file has none. -/
def entries : Node → List (String × Node)
  | .dir entries => entries
  | .file _ => []

/-- The entry of the given name. -/
def child? (n : Node) (name : String) : Option Node :=
  (n.entries.find? (·.1 == name)).map (·.2)

/-- What lies at the end of a way down. -/
def descend : Node → List String → Option Node
  | n, [] => some n
  | n, name :: names => (n.child? name).bind (·.descend names)

end Node

/-- Puts an entry into a directory, in the place of the former entry of its name if there is one. -/
def putEntry (name : String) (n : Node) : List (String × Node) → List (String × Node)
  | [] => [(name, n)]
  | (key, old) :: entries =>
    if key = name then (name, n) :: entries else (key, old) :: putEntry name n entries

/-- Puts a node at the end of a way down; ways through missing directories change nothing. -/
def putAt (n : Node) : List String → List (String × Node) → List (String × Node)
  | [], entries => entries
  | [name], entries => putEntry name n entries
  | name :: names, entries =>
    match entries.find? (·.1 == name) with
    | some (_, .dir inner) => putEntry name (.dir (putAt n names inner)) entries
    | _ => entries

/-- What lies at the end of a way down from the root. -/
def at? (t : FileTree) (names : List String) : Option Node := (Node.dir t.root).descend names

/-- The tree with a node put at the end of a way down from the root. -/
def put (t : FileTree) (names : List String) (n : Node) : FileTree :=
  { t with root := putAt n names t.root }

/-- A place in the tree: the names on the way to it, and what is there. -/
structure Place where
  names : List String
  node : Node

/-- One step of a path. Only a directory has a next step. -/
def step (t : FileTree) (here : Place) (piece : String) : Except Cause Place :=
  if !here.node.isDir then .error .notADirectory
  else if piece = "" ∨ piece = "." then .ok here
  else if piece = ".." then
    -- Above the root is the root itself.
    let names := here.names.dropLast
    match t.at? names with
    | some node => .ok ⟨names, node⟩
    | none => .error .notFound
  else
    match here.node.child? piece with
    | some node => .ok ⟨here.names ++ [piece], node⟩
    | none => .error .notFound

/-- The place where a path starts. -/
def startOf (t : FileTree) (p : Path) : Except Cause Place :=
  let names := if p.isAbsolute then [] else t.cwd
  match t.at? names with
  | some node => .ok ⟨names, node⟩
  | none => .error .notFound

/-- The place a path names. -/
def locate (t : FileTree) (p : Path) : Except Cause Place := do
  if p.text.isEmpty then .error .notFound
  p.pieces.foldlM (step t) (← startOf t p)

/-- There is something at the path. -/
def hasPath (t : FileTree) (p : Path) : Bool := (t.locate p).isOk

/-- There is a directory at the path. -/
def isDir (t : FileTree) (p : Path) : Bool :=
  match t.locate p with
  | .ok place => place.node.isDir
  | .error _ => false

/-- There is a file at the path. -/
def isFile (t : FileTree) (p : Path) : Bool :=
  match t.locate p with
  | .ok place => !place.node.isDir
  | .error _ => false

/-- The text of the file at a path. -/
def read (t : FileTree) (p : Path) : Except Cause String := do
  match (← t.locate p).node with
  | .file (some text) => .ok text
  | .file none => .error .invalidData
  | .dir _ => .error .isADirectory

/-- The absolute path of what is at a path, without detours. -/
def canonical (t : FileTree) (p : Path) : Except Cause Path := do
  let place ← t.locate p
  return ⟨"/" ++ "/".intercalate place.names⟩

/-- The entries of the directory at a path. -/
def list (t : FileTree) (p : Path) : List (String × Node) :=
  match t.locate p with
  | .ok place => place.node.entries
  | .error _ => []

/-- The character that ends the texts which are handed to the system, so no path can have it. -/
def terminator : Char := '\x00'

/-- The most bytes that a name can have. -/
def nameLimit : Nat := 255

/-- There can be an entry of the name in a directory. -/
def isNameable (name : String) : Bool :=
  name.utf8ByteSize ≤ nameLimit && !name.toList.contains terminator

/-- The place of the directory that holds the last piece of a path, and that piece. -/
def locateLast (t : FileTree) (p : Path) (pieces : List String) :
    Except Cause (Place × String) := do
  if p.text.isEmpty then .error .notFound
  let place ← pieces.dropLast.foldlM (step t) (← startOf t p)
  if place.node.isDir then return (place, pieces.getLast?.getD "")
  else .error .notADirectory

/-- Makes one directory, in a directory that is there. -/
def makeDir (t : FileTree) (p : Path) : Except Cause FileTree := do
  let pieces := (p.pieces.reverse.dropWhile (· = "")).reverse
  let (place, name) ← t.locateLast p pieces
  if name = "" ∨ name = "." ∨ name = ".." then .error .alreadyExists
  else if (place.node.child? name).isSome then .error .alreadyExists
  else if !isNameable name then .error .notFound
  else return t.put (place.names ++ [name]) (.dir [])

/-- Makes the first of the given directories. When it has no place yet, the others are made first;
those that could be made stay. -/
def makeAll (t : FileTree) : List Path → FileTree × Bool
  | [] => (t, false)
  | p :: ps =>
    if p.text.isEmpty then (t, true)
    else
      match t.makeDir p with
      | .ok t => (t, true)
      | .error .notFound =>
        match makeAll t ps with
        | (t, false) => (t, false)
        | (t, true) =>
          match t.makeDir p with
          | .ok t => (t, true)
          | .error _ => (t, t.isDir p)
      | .error _ => (t, t.isDir p)

/-- Makes a directory with all directories above it, and says whether it is there now. Nothing is
made for a path that cannot be handed to the system. -/
def makeDirs (t : FileTree) (p : Path) : FileTree × Bool :=
  if p.text.toList.contains terminator then (t, t.isDir p) else t.makeAll p.withParents

/-- Writes a file, in a directory that is there. -/
def write (t : FileTree) (p : Path) (text : String) : Except Cause FileTree := do
  let (place, name) ← t.locateLast p p.pieces
  if name = "" ∨ name = "." ∨ name = ".." then .error .isADirectory
  else if !isNameable name then .error .notFound
  else
    match place.node.child? name with
    | some (.dir _) => .error .isADirectory
    | some (.file _) | none => return t.put (place.names ++ [name]) (.file (some text))

end FileTree

end PageLint
