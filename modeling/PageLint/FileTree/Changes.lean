import PageLint.FileTree

/-!
# Changes of file trees

## Main definitions

* `FileTree.Change` — a directory or a file that is new or different
* `FileTree.changes` — what differs in a tree that came out of another one
-/

namespace PageLint.FileTree

/-- A directory or a file that is new or different, by the names on the way to it. -/
inductive Change where
  | dir (names : List String)
  | file (names : List String) (text : String)
deriving DecidableEq, Repr

mutual

/-- What is new or different at a node, given what was there. -/
def changesAt (names : List String) (old : Option Node) : Node → List Change
  | .file none => []
  | .file (some text) =>
    match old with
    | some (.file (some before)) => if before = text then [] else [.file names text]
    | _ => [.file names text]
  | .dir entries =>
    match old with
    | some (.dir before) => changesIn names before entries
    | _ => .dir names :: changesIn names [] entries

/-- What is new or different among the entries of a directory. -/
def changesIn (names : List String) (old : List (String × Node)) :
    List (String × Node) → List Change
  | [] => []
  | (name, node) :: entries =>
    let before := (old.find? (·.1 == name)).map (·.2)
    changesAt (names ++ [name]) before node ++ changesIn names old entries

end

/-- What differs in a tree that came out of another one; directories come before what they hold. -/
def changes (before after : FileTree) : List Change := changesIn [] before.root after.root

end PageLint.FileTree
