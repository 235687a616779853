import PageLint.CommandLine.Execute
import PageLint.FileTree.Changes

/-!
# The program

What a command can come to see of the file system is read into a file tree first; then the command
is executed on the tree, and what it changed there is written back. Directories are surveyed for
names, and of the files only those are read whose texts the command will ask for.

## Main definitions

* `Disk.treeFor` — the file tree that a command needs
* `main` — the program
-/

namespace PageLint.Disk

open FileTree (Node)

/-- How far down directories are surveyed; links could lead round in circles. -/
def depth : Nat := 64

/-- The absolute path of what is at a path, if there is anything. -/
def real? (path : String) : IO (Option Path) := do
  try
    return some ⟨(← IO.FS.realPath path).toString⟩
  catch _ => return none

/-- The names on the way to an absolute path. -/
def names (path : Path) : List String := path.pieces.filter fun piece => !piece.isEmpty

/-- A directory with the names of everything below it, to a depth; files are left without texts. -/
def survey : (depth : Nat) → (path : String) → IO Node
  | 0, _ => return .dir []
  | depth + 1, path => do
    let mut entries : Array (String × Node) := #[]
    try
      for entry in ← (← IO.FS.realPath path).readDir do
        let node ←
          if ← entry.path.isDir then survey depth entry.path.toString else pure (.file none)
        entries := entries.push (entry.fileName, node)
    catch _ => pure ()
    return .dir entries.toList

/-- The tree with a directory surveyed to a depth. -/
def graft (t : FileTree) (depth : Nat) (path : Path) : IO FileTree := do
  match ← real? path.text with
  | none => return t
  | some path =>
    let node ← survey depth path.text
    match names path with
    | [] => return { t with root := node.entries }
    | way => return (t.makeDirs path).1.put way node

/-- The tree with the text of a file, if there is one. A directory that was not surveyed is surveyed
for it. -/
def fill (t : FileTree) (path : Path) : IO FileTree := do
  let above := path.parent?.getD ⟨"."⟩
  let t ← if t.hasPath path || t.hasPath above then pure t else graft t 1 above
  match t.locate path with
  | .ok ⟨way, .file _⟩ =>
    let text ←
      try
        pure (String.fromUTF8? (← IO.FS.readBinFile path.text))
      catch _ => pure none
    return t.put way (.file text)
  | _ => return t

/-- The directory above all files that a pattern can match. -/
def baseOf (pattern : Path) : Path :=
  let isWild (piece : String) : Bool := piece.toList.any fun c => c = '*' || c = '?' || c = '['
  let plain := pattern.pieces.takeWhile (!isWild ·)
  match if plain.length = pattern.pieces.length then plain.dropLast else plain with
  | [] => ⟨"."⟩
  | [""] => ⟨"/"⟩
  | above => ⟨"/".intercalate above⟩

/-- The directories from the root of the file system down to a path, surveyed for names. -/
def around (start : String) : IO FileTree := do
  let cwd := (← real? ".").getD ⟨"/"⟩
  let mut t : FileTree := ⟨[], names cwd⟩
  for path in cwd.withParents.reverse ++ ((← real? start).map (·.withParents.reverse)).getD [] do
    t ← graft t 1 path
  return t

/-- The file tree that a command needs. -/
def treeFor (flags : Config.Flags) (inputs : List String) : IO FileTree := do
  let start := flags.root.getD "."
  let mut t ← around start
  let root := Config.detectRoot t ⟨start⟩
  unless inputs.isEmpty do t ← graft t depth root
  for input in inputs do
    let pattern := root.join ⟨input⟩
    let base := baseOf pattern
    unless t.hasPath base do t ← graft t depth base
    unless t.hasPath pattern do t ← fill t pattern
  for file in Config.fileNames ++ flags.file.toList do
    t ← fill t (root.join ⟨file⟩)
  let .ok e := Config.effective t flags | return t
  let .ok paths := (Facts.expand t e.root inputs).value | return t
  for path in paths do t ← fill t path
  let .ok ps := (Facts.load t paths).value | return t
  for p in ps do t ← fill t (e.root.join ⟨p.path⟩)
  fill t (e.config.reportTarget (some e.root))

/-- Writes a change back. -/
def apply : FileTree.Change → IO Unit
  | .dir way => IO.FS.createDirAll ("/" ++ "/".intercalate way)
  | .file way text => IO.FS.writeFile ("/" ++ "/".intercalate way) text

end PageLint.Disk

/-- The program: it answers its arguments on both outputs and by its exit code. -/
def main (args : List String) : IO UInt32 := do
  let surroundings : PageLint.CommandLine.Surroundings :=
    ⟨(← IO.getEnv "NO_COLOR").isNone, ← IO.getEnv "POLINT_LOG"⟩
  let tree ←
    match PageLint.CommandLine.parse args with
    | .command c => PageLint.Disk.treeFor c.flags c.inputs
    | _ => pure ⟨[], []⟩
  let answer := PageLint.CommandLine.run surroundings tree args
  IO.eprint (answer.errorOutput surroundings)
  try
    (tree.changes answer.tree).forM PageLint.Disk.apply
  catch e =>
    IO.eprintln e.toString
    return PageLint.CommandLine.cannotWork.toUInt32
  IO.print answer.output
  return answer.exit.toUInt32
