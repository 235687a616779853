import PageLint.Log.Event
import PageLint.PageObject
import PageLint.Pattern.Find
import PageLint.Shape.Document

/-!
# Fact files

A fact file is the JSON form of one page object. Inputs are paths or patterns below the root of the
repository; each gives its files in the order of their paths, and a file counts only where it is
found first.

## Main definitions

* `Facts.patternOf` — the pattern that an input stands for
* `Facts.expand` — the files of a list of inputs
* `Facts.load` — the page objects of a list of files
-/

namespace PageLint.Facts

/-- Why fact files cannot be read. -/
inductive Error where
  | badPattern (input : String) (fault : Pattern.Fault)
  | unreadable (path : Path) (cause : FileTree.Cause)
  | malformed (path : Path) (trouble : Shape.Trouble)
deriving DecidableEq, Repr

/-- The pattern that an input stands for. The root is part of it as it is written, so a character of
the root that means something in a pattern means it here too. -/
def patternOf (root : Path) (input : String) : Except Pattern.Fault Pattern :=
  Pattern.ofString (root.join ⟨input⟩).text

/-- The files that match an input, in the order of their paths. -/
def filesOf (t : FileTree) (root : Path) (input : String) : Except Error (List Path) :=
  match patternOf root input with
  | .error fault => .error (.badPattern input fault)
  -- A pattern can match directories too, and those hold no facts of their own.
  | .ok pattern => .ok (((pattern.find t).filter t.isFile).mergeSort Path.le)

/-- Adds the paths that are not in the list yet. Paths are compared by their parts. -/
def addNew (known : List Path) : List Path → List Path
  | [] => known
  | p :: ps =>
    if known.any (·.parts == p.parts) then addNew known ps else addNew (known ++ [p]) ps

/-- The log of an input that matches nothing. -/
def unmatched (input : String) : Log.Event :=
  ⟨.warn, Log.Event.facts, "input pattern matched no files", [("pattern", input)]⟩

/-- The files of a list of inputs, after those that are known already. -/
def expandFrom (t : FileTree) (root : Path) :
    List Path → List String → Logged (Except Error (List Path))
  | known, [] => pure (.ok known)
  | known, input :: inputs =>
    match filesOf t root input with
    | .error e => pure (.error e)
    | .ok files => do
      if files.isEmpty then Logged.log [unmatched input]
      expandFrom t root (addNew known files) inputs

/-- The files of a list of inputs. -/
def expand (t : FileTree) (root : Path) (inputs : List String) :
    Logged (Except Error (List Path)) :=
  expandFrom t root [] inputs

/-- The page object of a fact file. -/
def loadOne (t : FileTree) (path : Path) : Except Error PageObject :=
  match t.read path with
  | .error cause => .error (.unreadable path cause)
  | .ok text =>
    match Shape.parse PageObject.shape text with
    | .error trouble => .error (.malformed path trouble)
    | .ok p => .ok p

/-- The page objects of a list of fact files. -/
def load (t : FileTree) (paths : List Path) : Logged (Except Error (List PageObject)) :=
  match paths.mapM (loadOne t) with
  | .error e => pure (.error e)
  | .ok ps => do
    Logged.log
      [⟨.debug, Log.Event.facts, "loaded page object facts", [("count", toString ps.length)]⟩]
    return .ok ps

end PageLint.Facts
