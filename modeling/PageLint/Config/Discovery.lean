import PageLint.Config
import PageLint.FileTree
import PageLint.Shape.Document
import PageLint.Toml.Parser
import PageLint.Yaml.Dialect

/-!
# Finding the configuration

The root of a repository is the closest directory upwards that holds a configuration or a version
control directory. Its configuration may be written in one of three formats, told by the extension
of the file; command line flags come before it.

## Main definitions

* `Config.detectRoot` — the root of the repository
* `Config.ofFile`, `Config.load` — the configuration of a file, or of a directory
* `Config.effective` — the configuration that holds after flags, file and defaults
-/

namespace PageLint.Config

/-- Why a configuration cannot be read. -/
inductive Error where
  | unreadable (path : Path) (cause : FileTree.Cause)
  | json (path : Path) (trouble : Shape.Trouble)
  | toml (path : Path)
  | yaml (path : Path)
deriving DecidableEq, Repr

/-- The names a configuration may have, in the order of preference. -/
def fileNames : List String := ["polint.json", "polint.toml", "polint.yaml", "polint.yml"]

/-- The directory that marks the root of a repository. -/
def repositoryMark : String := ".git"

/-- The directory holds a configuration or the mark of a repository. -/
def isRoot (t : FileTree) (dir : Path) : Bool :=
  (fileNames ++ [repositoryMark]).any fun name => t.hasPath (dir.join ⟨name⟩)

/-- The root of the repository: the first such directory from the start upwards, or the start. -/
def detectRoot (t : FileTree) (start : Path) : Path :=
  let start :=
    match t.canonical start with
    | .ok p => p
    -- A start that is not there is searched from as it was written.
    | .error _ => start
  (start.withParents.find? (isRoot t)).getD start

/-- The configuration of a text in the format that the extension of its path tells. -/
def parse (path : Path) (text : String) : Except Error Config :=
  match path.extension? with
  | some "toml" =>
    match (Toml.ofString? text).map (Shape.read Toml.dialect shape) with
    | some (.ok c) => .ok c
    | _ => .error (.toml path)
  | some "yaml" | some "yml" =>
    match Yaml.read? shape text with
    | some c => .ok c
    | none => .error (.yaml path)
  | _ =>
    match Shape.parse shape text with
    | .ok c => .ok c
    | .error trouble => .error (.json path trouble)

/-- The configuration of a file. -/
def ofFile (t : FileTree) (path : Path) : Except Error Config :=
  match t.read path with
  | .ok text => parse path text
  | .error cause => .error (.unreadable path cause)

/-- The configuration of a directory, if there is one. -/
def load (t : FileTree) (dir : Path) : Except Error (Option Config) :=
  match (fileNames.map fun name => dir.join ⟨name⟩).find? t.hasPath with
  | some path => some <$> ofFile t path
  | none => .ok none

/-- What the command line says about the configuration. -/
structure Flags where
  root : Option String
  /-- The path of the configuration, relative to the root. -/
  file : Option String
  disable : Option Bool
  writeReport : Option Bool
  throwOnError : Option Bool
  reportPath : Option String
deriving DecidableEq, Repr

/-- The configuration that holds, and whether it comes from a file. -/
structure Effective where
  root : Path
  found : Bool
  config : Config

/-- A configuration with what the command line says in place of what it says. -/
def Flags.apply (f : Flags) (c : Config) : Config :=
  { c with
    disable := f.disable.getD c.disable
    writeReport := f.writeReport.getD c.writeReport
    throwOnError := f.throwOnError.getD c.throwOnError
    reportPath := f.reportPath.getD c.reportPath }

/-- The configuration that holds: flags come before the file, and the file before the defaults. -/
def effective (t : FileTree) (f : Flags) : Except Error Effective := do
  let root := detectRoot t ⟨f.root.getD "."⟩
  let loaded ←
    match f.file with
    | some file => some <$> ofFile t (root.join ⟨file⟩)
    | none => load t root
  return ⟨root, loaded.isSome, f.apply (loaded.getD default)⟩

end PageLint.Config
