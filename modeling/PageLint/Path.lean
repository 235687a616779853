/-!
# Paths

A path is kept as it was written, because it is shown as it was written. Its parts are a view of it:
two paths with the same parts name the same place, though one may repeat separators, end in one, or
go through a directory itself.

## Main definitions

* `Path`, `Path.pieces`, `Path.parts` — a path, its text between separators, and its parts
* `Path.join`, `Path.parent?`, `Path.extension?`
* `Path.le` — the order of paths by their parts
* `Path.wayFrom` — the way from a directory to a path, part by part
-/

namespace PageLint

/-- A path as it was written; separators are slashes. -/
structure Path where
  text : String
deriving DecidableEq, Repr, Inhabited

namespace Path

/-- The texts between the separators; there is always a first one, which may be empty. -/
def pieces (p : Path) : List String := (p.text.toList.splitOn '/').map String.ofList

/-- The path starts at the root of the file tree. -/
def isAbsolute (p : Path) : Bool := p.text.toList.head? == some '/'

/-- A part of a path. -/
inductive Part where
  | root
  /-- The directory itself, which counts only at the beginning of a path. -/
  | here
  | up
  | name (s : String)
deriving DecidableEq, Repr

namespace Part

/-- The text of a part. -/
def text : Part → String
  | .root => "/"
  | .here => "."
  | .up => ".."
  | .name s => s

/-- Parts of one kind come together; names are ordered by their characters. -/
def le : Part → Part → Bool
  | .name s, .name t => decide (¬ t < s)
  | .name _, _ => false
  | _, .name _ => true
  | .up, .up => true
  | .up, _ => false
  | _, .up => true
  | .here, .root => false
  | _, _ => true

/-- The part that a piece between separators stands for, if any. -/
def ofPiece? (s : String) : Option Part :=
  if s = "" ∨ s = "." then none
  else if s = ".." then some .up
  else some (.name s)

end Part

/-- The parts of a path. -/
def parts (p : Path) : List Part :=
  match p.pieces with
  | [] => []
  | first :: rest =>
    let rest := rest.filterMap Part.ofPiece?
    if p.isAbsolute then .root :: rest
    else if first = "." then .here :: rest
    else (Part.ofPiece? first).toList ++ rest

/-- The order of lists of parts: by the first part that differs, and a list before its
extensions. -/
def partsLe : List Part → List Part → Bool
  | [], _ => true
  | _ :: _, [] => false
  | a :: as, b :: bs => if a = b then partsLe as bs else a.le b

/-- The order of paths by their parts. -/
def le (p q : Path) : Bool := partsLe p.parts q.parts

/-- The path from a directory on; an absolute path stays as it is. -/
def join (base p : Path) : Path :=
  if p.isAbsolute || base.text.isEmpty then p
  else if base.text.toList.getLast? = some '/' then ⟨base.text ++ p.text⟩
  else ⟨base.text ++ "/" ++ p.text⟩

/-- The path without its last part; the root and the empty path have none. -/
def parent? (p : Path) : Option Path :=
  -- Pieces that are no parts do not count, behind the last part and in front of it.
  let passed (s : String) : Bool := s = "" || s = "."
  match p.pieces with
  | [] => none
  | first :: rest =>
    match rest.reverse.dropWhile passed with
    | [] => if first = "" then none else some ⟨""⟩
    | _ :: above =>
      match (above.dropWhile passed).reverse with
      | [] => some ⟨if first = "" then "/" else first⟩
      | rest => some ⟨"/".intercalate (first :: rest)⟩

/-- A path and at most so many paths above it, from the path itself upwards. -/
def upwards : Nat → Path → List Path
  | 0, p => [p]
  | count + 1, p =>
    match p.parent? with
    | none => [p]
    | some q => p :: upwards count q

/-- A path and all paths above it, from the path itself upwards. Each is shorter than the one
before. -/
def withParents (p : Path) : List Path := upwards p.text.length p

/-- The last part, when it is a name. -/
def fileName? (p : Path) : Option String :=
  match p.parts.getLast? with
  | some (.name s) => some s
  | _ => none

/-- What follows the last dot of the last name; a name that only begins with a dot has none. -/
def extension? (p : Path) : Option String := do
  let name ← p.fileName?
  let reversed := name.toList.reverse
  let after := reversed.takeWhile (· ≠ '.')
  match reversed.dropWhile (· ≠ '.') with
  | '.' :: _ :: _ => some (String.ofList after.reverse)
  | _ => none

/-- The way from one list of parts to another: up for each part left of the base, then down. A base
that goes up itself leaves no way. -/
def wayFrom : (base path : List Part) → Option (List Part)
  | [], path => some path
  | base, [] => some (base.map fun _ => .up)
  | b :: base, a :: path =>
    if a = b then wayFrom base path
    -- Nothing says from where the base went up, so there is no way back down.
    else if b = .up then none
    else some (.up :: (base.map fun _ => .up) ++ a :: path)

end Path

end PageLint
