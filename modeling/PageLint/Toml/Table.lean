import PageLint.Toml.Basic

/-!
# Building tables

A TOML document is a sequence of statements that fill one table. How a table came about decides what
may still be said about it: a table that was opened by a header is complete except through further
headers, one that a header only passed through may still be opened, and one that a dotted key made
may be filled by dotted keys alone.

## Main definitions

* `Toml.Body`, `Toml.Item` — a table under construction
* `Toml.Body.assign` — a key is given a value
* `Toml.Body.openTable`, `Toml.Body.openItem` — a header of a table, or of an array of tables
-/

namespace PageLint.Toml

/-- How a table came about. -/
inductive Origin where
  /-- A header opened it. -/
  | header
  /-- A header passed through it. -/
  | passed
  /-- A dotted key made it. -/
  | dotted
deriving DecidableEq, Repr

mutual

/-- A table under construction. -/
inductive Body where
  | mk (origin : Origin) (entries : List (String × Item))

/-- What a key stands for. -/
inductive Item where
  | value (v : Toml)
  | table (body : Body)
  /-- An array of tables, the last one first. -/
  | tables (bodies : List Body)

end

namespace Body

/-- How the table came about. -/
def origin : Body → Origin
  | .mk origin _ => origin

/-- The entries of the table. -/
def entries : Body → List (String × Item)
  | .mk _ entries => entries

/-- A table that a header opened. -/
def empty : Body := .mk .header []

/-- What a key stands for. -/
def get? (b : Body) (key : String) : Option Item := (b.entries.find? (·.1 == key)).map (·.2)

/-- The table with a key set to something, in its former place if it had one. -/
def set (b : Body) (key : String) (item : Item) : Body :=
  if b.entries.any (·.1 == key) then
    .mk b.origin (b.entries.map fun e => if e.1 = key then (key, item) else e)
  else .mk b.origin (b.entries ++ [(key, item)])

/-- Changes the table at the end of a way of keys. Missing tables on the way are made; of an array
of tables the last one is meant. A way of dotted keys may not lead through a table that a header
opened. -/
def modify (dotted : Bool) (f : Body → Option Body) : List String → Body → Option Body
  | [], b => f b
  | key :: keys, b =>
    match b.get? key with
    | none => do
      let made ← modify dotted f keys (.mk (if dotted then .dotted else .passed) [])
      return b.set key (.table made)
    | some (.value _) => none
    | some (.table inner) =>
      -- Such a table is complete, and dotted keys may not add to it from outside.
      if dotted && inner.origin == .header then none
      else do return b.set key (.table (← modify dotted f keys inner))
    | some (.tables []) => none
    | some (.tables (last :: before)) => do
      return b.set key (.tables ((← modify dotted f keys last) :: before))

/-- Gives a key a value, once. The way to the key may be dotted, and then has to end in a table of
dotted keys. -/
def assign (keys : List String) (key : String) (v : Toml) (b : Body) : Option Body :=
  Body.modify true
    (fun b =>
      if (b.origin == .dotted) == keys.isEmpty then none
      else if (b.get? key).isSome then none
      else some (b.set key (.value v)))
    keys b

/-- Opens a table by its header, once; other headers may have passed through it. -/
def openTable (keys : List String) (key : String) (b : Body) : Option Body :=
  Body.modify false
    (fun b =>
      match b.get? key with
      | none => some (b.set key (.table empty))
      | some (.table inner) =>
        if inner.origin = .passed then some (b.set key (.table (.mk .header inner.entries)))
        else none
      | some _ => none)
    keys b

/-- Opens a further item of an array of tables. -/
def openItem (keys : List String) (key : String) (b : Body) : Option Body :=
  Body.modify false
    (fun b =>
      match b.get? key with
      | none => some (b.set key (.tables [empty]))
      | some (.tables bodies) => some (b.set key (.tables (empty :: bodies)))
      | some _ => none)
    keys b

mutual

/-- The value of a finished table. -/
def toToml : Body → Toml
  | .mk _ entries => .table (entriesToToml entries)

/-- The entries of a finished table. -/
def entriesToToml : List (String × Item) → List (String × Toml)
  | [] => []
  | (key, item) :: entries => (key, itemToToml item) :: entriesToToml entries

/-- The value of what a key stands for. -/
def itemToToml : Item → Toml
  | .value v => v
  | .table body => toToml body
  | .tables bodies => .array (bodiesToToml bodies).reverse

/-- The values of tables in an array. -/
def bodiesToToml : List Body → List Toml
  | [] => []
  | body :: bodies => toToml body :: bodiesToToml bodies

end

end Body

end PageLint.Toml
