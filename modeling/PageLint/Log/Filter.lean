import PageLint.Log.Event
import PageLint.Text.Blank

/-!
# Log filters

A filter is a list of directives between commas. A directive lets events through up to a level, from
one place of the program or from all, and it may ask for a value that the event has. Of the
directives that concern an event the closest one decides; without any, the event is dropped.

A directive can also be bound to a span of the work, by the name of the span or by a value that is
recorded with it. The linter opens no spans, so such a directive concerns no event; but it makes no
filter unreadable.

## Main definitions

* `Log.Directive`, `Log.Filter`
* `Log.Filter.allows` — the filter lets an event through
* `Log.Filter.ofText?` — the filter of a text
-/

namespace PageLint.Log

/-- Lets events through up to a rank, from the places that begin with a text, if they have a value
of the given name. -/
structure Directive where
  origin : Option String
  field : Option String
  /-- The directive holds only inside of a span. -/
  bound : Bool
  rank : Nat
deriving DecidableEq, Repr

/-- The event has a value of the name. Its message is one of its values. -/
def Event.hasField (e : Event) (name : String) : Bool :=
  name == "message" || e.fields.any (·.1 == name)

namespace Directive

/-- The directive concerns the event. -/
def concerns (d : Directive) (e : Event) : Bool :=
  !d.bound && d.origin.all (·.toList.isPrefixOf e.origin.toList) && d.field.all e.hasField

/-- How closely a directive describes a place. -/
def weight (d : Directive) : Nat :=
  match d.origin with
  | none => 0
  | some origin => origin.length + 1

/-- The directive describes events more closely than another one: by its place, and if the places
are the same, by the value it asks for. -/
def closer (d other : Directive) : Bool :=
  other.weight < d.weight ||
    other.weight == d.weight &&
      match other.field, d.field with
      | none, some _ => true
      | some name, some name' => decide (name < name')
      | _, none => false

end Directive

/-- A list of directives. -/
abbrev Filter := List Directive

namespace Filter

/-- The closest directive for an event; of two that are equally close, the later one. -/
def closest (e : Event) : Filter → Option Directive
  | [] => none
  | d :: ds =>
    match closest e ds with
    | some best => if d.concerns e && d.closer best then some d else some best
    | none => if d.concerns e then some d else none

/-- The filter lets the event through. -/
def allows (f : Filter) (e : Event) : Bool :=
  match f.closest e with
  | some d => e.level.rank ≤ d.rank
  | none => false

/-! ## Reading -/

/-- The rank of all events. -/
def allRanks : Nat := Level.trace.rank

/-- The number that is written in digits, with or without a plus sign. -/
def number? (cs : List Char) : Option Nat :=
  let digits := if cs.head? = some '+' then cs.tail else cs
  if digits.isEmpty || !digits.all Char.isDigit then none
  else some (digits.foldl (fun n c => n * 10 + (c.toNat - '0'.toNat)) 0)

/-- The rank of a level, by its name in any case or by its number. -/
def rankOf? (cs : List Char) : Option Nat :=
  match number? cs with
  | some n => if n ≤ allRanks then some n else none
  | none =>
    let name := String.ofList (cs.map Char.toUpper)
    if name = "OFF" then some 0
    else
      ([.error, .warn, .info, .debug, .trace].find? fun l : Level => l.name == name).map (·.rank)

/-- The rank that is written behind an equals sign; all ranks if nothing is written there. -/
def rankAfter? (level : List Char) : Option Nat :=
  if level.isEmpty then some allRanks else rankOf? level

/-- The rank at the end of a directive, with its equals sign if there is one. -/
def rankAtEnd? : List Char → Option Nat
  | [] => some allRanks
  | '=' :: level => rankAfter? level
  | _ => none

/-- The directive for a place whose further conditions follow an opening bracket: the name of a
span, or a name for a value and maybe the value itself, between braces. A value is recorded with a
span only. -/
def conditional? (origin : Option String) (cs : List Char) : Option Directive :=
  let inName (c : Char) : Bool := c ≠ ']' && c ≠ '\x7b'
  let name := cs.takeWhile inName
  match cs.drop name.length with
  | ']' :: level => (rankAtEnd? level).map (⟨origin, none, true, ·⟩)
  | '\x7b' :: cs =>
    let field := cs.takeWhile (· ≠ '\x7d')
    let wanted := field.takeWhile (· ≠ '=')
    match cs.drop field.length with
    | '\x7d' :: ']' :: level =>
      if field.isEmpty then none
      else
        let bound := !name.isEmpty || wanted.length < field.length
        (rankAtEnd? level).map (⟨origin, some (String.ofList wanted), bound, ·⟩)
    | _ => none
  | _ => none

/-- A character that a place or a level may begin with. -/
def beginsDirective (c : Char) : Bool := c.isAlphanum || c = '-' || c = ':' || c = '_'

/-- The directive of a text. A level alone is for all places, a place alone for all levels. -/
def directive? : List Char → Option Directive
  | [] => none
  | '[' :: cs => conditional? none cs
  | c :: cs =>
    if !beginsDirective c then none
    else
      let origin := (c :: cs).takeWhile fun c => c ≠ '=' && c ≠ '['
      match (c :: cs).drop origin.length with
      | '=' :: level => (rankAfter? level).map (⟨some (String.ofList origin), none, false, ·⟩)
      | '[' :: cs => conditional? (some (String.ofList origin)) cs
      | _ =>
        -- A place that is called like a level cannot be meant alone.
        match rankOf? origin with
        | some rank => some ⟨none, none, false, rank⟩
        | none => some ⟨some (String.ofList origin), none, false, allRanks⟩

/-- The characters without the blanks around them. -/
def trimmed (cs : List Char) : List Char :=
  ((cs.dropWhile Text.isBlank).reverse.dropWhile Text.isBlank).reverse

/-- The filter of a text, if all its directives can be read. -/
def ofText? (s : String) : Option Filter :=
  ((s.toList.splitOn ',').filter fun part => !part.isEmpty).mapM fun part =>
    directive? (trimmed part)

/-- The filter that lets information through, from all places. -/
def standard : Filter := [⟨none, none, false, Level.info.rank⟩]

/-- The filter of an optional text; the standard one if there is none, or none can be read. -/
def ofSetting (setting : Option String) : Filter := (setting.bind ofText?).getD standard

end Filter

end PageLint.Log
