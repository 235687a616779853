/-!
# Log events

What the linter does is logged as it happens. An event has a level, a place in the program that it
comes from, a message, and named values.

## Main definitions

* `Log.Level`, `Log.Event`
* `Logged` — a result together with the events on the way to it
-/

namespace PageLint

namespace Log

/-- How urgent an event is, the most urgent level first. -/
inductive Level where
  | error
  | warn
  | info
  | debug
  | trace
deriving DecidableEq, Repr

/-- The levels are counted from one; none is counted zero. -/
def Level.rank : Level → Nat
  | .error => 1
  | .warn => 2
  | .info => 3
  | .debug => 4
  | .trace => 5

/-- The name of a level. -/
def Level.name : Level → String
  | .error => "ERROR"
  | .warn => "WARN"
  | .info => "INFO"
  | .debug => "DEBUG"
  | .trace => "TRACE"

/-- An event of the log. -/
structure Event where
  level : Level
  /-- The place in the program that the event comes from. -/
  origin : String
  message : String
  fields : List (String × String)
deriving DecidableEq, Repr

namespace Event

/-- The linter itself. -/
def linter : String := "polint::lint"

/-- The reader of fact files. -/
def facts : String := "polint::facts"

/-- The message, then each named value. -/
def text (e : Event) : String :=
  e.message ++ String.join (e.fields.map fun (name, value) => " " ++ name ++ "=" ++ value)

end Event

end Log

/-- A result together with the events on the way to it, in the order in which they happened. -/
structure Logged (α : Type) where
  value : α
  events : List Log.Event
deriving Repr

namespace Logged

/-- A result without events. -/
def pure {α : Type} (a : α) : Logged α := ⟨a, []⟩

/-- Goes on with a result; the events of both come one after the other. -/
def bind {α β : Type} (x : Logged α) (f : α → Logged β) : Logged β :=
  ⟨(f x.value).value, x.events ++ (f x.value).events⟩

instance : Monad Logged where
  pure := Logged.pure
  bind := Logged.bind

/-- Logs events. -/
def log (events : List Log.Event) : Logged Unit := ⟨(), events⟩

section

variable {α β : Type}

@[simp] theorem value_pure (a : α) : (Pure.pure a : Logged α).value = a := rfl

@[simp] theorem events_pure (a : α) : (Pure.pure a : Logged α).events = [] := rfl

@[simp] theorem value_bind (x : Logged α) (f : α → Logged β) :
    (x >>= f).value = (f x.value).value := rfl

@[simp] theorem events_bind (x : Logged α) (f : α → Logged β) :
    (x >>= f).events = x.events ++ (f x.value).events := rfl

@[simp] theorem events_log (events : List Log.Event) : (log events).events = events := rfl

theorem value_foldlM (f : β → α → Logged β) (b : β) (as : List α) :
    (as.foldlM f b).value = as.foldl (fun b a => (f b a).value) b := by
  induction as generalizing b with
  | nil => rfl
  | cons a as ih => exact ih (f b a).value

end

end Logged

end PageLint
