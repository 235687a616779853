/-!
# Command line arguments

The first argument is the command. Its options stand before or after its inputs; an option that
takes a value has it in the next argument, or after an equals sign. Arguments are read from the
left, so help is given as soon as it is asked for, unless something before it is wrong.

## Main definitions

* `CommandLine.Command` — what the program is asked to do
* `CommandLine.Request` — a command, a question about the program, or a mistake
* `CommandLine.parse` — the request of a list of arguments
-/

namespace PageLint.CommandLine

/-- The options of both commands that read a configuration. -/
structure Setting where
  repoRoot : Option String
  config : Option String
  output : Option String
deriving DecidableEq, Repr

/-- What the program is asked to do. -/
inductive Command where
  | version
  | rules (setting : Setting)
  | lint (inputs : List String) (setting : Setting) (disable throwOnError noReport : Bool)
      (reportOutput : Option String)
deriving DecidableEq, Repr

/-- The files and patterns that a command is given. -/
def Command.inputs : Command → List String
  | .lint inputs _ _ _ _ _ => inputs
  | .version | .rules _ => []

/-- A command, a question about the program, or a mistake. -/
inductive Request where
  | command (c : Command)
  | help
  | nameAndVersion
  | mistake
deriving DecidableEq, Repr

/-- The options of a command: those that take a value, and those that do not. -/
structure Options where
  valued : List String
  flags : List String
  takesInputs : Bool

/-- What has been read of a command. -/
structure Reading where
  values : List (String × String)
  flags : List String
  inputs : List String

namespace Reading

/-- The value of an option. -/
def value? (r : Reading) (name : String) : Option String :=
  (r.values.find? (·.1 == name)).map (·.2)

/-- The option was given. -/
def has (r : Reading) (name : String) : Bool := r.flags.contains name

end Reading

/-- What an argument asks for. -/
inductive Argument where
  /-- The end of the options. -/
  | rest
  | option (name : String) (value : Option String)
  /-- One or more options of one letter. -/
  | letters (cs : List Char)
  | plain (s : String)

/-- What an argument asks for; a hyphen alone is a plain one. -/
def Argument.ofString (s : String) : Argument :=
  match s.toList with
  | ['-', '-'] => .rest
  | '-' :: '-' :: cs =>
    let name := String.ofList (cs.takeWhile (· ≠ '='))
    match cs.dropWhile (· ≠ '=') with
    | [] => .option name none
    | _ :: value => .option name (some (String.ofList value))
  | '-' :: c :: cs => .letters (c :: cs)
  | _ => .plain s

/-- Why the reading of a command ends early. -/
inductive Stop where
  | help
  | mistake

/-- Takes an input. -/
def takeInput (o : Options) (r : Reading) (s : String) : Except Stop Reading :=
  if o.takesInputs then .ok { r with inputs := r.inputs ++ [s] } else .error .mistake

/-- Takes the value of an option, which may be given once. -/
def takeValue (r : Reading) (name value : String) : Except Stop Reading :=
  if (r.value? name).isSome then .error .mistake
  else .ok { r with values := r.values ++ [(name, value)] }

/-- Reads the arguments of a command; `waiting` is an option that waits for its value. -/
def read (o : Options) : Reading → (waiting : Option String) → List String → Except Stop Reading
  | r, none, [] => .ok r
  | _, some _, [] => .error .mistake
  | r, waiting, s :: args =>
    match waiting, Argument.ofString s with
    | some name, .plain value => do read o (← takeValue r name value) none args
    | some _, _ => .error .mistake
    | none, .plain s => do read o (← takeInput o r s) none args
    -- Behind the end of the options even hyphens are plain.
    | none, .rest => args.foldlM (takeInput o) r
    | none, .letters cs => if cs.head? = some 'h' then .error .help else .error .mistake
    | none, .option name value =>
      if o.valued.contains name then
        match value with
        | some value => do read o (← takeValue r name value) none args
        | none => if (r.value? name).isSome then .error .mistake else read o r (some name) args
      else if value.isSome then .error .mistake
      else if name = "help" then .error .help
      else if o.flags.contains name && !r.has name then
        read o { r with flags := r.flags ++ [name] } none args
      else .error .mistake

/-- The options of the commands that read a configuration. -/
def settingOptions : List String := ["repo-root", "config", "output"]

/-- The options of the command that lints. -/
def lintOptions : Options where
  valued := settingOptions ++ ["report-output"]
  flags := ["disable", "throw-on-error", "no-report"]
  takesInputs := true

/-- The options of the command that lists the rules. -/
def rulesOptions : Options where
  valued := settingOptions
  flags := []
  takesInputs := false

/-- The options of the command that tells the version. -/
def versionOptions : Options where
  valued := []
  flags := []
  takesInputs := false

/-- The setting that was read. -/
def Reading.setting (r : Reading) : Setting :=
  ⟨r.value? "repo-root", r.value? "config", r.value? "output"⟩

/-- The request of a command that reads its arguments and goes on with them. -/
def parseWith (o : Options) (args : List String) (finish : Reading → Request) : Request :=
  match read o ⟨[], [], []⟩ none args with
  | .ok r => finish r
  | .error .help => .help
  | .error .mistake => .mistake

/-- The commands, and help. -/
def commandNames : List String := ["version", "lint", "rules", "help"]

/-- The request of a list of arguments. -/
def parse : List String → Request
  | [] => .mistake
  | "version" :: args => parseWith versionOptions args fun _ => .command .version
  | "rules" :: args => parseWith rulesOptions args fun r => .command (.rules r.setting)
  | "lint" :: args =>
    parseWith lintOptions args fun r =>
      if r.inputs.isEmpty then .mistake
      else
        .command <|
          .lint r.inputs r.setting (r.has "disable") (r.has "throw-on-error")
            (r.has "no-report") (r.value? "report-output")
  | ["help"] => .help
  | ["help", name] => if commandNames.contains name then .help else .mistake
  | "help" :: _ => .mistake
  | s :: _ =>
    match Argument.ofString s with
    | .option "help" none => .help
    | .option "version" none => .nameAndVersion
    | .letters ('h' :: _) => .help
    | .letters ('V' :: _) => .nameAndVersion
    | _ => .mistake

end PageLint.CommandLine
