import CrudRoutes.Time.Duration
import CrudRoutes.Text.Quote
import CrudRoutes.Text.Blank

/-!
Commands and their flags, and reading a command line against them.

A command has flags and may have subcommands. A flag is written `-name` or `--name`, its value
after `=` or as the next argument; a switch takes no value unless given with `=`. Flags may
stand before, between and after positional arguments, and `--` ends them. A positional argument
that names a subcommand hands the rest of the line to it. Every command has the switch
`--help` (`-h`).

A flag with an environment variable takes the variable's value before the line is read, and the
line wins: a text flag takes it even when it is empty, other flags only a non-empty one (an
empty value turns a switch off). A list flag collects values, each split at commas and trimmed.

Problems are reported in the words of the usual flag syntax: `flag provided but not defined:
-x`, `flag needs an argument: -x`, `invalid value "v" for flag -x: why`.
-/

namespace CrudRoutes.Cli

/-- The kinds of flag values. -/
inductive FlagKind where
  | text
  | switch
  | duration
  | texts
  deriving BEq, Inhabited

/-- A flag of a command. -/
structure Flag where
  name : String
  kind : FlagKind := .text
  value : String := ""
  usage : String := ""
  env : String := ""
  required : Bool := false
  deriving Inhabited

/-- A command: its name, usage line, argument usage, flags and subcommands. -/
structure Command where
  name : String
  usage : String := ""
  argsUsage : String := ""
  flags : List Flag := []
  commands : List Command := []
  hideHelp : Bool := false
  deriving Inhabited

/-- The value of a flag. -/
inductive Setting where
  | text (s : String)
  | switch (b : Bool)
  | duration (nanos : Int)
  | texts (xs : List String)
  deriving Inhabited, BEq

def helpFlag : Flag := { name := "help", kind := .switch, usage := "show help" }

def helpCommandName : String := "help"

def helpCommand : Command :=
  { name := helpCommandName, usage := "Shows a list of commands or help for one command",
    argsUsage := "[command]", hideHelp := true }

def Command.hasName (c : Command) (n : String) : Bool :=
  c.name == n || (c.name == helpCommandName && n == "h")

def Command.subcommands (c : Command) : List Command :=
  if c.commands.isEmpty then [] else c.commands ++ [helpCommand]

def Command.sub? (c : Command) (n : String) : Option Command :=
  c.subcommands.find? (·.hasName n)

def Command.visibleFlags (c : Command) : List Flag :=
  if c.hideHelp then c.flags else c.flags ++ [helpFlag]

def Command.flag? (c : Command) (n : String) : Option Flag :=
  c.visibleFlags.find? fun f => f.name == n || (f.name == "help" && n == "h")

def parseSwitch (s : String) : Option Bool :=
  if ["1", "t", "T", "TRUE", "true", "True"].contains s then some true
  else if ["0", "f", "F", "FALSE", "false", "False"].contains s then some false
  else none

/-- The state of reading a command line. -/
structure Reading where
  settings : List (String × Setting) := []
  given : List String := []
  args : List String := []
  deriving Inhabited

def Flag.parseValue (f : Flag) (raw : String) : Except String Setting :=
  match f.kind with
  | .text => .ok (.text raw)
  | .switch =>
    match parseSwitch raw with
    | some b => .ok (.switch b)
    | none => .error ("strconv.ParseBool: parsing " ++ Text.quoted raw ++ ": invalid syntax")
  | .duration => (Duration.parse raw).map Setting.duration
  | .texts => .ok (.texts ((raw.splitOn ",").map Text.trimBlanks))

def Reading.record (r : Reading) (f : Flag) (s : Setting) : Reading :=
  let again := r.given.contains f.name
  let s := match s, (r.settings.find? (·.1 == f.name)).map (·.2) with
    | .texts xs, some (.texts earlier) => if again then Setting.texts (earlier ++ xs) else .texts xs
    | s, _ => s
  { r with settings := (r.settings.filter (·.1 != f.name)) ++ [(f.name, s)],
           given := if again then r.given else r.given ++ [f.name] }

def Reading.apply (r : Reading) (f : Flag) (raw : String) : Except String Reading :=
  match f.parseValue raw with
  | .ok s => .ok (r.record f s)
  | .error why =>
    if f.kind == .switch then
      .error ("invalid boolean value " ++ Text.quoted raw ++ " for -" ++ f.name ++ ": " ++ why)
    else .error ("invalid value " ++ Text.quoted raw ++ " for flag -" ++ f.name ++ ": " ++ why)

def Flag.defaultSetting (f : Flag) : Setting :=
  match f.kind with
  | .text => .text f.value
  | .switch => .switch (f.value == "true")
  | .duration => .duration ((Duration.parse f.value).toOption.getD 0)
  | .texts => .texts []

def Command.read (c : Command) (line : List String) (r : Reading) : Except String Reading :=
  match line with
  | [] => pure r
  | a :: rest =>
    if a == "--" then pure { r with args := r.args ++ rest }
    else if a.startsWith "-" && a.length > 1 then do
      let body := if a.startsWith "--" then (a.drop 2).toString else (a.drop 1).toString
      if body.isEmpty || body.startsWith "-" || body.startsWith "=" then
        throw ("bad flag syntax: " ++ a)
      let (name, inline) := match body.splitOn "=" with
        | n :: v :: more => (n, some ("=".intercalate (v :: more)))
        | _ => (body, none)
      let some f := c.flag? name |
        if name == "help" || name == "h" then throw "flag: help requested"
        else throw ("flag provided but not defined: -" ++ name)
      if f.kind == .switch then
        c.read rest (← r.apply f (inline.getD "true"))
      else match inline with
        | some v => c.read rest (← r.apply f v)
        | none =>
          match rest with
          | v :: more => c.read more (← r.apply f v)
          | [] => throw ("flag needs an argument: -" ++ name)
    else if (c.sub? a).isSome then pure { r with args := r.args ++ a :: rest }
    else c.read rest { r with args := r.args ++ [a] }
termination_by line.length
decreasing_by all_goals simp only [List.length_cons]; omega

def FlagKind.typeName : FlagKind → String
  | .text => "string"
  | .switch => "bool"
  | .duration => "time.Duration"
  | .texts => "[]string"

def Reading.applyEnv (r : Reading) (f : Flag) (env : String → Option String) :
    Except String Reading :=
  if f.env.isEmpty then pure r else
  match env f.env with
  | none => pure r
  | some v =>
    let raw := if v.isEmpty && f.kind == .switch then "false" else v
    if raw.isEmpty && f.kind != .text then pure r
    else match f.parseValue raw with
      | .ok s => pure (r.record f s)
      | .error why =>
        throw ("could not parse " ++ Text.quoted raw ++ " as " ++ f.kind.typeName ++
          " value from environment variable " ++ Text.quoted f.env ++ " for flag " ++ f.name ++
          ": " ++ why)

def Command.readLine (c : Command) (env : String → Option String) (line : List String) :
    Except String Reading := do
  let start : Reading := { settings := c.flags.map fun f => (f.name, f.defaultSetting) }
  let fromEnv ← c.flags.foldlM (fun r f => r.applyEnv f env) start
  c.read line fromEnv

namespace Reading

def setting? (r : Reading) (name : String) : Option Setting :=
  (r.settings.find? (·.1 == name)).map (·.2)

def text (r : Reading) (name : String) : String :=
  match r.setting? name with
  | some (.text s) => s
  | _ => ""

def switch (r : Reading) (name : String) : Bool :=
  match r.setting? name with
  | some (.switch b) => b
  | _ => false

def duration (r : Reading) (name : String) : Int :=
  match r.setting? name with
  | some (.duration d) => d
  | _ => 0

def texts (r : Reading) (name : String) : List String :=
  match r.setting? name with
  | some (.texts xs) => xs
  | _ => []

def helpAsked (r : Reading) : Bool :=
  r.switch "help"

end Reading

def Command.missing (c : Command) (r : Reading) : List String :=
  (c.flags.filter fun f => f.required && !r.given.contains f.name).map (·.name)

def missingMessage (names : List String) : String :=
  match names with
  | [n] => "Required flag " ++ Text.quoted n ++ " not set"
  | ns => "Required flags " ++ Text.quoted (", ".intercalate ns) ++ " not set"

end CrudRoutes.Cli
