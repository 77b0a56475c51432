import CrudRoutes.Cli.Actions
import CrudRoutes.Cli.Help
import CrudRoutes.Text.Dotenv

/-!
Running the command line.

First the environment file `.env` of the working directory is read: its variables join the
environment where it does not set them already. A missing file is fine; an unreadable or
malformed one logs `load .env` and is ignored as a whole.

An empty command line asks for help. Each command reads its part of the line and hands the rest
to a subcommand named there. Then, in order: a line that does not read is reported on the error
output as `Incorrect Usage: why` (followed by the program's help for the top command) and fails;
`--help` shows the help of the command, or of the subcommand named after it; missing required
flags show the command's help and fail; a named subcommand runs; the command's action runs; a
command without one shows help. Help for an unknown name fails with `No help topic for 'name'`:
when asked by a flag the failure is logged, when asked by the help command it is written on the
error output with status 3.
-/

namespace CrudRoutes.Cli

variable {m : Type → Type} [Monad m]

def clientVariables : List String :=
  ["DYNAMICAPI_CONFIG", "DYNAMICAPI_TRANSPORT", "DYNAMICAPI_SERVER", "DYNAMICAPI_SOCKET",
    "DYNAMICAPI_TOKEN", "HOME"]

def lookupAll (mc : Machine m) (names : List String) : m (List (String × String)) :=
  names.foldlM (fun acc n => do
    match ← mc.getEnv n with
    | some v => pure (acc ++ [(n, v)])
    | none => pure acc) []

def loadEnvironment (mc : Machine m) : CliM m (String → Option String) := do
  let base ← lookupAll (m := m) mc (rootCommand.envNames ++ clientVariables)
  let added ← match ← mc.readFile ".env" with
    | .error (.missing _) => pure []
    | .error (.failed _) => do note "load .env"; pure []
    | .ok text =>
      match Dotenv.parse text with
      | .error _ => do note "load .env"; pure []
      | .ok entries =>
        entries.foldlM (fun acc (k, v) => do
          if k.isEmpty then return acc
          match ← mc.getEnv k with
          | some _ => pure acc
          | none => pure (acc ++ [(k, v)])) []
  pure fun n => match added.lookup n with
    | some v => some v
    | none => base.lookup n

def helpTopic (cmd : Command) (trail : List Command) (name : String) : Except String String :=
  match cmd.sub? name with
  | some sub => .ok (sub.help (trail.map (·.name) ++ [cmd.name]) false)
  | none => .error ("No help topic for '" ++ name ++ "'")

def helpFor (cmd : Command) (trail : List Command) (args : List String) : Except String String :=
  let (cmd, trail) :=
    if cmd.name == helpCommandName then
      match trail.getLast? with
      | some parent => (parent, trail.dropLast)
      | none => (cmd, trail)
    else (cmd, trail)
  match args.head? with
  | some "--" => .ok ""
  | some name =>
    if name.isEmpty then .ok (cmd.help (trail.map (·.name)) trail.isEmpty)
    else helpTopic cmd trail name
  | none => .ok (cmd.help (trail.map (·.name)) trail.isEmpty)

def runCommand (mc : Machine m) (env : String → Option String) :
    Nat → List Command → Command → List String → CliM m Unit
  | 0, _, _, _ => pure ()
  | fuel + 1, trail, cmd, line => do
    let path := trail.map (·.name)
    let r ← match cmd.readLine env line with
      | .ok r => pure r
      | .error e => do
        complain ("Incorrect Usage: " ++ e ++ "\n\n")
        if trail.isEmpty then say (cmd.help [] true)
        fail e
    if r.helpAsked then
      match helpFor cmd trail r.args with
      | .ok text => say text
      | .error e => fail e
      return
    let missing := cmd.missing r
    if !missing.isEmpty then
      say (cmd.help path false)
      fail (missingMessage missing)
    let sub := match r.args with
      | a :: rest => (cmd.sub? a).map (·, rest)
      | [] => none
    match sub with
    | some (s, rest) => runCommand mc env fuel (trail ++ [cmd]) s rest
    | none =>
      match ({ machine := mc, env, reading := r } : Invocation m).action? cmd.name with
      | some act => act
      | none =>
        match helpFor cmd trail r.args with
        | .ok text => say text
        | .error e =>
          complain (e ++ "\n")
          throw (.exited 3)

def run (mc : Machine m) (args : List String) : m Outcome :=
  CliM.outcome do
    let env ← loadEnvironment mc
    let args := if args.isEmpty then ["--help"] else args
    runCommand mc env 8 [] rootCommand args

end CrudRoutes.Cli
