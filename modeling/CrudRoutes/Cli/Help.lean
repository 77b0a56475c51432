import CrudRoutes.Cli.Flags
import CrudRoutes.Text.Table

/-!
Help texts of commands.

A help text names the command with its usage line, shows how to call it, lists its
subcommands (with the help command) and its flags (with the help switch). A flag is shown by its
names with `value` after those that take one, then its usage, its default when it has one (a
switch always has one, the help switch aside), and its environment variable. The lines of a list
are laid out in columns two blanks apart.
-/

namespace CrudRoutes.Cli

def Command.shownNames (c : Command) : String :=
  if c.name == helpCommandName then "help, h" else c.name

def Flag.names (f : Flag) : String :=
  if f.name == "help" then "--help, -h"
  else
    let dash := if f.name.length == 1 then "-" else "--"
    let named := dash ++ f.name ++ (if f.kind == .switch then "" else " value")
    if f.kind == .texts then named ++ " [ " ++ named ++ " ]" else named

def Flag.described (f : Flag) : String :=
  let default := match f.kind with
    | .text => if f.value.isEmpty then "" else " (default: " ++ Text.quoted f.value ++ ")"
    | .switch => if f.name == "help" then "" else
      " (default: " ++ (if f.value == "true" then "true" else "false") ++ ")"
    | .duration =>
      if f.value.isEmpty then "" else
      " (default: " ++ Duration.format ((Duration.parse f.value).toOption.getD 0) ++ ")"
    | .texts => ""
  let body := Text.trimBlanks (f.usage ++ default)
  if f.env.isEmpty then body else body ++ " [$" ++ f.env ++ "]"

def flagLines (flags : List Flag) : String :=
  String.join (flags.map fun f => "\n   " ++ f.names ++ "\t" ++ f.described)

def commandLines (cs : List Command) : String :=
  String.join (cs.map fun c => "\n   " ++ c.shownNames ++ "\t" ++ c.usage)

def Command.help (c : Command) (path : List String) (root : Bool) : String :=
  let full := " ".intercalate (path ++ [c.name])
  let name := full ++ (if c.usage.isEmpty then "" else " - " ++ c.usage)
  let usage :=
    if root then full ++ " [global options]" ++ (if c.commands.isEmpty then "" else " [command [command options]]")
    else full ++ (if c.commands.isEmpty then "" else " [command [command options]]") ++
      (if c.argsUsage.isEmpty then "" else " " ++ c.argsUsage)
  let commands := if c.commands.isEmpty then "" else "\n\nCOMMANDS:" ++ commandLines c.subcommands
  let options := if c.visibleFlags.isEmpty then "" else
    (if root then "\n\nGLOBAL OPTIONS:" else "\n\nOPTIONS:") ++ flagLines c.visibleFlags
  Text.alignColumns 2 ("NAME:\n   " ++ name ++ "\n\nUSAGE:\n   " ++ usage ++ commands ++ options ++ "\n")

end CrudRoutes.Cli
