import CrudRoutes.Server.Basic

/-!
The machine the command line runs on, and what a run leaves behind.

The command line reads its environment and files, writes files, talks to a JSON-RPC server over
a unix socket one line at a time, sends HTTP requests, and for the `server` command opens a
database and listens on a unix socket and a TCP address. A `Machine` gives these operations in
some monad; failures come back as the messages of the operating system's errors, naming the
path or address involved.

A run leaves its standard output, its error output, its log (one message per line) and its
exit status. It ends early by failing with a message, which is logged with status 1, or by
exiting with a status after its messages are written.
-/

namespace CrudRoutes.Cli

/-- Why a file could not be read. -/
inductive ReadFault where
  | missing (message : String)
  | failed (message : String)
  deriving Inhabited

def ReadFault.message : ReadFault → String
  | .missing m => m
  | .failed m => m

/-- An HTTP request as sent. -/
structure Outgoing where
  method : String
  url : String
  endpoint : String
  headers : List (String × String) := []
  body : Option String := none
  deriving Inhabited

/-- An HTTP response as received. -/
structure Incoming where
  status : Nat
  body : String
  deriving Inhabited

/-- The operations of the machine the command line runs on. -/
structure Machine (m : Type → Type) where
  getEnv : String → m (Option String)
  readFile : String → m (Except ReadFault String)
  makeDirs : String → m (Except String Unit)
  writeFile : String → String → m (Except String Unit)
  remove : String → m Unit
  dial : String → m (Except String Unit)
  exchange : String → m (Except String String)
  hangUp : m Unit
  fetch : Outgoing → m (Except String Incoming)
  openDatabase : String → m (Except String Unit)
  bindUnix : String → m (Except String Unit)
  closeUnix : String → m Unit
  listenTcp : String → m (Except String Unit)
  now : m Time
  serve : Server → m Unit

/-- What a run of the command line leaves behind. -/
structure Outcome where
  stdout : String := ""
  stderr : String := ""
  log : String := ""
  exit : Nat := 0
  deriving Inhabited

/-- How a run ends early. -/
inductive Halt where
  | failed (message : String)
  | exited (code : Nat)
  deriving Inhabited

abbrev CliM (m : Type → Type) := ExceptT Halt (StateT Outcome m)

variable {m : Type → Type} [Monad m]

def say (text : String) : CliM m Unit :=
  modify fun o => { o with stdout := o.stdout ++ text }

def complain (text : String) : CliM m Unit :=
  modify fun o => { o with stderr := o.stderr ++ text }

def note (message : String) : CliM m Unit :=
  modify fun o => { o with log := o.log ++ message ++ "\n" }

def fail {α : Type} (message : String) : CliM m α :=
  throw (.failed message)

def orFail {α : Type} (r : Except String α) : CliM m α :=
  match r with
  | .ok a => pure a
  | .error e => fail e

def CliM.outcome (x : CliM m Unit) : m Outcome := do
  let (r, o) ← (x.run).run {}
  match r with
  | .ok () => pure o
  | .error (.failed message) => pure { o with log := o.log ++ message ++ "\n", exit := 1 }
  | .error (.exited code) => pure { o with exit := code }

end CrudRoutes.Cli
