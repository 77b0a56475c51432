import CrudRoutes.Cli.Run
import Std.Time.DateTime.Timestamp

/-!
The command line on the machine it runs on.

The environment, the clock and the file system are the process's own. This build carries no
socket or HTTP transport, so dialing a unix socket, sending an HTTP request, binding a socket
and listening on a TCP address fail with the operating system's message for an address that
cannot be reached; every command that needs no network runs in full.

A run's standard output and error output are written as they are; its log follows on the error
output, one message a line, and the process exits with the run's status.
-/

namespace CrudRoutes.Cli

def readFault (p : String) (e : IO.Error) : ReadFault :=
  match e with
  | .noFileOrDirectory .. => .missing ("open " ++ p ++ ": no such file or directory")
  | .inappropriateType .. => .failed ("read " ++ p ++ ": is a directory")
  | .permissionDenied .. => .failed ("open " ++ p ++ ": permission denied")
  | other => .failed ("open " ++ p ++ ": " ++ toString other)

def attempt {α : Type} (verb p : String) (x : IO α) : IO (Except String α) := do
  try
    return .ok (← x)
  catch e =>
    return .error (match e with
      | .noFileOrDirectory .. => verb ++ " " ++ p ++ ": no such file or directory"
      | .permissionDenied .. => verb ++ " " ++ p ++ ": permission denied"
      | .inappropriateType .. => verb ++ " " ++ p ++ ": not a directory"
      | other => verb ++ " " ++ p ++ ": " ++ toString other)

def wallClock : IO Time := do
  let ns := (← Std.Time.Timestamp.now).toNanosecondsSinceUnixEpoch.val
  let second : Int := 1000000000
  return { unix := ns / second, nanos := (ns % second).toNat }

def processMachine : Machine IO where
  getEnv name := IO.getEnv name
  readFile p := do
    try
      return .ok (← IO.FS.readFile p)
    catch e =>
      return .error (readFault p e)
  makeDirs p := attempt "mkdir" p (IO.FS.createDirAll p)
  writeFile p text := attempt "open" p (IO.FS.writeFile p text)
  remove p := do
    try IO.FS.removeFile p catch _ => pure ()
  dial p := do
    let why ← try
        let _ ← IO.FS.Handle.mk p .read
        pure "connection refused"
      catch e =>
        pure (match e with
          | .noFileOrDirectory .. => "no such file or directory"
          | _ => "connection refused")
    return .error ("dial unix " ++ p ++ ": connect: " ++ why)
  exchange _ := pure (.error "use of closed network connection")
  hangUp := pure ()
  fetch o := pure (.error ("dial tcp " ++ o.endpoint ++ ": connect: connection refused"))
  openDatabase _ := pure (.ok ())
  bindUnix p := pure (.error ("listen unix " ++ p ++ ": bind: operation not supported"))
  closeUnix p := do
    try IO.FS.removeFile p catch _ => pure ()
  listenTcp a := pure (.error ("listen tcp " ++ a ++ ": operation not supported"))
  now := wallClock
  serve _ := pure ()

end CrudRoutes.Cli

def main (args : List String) : IO UInt32 := do
  let o ← CrudRoutes.Cli.run CrudRoutes.Cli.processMachine args
  let out ← IO.getStdout
  out.putStr o.stdout
  out.flush
  let err ← IO.getStderr
  err.putStr o.stderr
  err.putStr o.log
  err.flush
  return o.exit.toUInt32
