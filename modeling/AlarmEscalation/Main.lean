import AlarmEscalation.Program.Run

/-!
The executable. It reads and writes files of the machine it runs on. It runs no commands and has no
connection to a bus, so no alarm ever arrives: a daemon or a desktop session only shows that it is
there, until the process is ended from outside.
-/
namespace AlarmEscalation

/-- How the machine refuses, as it says itself. -/
def OsError.ofIo : IO.Error → OsError
  | .noFileOrDirectory .. => .notFound
  | .permissionDenied .. => .denied
  | .inappropriateType _ 20 _ => .notDirectory
  | .inappropriateType _ 21 _ => .isDirectory
  | e => .other (toString e)

/-- What an action comes to, or how it is refused. -/
def attempt (action : IO α) (refuse : OsError → ε) : IO (Except ε α) := do
  try return .ok (← action)
  catch e => return .error (refuse (.ofIo e))

instance : Host IO where
  readBytes path := attempt (do return (← IO.FS.readBinFile path).toList) id
  isFile path := do
    try
      let place ← IO.FS.realPath path
      return (← place.metadata).type == .file
    catch _ => return false
  overwrite path bytes := do
    match ← attempt (IO.FS.Handle.mk path .readWrite) WriteFault.opening with
    | .error e => return .error e
    | .ok handle =>
      attempt (do handle.write ⟨bytes.toArray⟩; handle.flush) WriteFault.writing
  run _ _ := return .error (.other "commands are not run here")
  environment name := IO.getEnv name

namespace Program

def printAll (json : Bool) (lines : List OutputLine) : IO Unit := do
  for line in lines do IO.println (line.shown json)
  (← IO.getStdout).flush

def printLogs (json : Bool) (logs : List LogLine) : IO Unit := printAll json (logs.map .log)

def wait (d : Duration) : IO Unit :=
  IO.sleep (min (d.totalNanos / 1000000) 4294967295).toUInt32

/-- Lets a daemon show its heartbeats. -/
partial def beat (json : Bool) (d : Daemon) : IO Unit := do
  wait d.heartbeat
  let (d, logs) := d.interval Instant.epoch
  printLogs json logs
  beat json d

/-- Lets a session take its samples. -/
partial def sample (json : Bool) (o : Observation) : IO Unit := do
  wait observeInterval
  let (o, notices, _, logs) := o.interval Instant.epoch
  printLogs json (logs ++ notices.map Notice.logLine)
  sample json o

def run (request : Request) : IO UInt32 := do
  let outcome ← start request Instant.epoch
  printAll request.json outcome.allLines
  match outcome.result with
  | .ok (.daemon d) => beat request.json d
  | .ok (.desktop o) => sample request.json o
  | _ => pure ()
  return outcome.exitCode.toUInt32

end Program

end AlarmEscalation

open AlarmEscalation.Program in
def main (arguments : List String) : IO UInt32 := do
  match Request.ofArguments arguments with
  | .ok request => run request
  | .error .help => do
    for line in usage do IO.println line
    return 0
  | .error .version => do
    IO.println versionLine
    return 0
  | .error .wrongUsage => do
    for line in usage do IO.eprintln line
    return 2
