import AlarmEscalation.Text.Utf8

/-!
What the program asks of the machine it runs on: reading and overwriting files, running commands,
and looking at its environment.
-/
namespace AlarmEscalation

/-- How the machine refuses a request. -/
inductive OsError where
  | notFound | denied | notDirectory | isDirectory | noSpace | nameTooLong
  | nulInName | nulInCommand
  | invalidText
  | other (text : String)
deriving DecidableEq, Repr

def OsError.message : OsError → String
  | .notFound => "No such file or directory (os error 2)"
  | .denied => "Permission denied (os error 13)"
  | .notDirectory => "Not a directory (os error 20)"
  | .isDirectory => "Is a directory (os error 21)"
  | .noSpace => "No space left on device (os error 28)"
  | .nameTooLong => "File name too long (os error 36)"
  | .nulInName => "file name contained an unexpected NUL byte"
  | .nulInCommand => "nul byte found in provided data"
  | .invalidText => "stream did not contain valid UTF-8"
  | .other text => text

/-- How overwriting a file goes wrong. -/
inductive WriteFault where
  | opening (e : OsError)
  | writing (e : OsError)
deriving DecidableEq, Repr

/-- A machine, as seen from steps in `m`. -/
class Host (m : Type → Type) where
  readBytes : String → m (Except OsError (List UInt8))
  isFile : String → m Bool
  /-- Replaces the first bytes of an existing file and keeps the others. Writing that goes wrong may
  have replaced some of them by then. -/
  overwrite : String → List UInt8 → m (Except WriteFault Unit)
  /-- Runs a command to its end; its exit status. -/
  run : String → List String → m (Except OsError Nat)
  environment : String → m (Option String)

/-- The text of a file. -/
def Host.readText [Monad m] [Host m] (path : String) : m (Except OsError String) := do
  match ← Host.readBytes path with
  | .error e => return .error e
  | .ok bytes =>
    match Text.Utf8.decode? bytes with
    | some text => return .ok text
    | none => return .error .invalidText

end AlarmEscalation
