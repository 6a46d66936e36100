/-!
Errors that operations report to their callers: the area a failure belongs to and what went wrong.
-/
namespace AlarmEscalation

inductive ErrorKind where
  | io | config | yaml | json | mail | desktop | relay | bus | runtime
deriving DecidableEq, Repr

/-- How the text of an error begins. -/
def ErrorKind.title : ErrorKind → String
  | .io => "Io error"
  | .config => "Configuration error"
  | .yaml => "YAML error"
  | .json => "JSON error"
  | .mail => "Mail error"
  | .desktop => "Desktop notification error"
  | .relay => "Relay error"
  | .bus => "Bus error"
  | .runtime => "Runtime error"

structure AlarmError where
  kind : ErrorKind
  detail : String
deriving DecidableEq, Repr

namespace AlarmError

def message (e : AlarmError) : String := e.kind.title ++ ": " ++ e.detail

/-- Errors that wrap the error of a file or document reader; the wrapped error says `detail`. -/
def wrapsReader (e : AlarmError) : Bool :=
  match e.kind with
  | .io | .yaml | .json => true
  | _ => false

/-- The error and what it wraps, from the outside in. -/
def chain (e : AlarmError) : List String :=
  e.message :: if e.wrapsReader then [e.detail] else []

end AlarmError

end AlarmEscalation
