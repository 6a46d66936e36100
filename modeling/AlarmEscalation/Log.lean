/-!
Lines that the program logs.
-/
namespace AlarmEscalation

inductive LogLevel where
  | info | warn | error
deriving DecidableEq, Repr

def LogLevel.name : LogLevel → String
  | .info => "INFO"
  | .warn => "WARN"
  | .error => "ERROR"

structure LogLine where
  level : LogLevel
  text : String
deriving DecidableEq, Repr

namespace LogLine

def info (text : String) : LogLine := ⟨.info, text⟩

def warn (text : String) : LogLine := ⟨.warn, text⟩

def error (text : String) : LogLine := ⟨.error, text⟩

/-- The line as it is printed. -/
def shown (line : LogLine) : String := line.level.name ++ " " ++ line.text

end LogLine

end AlarmEscalation
