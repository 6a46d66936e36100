/-!
The command line. Options of the whole program may stand before or behind the command; behind it
they win. An option may be given once in each of the two places.
-/
namespace AlarmEscalation.Program

inductive Command where
  | daemon
  | desktop (alert : Bool)
  | relay (on : Bool)
  | check
deriving DecidableEq, Repr

/-- What the command line asks for. -/
structure Request where
  /-- Log in JSON. -/
  json : Bool
  /-- The configuration file that is named. -/
  config : Option String
  command : Command
deriving DecidableEq, Repr

/-- Why no command is carried out. -/
inductive Refusal where
  | help | version | wrongUsage
deriving DecidableEq, Repr

/-- Where on the command line an argument stands: before the command, or behind it. -/
inductive Part where
  | front | daemon | desktop | relay | check
deriving DecidableEq, Repr

def Part.ofName? : String → Option Part
  | "daemon" => some .daemon
  | "desktop" => some .desktop
  | "relay" => some .relay
  | "check" => some .check
  | _ => none

/-- What was given in a part so far. -/
structure Given where
  json : Bool := false
  config : Option String := none
  alert : Bool := false
  state : Option Bool := none
  /-- The next argument is the name of the configuration file. -/
  awaitsConfig : Bool := false
  /-- There are no more options. -/
  operandsOnly : Bool := false
deriving DecidableEq, Repr

namespace Given

/-- A flag, which may be given once. -/
def flag (seen : Bool) (g : Given) : Except Refusal Given :=
  if seen then .error .wrongUsage else .ok g

def takeConfig (g : Given) (path : String) : Except Refusal Given :=
  if g.config.isSome ∨ path = "" then .error .wrongUsage
  else .ok { g with config := some path, awaitsConfig := false }

/-- An option with a long name, and the value behind the equals sign. -/
def long (part : Part) (g : Given) (name : String) (value : Option String) :
    Except Refusal Given :=
  match name, value with
  | "config", none => .ok { g with awaitsConfig := true }
  | "config", some path => g.takeConfig path
  | "json", none => flag g.json { g with json := true }
  | "help", none => .error .help
  | "version", none => .error (if part = .front then .version else .wrongUsage)
  | "alert", none =>
    if part = .desktop then flag g.alert { g with alert := true } else .error .wrongUsage
  | _, _ => .error .wrongUsage

/-- Options with short names, in one argument. -/
def short (part : Part) (g : Given) : List Char → Except Refusal Given
  | 'h' :: _ => .error .help
  | 'V' :: _ => .error (if part = .front then .version else .wrongUsage)
  | ['c'] => .ok { g with awaitsConfig := true }
  | 'c' :: '=' :: path => g.takeConfig (String.ofList path)
  | 'c' :: path => g.takeConfig (String.ofList path)
  | _ => .error .wrongUsage

/-- What is no option. -/
def operand (part : Part) (g : Given) (text : String) : Except Refusal Given :=
  match part, g.state, text with
  | .relay, none, "on" => .ok { g with state := some true }
  | .relay, none, "off" => .ok { g with state := some false }
  | _, _, _ => .error .wrongUsage

/-- Takes the next argument. -/
def take (part : Part) (g : Given) (argument : String) : Except Refusal Given :=
  if g.operandsOnly then g.operand part argument
  else
    match argument.toList with
    | ['-', '-'] =>
      if g.awaitsConfig then .error .wrongUsage else .ok { g with operandsOnly := true }
    | '-' :: '-' :: text =>
      if g.awaitsConfig then .error .wrongUsage
      else
        let name := String.ofList (text.takeWhile (· ≠ '='))
        match text.dropWhile (· ≠ '=') with
        | [] => g.long part name none
        | _ :: value => g.long part name (some (String.ofList value))
    | '-' :: c :: text =>
      if g.awaitsConfig then .error .wrongUsage else g.short part (c :: text)
    | _ => if g.awaitsConfig then g.takeConfig argument else g.operand part argument

/-- Takes the rest of the arguments. -/
def takeAll (part : Part) (g : Given) : List String → Except Refusal Given
  | [] => if g.awaitsConfig then .error .wrongUsage else .ok g
  | argument :: rest => do takeAll part (← g.take part argument) rest

end Given

/-- The command of a part, with what was given there. -/
def Part.command? (g : Given) : Part → Option Command
  | .front => none
  | .daemon => some .daemon
  | .desktop => some (.desktop g.alert)
  | .relay => g.state.map .relay
  | .check => some .check

/-- Help with the whole program or with one command. -/
def helpWith : List String → Refusal
  | [] => .help
  | [name] => if (Part.ofName? name).isSome ∨ name = "help" then .help else .wrongUsage
  | _ => .wrongUsage

/-- Reads the arguments up to the command, and then those behind it. -/
def readFrom (front : Given) : List String → Except Refusal Request
  | [] => .error .wrongUsage
  | argument :: rest =>
    let mayBeCommand := !front.awaitsConfig && !front.operandsOnly
    match if mayBeCommand then Part.ofName? argument else none with
    | some part => do
      let back ← Given.takeAll part {} rest
      match part.command? back with
      | some command =>
        .ok { json := front.json || back.json, config := back.config.or front.config, command }
      | none => .error .wrongUsage
    | none =>
      if mayBeCommand ∧ argument = "help" then .error (helpWith rest)
      else do readFrom (← front.take .front argument) rest

def Request.ofArguments (arguments : List String) : Except Refusal Request :=
  readFrom {} arguments

end AlarmEscalation.Program
