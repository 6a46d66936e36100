import AlarmEscalation.Host.Basic

/-!
A machine as a value: a tree of files, commands with known outcomes, and an environment. Steps on it
are functions, so that what a sequence of them does can be computed and reasoned about.
-/
namespace AlarmEscalation

/-- What a command does when it is run. -/
inductive ProgramEffect where
  | exits (status : Nat)
  /-- It goes on until it is stopped. -/
  | lasts
  /-- It exits after it has added bytes to a file. -/
  | adds (path : String) (bytes : List UInt8)
deriving DecidableEq, Repr

inductive Node where
  | directory
  | file (content : List UInt8)
  /-- Takes everything and holds nothing. -/
  | sink
  /-- Takes nothing. -/
  | full
  | program (does : List String → ProgramEffect)

/-- A place in the tree, from the root on. -/
abbrev Place := List String

structure Machine where
  nodes : List (Place × Node) := []
  /-- Writes to files are cut short: how many bytes they take, and the refusal that follows. -/
  writesCutAt : Option (Nat × OsError) := none
  /-- The directory that paths without a leading slash start at. -/
  workingDirectory : Place := []
  /-- Directories in which commands are looked for. -/
  commandPath : List String := []
  environment : List (String × String) := []

namespace Machine

def node? (m : Machine) (place : Place) : Option Node :=
  if place = [] then some .directory else m.nodes.lookup place

def setNode (m : Machine) (place : Place) (node : Node) : Machine :=
  { m with nodes := (place, node) :: m.nodes.filter fun n => n.1 != place }

def removeNode (m : Machine) (place : Place) : Machine :=
  { m with nodes := m.nodes.filter fun n => n.1 != place }

/-- The places above a place, the root apart. -/
def parents (place : Place) : List Place :=
  (List.range place.length).filterMap fun n => if n = 0 then none else some (place.take n)

/-- Adds a node and the directories that lead to it. -/
def add (m : Machine) (place : Place) (node : Node) : Machine :=
  ((parents place).foldl
    (fun m p => if (m.node? p).isSome then m else m.setNode p .directory) m).setNode place node

/-- Splits a path at its slashes. -/
def segments (path : String) : List String :=
  (path.toList.splitOn '/').map String.ofList

/-- Walks from a place along the segments of a path. -/
def walk (m : Machine) (place : Place) : List String → Except OsError (Place × Node)
  | [] =>
    match m.node? place with
    | some node => .ok (place, node)
    | none => .error .notFound
  | segment :: rest =>
    match m.node? place with
    | none => .error .notFound
    | some .directory =>
      if segment = "" ∨ segment = "." then m.walk place rest
      else if segment = ".." then m.walk place.dropLast rest
      else if 255 < segment.utf8ByteSize then .error .nameTooLong
      else m.walk (place ++ [segment]) rest
    | some _ => .error .notDirectory

/-- Where a path starts. -/
def start (m : Machine) (path : String) : Place :=
  if path.toList.head? = some '/' then [] else m.workingDirectory

/-- Finds what a path leads to. -/
def find (m : Machine) (path : String) : Except OsError (Place × Node) :=
  if path.toList.contains '\x00' then .error .nulInName
  else if path = "" then .error .notFound
  else if 4096 ≤ path.utf8ByteSize then .error .nameTooLong
  else m.walk (m.start path) (segments path)

def readBytes (m : Machine) (path : String) : Except OsError (List UInt8) := do
  match ← m.find path with
  | (_, .directory) => .error .isDirectory
  | (_, .file content) => .ok content
  | _ => .ok []

def isFile (m : Machine) (path : String) : Bool :=
  match m.find path with
  | .ok (_, .file _) | .ok (_, .program _) => true
  | _ => false

/-- How a write to a file ends, and the bytes that it takes until then. -/
def accept (m : Machine) (bytes : List UInt8) : Except WriteFault Unit × List UInt8 :=
  match m.writesCutAt with
  | none => (.ok (), bytes)
  | some (limit, e) =>
    if limit < bytes.length then (.error (.writing e), bytes.take limit) else (.ok (), bytes)

def overwrite (m : Machine) (path : String) (bytes : List UInt8) :
    Except WriteFault Unit × Machine :=
  match m.find path with
  | .error e => (.error (.opening e), m)
  | .ok (_, .directory) => (.error (.opening .isDirectory), m)
  | .ok (_, .program _) => (.error (.opening .denied), m)
  | .ok (_, .full) => (.error (.writing .noSpace), m)
  | .ok (_, .sink) => (.ok (), m)
  | .ok (place, .file content) =>
    let (answer, taken) := m.accept bytes
    (answer, m.setNode place (.file (taken ++ content.drop taken.length)))

/-- Creates a file or replaces its content; whether that was possible. -/
def write (m : Machine) (path : String) (content : List UInt8) : Bool × Machine :=
  match m.find path with
  | .ok (place, .file _) => (true, m.setNode place (.file content))
  | .ok (_, .sink) => (true, m)
  | .ok _ => (false, m)
  | .error .notFound =>
    match (segments path).getLast? with
    | none | some "" => (false, m)
    | some name =>
      match m.walk (m.start path) (segments path).dropLast with
      | .ok (place, .directory) => (true, m.setNode (place ++ [name]) (.file content))
      | _ => (false, m)
  | .error _ => (false, m)

/-- Deletes a file; whether there was one. -/
def remove (m : Machine) (path : String) : Bool × Machine :=
  match m.find path with
  | .ok (place, .file _) => (true, m.removeNode place)
  | _ => (false, m)

/-- Finds the program behind a command. Names without a slash are looked for in the directories for
commands. -/
def program (m : Machine) (command : String) : Except OsError (List String → ProgramEffect) :=
  let at_ := fun path =>
    match m.find path with
    | .ok (_, .program does) => .ok does
    | .ok _ => .error .denied
    | .error e => .error e
  if command.toList.contains '/' then at_ command
  else if command = "" then .error .notFound
  else
    match m.commandPath.findSome? fun d => (at_ (d ++ "/" ++ command)).toOption with
    | some does => .ok does
    | none => .error .notFound

/-- What a command with arguments does. -/
def effect (m : Machine) (command : String) (arguments : List String) :
    Except OsError ProgramEffect := do
  if (command :: arguments).any fun text => text.toList.contains '\x00' then throw .nulInCommand
  return (← m.program command) arguments

/-- Runs a command to its end. -/
def run (m : Machine) (command : String) (arguments : List String) : Except OsError Nat :=
  (m.effect command arguments).map fun
    | .exits status => status
    | .lasts | .adds _ _ => 0

end Machine

instance : Host (StateM Machine) where
  readBytes path := do return (← get).readBytes path
  isFile path := do return (← get).isFile path
  overwrite path bytes := modifyGet fun m => m.overwrite path bytes
  run command arguments := do return (← get).run command arguments
  environment name := do return (← get).environment.lookup name

end AlarmEscalation
