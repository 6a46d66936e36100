import AlarmEscalation.Yaml.Token.Basic

/-!
The nodes of a YAML document. A document that goes wrong somewhere is known up to there: what lies
beyond is cut off, and a reader that does not come so far does not notice. An alias names its target
by number.
-/
namespace AlarmEscalation.Yaml

inductive Node where
  | scalar (mark : Mark) (tag : Option String) (text : String) (style : ScalarStyle)
  | sequence (mark : Mark) (items : List Node)
  | mapping (mark : Mark) (entries : List (Node × Node))
  | alias (mark : Mark) (target : Nat)
  | cutOff
deriving Repr

namespace Node

/-- A node of which nothing is written. -/
def empty (mark : Mark) : Node := .scalar mark none "" .plain

mutual

/-- Nothing of the node is cut off. -/
def isWhole : Node → Bool
  | .scalar .. => true
  | .alias .. => true
  | .cutOff => false
  | .sequence _ items => areWhole items
  | .mapping _ entries => entriesWhole entries

def areWhole : List Node → Bool
  | [] => true
  | node :: nodes => node.isWhole && areWhole nodes

def entriesWhole : List (Node × Node) → Bool
  | [] => true
  | (key, value) :: entries => key.isWhole && value.isWhole && entriesWhole entries

end

end Node

/-- What ends a document before its time. -/
inductive Fault where
  | problem (p : Problem)
  | unknownAnchor (mark : Mark)
  | endOfStream
deriving DecidableEq, Repr

structure Document where
  root : Node
  /-- Targets of aliases by their numbers, the ones that count first. -/
  targets : List (Nat × Node) := []
  fault : Option Fault := none
  /-- The text goes on behind the document. -/
  hasMore : Bool := false

end AlarmEscalation.Yaml
