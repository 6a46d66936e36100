import AlarmEscalation.Engine.Basic

/-!
A step of an engine: what it found, the engine after it, the calls it made and what it logged. A
step may be broken off by a fault; what it did before stays done.
-/
namespace AlarmEscalation.Engine

structure Step (α : Type) where
  engine : Engine
  found : Except Fault α
  calls : List Call := []
  logs : List LogLine := []

namespace Step

def done (engine : Engine) (a : α) : Step α := { engine, found := .ok a }

def broken (engine : Engine) (fault : Fault) : Step α := { engine, found := .error fault }

/-- A second step after a first one that was not broken off. -/
def andThen (s : Step α) (next : Engine → α → Step β) : Step β :=
  match s.found with
  | .error fault => { s with found := .error fault }
  | .ok a =>
    let t := next s.engine a
    { t with calls := s.calls ++ t.calls, logs := s.logs ++ t.logs }

@[simp] theorem done_andThen (e : Engine) (a : α) (next : Engine → α → Step β) :
    (done e a).andThen next = next e a := by
  simp [andThen, done]

@[simp] theorem broken_andThen (e : Engine) (fault : Fault) (next : Engine → α → Step β) :
    (broken e fault : Step α).andThen next = broken e fault := rfl

theorem andThen_engine_of_ok {s : Step α} {a : α} (h : s.found = .ok a)
    (next : Engine → α → Step β) : (s.andThen next).engine = (next s.engine a).engine := by
  simp [andThen, h]

end Step

end AlarmEscalation.Engine
