import AlarmEscalation.Session

/-!
A desktop session with its observers, as time passes. Every observer takes a sample of the session at
once and then at fixed intervals. An observer that is told to stop takes one more sample.
-/
namespace AlarmEscalation

/-- The time between two samples. -/
def observeInterval : Duration := .ofMillis 500

structure Observation where
  session : Session := {}
  /-- The observers at work, and whether they go on after the next sample. -/
  observers : List (Observer × Bool) := []
  /-- Nanoseconds since the session was last switched on. -/
  age : Nat := 0

namespace Observation

/-- A further observer, with what it tells the front end at once. -/
def observe (o : Observation) : Observation × List Notice :=
  let (observer, notices) := ({} : Observer).sample o.session.status
  ({ o with observers := o.observers ++ [(observer, true)] }, notices)

def stopObserving (o : Observation) : Observation :=
  { o with observers := o.observers.map fun (observer, _) => (observer, false) }

/-- All observers take a sample; those that were told to stop are then gone. -/
def sampleAll (o : Observation) : Observation × List Notice :=
  let sampled := o.observers.map fun (observer, goesOn) =>
    let (observer, notices) := observer.sample o.session.status
    (observer, goesOn, notices)
  ({ o with
      observers := (sampled.filter fun s => s.2.1).map fun s => (s.1, s.2.1) },
    sampled.flatMap fun s => s.2.2)

/-- One interval between samples passes: the engine polls, then the samples are taken. -/
def interval (o : Observation) (now : Instant) :
    Observation × List Notice × List Call × List LogLine :=
  let passed := observeInterval.totalNanos
  let step := o.session.engine.map fun e => e.elapse now o.age passed
  let session := { engine := step.map Engine.Step.engine }
  let (o, notices) := { o with session, age := o.age + passed }.sampleAll
  (o, notices, (step.map Engine.Step.calls).getD [], (step.map Engine.Step.logs).getD [])

/-- Takes over the session that a call left behind; a session that was just switched on has a fresh
engine. -/
def withSession (o : Observation) (session : Session) : Observation :=
  { o with session, age := if o.session.isEnabled then o.age else 0 }

end Observation

end AlarmEscalation
