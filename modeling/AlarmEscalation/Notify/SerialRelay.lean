import AlarmEscalation.Channel
import AlarmEscalation.Host.Basic

/-!
The flashlight, behind a relay board on a serial line. A command is three bytes. The relay keeps the
state it last wrote and does not write it again; a command that could not be written leaves that
state as it was.
-/
namespace AlarmEscalation

/-- Set, relay number one, on or off. -/
def relayCommand (on : Bool) : List UInt8 := [0xFF, 0x01, if on then 1 else 0]

structure SerialRelay where
  node : String
  state : Option Bool := none
deriving DecidableEq, Repr

namespace SerialRelay

/-- What a switch comes to: its result, the relay after it, and what is logged. -/
abbrev Switched := Except AlarmError Unit × SerialRelay × List LogLine

/-- After the command was written, or not. -/
def settle (r : SerialRelay) (on : Bool) : Except WriteFault Unit → Switched
  | .ok () => (.ok (), { r with state := some on }, [.info ("Flash light " ++ onOff on)])
  | .error (.opening e) =>
    (.error ⟨.relay, "Cannot open serial interface " ++ r.node ++ ": " ++ e.message⟩, r, [])
  | .error (.writing e) =>
    (.error ⟨.relay, "Cannot write to serial interface: " ++ e.message⟩, r, [])

def switch [Monad m] [Host m] (r : SerialRelay) (on : Bool) : m Switched := do
  if r.state = some on then return (.ok (), r, [])
  else return r.settle on (← Host.overwrite r.node (relayCommand on))

end SerialRelay

end AlarmEscalation
