import Passthrough.Engine.Control
import Passthrough.Host.Simulated
/-!
# An engine on simulated hardware

An engine on the simulated host: what the simulated hardware does to it between its calls.
-/

namespace Passthrough

/-- An engine whose host has no hardware. -/
abbrev SimulatedEngine := Engine (SimulatedHost Handler)

namespace Engine

/-- The device captures a buffer. -/
def feed (frames : List Int16) (e : SimulatedEngine) :
    Option Verdict × SimulatedEngine :=
  let (result, host, line) := e.host.feed frames e.line
  (result, { e with host, line })

/-- The device overwrites a buffer with what is to be played; answers the buffer as well. -/
def draw (dest : List Int16) (e : SimulatedEngine) :
    Option Verdict × List Int16 × SimulatedEngine :=
  let (result, dest, host, line) := e.host.draw dest e.line
  (result, dest, { e with host, line })

/-- The device of a direction goes away; answers whether there was a stream on it. -/
def unplug (d : Direction) (error : HostError) (e : SimulatedEngine) : Bool × SimulatedEngine :=
  let (found, host, line) := e.host.unplug d error e.line
  (found, { e with host, line })

end Engine

end Passthrough
