import Passthrough.Engine.Hardware
import Passthrough.Session
import Passthrough.Wire.Channel
/-!
# The simulation

Captured periods pass through an engine on the simulated host, and what is played is compared with
what was captured. The input can be unplugged on the way.
-/

namespace Passthrough.CommandLine

structure SimulationSummary where
  period : PeriodFormat
  periods : Nat
  matched : Nat
  mismatched : Nat
  disconnectedAt : Option Nat
  inputState : StreamState
  outputState : StreamState
  channel : Option ChannelCounts
  deriving Repr

namespace Simulation

abbrev SimulatedSession := Session (SimulatedHost Handler)

structure Progress where
  session : SimulatedSession
  matched : Nat := 0
  mismatched : Nat := 0
  disconnectedAt : Option Nat := none

/-- The input is unplugged, and the engine attends to it. -/
def unplugInput (period : Nat) (p : Progress) : Progress :=
  let (_, engine) := p.session.engine.unplug .input .disconnected
  let (_, engine) := engine.attendPending
  { p with session := { p.session with engine }, disconnectedAt := some period }

/-- Passes one captured period through and compares what is played. -/
def passThrough (captured : List Int16) (p : Progress) : Progress :=
  let (result, engine) := p.session.engine.feed captured
  if result ≠ some .proceed then
    { p with session := { p.session with engine }, mismatched := p.mismatched + 1 }
  else
    let (_, played, engine) := engine.draw (List.replicate captured.length 0)
    let p := { p with session := { p.session with engine } }
    if played = captured then { p with matched := p.matched + 1 }
    else { p with mismatched := p.mismatched + 1 }

/-- Passes captured periods through; `period` is the number of the first, counted from 0. -/
def loop (disconnectAfter : Option Nat) : Nat → List (List Int16) → Progress → Progress
  | _, [], p => p
  | period, captured :: rest, p =>
    let p := if disconnectAfter = some period then unplugInput period p else p
    loop disconnectAfter (period + 1) rest (passThrough captured p)

/-- A call that did not succeed. -/
structure Failed where
  call : String
  status : StatusCode
  deriving DecidableEq, Repr

def check (call : String) (status : Except String StatusCode) : Except Failed Unit :=
  match status with
  | .ok .ok => .ok ()
  | .ok status => .error ⟨call, status⟩
  | .error _ => .error ⟨call, .errorBase⟩

/-- What a simulation has come to. -/
def summary (period : PeriodFormat) (periods : Nat) (p : Progress) : SimulationSummary where
  period
  periods
  matched := p.matched
  mismatched := p.mismatched
  disconnectedAt := p.disconnectedAt
  inputState := p.session.engine.state .input
  outputState := p.session.engine.state .output
  channel := p.session.engine.channelCounts

/-- Simulates a session with these options; `captures` is given the format of a period and answers
the periods to capture. Answers the summary and how the session ended. -/
def run (options : Options) (captures : PeriodFormat → List (List Int16))
    (disconnectAfter : Option Nat) : Except Failed (SimulationSummary × Except Failed Unit) := do
  let session : SimulatedSession := { engine := Engine.create {} }
  let (status, session) := session.configure options
  check "setup_parameters" (.ok status)
  let (status, session) := session.switchOn
  check "start_audio" status
  let period := session.engine.config.period
  let captured := captures period
  let p := loop disconnectAfter 0 captured { session }
  let (status, _, _) := p.session.release
  return (summary period captured.length p, check "release" status)

/-! ### The captured noise -/

/-- The next state of the noise generator. -/
def nextNoise (state : UInt64) : UInt64 := state * 6364136223846793005 + 1442695040888963407

/-- A period of noise, and the state behind it. -/
def noisePeriod : Nat → UInt64 → List Int16 × UInt64
  | 0, state => ([], state)
  | n + 1, state =>
    let state := nextNoise state
    let (rest, last) := noisePeriod n state
    ((state >>> 48).toUInt16.toInt16 :: rest, last)

/-- Periods of noise of this many samples each. -/
def noise (samples : Nat) : Nat → UInt64 → List (List Int16)
  | 0, _ => []
  | periods + 1, state =>
    let (period, state) := noisePeriod samples state
    period :: noise samples periods state

end Simulation

namespace SimulationSummary

open Json

def optionalNat : Option Nat → Value
  | none => .null
  | some n => .ofNat n

def toJson (r : SimulationSummary) : Value :=
  .record [("sample_rate", .ofNat r.period.sampleRate),
    ("frames_per_period", .ofNat r.period.frames),
    ("bytes_per_period", .ofNat r.period.bytes), ("periods", .ofNat r.periods),
    ("matched", .ofNat r.matched), ("mismatched", .ofNat r.mismatched),
    ("disconnected_at", optionalNat r.disconnectedAt), ("input_state", .text r.inputState.name),
    ("output_state", .text r.outputState.name),
    ("channel", match r.channel with
      | none => .null
      | some counts => counts.toJson)]

end SimulationSummary

end Passthrough.CommandLine
