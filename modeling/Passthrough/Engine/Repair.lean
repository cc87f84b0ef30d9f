import Passthrough.Engine.Streams
/-!
# Lost streams and faulted callbacks

What an engine does about streams that the hardware took away, and about callbacks that faulted.

A lost input costs the whole pair, because the output follows it; a lost output is replaced alone. A
fault is not repaired: both streams are closed.
-/

namespace Passthrough

namespace EngineM

variable {H : Type} [StreamHost Handler Line H]

def replaceBoth (restart : Bool) : EngineM H Unit := do
  let _ ← attempt shutDown
  openSides
  if restart then startSides

/-- Replaces the output, while the input goes on. -/
def replaceOutput (restart : Bool) : EngineM H Unit := do
  match (← get).infoOf .input with
  | none => fail .notOpen
  | some p =>
    let _ ← attempt (stopSide .output)
    let _ ← attempt (closeSide .output)
    openSide .output p.sampleRate
    if restart then startSide .output

/-- Repairs the pair if a stream of it is lost; where that fails, everything ends closed and off. -/
def repair : EngineM H Unit := do
  let e ← get
  let inputLost := e.state .input = .error
  let outputLost := e.state .output = .error
  if e.holdsStreams && (inputLost || outputLost) then
    match ← attempt (if inputLost then replaceBoth e.started else replaceOutput e.started) with
    | .ok () => publish .deviceChangeRecovered
    | .error err =>
      -- the replacement may have stopped half way
      let _ ← attempt shutDown
      modify fun e => { e with effectOn := false }
      publish .deviceChangeFailed (some err.message)
      fail err

/-- Ends a session one of whose callbacks has faulted. -/
def endSession : EngineM H Unit := do
  if (← get).holdsStreams then
    let _ ← attempt stop
    let _ ← attempt bringDown
    modify fun e => { e with effectOn := false }

/-- Tells of every fault in a batch of events, oldest first. -/
def publishFaults : List Event → EngineM H Unit
  | [] => return
  | .disconnected .. :: rest => publishFaults rest
  | .fault d expected actual :: rest => do
    publish (.callbackFault d) (some s!"expected {expected} bytes per period, got {actual}")
    publishFaults rest

/-- Attends to a batch of events: a fault in it ends the session, else a lost stream is replaced,
once for the whole batch. -/
def attend (batch : List Event) : EngineM H Unit := do
  publishFaults batch
  -- a session that is ended has nothing left to repair
  if batch.any Event.isFault then endSession
  else if batch.any Event.isDisconnect then
    let _ ← attempt repair

end EngineM

end Passthrough
