import Passthrough.Engine.Basic
/-!
# The lifecycle of a pair of streams

Opening, starting, stopping and closing the pair of streams.

The input is opened first, and the output at the rate that the input got; a pair is open in both
directions or in none. What is running is stopped output first, and closed output first, so that
nothing plays from a line that is no longer fed.
-/

namespace Passthrough

namespace EngineM

variable {H : Type} [StreamHost Handler Line H]

/-! ### Opening -/

/-- What was negotiated has to keep the size of a period: the rate and the channels asked for, and
room for one period. -/
def checkFit (period : PeriodFormat) (requestedRate : Nat) (p : StreamInfo) :
    Except AudioError Unit :=
  let capacity := period.bufferBytes p.bufferCapacityFrames
  if p.sampleRate ≠ requestedRate then
    .error (.sampleRateMismatch p.direction requestedRate p.sampleRate)
  else if p.channelCount ≠ period.channelCount then
    .error (.channelCountMismatch p.direction period.channelCount p.channelCount)
  else if capacity < period.bytes then
    .error (.bufferCapacityTooSmall p.direction period.bytes capacity)
  else .ok ()

/-- Warns of a stream that did not get the low-latency path. -/
def warnIfSlow (p : StreamInfo) : EngineM H Unit := do
  if p.performanceMode ≠ .lowLatency then
    let mode := Setting.name p.performanceMode
    publish .warning <| some <|
      s!"{p.direction.name} stream is not low latency ({mode}). " ++
      "Check the requested format, sample rate and channel count."

/-- Takes a stream that the host has opened: checks it, sizes its buffer and holds it. A stream that
does not fit is closed again. -/
def acceptStream (d : Direction) (sampleRate : Nat) (stream : StreamHandle) : EngineM H Unit := do
  let period := (← get).config.period
  let p := StreamHost.infoOf stream (← get).host
  match checkFit period sampleRate p with
  | .error err =>
    -- nobody holds the stream yet, so it is closed here and not by `closeSide`
    let (_, stream) ← askHost (StreamHost.closeStream stream)
    let _ ← attempt (move d .closed)
    askHost (StreamHost.discard stream)
    fail err
  | .ok () =>
    let _ ← askHost (StreamHost.setBufferSize stream period.doubleFrames)
    warnIfSlow p
    match ← attempt (move d .opened) with
    | .error err =>
      askHost (StreamHost.discard stream)
      fail err
    | .ok () => modify fun e => { e with streams := e.streams.set d (some stream) }

def openSide (d : Direction) (sampleRate : Nat) : EngineM H Unit := do
  let e ← get
  if e.line.channel.isNone then fail .notOpen
  move d .opening
  let handler : Handler := ⟨d, e.config.period, e.observer, e.line.channelId⟩
  match ← askHost (StreamHost.openStream d (e.config.spec d sampleRate) handler) with
  | .crashed message => throw (.crash message)
  | .refused source =>
    let _ ← attempt (move d .closed)
    fail (.streamOpenFailed d source)
  | .opened stream => acceptStream d sampleRate stream

/-! ### Closing -/

/-- Closes the stream of one direction, whatever the host says to that. -/
def closeSide (d : Direction) : EngineM H Unit := do
  match (← get).streams.get d with
  | none => modifyLine (·.settle d)
  | some stream =>
    -- let go of before the host is asked: a close that fails leaves nothing to close again
    modify fun e => { e with streams := e.streams.set d none }
    let (result, stream) ← askHost (StreamHost.closeStream stream)
    askHost (StreamHost.discard stream)
    modifyLine (·.settle d)
    match result with
    | .ok () => return
    | .error source => fail (.streamCloseFailed d source)

/-! ### Starting and stopping -/

def startSide (d : Direction) : EngineM H Unit := do
  match (← get).streams.get d with
  | none => fail .notOpen
  | some stream =>
    let source := (← get).state d
    if !source.canMoveTo .running then fail (.invalidTransition d source .running)
    match ← askHost (StreamHost.startStream stream) with
    | .error source => fail (.streamStartFailed d source)
    | .ok () => move d .running

def stopSide (d : Direction) : EngineM H Unit := do
  -- a side that does not run, or has failed, is stopped already
  if (← get).state d = .running then
    if let some stream := (← get).streams.get d then
      move d .stopping
      match ← askHost (StreamHost.stopStream stream) with
      | .ok () => move d .opened
      | .error source =>
        modifyLine (·.markFaulted d)
        fail (.streamStopFailed d source)

/-- Stops the output, then the input; fails with the first error. -/
def stopSides : EngineM H Unit := do
  let output ← attempt (stopSide .output)
  let input ← attempt (stopSide .input)
  modify fun e => { e with started := false }
  ofExcept (firstError output input)

/-- Starts the input, then the output. An input whose output fails is left running. -/
def startSides : EngineM H Unit := do
  let e ← get
  if e.streams.input.isNone || e.streams.output.isNone then fail .notOpen
  startSide .input
  startSide .output
  modify fun e => { e with started := true }

/-! ### The pair -/

/-- Stops and closes everything, output first; fails with the first error. -/
def shutDown : EngineM H Unit := do
  let stopped ← attempt stopSides
  modifyLine Line.detach
  let output ← attempt (closeSide .output)
  let input ← attempt (closeSide .input)
  modify fun e => { e with line := { e.line with channel := none }, started := false }
  ofExcept (firstError stopped (firstError output input))

/-- Gives up a pair of which one direction could not be opened. -/
def abandonPair : EngineM H Unit :=
  modify fun e => { e with line := { e.line with channel := none } }

/-- The rate the output has to run at: that of the input it plays. -/
def inputRate : EngineM H Nat := do
  let e ← get
  return match e.infoOf .input with
    | some p => p.sampleRate
    | none => e.config.sampleRate

/-- Opens both directions over a new channel, or neither. -/
def openSides : EngineM H Unit := do
  let e ← get
  if e.holdsStreams then fail .alreadyOpen
  modify fun e => { e with line := e.line.renew e.config.period.samples }
  match ← attempt (openSide .input e.config.sampleRate) with
  | .error err =>
    modifyLine Line.detach
    abandonPair
    fail err
  | .ok () =>
    match ← attempt (openSide .output (← inputRate)) with
    | .error err =>
      modifyLine Line.detach
      let _ ← attempt (closeSide .input)
      abandonPair
      fail err
    | .ok () => return

def bringUp : EngineM H Unit := do
  openSides
  publish (.streamsOpened (← inputRate) (← get).config.period.frames)

def bringDown : EngineM H Unit := do
  let wasOpen := (← get).holdsStreams
  let result ← attempt shutDown
  if wasOpen then publish .streamsClosed
  ofExcept result

def start : EngineM H Unit := do
  startSides
  publish .started

def stop : EngineM H Unit := do
  let wasStarted := (← get).started
  let result ← attempt stopSides
  if wasStarted then publish .stopped
  ofExcept result

/-! ### The effect -/

/-- Turns the pass-through on or off. Off stops and closes what the effect opened, even past errors;
on opens and starts it, and leaves nothing open where the start fails. -/
def switch (on : Bool) : EngineM H Unit := do
  -- the effect counts, not the streams: those may be open without it
  if on = (← get).effectOn then return
  if on then
    bringUp
    match ← attempt start with
    | .error err =>
      let _ ← attempt bringDown
      fail err
    | .ok () => modify fun e => { e with effectOn := true }
  else
    let stopped ← attempt stop
    let closed ← attempt bringDown
    modify fun e => { e with effectOn := false }
    ofExcept (firstError stopped closed)

/-- Turns the pass-through on or off and answers whether it is as asked; turning off always is. -/
def trySwitch (on : Bool) : EngineM H Bool := do
  match ← attempt (switch on) with
  | .ok () => return true
  | .error _ => return !on

end EngineM

end Passthrough
