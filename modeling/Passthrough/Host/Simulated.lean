import Passthrough.Host.Interface
/-!
# The simulated host

A host without hardware. Callbacks run when the host is pumped, calls are recorded in order, and
calls can be made to fail; it backs the simulation on the command line and the theory of the engine.
-/

namespace Passthrough

inductive CallKind
  | openStream
  | start
  | stop
  | close
  deriving DecidableEq, Repr

namespace CallKind

def name : CallKind → String
  | .openStream => "open"
  | .start => "start"
  | .stop => "stop"
  | .close => "close"

end CallKind

structure CallRecord where
  direction : Direction
  op : CallKind
  deriving DecidableEq, Repr

namespace CallRecord

def text (c : CallRecord) : String := c.direction.name ++ "." ++ c.op.name

end CallRecord

/-- A stream in the table of the host. `side` is the direction of its data callback, which a
careless owner can choose apart from the direction of the stream. -/
structure SimulatedStream (κ : Type) where
  id : Nat
  properties : StreamInfo
  side : Direction
  callback : κ
  running : Bool := false
  deriving Repr

/-- Errors that the next call of each kind answers. -/
structure CallFaults where
  openStream : Option HostError := none
  start : Option HostError := none
  stop : Option HostError := none
  deriving DecidableEq, Repr, Inhabited

/-- Properties that every stream opened from now on gets in place of what was asked for. -/
structure Substitutes where
  sampleRate : Option Nat := none
  bufferCapacityFrames : Option Nat := none
  performanceMode : Option PerformanceMode := none
  deriving DecidableEq, Repr, Inhabited

structure SimulatedHost (κ : Type) where
  /-- How many streams have been opened; streams are numbered from 1. -/
  opened : Nat := 0
  /-- The live streams, oldest first. -/
  streams : List (SimulatedStream κ) := []
  /-- The calls made, oldest first. -/
  calls : List CallRecord := []
  /-- The requests received, oldest first, refused ones among them. -/
  requests : List StreamSpec := []
  faults : Duplex CallFaults := .both {}
  substitutes : Duplex Substitutes := .both {}
  recommendsAAudio : Bool := false
  deriving Repr, Inhabited

namespace SimulatedHost

variable {κ σ : Type}

/-! ### Scripting -/

def plantOpenFault (h : SimulatedHost κ) (d : Direction) (e : HostError) : SimulatedHost κ :=
  { h with faults := h.faults.modify d ({ · with openStream := some e }) }

def plantStartFault (h : SimulatedHost κ) (d : Direction) (e : HostError) : SimulatedHost κ :=
  { h with faults := h.faults.modify d ({ · with start := some e }) }

def plantStopFault (h : SimulatedHost κ) (d : Direction) (e : HostError) : SimulatedHost κ :=
  { h with faults := h.faults.modify d ({ · with stop := some e }) }

def substituteRate (h : SimulatedHost κ) (d : Direction) (rate : Option Nat) : SimulatedHost κ :=
  { h with substitutes := h.substitutes.modify d ({ · with sampleRate := rate }) }

def substituteCapacity (h : SimulatedHost κ) (d : Direction) (frames : Option Nat) :
    SimulatedHost κ :=
  { h with substitutes := h.substitutes.modify d ({ · with bufferCapacityFrames := frames }) }

def substituteMode (h : SimulatedHost κ) (d : Direction) (mode : Option PerformanceMode) :
    SimulatedHost κ :=
  { h with substitutes := h.substitutes.modify d ({ · with performanceMode := mode }) }

def forgetCalls (h : SimulatedHost κ) : SimulatedHost κ := { h with calls := [] }

/-! ### Inspection -/

/-- The live streams of a direction, oldest first. -/
def live (h : SimulatedHost κ) (d : Direction) : List (SimulatedStream κ) :=
  h.streams.filter (·.properties.direction = d)

def liveCount (h : SimulatedHost κ) (d : Direction) : Nat := (h.live d).length

/-- The stream of a direction that was opened last among those that run. -/
def newestRunning? (h : SimulatedHost κ) (d : Direction) : Option (SimulatedStream κ) :=
  (h.live d).reverse.find? (·.running)

def hasRunning (h : SimulatedHost κ) (d : Direction) : Bool := (h.newestRunning? d).isSome

/-- The request that was received last for a direction. -/
def latestSpec? (h : SimulatedHost κ) (d : Direction) : Option StreamSpec :=
  h.requests.reverse.find? (·.direction = d)

/-! ### The streams -/

def record (h : SimulatedHost κ) (d : Direction) (op : CallKind) : SimulatedHost κ :=
  { h with calls := h.calls ++ [⟨d, op⟩] }

def contains (h : SimulatedHost κ) (id : Nat) : Bool := h.streams.any (·.id == id)

def setRunning (h : SimulatedHost κ) (id : Nat) (running : Bool) : SimulatedHost κ :=
  { h with streams := h.streams.map fun s => if s.id = id then { s with running } else s }

def remove (h : SimulatedHost κ) (id : Nat) : SimulatedHost κ :=
  { h with streams := h.streams.filter (·.id ≠ id) }

/-- What a stream opened now for this request would run at. -/
def granted (h : SimulatedHost κ) (r : StreamSpec) : StreamInfo :=
  let o := h.substitutes.get r.direction
  { direction := r.direction
    sampleRate := o.sampleRate.getD r.sampleRate
    channelCount := r.channelCount
    bufferCapacityFrames := o.bufferCapacityFrames.getD (r.periodFrames 4)
    framesPerCallback := r.framesPerCallback
    performanceMode := o.performanceMode.getD r.performanceMode }

def openStream (side : Direction) (r : StreamSpec) (callback : κ) (h : SimulatedHost κ) :
    Opening × SimulatedHost κ :=
  let h := { h.record r.direction .openStream with requests := h.requests ++ [r] }
  match (h.faults.get r.direction).openStream with
  | some e =>
    (.refused e, { h with faults := h.faults.modify r.direction ({ · with openStream := none }) })
  | none =>
    let id := h.opened + 1
    let stream : SimulatedStream κ := ⟨id, h.granted r, side, callback, false⟩
    (.opened { id, properties := stream.properties },
      { h with opened := id, streams := h.streams ++ [stream] })

/-- The size is cut to the capacity of the stream. -/
def setBufferSize (s : StreamHandle) (frames : Nat) (h : SimulatedHost κ) :
    Except HostError Nat × SimulatedHost κ :=
  if s.closed then (.error .closed, h)
  else (.ok (min frames s.properties.bufferCapacityFrames), h)

def startStream (s : StreamHandle) (h : SimulatedHost κ) :
    Except HostError Unit × SimulatedHost κ :=
  let d := s.properties.direction
  let h := h.record d .start
  if s.closed then (.error .closed, h)
  else
    match (h.faults.get d).start with
    | some e => (.error e, { h with faults := h.faults.modify d ({ · with start := none }) })
    | none =>
      if h.contains s.id then (.ok (), h.setRunning s.id true) else (.error .disconnected, h)

def stopStream (s : StreamHandle) (h : SimulatedHost κ) :
    Except HostError Unit × SimulatedHost κ :=
  let d := s.properties.direction
  let h := h.record d .stop
  if s.closed then (.error .closed, h)
  else
    match (h.faults.get d).stop with
    | some e => (.error e, { h with faults := h.faults.modify d ({ · with stop := none }) })
    | none => (.ok (), h.setRunning s.id false)

def closeStream (s : StreamHandle) (h : SimulatedHost κ) :
    (Except HostError Unit × StreamHandle) × SimulatedHost κ :=
  if s.closed then ((.error .closed, s), h)
  else ((.ok (), { s with closed := true }), (h.record s.properties.direction .close).remove s.id)

def discard (s : StreamHandle) (h : SimulatedHost κ) : Unit × SimulatedHost κ :=
  ((), if s.closed then h else h.remove s.id)

instance [StreamOwner κ σ] : StreamHost κ σ (SimulatedHost κ) where
  name _ := "simulated"
  recommendsAAudio := SimulatedHost.recommendsAAudio
  infoOf s _ := s.properties
  openStream side r callback := .quiet (openStream side r callback)
  setBufferSize s frames := .quiet (setBufferSize s frames)
  startStream s := .quiet (startStream s)
  stopStream s := .quiet (stopStream s)
  closeStream s := .quiet (closeStream s)
  discard s := .quiet (discard s)

/-! ### The hardware -/

/-- A stream whose callback answered stop runs no longer. -/
def answered (h : SimulatedHost κ) (id : Nat) : Verdict → SimulatedHost κ
  | .proceed => h
  | .stop => h.setRunning id false

/-- The device captures a buffer, which goes to the newest running input. -/
def feed [StreamOwner κ σ] (frames : List Int16) (h : SimulatedHost κ) (s : σ) :
    Option Verdict × SimulatedHost κ × σ :=
  match h.newestRunning? .input with
  | none => (none, h, s)
  | some stream =>
    let (result, s) :=
      match stream.side with
      | .input => StreamOwner.capture stream.callback stream.properties frames s
      | .output => (.stop, s)
    (some result, h.answered stream.id result, s)

/-- The device asks the newest running output to overwrite a buffer. -/
def draw [StreamOwner κ σ] (dest : List Int16) (h : SimulatedHost κ) (s : σ) :
    Option Verdict × List Int16 × SimulatedHost κ × σ :=
  match h.newestRunning? .output with
  | none => (none, dest, h, s)
  | some stream =>
    let (result, dest, s) :=
      match stream.side with
      | .output => StreamOwner.render stream.callback stream.properties dest.length s
      | .input => (.stop, dest, s)
    (some result, dest, h.answered stream.id result, s)

/-- The device of a direction goes away and takes the newest stream with it, whose owner hears of it
twice. -/
def unplug [StreamOwner κ σ] (d : Direction) (e : HostError) (h : SimulatedHost κ) (s : σ) :
    Bool × SimulatedHost κ × σ :=
  match (h.live d).getLast? with
  | none => (false, h, s)
  | some stream =>
    let s := StreamOwner.beforeClose stream.callback stream.properties e s
    let s := StreamOwner.afterClose stream.callback stream.properties e s
    (true, h.remove stream.id, s)

end SimulatedHost

end Passthrough
