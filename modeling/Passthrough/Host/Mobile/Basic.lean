import Passthrough.Host.Interface
import Passthrough.Host.Mobile.Adapter
import Passthrough.Host.Mobile.Script
/-!
# The mobile host

The host of a mobile device. Its hardware negotiates every property of a stream, calls back for data
and with errors through one object, and lays out one or two samples in a frame.
-/

namespace Passthrough

namespace Mobile

/-- What a stream does on the hardware. -/
inductive HardwareOp
  | buffer (frames : Int)
  | start
  | stop
  | close
  | drop
  deriving DecidableEq, Repr

/-- An entry of the hardware's log. -/
inductive HardwareCall
  /-- The hardware is asked for a stream. -/
  | openStream (side : Direction) (r : StreamSpec)
  | stream (side : Direction) (number : Nat) (op : HardwareOp)
  deriving DecidableEq, Repr

/-- The number as a signed 32-bit number. -/
def asInt32 (n : Nat) : Int := Int.bmod n (1 <<< 32)

/-- The session that the hardware is asked for; it allocates one in place of a given one. -/
def sessionName : SessionId → String
  | .none => "None"
  | .allocate => "Allocate"
  | .id _ => "Allocate"

/-- What the hardware is told in an open. Only a capture has a preset, only a playback
has a usage. -/
def openText (side : Direction) (r : StreamSpec) : String :=
  let (preset, usage) := match side with
    | .input => (Setting.name r.inputPreset, "-")
    | .output => ("-", Setting.name r.usage)
  ", ".intercalate
    [Setting.name r.audioApi, s!"dev {r.deviceId}", Setting.name r.sharingMode,
      Setting.name r.performanceMode, s!"{asInt32 r.sampleRate} Hz",
      s!"{asInt32 r.framesPerCallback} frames", "session " ++ sessionName r.sessionId,
      s!"chconv {r.channelConversionAllowed}", s!"fmtconv {r.formatConversionAllowed}",
      "quality " ++ Setting.name r.rateConversionQuality, "preset " ++ preset, "usage " ++ usage,
      s!"{r.channelCount} ch"]

namespace HardwareOp

def text : HardwareOp → String
  | .buffer frames => s!"buffer({frames})"
  | .start => "start"
  | .stop => "stop"
  | .close => "close"
  | .drop => "drop"

end HardwareOp

namespace HardwareCall

def text : HardwareCall → String
  | .openStream side r => s!"{side.name}.open(" ++ openText side r ++ ")"
  | .stream side number op => s!"{side.name}#{number}.{op.text}"

end HardwareCall

structure MobileStream (κ : Type) where
  number : Nat
  side : Direction
  adapter : Adapter
  properties : StreamInfo
  /-- The capacity as the hardware tells it. -/
  capacity : Int
  callback : κ
  deriving Repr

end Mobile

open Mobile

structure MobileHost (κ : Type) where
  scripts : Duplex Script := .both {}
  /-- How many streams have been opened. -/
  opened : Nat := 0
  /-- The live streams, oldest first. -/
  streams : List (MobileStream κ) := []
  /-- What the hardware was told, oldest first. -/
  log : List HardwareCall := []
  deriving Repr, Inhabited

namespace MobileHost

variable {κ σ : Type}

def live (h : MobileHost κ) (d : Direction) : List (MobileStream κ) :=
  h.streams.filter (·.side = d)

def stream? (h : MobileHost κ) (number : Nat) : Option (MobileStream κ) :=
  h.streams.find? (·.number == number)

def newest? (h : MobileHost κ) (d : Direction) : Option (MobileStream κ) := (h.live d).getLast?

/-- Puts a stream in the place of the one with its number. -/
def update (h : MobileHost κ) (s : MobileStream κ) : MobileHost κ :=
  { h with streams := h.streams.map fun t => if t.number = s.number then s else t }

def record (h : MobileHost κ) (s : MobileStream κ) (op : HardwareOp) : MobileHost κ :=
  { h with log := h.log ++ [.stream s.side s.number op] }

def remove (h : MobileHost κ) (number : Nat) : MobileHost κ :=
  { h with streams := h.streams.filter (·.number ≠ number) }

/-- What a stream runs at as long as the hardware has not told: what was asked for,
and no capacity. -/
def askedInfo (r : StreamSpec) : StreamInfo where
  direction := r.direction
  sampleRate := r.sampleRate
  channelCount := r.channelCount
  bufferCapacityFrames := 0
  framesPerCallback := r.framesPerCallback
  performanceMode := r.performanceMode

/-- The capacity of a stream opened for this request: by itself four times the frames asked for. -/
def capacity (script : Script) (r : StreamSpec) : Int :=
  script.capacity.getD (4 * asInt32 r.framesPerCallback)

/-- What a stream opened for this request runs at. -/
def granted (side : Direction) (script : Script) (r : StreamSpec) : StreamInfo where
  direction := side
  sampleRate := (script.sampleRate.getD (asInt32 r.sampleRate)).toNat
  channelCount := (script.channels.map ChannelMode.count).getD r.channelCount
  bufferCapacityFrames := (capacity script r).toNat
  framesPerCallback := (script.framesPerCallback.getD (asInt32 r.framesPerCallback)).toNat
  performanceMode := script.performanceMode.getD r.performanceMode

/-- The newly opened stream exchanges a buffer before its owner has got it, and before its
properties are known. -/
def earlyExchange [StreamOwner κ σ] (side : Direction) (adapter : Adapter) (r : StreamSpec)
    (callback : κ) (data : List Int16) (s : σ) : Adapter × σ :=
  let stream := askedInfo r
  let buffer := adapter.layout.frames data
  match side with
  | .input => (adapter.capture (StreamOwner.capture callback stream) buffer s).2
  | .output =>
    (adapter.render r.channelCount (StreamOwner.render callback stream) buffer s).2.2

/-- Opens a stream of one or two channels; the hardware has no frames for any other number. -/
def openStream [StreamOwner κ σ] (side : Direction) (r : StreamSpec) (callback : κ) :
    HostAction (MobileHost κ) σ Opening := fun h s =>
  match Adapter.ofRequest? r with
  | none => (.refused .invalidFormat, h, s)
  | some adapter =>
    let script := h.scripts.get side
    let h := { h with log := h.log ++ [.openStream side r] }
    match script.openError with
    | some e => (.refused e.toHostError, h, s)
    | none =>
      let number := h.opened + 1
      let properties := granted side script r
      let (adapter, s) := match script.early with
        | none => (adapter, s)
        | some data => earlyExchange side adapter r callback data s
      let stream : MobileStream κ :=
        { number, side, adapter, properties, capacity := capacity script r, callback }
      (.opened { id := number, properties },
        { h with opened := number, streams := h.streams ++ [stream] }, s)

/-- Whoever is asked after the stream is closed answers that. -/
def withStream {α : Type} (s : StreamHandle) (h : MobileHost κ)
    (f : MobileStream κ → Except HostError α × MobileHost κ) : Except HostError α × MobileHost κ :=
  if s.closed then (.error .closed, h)
  else
    match h.stream? s.id with
    | none => (.error .closed, h)
    | some stream => f stream

/-- The result of a call that the hardware may refuse. -/
def ofHardware {α : Type} (a : α) : Option HardwareError → Except HostError α
  | none => .ok a
  | some e => .error e.toHostError

/-- The hardware applies the size it likes, or cuts the size asked for to its capacity. -/
def setBufferSize (s : StreamHandle) (frames : Nat) (h : MobileHost κ) :
    Except HostError Nat × MobileHost κ :=
  h.withStream s fun stream =>
    let script := h.scripts.get stream.side
    let applied := script.bufferSize.getD (min (asInt32 frames) stream.capacity)
    (ofHardware applied.toNat script.bufferError, h.record stream (.buffer (asInt32 frames)))

def startStream (s : StreamHandle) (h : MobileHost κ) : Except HostError Unit × MobileHost κ :=
  h.withStream s fun stream =>
    (ofHardware () (h.scripts.get stream.side).startError, h.record stream .start)

def stopStream (s : StreamHandle) (h : MobileHost κ) : Except HostError Unit × MobileHost κ :=
  h.withStream s fun stream =>
    (ofHardware () (h.scripts.get stream.side).stopError, h.record stream .stop)

/-- The stream is gone whatever the hardware says to the close. -/
def closeStream (s : StreamHandle) (h : MobileHost κ) :
    (Except HostError Unit × StreamHandle) × MobileHost κ :=
  let (result, h) := h.withStream s fun stream =>
    (ofHardware () (h.scripts.get stream.side).closeError,
      ((h.record stream .close).record stream .drop).remove stream.number)
  ((result, { s with closed := true }), h)

def discard (s : StreamHandle) (h : MobileHost κ) : Unit × MobileHost κ :=
  let (_, h) := h.withStream s fun stream =>
    (.ok (), (h.record stream .drop).remove stream.number)
  ((), h)

instance [StreamOwner κ σ] : StreamHost κ σ (MobileHost κ) where
  name _ := "oboe"
  recommendsAAudio h := h.scripts.output.recommendsAAudio
  infoOf s _ := s.properties
  openStream := openStream
  setBufferSize s frames := .quiet (setBufferSize s frames)
  startStream s := .quiet (startStream s)
  stopStream s := .quiet (stopStream s)
  closeStream s := .quiet (closeStream s)
  discard s := .quiet (discard s)

/-! ### The hardware -/

/-- The newest stream of a direction exchanges the whole frames in a buffer, whether or not it has
been started; answers the buffer afterwards. Without a stream there is none. -/
def exchange [StreamOwner κ σ] (d : Direction) (data : List Int16) (h : MobileHost κ) (s : σ) :
    Option (Verdict × List Int16) × MobileHost κ × σ :=
  match h.newest? d with
  | none => (none, h, s)
  | some stream =>
    let layout := stream.adapter.layout
    let buffer := layout.frames data
    match d with
    | .input =>
      let call := StreamOwner.capture stream.callback stream.properties
      let (verdict, adapter, s) := stream.adapter.capture call buffer s
      (some (verdict, layout.samples buffer), h.update { stream with adapter }, s)
    | .output =>
      let call := StreamOwner.render stream.callback stream.properties
      let (verdict, buffer, adapter, s) :=
        stream.adapter.render stream.properties.channelCount call buffer s
      (some (verdict, layout.samples buffer), h.update { stream with adapter }, s)

/-- When the hardware tells of an error that ends a stream. -/
inductive ErrorPhase
  | beforeClose
  | afterClose
  deriving DecidableEq, Repr

/-- The hardware tells the owner of the newest stream of an error; answers whether there is one. -/
def reportError [StreamOwner κ σ] (d : Direction) (phase : ErrorPhase) (e : HardwareError)
    (h : MobileHost κ) (s : σ) : Bool × σ :=
  match h.newest? d with
  | none => (false, s)
  | some stream =>
    match phase with
    | .beforeClose =>
      (true, StreamOwner.beforeClose stream.callback stream.properties e.toHostError s)
    | .afterClose =>
      (true, StreamOwner.afterClose stream.callback stream.properties e.toHostError s)

end MobileHost

end Passthrough
