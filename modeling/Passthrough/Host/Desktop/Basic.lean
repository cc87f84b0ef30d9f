import Passthrough.Host.Desktop.Framer
import Passthrough.Host.Desktop.Negotiation
import Passthrough.Host.Interface
import Passthrough.Sample
/-!
# The desktop host

The host of a desktop machine. Its devices exchange buffers of their own size, in 16-bit or
floating-point samples, so a framer belongs to every stream.
-/

namespace Passthrough

namespace Desktop

inductive DeviceOp
  | build (n : BuildPlan)
  | play
  | pause
  | drop
  deriving DecidableEq, Repr

structure DeviceCall where
  side : Direction
  /-- Streams are numbered from 1 in the order in which they are built. -/
  stream : Nat
  op : DeviceOp
  deriving DecidableEq, Repr

namespace DeviceOp

def text : DeviceOp → String
  | .build n =>
    let buffer := match n.fixedBuffer with
      | some frames => toString frames
      | none => "default"
    s!"build({n.sampleRate} Hz, {n.channels} ch, {n.format.name}, {buffer})"
  | .play => "play"
  | .pause => "pause"
  | .drop => "drop"

end DeviceOp

namespace DeviceCall

def text (c : DeviceCall) : String := s!"{c.side.name}#{c.stream}.{c.op.text}"

end DeviceCall

structure DeviceStream (κ : Type) where
  number : Nat
  side : Direction
  format : DeviceFormat
  properties : StreamInfo
  callback : κ
  input : CaptureFramer
  output : PlaybackFramer
  /-- The loss of the device has been reported. -/
  reported : Bool := false
  playError : Option String
  pauseError : Option String
  deriving Repr

end Desktop

open Desktop

structure DesktopHost (κ : Type) where
  world : World := {}
  /-- How many streams have been built. -/
  built : Nat := 0
  /-- The live streams, oldest first. -/
  streams : List (DeviceStream κ) := []
  /-- What streams have done on their devices, oldest first. -/
  log : List DeviceCall := []
  deriving Repr, Inhabited

namespace DesktopHost

variable {κ σ : Type}

def live (h : DesktopHost κ) (d : Direction) : List (DeviceStream κ) :=
  h.streams.filter (·.side = d)

def stream? (h : DesktopHost κ) (number : Nat) : Option (DeviceStream κ) :=
  h.streams.find? (·.number == number)

def newest? (h : DesktopHost κ) (d : Direction) : Option (DeviceStream κ) := (h.live d).getLast?

def record (h : DesktopHost κ) (s : DeviceStream κ) (op : DeviceOp) : DesktopHost κ :=
  { h with log := h.log ++ [⟨s.side, s.number, op⟩] }

/-- Puts a stream in the place of the one with its number. -/
def update (h : DesktopHost κ) (s : DeviceStream κ) : DesktopHost κ :=
  { h with streams := h.streams.map fun t => if t.number = s.number then s else t }

def remove (h : DesktopHost κ) (number : Nat) : DesktopHost κ :=
  { h with streams := h.streams.filter (·.number ≠ number) }

/-- Turns the callback of a stream off or on. -/
def setStopped (s : DeviceStream κ) (stopped : Bool) : DeviceStream κ :=
  { s with input := { s.input with stopped }, output := { s.output with stopped } }

/-- The result of a call that the device may refuse with words. -/
def ofDevice : Option String → Except HostError Unit
  | none => .ok ()
  | some text => .error (.backend (backendText text))

/-- The device and the configuration for a request, or why there are none. -/
def choose (side : Direction) (r : StreamSpec) (w : World) :
    Except HostError (Device × BuildPlan) := do
  let device ← w.find side r.deviceId
  if let some text := device.rangesError then throw (.backend (backendText text))
  let n ← planFor device.ranges r
  if let some e := device.buildError then throw e.toHostError
  return (device, n)

def openStream (side : Direction) (r : StreamSpec) (callback : κ) (h : DesktopHost κ) :
    Opening × DesktopHost κ :=
  match choose side r h.world with
  | .error e => (.refused e, h)
  | .ok (device, n) =>
    let number := h.built + 1
    let properties := n.properties r
    let period := properties.framesPerCallback * properties.channelCount
    let stream : DeviceStream κ :=
      { number, side, format := n.format, properties, callback
        input := { period }, output := { period }
        playError := device.playError, pauseError := device.pauseError }
    (.opened { id := number, properties },
      { h with built := number, streams := h.streams ++ [stream] }.record stream (.build n))

/-- Whoever is asked after the stream is closed answers that. -/
def withStream {α : Type} (s : StreamHandle) (h : DesktopHost κ)
    (f : DeviceStream κ → Except HostError α × DesktopHost κ) :
    Except HostError α × DesktopHost κ :=
  if s.closed then (.error .closed, h)
  else
    match h.stream? s.id with
    | none => (.error .closed, h)
    | some stream => f stream

def startStream (s : StreamHandle) (h : DesktopHost κ) : Except HostError Unit × DesktopHost κ :=
  h.withStream s fun stream =>
    (ofDevice stream.playError, (h.update (setStopped stream false)).record stream .play)

def stopStream (s : StreamHandle) (h : DesktopHost κ) : Except HostError Unit × DesktopHost κ :=
  h.withStream s fun stream =>
    (ofDevice stream.pauseError, (h.update (setStopped stream true)).record stream .pause)

/-- Closing pauses the device as far as it still can be, and always succeeds. -/
def closeStream (s : StreamHandle) (h : DesktopHost κ) :
    (Except HostError Unit × StreamHandle) × DesktopHost κ :=
  let (result, h) := h.withStream s fun stream =>
    (.ok (), ((h.record stream .pause).record stream .drop).remove stream.number)
  ((result, { s with closed := true }), h)

def discard (s : StreamHandle) (h : DesktopHost κ) : Unit × DesktopHost κ :=
  let (_, h) := h.withStream s fun stream =>
    (.ok (), (h.record stream .drop).remove stream.number)
  ((), h)

instance [StreamOwner κ σ] : StreamHost κ σ (DesktopHost κ) where
  name _ := "cpal"
  recommendsAAudio _ := false
  infoOf s _ := s.properties
  openStream side r callback := .quiet (openStream side r callback)
  -- The device fixed the size of its buffers when the stream was built.
  setBufferSize _ _ := .quiet fun h => (.error .unimplemented, h)
  startStream s := .quiet (startStream s)
  stopStream s := .quiet (stopStream s)
  closeStream s := .quiet (closeStream s)
  discard s := .quiet (discard s)

/-! ### The hardware -/

/-- A buffer of a device, in the format that its stream was built with. -/
inductive Buffer
  | i16 (samples : List Int16)
  /-- Single-precision samples, given by their bits. -/
  | f32 (bits : List UInt32)
  deriving DecidableEq, Repr

namespace Buffer

def format : Buffer → DeviceFormat
  | .i16 _ => .i16
  | .f32 _ => .f32

def samples : Buffer → List Int16
  | .i16 samples => samples
  | .f32 bits => bits.map Sample.ofFloatBits

def ofSamples (format : DeviceFormat) (samples : List Int16) : Buffer :=
  if format = .i16 then .i16 samples else .f32 (samples.map Sample.toFloatBits)

end Buffer

/-- How a device gets along with its newest stream. -/
inductive Exchange (α : Type)
  | done (a : α)
  | noStream
  /-- The stream exchanges samples of another format. -/
  | wrongFormat
  /-- A period without samples has no place for one. -/
  | noPlace
  deriving Repr

/-- A device captures a buffer, whether or not its stream has been started. -/
def capture [StreamOwner κ σ] (buffer : Buffer) (h : DesktopHost κ) (s : σ) :
    Exchange Unit × DesktopHost κ × σ :=
  match h.newest? .input with
  | none => (.noStream, h, s)
  | some stream =>
    let data := buffer.samples
    if stream.format ≠ buffer.format then (.wrongFormat, h, s)
    else if stream.input.period = 0 ∧ ¬ stream.input.stopped ∧ data ≠ [] then (.noPlace, h, s)
    else
      let (input, s) :=
        stream.input.push (StreamOwner.capture stream.callback stream.properties) data s
      let output := { stream.output with stopped := input.stopped }
      (.done (), h.update { stream with input, output }, s)

/-- A device asks for a buffer of this many samples, whether or not its stream has been started. -/
def render [StreamOwner κ σ] (length : Nat) (h : DesktopHost κ) (s : σ) :
    Exchange Buffer × DesktopHost κ × σ :=
  match h.newest? .output with
  | none => (.noStream, h, s)
  | some stream =>
    let call := StreamOwner.render stream.callback stream.properties
    if stream.output.period = 0 ∧ 0 < length then
      let (output, s) := stream.output.refill call s
      (.noPlace, h.update { stream with output }, s)
    else
      let (frames, output, s) := stream.output.pull call length s
      let input := { stream.input with stopped := output.stopped }
      (.done (.ofSamples stream.format frames), h.update { stream with input, output }, s)

inductive DeviceError
  | notAvailable
  /-- Nothing that ends the stream. -/
  | other
  deriving DecidableEq, Repr

/-- A device reports an error. Its loss is told to the owner once, both before and after the close;
any other error is not. -/
def reportError [StreamOwner κ σ] (d : Direction) (e : DeviceError) (h : DesktopHost κ) (s : σ) :
    Bool × DesktopHost κ × σ :=
  match h.newest? d with
  | none => (false, h, s)
  | some stream =>
    if e = .other ∨ stream.reported then (true, h, s)
    else
      let s := StreamOwner.beforeClose stream.callback stream.properties .disconnected s
      let s := StreamOwner.afterClose stream.callback stream.properties .disconnected s
      (true, h.update { stream with reported := true }, s)

end DesktopHost

end Passthrough
