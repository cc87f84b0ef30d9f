import Passthrough.Host.Desktop.World
import Passthrough.Stream.Request
/-!
# From a request to a device configuration

Choosing a device configuration for a request.
-/

namespace Passthrough.Desktop

/-- The configuration that a stream is built with. -/
structure BuildPlan where
  channels : Nat
  sampleRate : Nat
  format : DeviceFormat
  /-- The buffer size asked for, in frames; without one the device picks its own. -/
  fixedBuffer : Option Nat
  deriving DecidableEq, Repr

namespace ConfigRange

/-- Whether a range has the channels asked for, in a format that samples can be converted to. -/
def matchesRequest (r : ConfigRange) (request : StreamSpec) : Bool :=
  r.channels = request.channelCount && (r.format = .i16 || r.format = .f32)

def containsRate (r : ConfigRange) (rate : Nat) : Bool := r.minRate ≤ rate && rate ≤ r.maxRate

def allowsBuffer (r : ConfigRange) (frames : Nat) : Bool :=
  match r.buffer with
  | some (low, high) => low ≤ frames && frames ≤ high
  | none => false

def plan (r : ConfigRange) (request : StreamSpec) : BuildPlan where
  channels := request.channelCount
  sampleRate := request.sampleRate
  format := r.format
  fixedBuffer :=
    if r.allowsBuffer request.framesPerCallback then some request.framesPerCallback else none

end ConfigRange

/-- The first range with 16-bit samples, or else the first of all. -/
def preferred? (ranges : List ConfigRange) : Option ConfigRange :=
  (ranges.find? (·.format = .i16)).or ranges.head?

def planFor (ranges : List ConfigRange) (request : StreamSpec) :
    Except HostError BuildPlan :=
  let candidates := ranges.filter (·.matchesRequest request)
  if candidates = [] then .error .invalidFormat
  else
    match preferred? (candidates.filter (·.containsRate request.sampleRate)) with
    | none => .error .invalidRate
    | some range => .ok (range.plan request)

/-- What a stream of this configuration runs at. Its buffer holds two periods, and it has low
latency if the device promised the size of its buffers. -/
def BuildPlan.properties (n : BuildPlan) (request : StreamSpec) : StreamInfo where
  direction := request.direction
  sampleRate := n.sampleRate
  channelCount := n.channels
  bufferCapacityFrames := request.periodFrames 2
  framesPerCallback := request.framesPerCallback
  performanceMode := if n.fixedBuffer.isSome then .lowLatency else .none

end Passthrough.Desktop
