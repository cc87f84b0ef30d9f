import Passthrough.Direction
import Passthrough.Stream.Setting
/-!
# Requests for streams

What a stream is asked for, and what the host made of it.
-/

namespace Passthrough

/-- Everything a host is told when it is asked to open a stream. -/
structure StreamSpec where
  direction : Direction
  /-- 0 leaves the choice of device to the host. -/
  deviceId : Int
  sampleRate : Nat
  channelCount : Nat
  format : SampleFormat
  framesPerCallback : Nat
  audioApi : AudioApi
  sharingMode : SharingMode
  performanceMode : PerformanceMode
  inputPreset : InputPreset
  usage : Usage
  sessionId : SessionId
  channelConversionAllowed : Bool
  formatConversionAllowed : Bool
  rateConversionQuality : RateQuality
  deriving DecidableEq, Repr

/-- The frames of so many of the periods asked for. Frames are counted in 32 bits: a product that
outgrows them wraps around. -/
def StreamSpec.periodFrames (r : StreamSpec) (periods : Nat) : Nat :=
  r.framesPerCallback * periods % 4294967296

structure StreamInfo where
  direction : Direction
  sampleRate : Nat
  channelCount : Nat
  bufferCapacityFrames : Nat
  framesPerCallback : Nat
  performanceMode : PerformanceMode
  deriving DecidableEq, Repr

end Passthrough
