import Passthrough.Direction
import Passthrough.Host.Error
import Passthrough.Stream.Setting
/-!
# The answers of mobile hardware

What the audio hardware of a mobile device answers, and the errors it knows.
-/

namespace Passthrough.Mobile

inductive HardwareError
  | disconnected
  | illegalArgument
  | internal
  | invalidState
  | invalidHandle
  | unimplemented
  | unavailable
  | noFreeHandles
  | noMemory
  | null
  | timeout
  | wouldBlock
  | invalidFormat
  | outOfRange
  | noService
  | invalidRate
  | closed
  deriving DecidableEq, Repr, Inhabited

namespace HardwareError

def all : List HardwareError :=
  [.disconnected, .illegalArgument, .internal, .invalidState, .invalidHandle, .unimplemented,
    .unavailable, .noFreeHandles, .noMemory, .null, .timeout, .wouldBlock, .invalidFormat,
    .outOfRange, .noService, .invalidRate, .closed]

def name : HardwareError → String
  | .disconnected => "Disconnected"
  | .illegalArgument => "IllegalArgument"
  | .internal => "Internal"
  | .invalidState => "InvalidState"
  | .invalidHandle => "InvalidHandle"
  | .unimplemented => "Unimplemented"
  | .unavailable => "Unavailable"
  | .noFreeHandles => "NoFreeHandles"
  | .noMemory => "NoMemory"
  | .null => "Null"
  | .timeout => "Timeout"
  | .wouldBlock => "WouldBlock"
  | .invalidFormat => "InvalidFormat"
  | .outOfRange => "OutOfRange"
  | .noService => "NoService"
  | .invalidRate => "InvalidRate"
  | .closed => "Closed"

def ofName? (s : String) : Option HardwareError := all.find? (·.name == s)

/-- The error as a host error; one that hosts have no word for keeps its name. -/
def toHostError : HardwareError → HostError
  | .disconnected => .disconnected
  | .illegalArgument => .illegalArgument
  | .outOfRange => .illegalArgument
  | .invalidState => .invalidState
  | .invalidFormat => .invalidFormat
  | .invalidRate => .invalidRate
  | .unavailable => .unavailable
  | .noService => .unavailable
  | .timeout => .timeout
  | .closed => .closed
  | .unimplemented => .unimplemented
  | e => .backend e.name

end HardwareError

inductive ChannelMode
  | unspecified
  | mono
  | stereo
  deriving DecidableEq, Repr, Inhabited

namespace ChannelMode

def count : ChannelMode → Nat
  | .unspecified => 0
  | .mono => 1
  | .stereo => 2

end ChannelMode

/-- What the hardware of one direction answers. What is left out follows the request. -/
structure Script where
  /-- What opening a stream fails with. -/
  openError : Option HardwareError := none
  sampleRate : Option Int := none
  channels : Option ChannelMode := none
  capacity : Option Int := none
  framesPerCallback : Option Int := none
  performanceMode : Option PerformanceMode := none
  /-- A buffer that is exchanged while the stream is being opened. -/
  early : Option (List Int16) := none
  startError : Option HardwareError := none
  stopError : Option HardwareError := none
  closeError : Option HardwareError := none
  bufferError : Option HardwareError := none
  /-- The buffer size that is applied, whatever is asked for. -/
  bufferSize : Option Int := none
  recommendsAAudio : Bool := false
  deriving DecidableEq, Repr, Inhabited

end Passthrough.Mobile
