import Passthrough.Error.Status
import Passthrough.Json.Record
import Passthrough.Stream.Request
/-!
# Settings as JSON

The JSON forms of settings, directions, status codes and stream properties.
-/

namespace Passthrough

open Json

namespace Direction

def toJson (d : Direction) : Value := .text d.name

def ofJson? (v : Value) : Option Direction := v.plainName?.bind ofName?

end Direction

namespace StatusCode

def toJson (s : StatusCode) : Value := .text s.name

def ofJson? (v : Value) : Option StatusCode := v.plainName?.bind ofName?

end StatusCode

namespace Setting

variable {α : Type} [Setting α]

def toJson (a : α) : Value := .text (Setting.name a)

def ofJson? (v : Value) : Option α := v.plainName?.bind Setting.ofName?

end Setting

namespace SessionId

def toJson : SessionId → Value
  | .none => .text "None"
  | .allocate => .text "Allocate"
  | .id n => .record [("Id", .ofInt n)]

/-- The session under a plain name. -/
def ofPlainName? (s : String) : Option SessionId :=
  if s = "None" then some .none else if s = "Allocate" then some .allocate else Option.none

/-- A plain name, or an object whose only member is the number of the session. -/
def ofJson? : Value → Option SessionId
  | .object [(some "Id", v)] => v.int32?.map .id
  | v => v.plainName?.bind ofPlainName?

end SessionId

namespace StreamInfo

def fieldNames : List String :=
  ["direction", "sample_rate", "channel_count", "buffer_capacity_frames", "frames_per_callback",
    "performance_mode"]

def toJson (p : StreamInfo) : Value :=
  .record [("direction", p.direction.toJson), ("sample_rate", .ofNat p.sampleRate),
    ("channel_count", .ofNat p.channelCount),
    ("buffer_capacity_frames", .ofNat p.bufferCapacityFrames),
    ("frames_per_callback", .ofNat p.framesPerCallback),
    ("performance_mode", Setting.toJson p.performanceMode)]

def ofJson? (v : Value) : Option StreamInfo := do
  let fields ← v.wholeFields? fieldNames
  let direction ← (Value.field? "direction" fields).bind Direction.ofJson?
  let sampleRate ← (Value.field? "sample_rate" fields).bind (·.natOfBits? 32)
  let channelCount ← (Value.field? "channel_count" fields).bind (·.natOfBits? 16)
  let bufferCapacityFrames ← (Value.field? "buffer_capacity_frames" fields).bind (·.natOfBits? 32)
  let framesPerCallback ← (Value.field? "frames_per_callback" fields).bind (·.natOfBits? 32)
  let performanceMode ← (Value.field? "performance_mode" fields).bind Setting.ofJson?
  return ⟨direction, sampleRate, channelCount, bufferCapacityFrames, framesPerCallback,
    performanceMode⟩

end StreamInfo

end Passthrough
