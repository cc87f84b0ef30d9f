import Passthrough.Host.Desktop.World
import Passthrough.Host.Mobile.Script
import Passthrough.Json.Member
/-!
# Machines as JSON

Descriptions of machines, as JSON: the devices of a desktop machine, and the answers of the audio
hardware of a mobile one. Numbers are taken modulo the size of their word.
-/

namespace Passthrough

open Json

namespace Desktop

/-- A number of this many bits, 0 if it is not given. -/
def wordMember (bits : Nat) (v : Value) (key : String) : Nat :=
  ((v.memberInteger? key).getD 0 % (1 <<< bits : Nat)).toNat

namespace ConfigRange

/-- The bounds of the buffer sizes, if there are two. -/
def bufferOfJson : Value → Option (Nat × Nat)
  | .array [low, high] =>
    some ((low.integer?.getD 0 % 0x100000000).toNat, (high.integer?.getD 0 % 0x100000000).toNat)
  | _ => none

def ofJson (v : Value) : ConfigRange where
  channels := wordMember 16 v "channels"
  minRate := wordMember 32 v "min"
  maxRate := wordMember 32 v "max"
  format := ((v.memberText? "format").bind DeviceFormat.ofName?).getD .i16
  buffer := bufferOfJson (v.member "buffer")

end ConfigRange

namespace BuildError

/-- The errors with a name of their own. -/
def named : List (String × BuildError) :=
  [("DeviceNotAvailable", .deviceNotAvailable), ("StreamConfigNotSupported", .configNotSupported),
    ("InvalidArgument", .invalidArgument), ("StreamIdOverflow", .streamIdOverflow)]

/-- The error with this name; any other text is in the words of the machine. -/
def ofText (text : String) : BuildError :=
  ((named.find? (·.1 == text)).map (·.2)).getD (.backend text)

end BuildError

namespace Device

def ofJson (v : Value) : Device where
  name := v.memberText? "name"
  isDefault := v.memberFlag "default"
  ranges := (v.memberItems "configs").map ConfigRange.ofJson
  rangesError := v.memberText? "configs_error"
  buildError := (v.memberText? "build_error").map BuildError.ofText
  playError := v.memberText? "play_error"
  pauseError := v.memberText? "pause_error"

end Device

namespace World

def ofJson (v : Value) : World where
  devices :=
    ⟨(v.memberItems "inputs").map Device.ofJson, (v.memberItems "outputs").map Device.ofJson⟩
  listErrors := ⟨v.memberText? "inputs_error", v.memberText? "outputs_error"⟩

end World

end Desktop

namespace Mobile

namespace ChannelMode

def ofName? (s : String) : Option ChannelMode :=
  if s = "Unspecified" then some .unspecified
  else if s = "Mono" then some .mono
  else if s = "Stereo" then some .stereo
  else none

end ChannelMode

namespace Script

/-- A signed 32-bit number. -/
def int32Member? (v : Value) (key : String) : Option Int :=
  (v.memberInteger? key).map fun i => Int.bmod i (1 <<< 32)

def errorMember? (v : Value) (key : String) : Option HardwareError :=
  (v.memberText? key).bind HardwareError.ofName?

/-- Reads a script; `samples` reads the buffer that is exchanged early. -/
def ofJson (samples : Value → List Int16) (v : Value) : Script where
  openError := errorMember? v "open_error"
  sampleRate := int32Member? v "sample_rate"
  channels := (v.memberText? "channels").bind ChannelMode.ofName?
  capacity := int32Member? v "capacity"
  framesPerCallback := int32Member? v "frames_per_callback"
  performanceMode := (v.memberText? "performance_mode").bind Setting.ofName?
  early :=
    match v.member "early" with
    | .null => none
    | early => some (samples early)
  startError := errorMember? v "start_error"
  stopError := errorMember? v "stop_error"
  closeError := errorMember? v "close_error"
  bufferError := errorMember? v "buffer_error"
  bufferSize := int32Member? v "buffer_size"
  recommendsAAudio := v.memberFlag "aaudio"

end Script

end Mobile

end Passthrough
