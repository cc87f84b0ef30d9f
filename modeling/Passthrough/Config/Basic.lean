import Passthrough.Config.Options
import Passthrough.Error.Config
import Passthrough.Period.Format
/-!
# Checked configurations

The configuration of a session: options that passed every check. `Config.ofOptions` is the only way
from options to a configuration, and it names the first option that stands in the way.
-/

namespace Passthrough

structure Config where
  audioApi : AudioApi := .aaudio
  sampleRate : Nat := 16000
  channelCount : Nat := 1
  periodMs : Nat := 20
  format : SampleFormat := .i16
  sharingMode : SharingMode := .shared
  performanceMode : PerformanceMode := .lowLatency
  inputPreset : InputPreset := .voiceCommunication
  usage : Usage := .voiceCommunication
  recordDeviceId : Int := 0
  playbackDeviceId : Int := 0
  sessionId : SessionId := .none
  channelConversionAllowed : Bool := true
  formatConversionAllowed : Bool := true
  rateConversionQuality : RateQuality := .medium
  deriving DecidableEq, Repr, Inhabited

namespace Config

/-- A choice that the options are free to make, as long as it exists. -/
def chosen {α : Type} (field : String) (code : Int) (choice : Option α) : Except ConfigError α :=
  match choice with
  | none => .error (.outOfRange field code)
  | some value => .ok value

/-- A choice that policy has made: a code that names nothing is out of range, one that names
something else is refused. -/
def required {α : Type} [DecidableEq α] (field : String) (code : Int) (choice : Option α)
    (policy : α) : Except ConfigError α :=
  match choice with
  | none => .error (.outOfRange field code)
  | some value => if value = policy then .ok value else .error (.policyFixed field code)

/-- A number between two bounds; 0, where it is allowed to stand for a default, is that default. -/
def bounded (field : String) (value : Int) (low high : Int) (zero : Option Nat) :
    Except ConfigError Nat :=
  match zero with
  | some default =>
    if value = 0 then .ok default
    else if low ≤ value ∧ value ≤ high then .ok value.toNat
    else .error (.outOfRange field value)
  | none =>
    if low ≤ value ∧ value ≤ high then .ok value.toNat else .error (.outOfRange field value)

/-- Device ids count from 0. -/
def deviceId (field : String) (value : Int) : Except ConfigError Int :=
  if value < 0 then .error (.outOfRange field value) else .ok value

/-- A period has to hold a whole number of frames. -/
def checkIntegral (sampleRate periodMs : Nat) : Except ConfigError Unit :=
  if sampleRate * periodMs % 1000 = 0 then .ok ()
  else .error (.periodNotIntegral sampleRate periodMs)

/-- Checks the options one after the other and reports the first that fails. -/
def ofOptions (o : Options) : Except ConfigError Config := do
  let periodMs ← bounded "periodLenMs" o.periodLenMs.toInt 1 1000 none
  let sampleRate ← bounded "sampleRate" o.sampleRate.toInt 8000 192000 (some 16000)
  let channelCount ← bounded "channelCount" o.channelCount.toInt 1 256 (some 1)
  checkIntegral sampleRate periodMs
  let audioApi ← chosen "nativeApi" o.nativeApi.toInt (Setting.ofCode? o.nativeApi.toInt)
  let sessionId ← chosen "sessionId" o.sessionId.toInt (SessionId.ofCode? o.sessionId.toInt)
  let rateConversionQuality ← chosen "rateConversionQuality" o.rateConversionQuality.toInt
    (Setting.ofCode? o.rateConversionQuality.toInt)
  let recordDeviceId ← deviceId "recordDeviceId" o.recordDeviceId.toInt
  let playbackDeviceId ← deviceId "playbackDeviceId" o.playbackDeviceId.toInt
  let format ← required "format" o.format.toInt (SampleFormat.ofCode? o.format.toInt) .i16
  let sharingMode ← required "sharingMode" o.sharingMode.toInt
    (Setting.ofCode? o.sharingMode.toInt) .shared
  let performanceMode ← required "performanceMode" o.performanceMode.toInt
    (Setting.ofCode? o.performanceMode.toInt) .lowLatency
  let inputPreset ← required "inputPreset" o.inputPreset.toInt
    (Setting.ofCode? o.inputPreset.toInt) .voiceCommunication
  let usage ← required "usage" o.usage.toInt
    (Setting.ofCode? o.usage.toInt) .voiceCommunication
  return {
    audioApi, sampleRate, channelCount, periodMs, format, sharingMode, performanceMode, inputPreset,
    usage, recordDeviceId, playbackDeviceId, sessionId,
    channelConversionAllowed := o.channelConversionAllowed,
    formatConversionAllowed := o.formatConversionAllowed, rateConversionQuality }

def period (c : Config) : PeriodFormat := ⟨c.sampleRate, c.channelCount, c.periodMs⟩

def deviceIdFor (c : Config) : Direction → Int
  | .input => c.recordDeviceId
  | .output => c.playbackDeviceId

/-- What a stream is asked for; the input runs at the configured rate, the output at the rate of the
input it plays. -/
def spec (c : Config) (direction : Direction) (sampleRate : Nat) : StreamSpec where
  direction
  deviceId := c.deviceIdFor direction
  sampleRate
  channelCount := c.channelCount
  format := c.format
  framesPerCallback := c.period.frames
  audioApi := c.audioApi
  sharingMode := c.sharingMode
  performanceMode := c.performanceMode
  inputPreset := c.inputPreset
  usage := c.usage
  sessionId := c.sessionId
  channelConversionAllowed := c.channelConversionAllowed
  formatConversionAllowed := c.formatConversionAllowed
  rateConversionQuality := c.rateConversionQuality

def inputSpec (c : Config) : StreamSpec := c.spec .input c.sampleRate

def outputSpec (c : Config) (sampleRate : Nat) : StreamSpec := c.spec .output sampleRate

end Config

end Passthrough
