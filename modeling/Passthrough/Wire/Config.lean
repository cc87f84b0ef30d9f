import Passthrough.Config.Basic
import Passthrough.Wire.Settings
/-!
# Configurations as JSON

The JSON forms of a configuration and of what follows from it: the format of its periods and the
requests for its streams.
-/

namespace Passthrough

open Json

namespace Config

def toJson (c : Config) : Value :=
  .record [("audio_api", Setting.toJson c.audioApi), ("sample_rate", .ofNat c.sampleRate),
    ("channel_count", .ofNat c.channelCount), ("period_ms", .ofNat c.periodMs),
    ("format", Setting.toJson c.format), ("sharing_mode", Setting.toJson c.sharingMode),
    ("performance_mode", Setting.toJson c.performanceMode),
    ("input_preset", Setting.toJson c.inputPreset), ("usage", Setting.toJson c.usage),
    ("record_device_id", .ofInt c.recordDeviceId),
    ("playback_device_id", .ofInt c.playbackDeviceId),
    ("session_id", .text c.sessionId.name),
    ("channel_conversion_allowed", .bool c.channelConversionAllowed),
    ("format_conversion_allowed", .bool c.formatConversionAllowed),
    ("rate_conversion_quality", Setting.toJson c.rateConversionQuality)]

end Config

namespace PeriodFormat

/-- The members of a format: what it is made of, then what that makes. -/
def jsonMembers (l : PeriodFormat) : List (String × Value) :=
  [("sample_rate", .ofNat l.sampleRate), ("channel_count", .ofNat l.channelCount),
    ("period_ms", .ofNat l.milliseconds), ("frames_per_period", .ofNat l.frames),
    ("period_samples", .ofNat l.samples), ("period_bytes", .ofNat l.bytes),
    ("low_latency_buffer_frames", .ofNat l.doubleFrames)]

def toJson (l : PeriodFormat) : Value := .record l.jsonMembers

end PeriodFormat

namespace StreamSpec

def toJson (r : StreamSpec) : Value :=
  .record [("direction", r.direction.toJson), ("device_id", .ofInt r.deviceId),
    ("sample_rate", .ofNat r.sampleRate), ("channel_count", .ofNat r.channelCount),
    ("format", Setting.toJson r.format), ("frames_per_callback", .ofNat r.framesPerCallback),
    ("audio_api", Setting.toJson r.audioApi), ("sharing_mode", Setting.toJson r.sharingMode),
    ("performance_mode", Setting.toJson r.performanceMode),
    ("input_preset", Setting.toJson r.inputPreset), ("usage", Setting.toJson r.usage),
    ("session_id", .text r.sessionId.name),
    ("channel_conversion_allowed", .bool r.channelConversionAllowed),
    ("format_conversion_allowed", .bool r.formatConversionAllowed),
    ("rate_conversion_quality", Setting.toJson r.rateConversionQuality)]

end StreamSpec

end Passthrough
