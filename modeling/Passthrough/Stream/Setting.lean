/-!
# Settings of streams

The settings a stream is asked for. Each is a closed list of choices; a choice has the code under
which a host application names it and the name under which it is shown.
-/

namespace Passthrough

/-- A closed list of choices, each with a code and a name. -/
class Setting (α : Type) where
  /-- Every choice, in the order of the codes. -/
  all : List α
  code : α → Int
  name : α → String

namespace Setting

variable {α : Type} [Setting α]

def ofCode? (code : Int) : Option α := all.find? (Setting.code · == code)

def ofName? (name : String) : Option α := all.find? (Setting.name · == name)

end Setting

/-- The audio interface of the device that a stream goes through. -/
inductive AudioApi
  | unspecified
  | openSLES
  | aaudio
  deriving DecidableEq, Repr, Inhabited

instance : Setting AudioApi where
  all := [.unspecified, .openSLES, .aaudio]
  code
    | .unspecified => 0
    | .openSLES => 1
    | .aaudio => 2
  name
    | .unspecified => "Unspecified"
    | .openSLES => "OpenSLES"
    | .aaudio => "AAudio"

/-- How one sample is stored. -/
inductive SampleFormat
  | i16
  | float
  | i24
  | i32
  deriving DecidableEq, Repr, Inhabited

instance : Setting SampleFormat where
  all := [.i16, .float, .i24, .i32]
  code
    | .i16 => 1
    | .float => 2
    | .i24 => 3
    | .i32 => 4
  name
    | .i16 => "I16"
    | .float => "Float"
    | .i24 => "I24"
    | .i32 => "I32"

namespace SampleFormat

/-- The format with this code; the code 0 leaves the choice open, which means 16-bit samples. -/
def ofCode? (code : Int) : Option SampleFormat :=
  if code = 0 then some .i16 else Setting.ofCode? code

def width : SampleFormat → Nat
  | .i16 => 2
  | .float => 4
  | .i24 => 3
  | .i32 => 4

end SampleFormat

/-- Whether other applications may use the device at the same time. -/
inductive SharingMode
  | exclusive
  | shared
  deriving DecidableEq, Repr, Inhabited

instance : Setting SharingMode where
  all := [.exclusive, .shared]
  code
    | .exclusive => 0
    | .shared => 1
  name
    | .exclusive => "Exclusive"
    | .shared => "Shared"

/-- What a stream trades latency against. -/
inductive PerformanceMode
  | none
  | powerSaving
  | lowLatency
  deriving DecidableEq, Repr, Inhabited

instance : Setting PerformanceMode where
  all := [.none, .powerSaving, .lowLatency]
  code
    | .none => 10
    | .powerSaving => 11
    | .lowLatency => 12
  name
    | .none => "None"
    | .powerSaving => "PowerSaving"
    | .lowLatency => "LowLatency"

/-- The kind of capture that the device tunes itself for. -/
inductive InputPreset
  | generic
  | camcorder
  | voiceRecognition
  | voiceCommunication
  | unprocessed
  | voicePerformance
  deriving DecidableEq, Repr, Inhabited

instance : Setting InputPreset where
  all := [.generic, .camcorder, .voiceRecognition, .voiceCommunication, .unprocessed,
    .voicePerformance]
  code
    | .generic => 1
    | .camcorder => 5
    | .voiceRecognition => 6
    | .voiceCommunication => 7
    | .unprocessed => 9
    | .voicePerformance => 10
  name
    | .generic => "Generic"
    | .camcorder => "Camcorder"
    | .voiceRecognition => "VoiceRecognition"
    | .voiceCommunication => "VoiceCommunication"
    | .unprocessed => "Unprocessed"
    | .voicePerformance => "VoicePerformance"

/-- What the playback is for. -/
inductive Usage
  | media
  | voiceCommunication
  | voiceCommunicationSignalling
  | alarm
  | notificationSound
  | notificationRingtone
  | notificationEvent
  | assistanceAccessibility
  | assistanceNavigationGuidance
  | assistanceSonification
  | game
  | assistant
  deriving DecidableEq, Repr, Inhabited

instance : Setting Usage where
  all := [.media, .voiceCommunication, .voiceCommunicationSignalling, .alarm, .notificationSound,
    .notificationRingtone, .notificationEvent, .assistanceAccessibility,
    .assistanceNavigationGuidance, .assistanceSonification, .game, .assistant]
  code
    | .media => 1
    | .voiceCommunication => 2
    | .voiceCommunicationSignalling => 3
    | .alarm => 4
    | .notificationSound => 5
    | .notificationRingtone => 6
    | .notificationEvent => 10
    | .assistanceAccessibility => 11
    | .assistanceNavigationGuidance => 12
    | .assistanceSonification => 13
    | .game => 14
    | .assistant => 16
  name
    | .media => "Media"
    | .voiceCommunication => "VoiceCommunication"
    | .voiceCommunicationSignalling => "VoiceCommunicationSignalling"
    | .alarm => "Alarm"
    | .notificationSound => "Notification"
    | .notificationRingtone => "NotificationRingtone"
    | .notificationEvent => "NotificationEvent"
    | .assistanceAccessibility => "AssistanceAccessibility"
    | .assistanceNavigationGuidance => "AssistanceNavigationGuidance"
    | .assistanceSonification => "AssistanceSonification"
    | .game => "Game"
    | .assistant => "Assistant"

/-- The effort spent where a stream's rate has to be converted. -/
inductive RateQuality
  | none
  | fastest
  | low
  | medium
  | high
  | best
  deriving DecidableEq, Repr, Inhabited

instance : Setting RateQuality where
  all := [.none, .fastest, .low, .medium, .high, .best]
  code
    | .none => 0
    | .fastest => 1
    | .low => 2
    | .medium => 3
    | .high => 4
    | .best => 5
  name
    | .none => "None"
    | .fastest => "Fastest"
    | .low => "Low"
    | .medium => "Medium"
    | .high => "High"
    | .best => "Best"

/-- The effects session that a stream joins. -/
inductive SessionId
  | none
  | allocate
  | id (n : Int)
  deriving DecidableEq, Repr, Inhabited

namespace SessionId

/-- The session with this code: -1 for none, 0 to have one allocated, above that the session's own
number. -/
def ofCode? (code : Int) : Option SessionId :=
  if code = -1 then some .none
  else if code = 0 then some .allocate
  else if 0 < code then some (.id code)
  else Option.none

/-- The text under which a session is shown. -/
def name : SessionId → String
  | .none => "None"
  | .allocate => "Allocate"
  | .id n => "Id(" ++ toString n ++ ")"

end SessionId

end Passthrough
