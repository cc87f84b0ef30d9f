/-!
# Options as given

The options a host application hands over: a flat list of named codes and flags, none checked yet.
-/

namespace Passthrough

/-- The options as given. The codes are the ones that hosts use; what is left out takes the value
written here. -/
structure Options where
  periodLenMs : Int32 := 20
  nativeApi : Int32 := 2
  sampleRate : Int32 := 16000
  channelCount : Int32 := 1
  format : Int32 := 1
  sharingMode : Int32 := 1
  performanceMode : Int32 := 12
  inputPreset : Int32 := 7
  usage : Int32 := 2
  recordDeviceId : Int32 := 0
  playbackDeviceId : Int32 := 0
  sessionId : Int32 := -1
  channelConversionAllowed : Bool := true
  formatConversionAllowed : Bool := true
  rateConversionQuality : Int32 := 3
  deriving DecidableEq, Repr, Inhabited

namespace Options

/-- How one option is read from and written to a set of options. -/
inductive Access
  | code (get : Options → Int32) (put : Int32 → Options → Options)
  | flag (get : Options → Bool) (put : Bool → Options → Options)

/-- Every option with its name, in the order in which they are written. -/
def fields : List (String × Access) :=
  [("periodLenMs", .code periodLenMs fun v o => { o with periodLenMs := v }),
    ("nativeApi", .code nativeApi fun v o => { o with nativeApi := v }),
    ("sampleRate", .code sampleRate fun v o => { o with sampleRate := v }),
    ("channelCount", .code channelCount fun v o => { o with channelCount := v }),
    ("format", .code format fun v o => { o with format := v }),
    ("sharingMode", .code sharingMode fun v o => { o with sharingMode := v }),
    ("performanceMode", .code performanceMode fun v o => { o with performanceMode := v }),
    ("inputPreset", .code inputPreset fun v o => { o with inputPreset := v }),
    ("usage", .code usage fun v o => { o with usage := v }),
    ("recordDeviceId", .code recordDeviceId fun v o => { o with recordDeviceId := v }),
    ("playbackDeviceId", .code playbackDeviceId fun v o => { o with playbackDeviceId := v }),
    ("sessionId", .code sessionId fun v o => { o with sessionId := v }),
    ("channelConversionAllowed",
      .flag channelConversionAllowed fun v o => { o with channelConversionAllowed := v }),
    ("formatConversionAllowed",
      .flag formatConversionAllowed fun v o => { o with formatConversionAllowed := v }),
    ("rateConversionQuality",
      .code rateConversionQuality fun v o => { o with rateConversionQuality := v })]

end Options

end Passthrough
