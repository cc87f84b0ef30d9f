import Passthrough.Json.Value
import Passthrough.Period.Channel
/-!
# Channels as JSON

The JSON forms of what a channel tells of itself.
-/

namespace Passthrough

open Json

def ChannelCounts.toJson (s : ChannelCounts) : Value :=
  .record [("periods_written", .ofNat s.written), ("periods_read_fresh", .ofNat s.fresh),
    ("periods_repeated", .ofNat s.repeated), ("periods_silent", .ofNat s.silent)]

def Freshness.toJson : Freshness → Value
  | .fresh sequence => .record [("fresh", .ofNat sequence)]
  | .repeated sequence => .record [("repeated", .ofNat sequence)]
  | .silence => .text "silence"

def WrongLength.toJson (m : WrongLength) : Value :=
  .record [("error", .text "LengthMismatch"), ("expected", .ofNat m.expected),
    ("actual", .ofNat m.actual)]

end Passthrough
