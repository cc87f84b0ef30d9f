import Passthrough.Json.Value
import Passthrough.Line.Link
/-!
# Events as JSON

The JSON form of what callbacks report to their engine.
-/

namespace Passthrough

open Json

def Event.toJson : Event → Value
  | .disconnected d error =>
    .record [("disconnected", .text d.name), ("error", .text error.inspect)]
  | .fault d expected actual =>
    .record [("fault", .text d.name), ("expected", .ofNat expected), ("actual", .ofNat actual)]

end Passthrough
