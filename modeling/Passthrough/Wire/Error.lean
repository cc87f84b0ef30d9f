import Passthrough.Error.Audio
import Passthrough.Error.Config
import Passthrough.Json.Value
/-!
# Errors as JSON

The JSON forms of errors: the kind, the number where there is one, and the words.
-/

namespace Passthrough

open Json

def HostError.toJson (e : HostError) : Value :=
  .record [("error", .text e.kind), ("message", .text e.message)]

def AudioError.toJson (e : AudioError) : Value :=
  .record [("error", .text e.kind), ("code", .ofInt e.code), ("message", .text e.message)]

/-- The status is written too, because it depends on the kind. -/
def ConfigError.toJson (e : ConfigError) : Value :=
  .record [("error", .text e.kind), ("code", .ofInt e.code), ("message", .text e.message),
    ("status", .ofInt e.status.value)]

end Passthrough
