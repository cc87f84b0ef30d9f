import Passthrough.Host.Error
import Passthrough.Stream.Request
/-!
# Hosts and owners of streams

What a host and the owner of a stream do for each other. The host calls back for data and with bad
news; the owner answers out of its own state.
-/

namespace Passthrough

/-- Whether the hardware should call again. -/
inductive Verdict
  | proceed
  | stop
  deriving DecidableEq, Repr, Inhabited

namespace Verdict

def name : Verdict → String
  | .proceed => "continue"
  | .stop => "stop"

end Verdict

/-- An owner of streams. Its state is `σ`; `κ` is what it leaves with the host to tell one stream's
callbacks from another's. -/
class StreamOwner (κ : Type) (σ : outParam Type) where
  /-- Takes over what a device has captured. -/
  capture : κ → StreamInfo → List Int16 → σ → Verdict × σ
  /-- Fills a destination of this many samples with what a device is to play. -/
  render : κ → StreamInfo → Nat → σ → Verdict × List Int16 × σ
  /-- Hears that the hardware is about to close the stream. -/
  beforeClose : κ → StreamInfo → HostError → σ → σ
  /-- Hears that the hardware has closed the stream. -/
  afterClose : κ → StreamInfo → HostError → σ → σ

end Passthrough
