import Passthrough.Engine.Control
import Passthrough.Host.Desktop.Basic
/-!
# An engine on a desktop machine

An engine on the desktop host: what the devices of the machine do to it between its calls.
-/

namespace Passthrough

/-- An engine whose host is a desktop machine. -/
abbrev DesktopEngine := Engine (DesktopHost Handler)

namespace Engine

open DesktopHost

/-- The device captures a buffer. -/
def capture (buffer : Buffer) (e : DesktopEngine) : Exchange Unit × DesktopEngine :=
  let (result, host, line) := e.host.capture buffer e.line
  (result, { e with host, line })

/-- The device asks for a buffer of this many samples. -/
def render (length : Nat) (e : DesktopEngine) : Exchange Buffer × DesktopEngine :=
  let (result, host, line) := e.host.render length e.line
  (result, { e with host, line })

/-- The device of a direction reports an error; answers whether there was a stream on it. -/
def reportError (d : Direction) (error : DeviceError) (e : DesktopEngine) : Bool × DesktopEngine :=
  let (found, host, line) := e.host.reportError d error e.line
  (found, { e with host, line })

end Engine

end Passthrough
