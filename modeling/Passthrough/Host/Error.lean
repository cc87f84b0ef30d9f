import Passthrough.Text.Inspect
import Passthrough.Text.Quoted
/-!
# Errors of hosts

The reasons for which an audio host refuses a call or loses a stream.
-/

namespace Passthrough

inductive HostError
  | disconnected
  | illegalArgument
  | invalidState
  | invalidFormat
  | invalidRate
  | unavailable
  | timeout
  | closed
  | unimplemented
  /-- A reason the host has only words for. -/
  | backend (text : String)
  deriving DecidableEq, Repr, Inhabited

namespace HostError

def kind : HostError → String
  | .disconnected => "Disconnected"
  | .illegalArgument => "IllegalArgument"
  | .invalidState => "InvalidState"
  | .invalidFormat => "InvalidFormat"
  | .invalidRate => "InvalidRate"
  | .unavailable => "Unavailable"
  | .timeout => "Timeout"
  | .closed => "Closed"
  | .unimplemented => "Unimplemented"
  | .backend _ => "Backend"

/-- The errors that need no words. -/
def plain : List HostError :=
  [.disconnected, .illegalArgument, .invalidState, .invalidFormat, .invalidRate, .unavailable,
    .timeout, .closed, .unimplemented]

/-- The error of this kind, if it needs no words. -/
def ofKind? (kind : String) : Option HostError := plain.find? (·.kind == kind)

def message : HostError → String
  | .disconnected => "stream disconnected"
  | .illegalArgument => "illegal argument"
  | .invalidState => "invalid stream state"
  | .invalidFormat => "invalid format"
  | .invalidRate => "invalid sample rate"
  | .unavailable => "device unavailable"
  | .timeout => "timeout"
  | .closed => "stream closed"
  | .unimplemented => "not implemented by host"
  | .backend text => "backend error: " ++ text

/-- The error as an inspection shows it: its kind, with the words of the host in quotes. -/
def inspect : HostError → String
  | .backend text => Text.applied "Backend" (Text.quoted text)
  | e => e.kind

end HostError

end Passthrough
