import Passthrough.Error.Status
import Passthrough.Host.Error
import Passthrough.Stream.State
/-!
# Errors of streams

The errors of opening, running and closing streams.
-/

namespace Passthrough

namespace Direction

/-- The name of a direction in inspections. -/
def title : Direction → String
  | .input => "Input"
  | .output => "Output"

end Direction

inductive AudioError
  | alreadyOpen
  | notOpen
  | streamOpenFailed (direction : Direction) (source : HostError)
  | sampleRateMismatch (direction : Direction) (requested negotiated : Nat)
  | channelCountMismatch (direction : Direction) (requested negotiated : Nat)
  | bufferCapacityTooSmall (direction : Direction) (requiredBytes capacityBytes : Nat)
  | streamStartFailed (direction : Direction) (source : HostError)
  | streamStopFailed (direction : Direction) (source : HostError)
  | streamCloseFailed (direction : Direction) (source : HostError)
  | invalidTransition (direction : Direction) (source target : StreamState)
  | lockPoisoned (component : String)
  | callbackFault (direction : Direction) (expectedBytes actualBytes : Nat)
  deriving DecidableEq, Repr, Inhabited

namespace AudioError

def kind : AudioError → String
  | .alreadyOpen => "AlreadyOpen"
  | .notOpen => "NotOpen"
  | .streamOpenFailed .. => "StreamOpenFailed"
  | .sampleRateMismatch .. => "SampleRateMismatch"
  | .channelCountMismatch .. => "ChannelCountMismatch"
  | .bufferCapacityTooSmall .. => "BufferCapacityTooSmall"
  | .streamStartFailed .. => "StreamStartFailed"
  | .streamStopFailed .. => "StreamStopFailed"
  | .streamCloseFailed .. => "StreamCloseFailed"
  | .invalidTransition .. => "InvalidTransition"
  | .lockPoisoned _ => "LockPoisoned"
  | .callbackFault .. => "CallbackFault"

def code : AudioError → Int
  | .alreadyOpen => 1001
  | .notOpen => 1002
  | .streamOpenFailed .. => 1003
  | .sampleRateMismatch .. => 1004
  | .channelCountMismatch .. => 1005
  | .bufferCapacityTooSmall .. => 1006
  | .streamStartFailed .. => 1007
  | .streamStopFailed .. => 1008
  | .streamCloseFailed .. => 1009
  | .invalidTransition .. => 1010
  | .lockPoisoned _ => 1011
  | .callbackFault .. => 1012

def message : AudioError → String
  | .alreadyOpen => "Streams already open. Call close_streams() first."
  | .notOpen => "Streams not open. Call open_streams() first."
  | .streamOpenFailed d source => s!"Failed to open {d.name} stream: {source.message}"
  | .sampleRateMismatch d requested negotiated =>
    s!"{d.name} stream sample rate mismatch: requested {requested} Hz, got {negotiated} Hz"
  | .channelCountMismatch d requested negotiated =>
    s!"{d.name} stream channel count mismatch: requested {requested}, got {negotiated}"
  | .bufferCapacityTooSmall d required capacity =>
    s!"{d.name} stream buffer capacity too small: need {required} bytes, got {capacity}"
  | .streamStartFailed d source => s!"Failed to start {d.name} stream: {source.message}"
  | .streamStopFailed d source => s!"Failed to stop {d.name} stream: {source.message}"
  | .streamCloseFailed d source => s!"Failed to close {d.name} stream: {source.message}"
  | .invalidTransition d source target =>
    s!"{d.name} stream cannot move from {source.title} to {target.title}"
  | .lockPoisoned component => s!"Lock poisoned on {component}"
  | .callbackFault d expected actual =>
    s!"{d.name} callback expected {expected} bytes per period, got {actual}"

/-- The fields of the error, in the order in which an inspection shows them. -/
def fields : AudioError → List (String × String)
  | .alreadyOpen => []
  | .notOpen => []
  | .streamOpenFailed d source => [("direction", d.title), ("source", source.inspect)]
  | .sampleRateMismatch d requested negotiated =>
    [("direction", d.title), ("requested", toString requested), ("negotiated", toString negotiated)]
  | .channelCountMismatch d requested negotiated =>
    [("direction", d.title), ("requested", toString requested), ("negotiated", toString negotiated)]
  | .bufferCapacityTooSmall d required capacity =>
    [("direction", d.title), ("required_bytes", toString required),
      ("capacity_bytes", toString capacity)]
  | .streamStartFailed d source => [("direction", d.title), ("source", source.inspect)]
  | .streamStopFailed d source => [("direction", d.title), ("source", source.inspect)]
  | .streamCloseFailed d source => [("direction", d.title), ("source", source.inspect)]
  | .invalidTransition d source target =>
    [("direction", d.title), ("from", source.title), ("to", target.title)]
  | .lockPoisoned component => [("component", Text.quoted component)]
  | .callbackFault d expected actual =>
    [("direction", d.title), ("expected_bytes", toString expected),
      ("actual_bytes", toString actual)]

def inspect (e : AudioError) : String := Text.record e.kind e.fields

/-- The line under which the error is logged: inspection, code and words. -/
def display (e : AudioError) : String :=
  s!"AudioError::{e.inspect} (code {e.code}): {e.message}"

def status (_ : AudioError) : StatusCode := .errorBase

end AudioError

end Passthrough
