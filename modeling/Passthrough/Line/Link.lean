import Passthrough.Host.Error
import Passthrough.Direction
/-!
# The link from callbacks to their engine

The path on which callbacks report to their engine. What is reported while the link is attached
waits in a queue until the engine takes it; what is reported otherwise is lost.
-/

namespace Passthrough

inductive Event
  | disconnected (direction : Direction) (error : HostError)
  /-- A callback was given a period of the wrong size and stopped its stream. -/
  | fault (direction : Direction) (expectedBytes actualBytes : Nat)
  deriving DecidableEq, Repr

namespace Event

def isFault : Event → Bool
  | .disconnected .. => false
  | .fault .. => true

def isDisconnect : Event → Bool
  | .disconnected .. => true
  | .fault .. => false

end Event

structure Link where
  attached : Bool := false
  /-- Whether anyone will ever take the events. -/
  listening : Bool := true
  /-- The events not taken yet, oldest first. -/
  pending : List Event := []
  deriving DecidableEq, Repr, Inhabited

namespace Link

def attach (l : Link) : Link := { l with attached := true }

/-- Events reported before this still wait. -/
def detach (l : Link) : Link := { l with attached := false }

/-- The listener goes away, and with it what it has not taken. -/
def hangUp (l : Link) : Link := { l with listening := false, pending := [] }

def accepts (l : Link) : Bool := l.attached && l.listening

def report (l : Link) (e : Event) : Link :=
  if l.accepts then { l with pending := l.pending ++ [e] } else l

/-- Takes every waiting event. -/
def take (l : Link) : List Event × Link := (l.pending, { l with pending := [] })

end Link

end Passthrough
