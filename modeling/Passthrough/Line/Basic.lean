import Passthrough.Error.Audio
import Passthrough.Line.Link
import Passthrough.Period.Channel
/-!
# The line

The line is what the callbacks of both directions share with the engine that drives them.
-/

namespace Passthrough

/-- Names an observer of the periods that pass. -/
abbrev ObserverId := Nat

structure Heard where
  observer : ObserverId
  direction : Direction
  frames : List Int16
  deriving DecidableEq, Repr

structure Line where
  states : Duplex StreamState := .both .closed
  channel : Option Channel := none
  /-- The number of the channel that was made last; channels are numbered from 1. -/
  channelId : Nat := 0
  link : Link := {}
  /-- What observers were given and have not collected yet, oldest first. -/
  heard : List Heard := []
  deriving Repr, Inhabited

namespace Line

def state (l : Line) (d : Direction) : StreamState := l.states.get d

def setState (l : Line) (d : Direction) (s : StreamState) : Line :=
  { l with states := l.states.set d s }

/-- Moves a stream on, if that move is allowed; answers where it came from. -/
def move (l : Line) (d : Direction) (target : StreamState) :
    Except AudioError (StreamState × Line) :=
  if (l.state d).canMoveTo target then .ok (l.state d, l.setState d target)
  else .error (.invalidTransition d (l.state d) target)

/-- Marks a stream as faulted, if a fault can strike it where it stands. -/
def markFaulted (l : Line) (d : Direction) : Line := l.setState d (l.state d).afterFault

/-- Gives a stream up. -/
def settle (l : Line) (d : Direction) : Line := l.setState d (l.state d).settled

def attach (l : Line) : Line := { l with link := l.link.attach }

def detach (l : Line) : Line := { l with link := l.link.detach }

/-- Attaches the line over a new channel for periods of this length. -/
def renew (l : Line) (length : Nat) : Line :=
  { l.attach with channel := some (.ofLength length), channelId := l.channelId + 1 }

def report (l : Line) (e : Event) : Line := { l with link := l.link.report e }

/-- Takes every event that waits. -/
def takeEvents (l : Line) : List Event × Line :=
  let (events, link) := l.link.take
  (events, { l with link })

/-- Takes what observers were given. -/
def takeHeard (l : Line) : List Heard × Line := (l.heard, { l with heard := [] })

/-- Gives a period to an observer, if there is one. -/
def notify (l : Line) (observer : Option ObserverId) (d : Direction) (frames : List Int16) : Line :=
  match observer with
  | none => l
  | some id => { l with heard := l.heard ++ [⟨id, d, frames⟩] }

@[simp] theorem state_setState (l : Line) (d : Direction) (s : StreamState) :
    (l.setState d s).state d = s := by simp [state, setState]

/-- Setting the state of one side leaves that of the other alone; programs of one side rely on
it. -/
theorem state_setState_ne (l : Line) {d d' : Direction} (s : StreamState) (h : d' ≠ d) :
    (l.setState d s).state d' = l.state d' := by simp [state, setState, Duplex.get_set_ne, h]

@[simp] theorem setState_setState (l : Line) (d : Direction) (s t : StreamState) :
    (l.setState d s).setState d t = l.setState d t := by simp [setState]

/-- A state that is set to what it is leaves the line as it is, so that settling a closed side does
nothing. -/
theorem setState_of_state_eq {l : Line} {d : Direction} {s : StreamState} (h : l.state d = s) :
    l.setState d s = l := by
  subst h
  simp [setState, state]

/-- An observer is given the period; the rest of the line stays. This is for proofs that do not care
who the observer is. -/
theorem notify_eq (l : Line) (observer : Option ObserverId) (d : Direction)
    (frames : List Int16) : ∃ heard, l.notify observer d frames = { l with heard } := by
  cases observer with
  | none => exact ⟨l.heard, rfl⟩
  | some id => exact ⟨_, rfl⟩

@[simp] theorem channelId_notify (l : Line) (observer : Option ObserverId) (d : Direction)
    (frames : List Int16) : (l.notify observer d frames).channelId = l.channelId := by
  cases observer <;> rfl

@[simp] theorem channel_notify (l : Line) (observer : Option ObserverId) (d : Direction)
    (frames : List Int16) : (l.notify observer d frames).channel = l.channel := by
  cases observer <;> rfl

end Line

end Passthrough
