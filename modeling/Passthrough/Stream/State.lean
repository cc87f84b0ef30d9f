import Passthrough.Direction
/-!
# The states of a stream

The lifecycle of one stream: its states, the moves between them, and the moves an engine makes in
one go (forcing a fault, driving a stream home to `closed`).
-/

namespace Passthrough

/-- Where a stream stands. `opened` holds an idle stream, `running` one that exchanges audio, and
`error` one that stopped by a fault and can only be closed. -/
inductive StreamState
  | closed
  | opening
  | opened
  | running
  | stopping
  | error
  deriving DecidableEq, Repr, Inhabited

namespace StreamState

/-- Every state, in the order of the codes. -/
def all : List StreamState := [.closed, .opening, .opened, .running, .stopping, .error]

def code : StreamState → Nat
  | .closed => 0
  | .opening => 1
  | .opened => 2
  | .running => 3
  | .stopping => 4
  | .error => 5

def name : StreamState → String
  | .closed => "closed"
  | .opening => "opening"
  | .opened => "open"
  | .running => "running"
  | .stopping => "stopping"
  | .error => "error"

/-- The name of a state in error messages. -/
def title : StreamState → String
  | .closed => "Closed"
  | .opening => "Opening"
  | .opened => "Open"
  | .running => "Running"
  | .stopping => "Stopping"
  | .error => "Error"

def ofName? (s : String) : Option StreamState := all.find? (·.name == s)

/-- Whether a stream may move from one state straight to another. -/
def canMoveTo : StreamState → StreamState → Bool
  | .closed, .opening => true
  | .opening, .opened => true
  | .opening, .closed => true
  | .opened, .running => true
  | .opened, .closed => true
  | .opened, .error => true
  | .running, .stopping => true
  | .running, .error => true
  | .stopping, .opened => true
  | .stopping, .error => true
  | .error, .closed => true
  | _, _ => false

/-- The state after a move, or none if the move is not allowed. -/
def moveTo? (s t : StreamState) : Option StreamState := if s.canMoveTo t then some t else none

/-- The state after a fault, for a state that a fault can strike; any other stays as it is. -/
def afterFault (s : StreamState) : StreamState := (s.moveTo? .error).getD s

/-- The next move of a stream that is being given up: an idle or faulted one closes, an active one
faults first. -/
def towardClosed? : StreamState → Option StreamState
  | .closed => none
  | .opening => some .closed
  | .opened => some .closed
  | .error => some .closed
  | .running => some .error
  | .stopping => some .error

/-- The state after a stream has been given up; two moves are enough from anywhere. -/
def settled (s : StreamState) : StreamState :=
  match s.towardClosed? with
  | none => s
  | some t => t.towardClosed?.getD t

/-- Whether the hardware callback of a stream in this state has to refuse. -/
def refusesAudio : StreamState → Bool
  | .stopping => true
  | .error => true
  | .closed => true
  | _ => false

/-- States that allowed moves lead to, in any number. -/
inductive Reaches : StreamState → StreamState → Prop
  | refl (s : StreamState) : Reaches s s
  | move {s t u : StreamState} (first : s.canMoveTo t = true) (rest : Reaches t u) : Reaches s u

theorem canMoveTo_of_towardClosed? {s t : StreamState} (h : s.towardClosed? = some t) :
    s.canMoveTo t = true := by
  cases s <;> simp_all [towardClosed?] <;> subst h <;> rfl

theorem settled_eq_closed (s : StreamState) : s.settled = .closed := by cases s <;> rfl

/-- Giving a stream up makes allowed moves only. It takes two of them at most: an active stream
faults first, and an idle or faulted one is closed (`towardClosed?`). -/
theorem reaches_settled (s : StreamState) : s.Reaches s.settled := by
  unfold settled
  cases hs : s.towardClosed? with
  | none => exact .refl s
  | some t =>
    refine .move (canMoveTo_of_towardClosed? hs) ?_
    show t.Reaches (t.towardClosed?.getD t)
    cases ht : t.towardClosed? with
    | none => exact .refl t
    | some u => exact .move (canMoveTo_of_towardClosed? ht) (.refl u)

end StreamState

end Passthrough
