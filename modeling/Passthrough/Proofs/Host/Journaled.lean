import Passthrough.Line.Handler
import Passthrough.Proofs.Host.Logged
/-!
# A host that keeps a journal

The simulated host knows which streams are live and which calls were made, not which call was about
which stream. The journaled host is the simulated host with that written down: the number of every
stream that it opened or closed and of every stream that it refused to stop (`Deed`), and every
state that it has passed through. It answers as the simulated host does.

Seen one direction at a time, the journal is two lists of numbers, of the streams opened
(`openedIn`) and of those closed (`closedIn`).
-/

namespace Passthrough

open SimulatedHost

/-- What a host did for one stream, or refused to do. -/
inductive Deed
  | opened (d : Direction) (id : Nat)
  | closed (d : Direction) (id : Nat)
  | stopRefused (id : Nat)
  deriving DecidableEq

namespace Deed

/-! ## What an answer amounts to -/

def ofOpening (d : Direction) : Opening → List Deed
  | .opened s => [.opened d s.id]
  | _ => []

def ofStop (s : StreamHandle) : Except HostError Unit → List Deed
  | .ok () => []
  | .error _ => [.stopRefused s.id]

def ofClose (s : StreamHandle) : Except HostError Unit → List Deed
  | .ok () => [.closed s.properties.direction s.id]
  | .error _ => []

/-! ## One direction -/

def openedIn? (d : Direction) : Deed → Option Nat
  | .opened d' id => if d' = d then some id else none
  | _ => none

def closedIn? (d : Direction) : Deed → Option Nat
  | .closed d' id => if d' = d then some id else none
  | _ => none

end Deed

/-- The streams opened in a direction, in the order of their opening. -/
def openedIn (d : Direction) (deeds : List Deed) : List Nat := deeds.filterMap (Deed.openedIn? d)

/-- The streams closed in a direction, in the order of their closing. -/
def closedIn (d : Direction) (deeds : List Deed) : List Nat := deeds.filterMap (Deed.closedIn? d)

section Deeds

variable {d d' : Direction} {deeds : List Deed}

/-- The streams opened are read off a journal from the left, so that a journal that grows adds them
at the end. `closedIn_append` is the same for closings. -/
theorem openedIn_append (d : Direction) (deeds more : List Deed) :
    openedIn d (deeds ++ more) = openedIn d deeds ++ openedIn d more :=
  List.filterMap_append

theorem closedIn_append (d : Direction) (deeds more : List Deed) :
    closedIn d (deeds ++ more) = closedIn d deeds ++ closedIn d more :=
  List.filterMap_append

theorem openedIn_opened (d : Direction) (id : Nat) : openedIn d [.opened d id] = [id] := by
  simp [openedIn, Deed.openedIn?]

/-- An opening in one direction is not one in the other; with `openedIn_opened` this says what one
deed adds to the books. -/
theorem openedIn_opened_ne (h : d' ≠ d) (id : Nat) : openedIn d' [.opened d id] = [] := by
  simp [openedIn, Deed.openedIn?, h.symm]

theorem closedIn_closed (d : Direction) (id : Nat) : closedIn d [.closed d id] = [id] := by
  simp [closedIn, Deed.closedIn?]

/-- A closing in one direction is not one in the other; with `closedIn_closed` this says what one
deed takes off the books. -/
theorem closedIn_closed_ne (h : d' ≠ d) (id : Nat) : closedIn d' [.closed d id] = [] := by
  simp [closedIn, Deed.closedIn?, h.symm]

end Deeds

structure JournaledHost where
  inner : SimulatedHost Handler
  /-- What was done, oldest first. -/
  deeds : List Deed := []
  /-- Every state that the inner host has been left in, oldest first. -/
  passed : List (SimulatedHost Handler) := []

namespace JournaledHost

/-- The journal goes on with a new state of the inner host. -/
def enter (h : JournaledHost) (deeds : List Deed) (inner : SimulatedHost Handler) :
    JournaledHost :=
  ⟨inner, h.deeds ++ deeds, h.passed ++ [inner]⟩

def openStream (side : Direction) (r : StreamSpec) (callback : Handler) (h : JournaledHost) :
    Opening × JournaledHost :=
  let (answer, inner) := SimulatedHost.openStream side r callback h.inner
  (answer, h.enter (Deed.ofOpening r.direction answer) inner)

def setBufferSize (s : StreamHandle) (frames : Nat) (h : JournaledHost) :
    Except HostError Nat × JournaledHost :=
  let (answer, inner) := SimulatedHost.setBufferSize s frames h.inner
  (answer, h.enter [] inner)

def startStream (s : StreamHandle) (h : JournaledHost) : Except HostError Unit × JournaledHost :=
  let (answer, inner) := SimulatedHost.startStream s h.inner
  (answer, h.enter [] inner)

def stopStream (s : StreamHandle) (h : JournaledHost) : Except HostError Unit × JournaledHost :=
  let (answer, inner) := SimulatedHost.stopStream s h.inner
  (answer, h.enter (Deed.ofStop s answer) inner)

def closeStream (s : StreamHandle) (h : JournaledHost) :
    (Except HostError Unit × StreamHandle) × JournaledHost :=
  let (answer, inner) := SimulatedHost.closeStream s h.inner
  (answer, h.enter (Deed.ofClose s answer.1) inner)

def discard (s : StreamHandle) (h : JournaledHost) : Unit × JournaledHost :=
  let (answer, inner) := SimulatedHost.discard s h.inner
  (answer, h.enter [] inner)

instance : StreamHost Handler Line JournaledHost where
  name h := StreamHost.name h.inner
  recommendsAAudio h := h.inner.recommendsAAudio
  infoOf s _ := s.properties
  openStream side r callback := .quiet (openStream side r callback)
  setBufferSize s frames := .quiet (setBufferSize s frames)
  startStream s := .quiet (startStream s)
  stopStream s := .quiet (stopStream s)
  closeStream s := .quiet (closeStream s)
  discard s := .quiet (discard s)

/-! What is written down goes by the answer of the host beneath. -/

/-- What is written down for an opening goes by the answer of the host beneath: the number of the
stream that it handed out, or nothing. The equations after this one say the same of the other
calls. -/
theorem openStream_eq (side : Direction) (r : StreamSpec) (callback : Handler)
    (h : JournaledHost) : h.openStream side r callback
      = ((SimulatedHost.openStream side r callback h.inner).1,
          h.enter (Deed.ofOpening r.direction (SimulatedHost.openStream side r callback h.inner).1)
            (SimulatedHost.openStream side r callback h.inner).2) := rfl

theorem setBufferSize_eq (s : StreamHandle) (frames : Nat) (h : JournaledHost) :
    h.setBufferSize s frames
      = ((SimulatedHost.setBufferSize s frames h.inner).1,
          h.enter [] (SimulatedHost.setBufferSize s frames h.inner).2) := rfl

theorem startStream_eq (s : StreamHandle) (h : JournaledHost) :
    h.startStream s
      = ((SimulatedHost.startStream s h.inner).1,
          h.enter [] (SimulatedHost.startStream s h.inner).2) := rfl

/-- A stop is written down only if it was refused, because that is what `Alarms` asks about. -/
theorem stopStream_eq (s : StreamHandle) (h : JournaledHost) :
    h.stopStream s
      = ((SimulatedHost.stopStream s h.inner).1,
          h.enter (Deed.ofStop s (SimulatedHost.stopStream s h.inner).1)
            (SimulatedHost.stopStream s h.inner).2) := rfl

/-- A close is written down only if it was made. One that the host refuses leaves the books as they
are, for the stream is then still owed a closing. -/
theorem closeStream_eq (s : StreamHandle) (h : JournaledHost) :
    h.closeStream s
      = ((SimulatedHost.closeStream s h.inner).1,
          h.enter (Deed.ofClose s (SimulatedHost.closeStream s h.inner).1.1)
            (SimulatedHost.closeStream s h.inner).2) := rfl

theorem discard_eq (s : StreamHandle) (h : JournaledHost) :
    h.discard s = ((), h.enter [] (SimulatedHost.discard s h.inner).2) := rfl

end JournaledHost

end Passthrough
