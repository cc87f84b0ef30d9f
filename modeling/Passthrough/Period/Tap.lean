import Passthrough.Direction
import Passthrough.Period.Queue
/-!
# Taps

A tap copies the periods that pass through an engine for a reader that works at its own pace.

Each direction has a fixed number of copies that circulate: a period that passes is written over a
spare copy, the copy waits until the reader has seen it, and then it is spare again. When no copy is
spare the period is lost and counted.
-/

namespace Passthrough

structure TappedPeriod where
  direction : Direction
  /-- The periods of a direction are numbered from 1, without gaps. -/
  sequence : Nat := 0
  samples : List Int16
  deriving DecidableEq, Repr

structure TapLane where
  /-- Copies that hold nothing worth reading. -/
  spare : BoundedQueue TappedPeriod
  /-- Copies that wait for the reader. -/
  waiting : BoundedQueue TappedPeriod
  sequence : Nat := 0
  lost : Nat := 0
  deriving DecidableEq, Repr

namespace TapLane

/-- A lane with this many spare copies, each of one period of silence. -/
def make (direction : Direction) (copies length : Nat) : TapLane where
  spare := .full copies { direction, samples := List.replicate length 0 }
  waiting := { capacity := copies }

def lose (l : TapLane) : TapLane := { l with lost := l.lost + 1 }

/-- Copies a period of the right length, if a copy is spare. -/
def hear (l : TapLane) (length : Nat) (samples : List Int16) : TapLane :=
  if samples.length ≠ length then l.lose
  else
    match l.spare.pop? with
    | none => l.lose
    | some (copy, spare) =>
      let sequence := l.sequence + 1
      let l := { l with spare, sequence }
      match l.waiting.push? { copy with sequence, samples } with
      | none => l.lose
      | some waiting => { l with waiting }

/-- Puts a copy back among the spare ones. -/
def putBack (l : TapLane) (copy : TappedPeriod) : TapLane :=
  match l.spare.push? copy with
  | none => l
  | some spare => { l with spare }

/-- Hands out every copy that waits, oldest first, and makes them all spare. -/
def read (l : TapLane) : List TappedPeriod × TapLane :=
  let copies := l.waiting.elements
  (copies, copies.foldl putBack { l with waiting := { l.waiting with elements := [] } })

end TapLane

structure Tap where
  /-- The samples of a period. -/
  length : Nat
  lanes : Duplex TapLane
  deriving Repr

namespace Tap

/-- A tap with this many copies for each direction; it needs at least one. -/
def make? (length copies : Nat) : Option Tap :=
  if copies = 0 then none
  else some ⟨length, ⟨.make .input copies length, .make .output copies length⟩⟩

def noCopiesMessage : String := "frame_count must be greater than 0"

def hear (t : Tap) (direction : Direction) (samples : List Int16) : Tap :=
  { t with lanes := t.lanes.modify direction (·.hear t.length samples) }

def read (t : Tap) (direction : Direction) : List TappedPeriod × Tap :=
  let (copies, lane) := (t.lanes.get direction).read
  (copies, { t with lanes := t.lanes.set direction lane })

def lost (t : Tap) (direction : Direction) : Nat := (t.lanes.get direction).lost

end Tap

end Passthrough
