import Passthrough.Direction
/-!
# Notices

Notices tell a host application what became of its streams. They are broadcast: whoever subscribes
sees what is published from then on, as long as it keeps up.
-/

namespace Passthrough

inductive Occurrence
  | streamsOpened (sampleRate framesPerPeriod : Nat)
  | started
  | stopped
  | streamsClosed
  | deviceChangeRecovered
  | deviceChangeFailed
  | callbackFault (direction : Direction)
  | warning
  deriving DecidableEq, Repr

/-- A notice without the time at which it was published. -/
structure Notice where
  kind : Occurrence
  detail : Option String := none
  deriving DecidableEq, Repr

/-- Everything published, and how much of it is kept for subscribers that lag. -/
structure NoticeBoard where
  /-- A power of two. -/
  kept : Nat
  published : Array Notice := #[]
  deriving Repr, Inhabited

/-- A subscriber has seen everything published before its position. -/
structure Subscriber where
  position : Nat
  deriving DecidableEq, Repr, Inhabited

inductive Received
  | notice (n : Notice)
  /-- This many notices were gone before the subscriber came for them. -/
  | lagged (missed : Nat)
  deriving DecidableEq, Repr

namespace NoticeBoard

/-- A board that keeps at least one notice; room comes in powers of two. -/
def ofCapacity (capacity : Nat) : NoticeBoard := { kept := (max capacity 1).nextPowerOfTwo }

def publish (b : NoticeBoard) (kind : Occurrence) (detail : Option String := none) : NoticeBoard :=
  { b with published := b.published.push ⟨kind, detail⟩ }

/-- The position of the oldest notice still kept. -/
def oldest (b : NoticeBoard) : Nat := b.published.size - b.kept

/-- A subscriber that will see what is published from now on. -/
def subscribe (b : NoticeBoard) : Subscriber := ⟨b.published.size⟩

/-- Everything a subscriber can get now; afterwards it is up to date. -/
def receive (b : NoticeBoard) (s : Subscriber) : List Received × Subscriber :=
  let start := max s.position b.oldest
  let missed := start - s.position
  let lag := if missed = 0 then [] else [.lagged missed]
  let rest := b.published.toList.drop start
  (lag ++ rest.map .notice, b.subscribe)

end NoticeBoard

end Passthrough
