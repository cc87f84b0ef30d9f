/-!
# The channel

The channel between capture and playback: it holds the period captured last, and hands it out as
often as it is asked for.
-/

namespace Passthrough

/-- How fresh a period read from the channel is. -/
inductive Freshness
  /-- The period with this number, read for the first time. -/
  | fresh (sequence : Nat)
  /-- The period with this number, once more. -/
  | repeated (sequence : Nat)
  /-- Nothing has been captured yet. -/
  | silence
  deriving DecidableEq, Repr, Inhabited

/-- How many periods went in, and how many came out as which kind. -/
structure ChannelCounts where
  written : Nat := 0
  fresh : Nat := 0
  repeated : Nat := 0
  silent : Nat := 0
  deriving DecidableEq, Repr, Inhabited

def ChannelCounts.count (s : ChannelCounts) : Freshness → ChannelCounts
  | .fresh _ => { s with fresh := s.fresh + 1 }
  | .repeated _ => { s with repeated := s.repeated + 1 }
  | .silence => { s with silent := s.silent + 1 }

/-- A slice that is not one period long. -/
structure WrongLength where
  expected : Nat
  actual : Nat
  deriving DecidableEq, Repr, Inhabited

/-- The period held, whose length is the length of every period that passes through. -/
structure Channel where
  samples : List Int16
  /-- How many periods have been published since the channel was empty. -/
  sequence : Nat := 0
  /-- The number of the period consumed last, 0 for none. -/
  lastConsumed : Nat := 0
  counts : ChannelCounts := {}
  deriving DecidableEq, Repr, Inhabited

namespace Channel

def ofLength (length : Nat) : Channel := { samples := List.replicate length 0 }

def length (c : Channel) : Nat := c.samples.length

/-- Takes over a captured period and answers its number. -/
def publish (c : Channel) (frames : List Int16) : Except WrongLength (Nat × Channel) :=
  if frames.length ≠ c.length then .error ⟨c.length, frames.length⟩
  else
    let sequence := c.sequence + 1
    .ok (sequence, { c with
      samples := frames, sequence,
      counts := { c.counts with written := c.counts.written + 1 } })

/-- What the next period consumed will be. -/
def nextFreshness (c : Channel) : Freshness :=
  if c.sequence = 0 then .silence
  else if c.sequence = c.lastConsumed then .repeated c.sequence
  else .fresh c.sequence

/-- Hands out the period held, to a destination of this many samples. -/
def consume (c : Channel) (length : Nat) :
    Except WrongLength (Freshness × List Int16 × Channel) :=
  if length ≠ c.length then .error ⟨c.length, length⟩
  else
    let freshness := c.nextFreshness
    .ok (freshness, c.samples, { c with
      lastConsumed := c.sequence, counts := c.counts.count freshness })

/-- Empties the channel; the counts go on. -/
def reset (c : Channel) : Channel :=
  { c with samples := List.replicate c.length 0, sequence := 0, lastConsumed := 0 }

@[simp] theorem length_ofLength (n : Nat) : (ofLength n).length = n := by
  simp [ofLength, length]

@[simp] theorem length_reset (c : Channel) : c.reset.length = c.length := by
  simp [reset, length]

/-- A period of the right length is taken over under the next number, and is what the channel holds
from then on. -/
theorem publish_of_length {c : Channel} {frames : List Int16} (h : frames.length = c.length) :
    ∃ c', c.publish frames = .ok (c.sequence + 1, c') ∧ c'.samples = frames := by
  unfold publish
  rw [if_neg (fun hne => hne h)]
  exact ⟨_, rfl, rfl⟩

/-- A destination of the right length gets the period held, which stays, so that it may be played
again (`Freshness`). -/
theorem consume_of_length {c : Channel} {length : Nat} (h : length = c.length) :
    ∃ c', c.consume length = .ok (c.nextFreshness, c.samples, c') ∧ c'.samples = c.samples := by
  unfold consume
  rw [if_neg (fun hne => hne h)]
  exact ⟨_, rfl, rfl⟩

/-- A channel keeps its length whatever is published to it; nothing else about a channel is
fixed. -/
theorem length_of_publish {c c' : Channel} {frames : List Int16} {n : Nat}
    (h : c.publish frames = .ok (n, c')) : c'.length = c.length := by
  unfold publish at h
  split at h
  · cases h
  · next hlen =>
    simp only [Except.ok.injEq, Prod.mk.injEq] at h
    rw [← h.2]
    exact Decidable.not_not.mp hlen

/-- What is handed out fills its destination, also where the channel holds silence. -/
theorem length_of_consume {c c' : Channel} {length : Nat} {freshness : Freshness}
    {frames : List Int16} (h : c.consume length = .ok (freshness, frames, c')) :
    frames.length = length := by
  unfold consume at h
  split at h
  · cases h
  · next hlen =>
    simp only [Except.ok.injEq, Prod.mk.injEq] at h
    rw [← h.2.1]
    exact (Decidable.not_not.mp hlen).symm

end Channel

end Passthrough
