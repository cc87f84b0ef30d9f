import Passthrough.Stream.Callback
/-!
# Framers

Framers stand between a device, which exchanges buffers of any size, and a callback, which exchanges
whole periods. They cut what is captured into periods, and serve what is played from periods.
-/

namespace Passthrough.Desktop

variable {σ : Type}

/-- Collects captured samples until they make a period. -/
structure CaptureFramer where
  period : Nat
  /-- What has been captured of the next period. -/
  filled : Array Int16 := #[]
  /-- Nobody wants what is captured. -/
  stopped : Bool := true
  deriving DecidableEq, Repr

namespace CaptureFramer

/-- Takes samples over one by one. Each time they make a period, the callback gets it; when the
callback answers stop, the rest of the samples is left out. -/
def take (call : List Int16 → σ → Verdict × σ) :
    CaptureFramer → List Int16 → σ → CaptureFramer × σ
  | f, [], s => (f, s)
  | f, x :: rest, s =>
    let filled := f.filled.push x
    if filled.size = f.period then
      match call filled.toList s with
      | (.proceed, s) => take call { f with filled := #[] } rest s
      | (.stop, s) => ({ f with filled := #[], stopped := true }, s)
    else take call { f with filled } rest s

/-- The device has captured a buffer. -/
def push (call : List Int16 → σ → Verdict × σ) (f : CaptureFramer) (data : List Int16)
    (s : σ) : CaptureFramer × σ :=
  if f.stopped then (f, s) else f.take call data s

end CaptureFramer

/-- Serves samples from a period, and asks for the next one when it is used up. -/
structure PlaybackFramer where
  period : Nat
  /-- What is left of the current period. -/
  pending : List Int16 := []
  /-- Nobody is asked, and silence is played. -/
  stopped : Bool := true
  deriving DecidableEq, Repr

namespace PlaybackFramer

/-- Gets the next period: from the callback, or silence once that has answered stop. -/
def refill (call : Nat → σ → Verdict × List Int16 × σ) (f : PlaybackFramer) (s : σ) :
    PlaybackFramer × σ :=
  if f.stopped then ({ f with pending := List.replicate f.period 0 }, s)
  else
    match call f.period s with
    | (.proceed, frames, s) => ({ f with pending := frames }, s)
    | (.stop, frames, s) => ({ f with pending := frames, stopped := true }, s)

/-- Serves this many samples after the ones already served. -/
def serve (call : Nat → σ → Verdict × List Int16 × σ) :
    Nat → Array Int16 → PlaybackFramer → σ → Array Int16 × PlaybackFramer × σ
  | 0, served, f, s => (served, f, s)
  | n + 1, served, f, s =>
    let (f, s) := if f.pending = [] then f.refill call s else (f, s)
    match f.pending with
    | [] => serve call n (served.push 0) f s
    | x :: rest => serve call n (served.push x) { f with pending := rest } s

/-- The device asks for a buffer of this many samples. -/
def pull (call : Nat → σ → Verdict × List Int16 × σ) (f : PlaybackFramer) (length : Nat)
    (s : σ) : List Int16 × PlaybackFramer × σ :=
  let (served, f, s) := serve call length #[] f s
  (served.toList, f, s)

end PlaybackFramer

end Passthrough.Desktop
