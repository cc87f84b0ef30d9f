import Passthrough.Stream.Callback
import Passthrough.Stream.Request
/-!
# Frames and samples

Adapters stand between hardware that exchanges frames of one or two samples and callbacks that
exchange samples, interleaved. A buffer passes through a scratch of fixed size, which serves every
buffer of a stream in turn; what does not fit into it is cut off.
-/

namespace Passthrough.Mobile

/-- How the hardware lays out the samples of one frame. -/
inductive FrameLayout
  | mono
  | stereo
  deriving DecidableEq, Repr, Inhabited

namespace FrameLayout

def width : FrameLayout → Nat
  | .mono => 1
  | .stereo => 2

/-- The layout for this many channels, if the hardware has one. -/
def ofChannels? : Nat → Option FrameLayout
  | 1 => some .mono
  | 2 => some .stereo
  | _ => none

/-- A frame: one sample, or the left and the right one. -/
abbrev Frame : FrameLayout → Type
  | .mono => Int16
  | .stereo => Int16 × Int16

def pairs : List Int16 → List (Int16 × Int16)
  | left :: right :: rest => (left, right) :: pairs rest
  | _ => []

/-- The whole frames in interleaved samples. -/
def frames : (layout : FrameLayout) → List Int16 → List layout.Frame
  | .mono, samples => samples
  | .stereo, samples => pairs samples

/-- The samples of frames, interleaved: the left one of each before the right one. -/
def samples : (layout : FrameLayout) → List layout.Frame → List Int16
  | .mono, frames => frames
  | .stereo, frames => frames.flatMap fun (left, right) => [left, right]

/-- A buffer after samples have been written over its first frames; the others keep
what they had. -/
def writeOver (layout : FrameLayout) (samples : List Int16) (buffer : List layout.Frame) :
    List layout.Frame :=
  let written := (layout.frames samples).take buffer.length
  written ++ buffer.drop written.length

theorem width_pos (layout : FrameLayout) : 0 < layout.width := by cases layout <;> decide

theorem length_pairs (samples : List Int16) : (pairs samples).length = samples.length / 2 := by
  induction samples using pairs.induct with
  | case1 left right rest ih =>
    simp only [pairs, List.length_cons, ih]
    omega
  | case2 samples hshort =>
    cases samples with
    | nil => rfl
    | cons x rest =>
      cases rest with
      | nil => simp [pairs]
      | cons y rest => exact absurd rfl (hshort x y rest)

@[simp] theorem length_frames (layout : FrameLayout) (samples : List Int16) :
    (layout.frames samples).length = samples.length / layout.width := by
  cases layout with
  | mono => exact (Nat.div_one _).symm
  | stereo => exact length_pairs samples

@[simp] theorem length_samples (layout : FrameLayout) (buffer : List layout.Frame) :
    (layout.samples buffer).length = buffer.length * layout.width := by
  cases layout with
  | mono => exact (Nat.mul_one _).symm
  | stereo =>
    induction buffer with
    | nil => rfl
    | cons frame rest ih =>
      have hrest : (rest.flatMap fun (left, right) => [left, right]).length = rest.length * 2 := ih
      simp only [samples, width, List.flatMap_cons, List.length_append, List.length_cons,
        List.length_nil, hrest]
      omega

/-- Frames that have been taken apart are put together again. -/
@[simp] theorem frames_samples (layout : FrameLayout) (buffer : List layout.Frame) :
    layout.frames (layout.samples buffer) = buffer := by
  cases layout with
  | mono => rfl
  | stereo =>
    induction buffer with
    | nil => rfl
    | cons frame rest ih => exact congrArg (frame :: ·) ih

end FrameLayout

/-- A place for samples on their way. -/
structure Scratch where
  size : Nat
  /-- What has been written to its front so far; the rest is silence. -/
  written : List Int16 := []
  deriving DecidableEq, Repr

namespace Scratch

def front (c : Scratch) (n : Nat) : List Int16 :=
  c.written.take n ++ List.replicate (n - c.written.length) 0

/-- Writes samples over the front. -/
def write (c : Scratch) (samples : List Int16) : Scratch :=
  { c with written := samples ++ c.written.drop samples.length }

@[simp] theorem size_write (c : Scratch) (samples : List Int16) : (c.write samples).size = c.size :=
  rfl

theorem front_write {c : Scratch} {samples : List Int16} {n : Nat} (h : samples.length = n) :
    (c.write samples).front n = samples := by
  subst h
  simp [front, write, Nat.sub_eq_zero_of_le]

end Scratch

structure Adapter where
  layout : FrameLayout
  scratch : Scratch
  deriving DecidableEq, Repr

namespace Adapter

variable {σ : Type}

/-- The adapter for a stream that is asked for, with room for two of its periods. The hardware has
frames for one or two channels only. -/
def ofRequest? (r : StreamSpec) : Option Adapter :=
  (FrameLayout.ofChannels? r.channelCount).map fun layout =>
    { layout, scratch := { size := r.framesPerCallback * r.channelCount * 2 } }

/-- Hands a captured buffer on, as far as it fits into the scratch. -/
def capture (a : Adapter) (call : List Int16 → σ → Verdict × σ) (buffer : List a.layout.Frame)
    (s : σ) : Verdict × Adapter × σ :=
  let fitting := a.layout.samples (buffer.take (a.scratch.size / a.layout.width))
  let scratch := a.scratch.write fitting
  let (verdict, s) := call (scratch.front fitting.length) s
  (verdict, { a with scratch }, s)

/-- How many samples are asked for to fill this many frames: those of a stream with this many
channels, as far as the scratch reaches. -/
def wantedSamples (a : Adapter) (channelCount frames : Nat) : Nat :=
  min (frames * max channelCount 1) a.scratch.size

/-- Fills a buffer; answers its content as well. The callback writes over the front of the scratch,
from where the buffer is filled. -/
def render (a : Adapter) (channelCount : Nat) (call : Nat → σ → Verdict × List Int16 × σ)
    (buffer : List a.layout.Frame) (s : σ) : Verdict × List a.layout.Frame × Adapter × σ :=
  let n := a.wantedSamples channelCount buffer.length
  let (verdict, samples, s) := call n s
  let scratch := a.scratch.write (samples.take n)
  (verdict, a.layout.writeOver (scratch.front n) buffer, { a with scratch }, s)

end Adapter

end Passthrough.Mobile
