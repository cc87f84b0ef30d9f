import Passthrough.Proofs.Host.Answering
/-!
# A host whose answers are minuted

Any host, with minutes taken of it: every call of it is written down together with what it answered,
and a stream that it handed out together with what that stream runs at. It answers as the host
beneath does, so that what its minutes say about an engine is true of the engine on that host.

The owner's letting go of a handle is not a call, and is not written down.
-/

namespace Passthrough

/-- A call of a host, with its answer. -/
inductive Minute
  | refused (side : Direction) (request : StreamSpec) (error : HostError)
  | crashed (side : Direction) (request : StreamSpec) (message : String)
  /-- A stream was handed out, which runs at this. -/
  | handedOut (side : Direction) (request : StreamSpec) (stream : StreamHandle)
    (properties : StreamInfo)
  | resized (stream : StreamHandle) (frames : Nat) (answer : Except HostError Nat)
  | started (stream : StreamHandle) (answer : Except HostError Unit)
  | stopped (stream : StreamHandle) (answer : Except HostError Unit)
  | closed (stream : StreamHandle) (answer : Except HostError Unit)

namespace Minute

/-- The direction in which a stream was asked for. -/
def asked? : Minute → Option Direction
  | refused side _ _ => some side
  | crashed side _ _ => some side
  | handedOut side _ _ _ => some side
  | _ => none

/-- The stream that was handed out, and what it runs at. -/
def handedOut? : Minute → Option (Direction × StreamHandle × StreamInfo)
  | handedOut side _ stream properties => some (side, stream, properties)
  | _ => none

def closed? : Minute → Option StreamHandle
  | closed stream _ => some stream
  | _ => none

end Minute

structure MinutedHost (H : Type) where
  inner : H
  /-- The calls made, oldest first. -/
  minutes : List Minute := []

namespace MinutedHost

variable {H α : Type}

/-- A call of the inner host, with a minute taken of it. -/
def minuted (call : HostAction H Line α) (minute : α → H → Minute) :
    HostAction (MinutedHost H) Line α := fun h l =>
  let (a, inner, l) := call h.inner l
  (a, ⟨inner, h.minutes ++ [minute a inner]⟩, l)

/-- A call that is not written down. -/
def unminuted (call : HostAction H Line α) : HostAction (MinutedHost H) Line α := fun h l =>
  let (a, inner, l) := call h.inner l
  (a, { h with inner }, l)

variable [StreamHost Handler Line H]

/-- The minute of an opening. -/
def ofOpening (side : Direction) (r : StreamSpec) (answer : Opening) (inner : H) : Minute :=
  match answer with
  | .opened stream => .handedOut side r stream (StreamHost.infoOf stream inner)
  | .refused error => .refused side r error
  | .crashed message => .crashed side r message

instance : StreamHost Handler Line (MinutedHost H) where
  name h := StreamHost.name h.inner
  recommendsAAudio h := StreamHost.recommendsAAudio h.inner
  infoOf s h := StreamHost.infoOf s h.inner
  openStream side r callback :=
    minuted (StreamHost.openStream side r callback) (ofOpening side r)
  setBufferSize s frames :=
    minuted (StreamHost.setBufferSize s frames) fun answer _ => .resized s frames answer
  startStream s := minuted (StreamHost.startStream s) fun answer _ => .started s answer
  stopStream s := minuted (StreamHost.stopStream s) fun answer _ => .stopped s answer
  closeStream s := minuted (StreamHost.closeStream s) fun answer _ => .closed s answer.1
  discard s := unminuted (StreamHost.discard s)

instance [Answering H] : Answering (MinutedHost H) where
  opening_ne_crashed side r callback h l message :=
    Answering.opening_ne_crashed side r callback h.inner l message
  openStream r callback h l hstate := Answering.openStream r callback h.inner l hstate
  setBufferSize s frames h l := Answering.setBufferSize s frames h.inner l
  infoOf_setBufferSize s frames h l := Answering.infoOf_setBufferSize s frames h.inner l
  startStream s h l := Answering.startStream s h.inner l
  stopStream s h l := Answering.stopStream s h.inner l
  closeStream s h l := Answering.closeStream s h.inner l
  discard s h l := Answering.discard s h.inner l

/-! ## What the calls come to -/

variable [Answering H] (s : StreamHandle) (h : MinutedHost H) (l : Line)

/-- An opening is refused, or a stream is handed out, and nothing on the line moves meanwhile; a
host that answers does not crash. The minute has the answer and what the stream runs at. -/
theorem openStream_minuted (r : StreamSpec) (callback : Handler)
    (hstate : l.state callback.direction = .opening) :
    ∃ answer inner line, StreamHost.openStream callback.direction r callback h l
        = (answer, ⟨inner, h.minutes ++ [ofOpening callback.direction r answer inner]⟩, line)
      ∧ l.Unmoved line
      ∧ ((∃ source, answer = .refused source) ∨ ∃ stream, answer = .opened stream) := by
  have hunmoved := Answering.openStream r callback h.inner l hstate
  have halive := Answering.opening_ne_crashed callback.direction r callback h.inner l
  refine ⟨_, _, _, rfl, hunmoved, ?_⟩
  cases hanswer : (StreamHost.openStream callback.direction r callback h.inner l).1 with
  | opened stream => exact .inr ⟨stream, hanswer⟩
  | refused source => exact .inl ⟨source, hanswer⟩
  | crashed message => exact absurd hanswer (halive message)

/-- Sizing a buffer is minuted with its answer, and does not change what the stream runs at. -/
theorem setBufferSize_minuted (frames : Nat) :
    ∃ answer inner line, StreamHost.setBufferSize s frames h l
        = (answer, ⟨inner, h.minutes ++ [.resized s frames answer]⟩, line)
      ∧ l.Unmoved line ∧ StreamHost.infoOf s inner = StreamHost.infoOf s h.inner :=
  ⟨_, _, _, rfl, Answering.setBufferSize s frames h.inner l,
    Answering.infoOf_setBufferSize s frames h.inner l⟩

theorem startStream_minuted :
    ∃ answer inner line, StreamHost.startStream s h l
        = (answer, ⟨inner, h.minutes ++ [.started s answer]⟩, line) ∧ l.Unmoved line :=
  ⟨_, _, _, rfl, Answering.startStream s h.inner l⟩

theorem stopStream_minuted :
    ∃ answer inner line, StreamHost.stopStream s h l
        = (answer, ⟨inner, h.minutes ++ [.stopped s answer]⟩, line) ∧ l.Unmoved line :=
  ⟨_, _, _, rfl, Answering.stopStream s h.inner l⟩

/-- A close is minuted with its answer, whatever that is, and under the handle that was given to
it. -/
theorem closeStream_minuted :
    ∃ answer s' inner line, StreamHost.closeStream s h l
        = ((answer, s'), ⟨inner, h.minutes ++ [.closed s answer]⟩, line) ∧ l.Unmoved line :=
  ⟨_, _, _, _, rfl, Answering.closeStream s h.inner l⟩

theorem discard_minuted :
    ∃ inner line, StreamHost.discard s h l = ((), ⟨inner, h.minutes⟩, line) ∧ l.Unmoved line :=
  ⟨_, _, rfl, Answering.discard s h.inner l⟩

end MinutedHost

end Passthrough
