import Passthrough.Stream.Callback
/-!
# What a host offers

What an audio host offers: streams that can be opened in either direction, started, stopped and
closed. The owner of a stream holds a handle of it.

The hardware may call back while a call of the host lasts, so that every call changes the state of
the owner as well as that of the host.
-/

namespace Passthrough

structure StreamHandle where
  id : Nat
  properties : StreamInfo
  /-- Whether the owner has closed the stream. -/
  closed : Bool := false
  deriving DecidableEq, Repr

/-- What came of asking for a stream. -/
inductive Opening
  | opened (stream : StreamHandle)
  | refused (error : HostError)
  /-- The host died in the middle of the call. -/
  | crashed (message : String)
  deriving Repr

/-- A call of a host in state `H`, on behalf of an owner in state `σ`. -/
abbrev HostAction (H σ α : Type) := H → σ → α × H × σ

namespace HostAction

variable {H σ α : Type}

/-- A call during which the host does not call back. -/
def quiet (call : H → α × H) : HostAction H σ α := fun h s =>
  let (a, h) := call h
  (a, h, s)

@[simp] theorem quiet_apply (call : H → α × H) (h : H) (s : σ) :
    (quiet call : HostAction H σ α) h s = ((call h).1, (call h).2, s) := rfl

end HostAction

/-- An audio host whose state is `H` and whose owners, in state `σ`, leave a `κ`
with each stream. -/
class StreamHost (κ σ : outParam Type) (H : Type) where
  name : H → String
  /-- Whether the newer of the device's audio interfaces should be used. -/
  recommendsAAudio : H → Bool
  /-- What a held stream runs at. -/
  infoOf : StreamHandle → H → StreamInfo
  openStream : Direction → StreamSpec → κ → HostAction H σ Opening
  /-- Asks for a buffer of this many frames; answers the size applied. -/
  setBufferSize : StreamHandle → Nat → HostAction H σ (Except HostError Nat)
  startStream : StreamHandle → HostAction H σ (Except HostError Unit)
  stopStream : StreamHandle → HostAction H σ (Except HostError Unit)
  /-- Closes a stream; answers the handle as well, which is closed from then on. -/
  closeStream : StreamHandle → HostAction H σ (Except HostError Unit × StreamHandle)
  /-- The owner lets go of the handle, closed or not. -/
  discard : StreamHandle → HostAction H σ Unit

end Passthrough
