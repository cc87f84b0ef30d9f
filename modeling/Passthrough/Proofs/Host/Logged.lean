import Passthrough.Line.Handler
import Passthrough.Proofs.Host.Streams
/-!
# A host that remembers when it was asked

The simulated host records which calls were made, not what the world looked like when they were.
The logged host is the simulated host with that remembered: every call goes into a log together with
the host and the line as they were when it was issued (`Moment`). It answers as the simulated host
does, so that an engine on it does what an engine on the simulated host does, and what the log says
about one is true of the other.

Which moments are in order is said by `Moment.Orderly`.
-/

namespace Passthrough

open SimulatedHost

/-- A call, with what it met when it was issued. -/
structure Moment where
  call : CallRecord
  host : SimulatedHost Handler
  line : Line

/-- **The order of the hardware.** The output is opened and started over an input that is there, and
started over one that runs; the input is stopped under an output that no longer plays, and closed
under one that is gone. -/
def Moment.Orderly (m : Moment) : Prop :=
  match m.call with
  | ⟨.output, .openStream⟩ =>
    m.host.live .input ≠ [] ∧ (m.line.state .input = .opened ∨ m.line.state .input = .running)
  | ⟨.output, .start⟩ => m.line.state .input = .running
  | ⟨.input, .stop⟩ => m.line.state .output ≠ .running ∧ m.line.state .output ≠ .stopping
  | ⟨.input, .close⟩ => m.host.live .output = []
  | _ => True

structure LoggedHost where
  inner : SimulatedHost Handler
  log : List Moment := []

namespace LoggedHost

/-- A call of the inner host, with all that it records logged as of the moment it was issued. -/
def logged {α : Type} (call : HostAction (SimulatedHost Handler) Line α) :
    HostAction LoggedHost Line α := fun h line =>
  let (a, inner, line') := call h.inner line
  let issued := inner.calls.drop h.inner.calls.length
  (a, { inner, log := h.log ++ issued.map fun call => ⟨call, h.inner, line⟩ }, line')

instance : StreamHost Handler Line LoggedHost where
  name h := StreamHost.name h.inner
  recommendsAAudio h := StreamHost.recommendsAAudio h.inner
  infoOf stream h := StreamHost.infoOf stream h.inner
  openStream side r callback := logged (StreamHost.openStream side r callback)
  setBufferSize stream frames := logged (StreamHost.setBufferSize stream frames)
  startStream stream := logged (StreamHost.startStream stream)
  stopStream stream := logged (StreamHost.stopStream stream)
  closeStream stream := logged (StreamHost.closeStream stream)
  discard stream := logged (StreamHost.discard stream)

/-- What is logged is what the inner host records, each call together with the host and the line as
they were when it was issued, and not as they are afterwards. -/
theorem logged_apply {α : Type} {call : HostAction (SimulatedHost Handler) Line α}
    {host host' : SimulatedHost Handler} {line line' : Line} {a : α} {issued : List CallRecord}
    (hcall : call host line = (a, host', line')) (hissued : host'.calls = host.calls ++ issued)
    (log : List Moment) :
    logged call ⟨host, log⟩ line
      = (a, ⟨host', log ++ issued.map fun call => ⟨call, host, line⟩⟩, line') := by
  unfold logged
  simp only [hcall, hissued, List.drop_left]

end LoggedHost

/-! ## What the calls record -/

namespace SimulatedHost

variable {κ : Type}

/-- A call that is not a closing of a direction does not count as one, so that only closings have to
be looked at when the books of `Balance` are checked. -/
theorem count_close_append {calls : List CallRecord} {c : CallRecord} {d : Direction}
    (hc : c ≠ ⟨d, .close⟩) : (calls ++ [c]).count ⟨d, .close⟩ = calls.count ⟨d, .close⟩ := by
  rw [List.count_append, List.count_singleton]
  simp [hc]

/-- An opening is on record under the direction of its request, granted or refused. -/
theorem calls_openStream (side : Direction) (r : StreamSpec) (callback : κ)
    (h : SimulatedHost κ) :
    (openStream side r callback h).2.calls = h.calls ++ [⟨r.direction, .openStream⟩] := by
  unfold openStream
  simp only [record]
  split <;> rfl

/-- A start is on record under the direction of the stream, granted or refused, and whether or not
the stream is still live. All four ends of `startStream` write this one call first, so an order of
calls can be read without knowing how each was answered. -/
theorem calls_startStream (s : StreamHandle) (h : SimulatedHost κ) :
    (startStream s h).2.calls = h.calls ++ [⟨s.properties.direction, .start⟩] := by
  unfold startStream
  dsimp only
  split
  · rfl
  · split
    · rfl
    · split <;> rfl

/-- So is a stop. -/
theorem calls_stopStream (s : StreamHandle) (h : SimulatedHost κ) :
    (stopStream s h).2.calls = h.calls ++ [⟨s.properties.direction, .stop⟩] := by
  unfold stopStream
  dsimp only
  split
  · rfl
  · split <;> rfl

/-- So is a close of a handle that is not closed; one that is closed is refused without a record. -/
theorem calls_closeStream {s : StreamHandle} (hs : s.closed = false) (h : SimulatedHost κ) :
    (closeStream s h).2.calls = h.calls ++ [⟨s.properties.direction, .close⟩] := by
  rw [closeStream_of_unclosed hs]
  rfl

theorem calls_setBufferSize (s : StreamHandle) (frames : Nat) (h : SimulatedHost κ) :
    (setBufferSize s frames h).2.calls = h.calls := by
  unfold setBufferSize
  split <;> rfl

/-- Letting go of a handle is not put on record, since the engine has closed it before. -/
theorem calls_discard (s : StreamHandle) (h : SimulatedHost κ) :
    (discard s h).2.calls = h.calls := by
  show (if s.closed = true then h else h.remove s.id).calls = h.calls
  split <;> rfl

theorem calls_answered (h : SimulatedHost κ) (id : Nat) (v : Verdict) :
    (h.answered id v).calls = h.calls := by
  cases v <;> rfl

/-! What the hardware does is no call. -/

variable {σ : Type} [StreamOwner κ σ]

/-- What the hardware does is no call: a capture leaves the record as it is, whatever the callback
answers. -/
theorem calls_feed (frames : List Int16) (h : SimulatedHost κ) (line : σ) :
    (h.feed frames line).2.1.calls = h.calls := by
  unfold feed
  cases h.newestRunning? .input with
  | none => rfl
  | some stream => exact calls_answered _ _ _

/-- A playback leaves the record as it is. -/
theorem calls_draw (dest : List Int16) (h : SimulatedHost κ) (line : σ) :
    (h.draw dest line).2.2.1.calls = h.calls := by
  unfold draw
  cases h.newestRunning? .output with
  | none => rfl
  | some stream => exact calls_answered _ _ _

/-- So does the loss of a device; the engine will make its calls when it hears of it. -/
theorem calls_unplug (d : Direction) (error : HostError) (h : SimulatedHost κ) (line : σ) :
    (h.unplug d error line).2.1.calls = h.calls := by
  unfold unplug
  cases (h.live d).getLast? with
  | none => rfl
  | some stream => rfl

end SimulatedHost

end Passthrough
