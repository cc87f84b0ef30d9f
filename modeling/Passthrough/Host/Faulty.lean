import Passthrough.Host.Interface
/-!
# A host with scripted faults

A host that behaves like another one, except for the faults it has been told to show.
-/

namespace Passthrough

structure ScriptedFaults where
  /-- The channel count that streams say they have. -/
  channelCount : Option Nat := none
  /-- What the next close answers, after it has closed the stream. -/
  close : Option HostError := none
  /-- What the next change of the buffer size answers. -/
  setBufferSize : Option HostError := none
  /-- Whether the next open dies. -/
  crashOpen : Bool := false
  deriving DecidableEq, Repr, Inhabited

structure FaultyHost (H : Type) where
  inner : H
  faults : Duplex ScriptedFaults := .both {}
  deriving Repr, Inhabited

namespace FaultyHost

variable {κ σ H : Type} [StreamHost κ σ H]

def crashMessage (d : Direction) : String := "scripted " ++ d.name ++ " open panic"

def pass {α : Type} (call : HostAction H σ α) : HostAction (FaultyHost H) σ α := fun h s =>
  let (a, inner, s) := call h.inner s
  (a, { h with inner }, s)

def openStream (side : Direction) (r : StreamSpec) (callback : κ) :
    HostAction (FaultyHost H) σ Opening := fun h s =>
  if (h.faults.get side).crashOpen then
    (.crashed (crashMessage side),
      { h with faults := h.faults.modify side ({ · with crashOpen := false }) }, s)
  else pass (StreamHost.openStream side r callback) h s

def infoOf (s : StreamHandle) (h : FaultyHost H) : StreamInfo :=
  let p := StreamHost.infoOf s h.inner
  { p with channelCount := (h.faults.get p.direction).channelCount.getD p.channelCount }

def setBufferSize (stream : StreamHandle) (frames : Nat) :
    HostAction (FaultyHost H) σ (Except HostError Nat) := fun h s =>
  let d := stream.properties.direction
  match (h.faults.get d).setBufferSize with
  | some e =>
    (.error e, { h with faults := h.faults.modify d ({ · with setBufferSize := none }) }, s)
  | none => pass (StreamHost.setBufferSize stream frames) h s

def closeStream (stream : StreamHandle) :
    HostAction (FaultyHost H) σ (Except HostError Unit × StreamHandle) := fun h s =>
  let d := stream.properties.direction
  let ((result, stream), h, s) := pass (StreamHost.closeStream stream) h s
  match (h.faults.get d).close with
  | some e =>
    ((.error e, stream), { h with faults := h.faults.modify d ({ · with close := none }) }, s)
  | none => ((result, stream), h, s)

instance : StreamHost κ σ (FaultyHost H) where
  name h := StreamHost.name h.inner
  recommendsAAudio h := StreamHost.recommendsAAudio h.inner
  infoOf := infoOf
  openStream := openStream
  setBufferSize := setBufferSize
  startStream stream := pass (StreamHost.startStream stream)
  stopStream stream := pass (StreamHost.stopStream stream)
  closeStream := closeStream
  discard stream := pass (StreamHost.discard stream)

end FaultyHost

end Passthrough
