import Passthrough.Host.Desktop.Basic
import Passthrough.Host.Mobile.Basic
import Passthrough.Host.Simulated
import Passthrough.Proofs.Line.Handler
/-!
# Hosts that answer

What an engine relies on while it asks a host for something, and nothing beyond that: the host
answers, and whatever its callbacks do in the meantime, no stream changes its state. A stream that
is being opened may well exchange audio before its owner has got it. What the host answers is free.

* **`Handler.capture_strikes`**, **`Handler.render_strikes`** — all that a data callback can do to
  the states of the line, in whatever state it is called and with whatever it is called for.
* **`Callback.called_strikes`** — so for whatever the hardware calls.
* **`Answering`** — the hosts in question; the simulated one, the desktop and the mobile device are
  among them.
-/

namespace Passthrough

/-! ## Lines before and after -/

namespace Line

/-- **Nothing moves.** The states stay, the channel is as long as before, and the link is attached
as before. -/
structure Unmoved (l l' : Line) : Prop where
  states : l'.states = l.states
  channel : l'.channel.map Channel.length = l.channel.map Channel.length
  attached : l'.link.attached = l.link.attached

/-- **At most a fault strikes**, and one side only. -/
structure Strikes (d : Direction) (l l' : Line) : Prop where
  state : l'.state d = l.state d ∨ l'.state d = (l.state d).afterFault
  others : ∀ d', d' ≠ d → l'.state d' = l.state d'
  channel : l'.channel.map Channel.length = l.channel.map Channel.length
  attached : l'.link.attached = l.link.attached

variable {l l' : Line} {d : Direction}

theorem Unmoved.refl (l : Line) : l.Unmoved l := ⟨rfl, rfl, rfl⟩

theorem Unmoved.state (h : l.Unmoved l') (d : Direction) : l'.state d = l.state d := by
  unfold Line.state
  rw [h.states]

/-- A callback that leaves a line undisturbed has struck no side of it. -/
theorem Undisturbed.strikes (h : l.Undisturbed l') (d : Direction) : l.Strikes d l' where
  state := .inl (by unfold Line.state; rw [h.states])
  others _ _ := by unfold Line.state; rw [h.states]
  channel := h.channel
  attached := congrArg Link.attached h.link

theorem strikes_refl (l : Line) (d : Direction) : l.Strikes d l :=
  (Undisturbed.refl l).strikes d

/-- No fault strikes a stream that is being opened: `opening` is not a state that a fault can mark,
so a stream may exchange audio before its owner has got it. -/
theorem Strikes.unmoved (h : l.Strikes d l') (hstate : l.state d = .opening) : l.Unmoved l' where
  states := by
    have hsame : ∀ d', l'.state d' = l.state d' := by
      intro d'
      by_cases hd : d' = d
      · subst hd
        have hstate' := h.state
        rw [hstate] at hstate' ⊢
        exact hstate'.elim id id
      · exact h.others d' hd
    have hinput := hsame .input
    have houtput := hsame .output
    show (⟨l'.states.input, l'.states.output⟩ : Duplex StreamState) = ⟨_, _⟩
    exact congr (congrArg Duplex.mk hinput) houtput
  channel := h.channel
  attached := h.attached

end Line

/-! ## The callbacks -/

namespace Channel

variable {c c' : Channel} {length : Nat} {freshness : Freshness} {frames : List Int16}

/-- Handing out a period does not change how long one is. It may count the answer and mark the
period as read, and both leave its samples. -/
theorem length_of_consumed (h : c.consume length = .ok (freshness, frames, c')) :
    c'.length = c.length := by
  unfold consume at h
  split at h
  · cases h
  · simp only [Except.ok.injEq, Prod.mk.injEq] at h
    rw [← h.2.2]
    rfl

end Channel

namespace Handler

variable (h : Handler) (p : StreamInfo) (l : Line)

/-- A fault of a callback strikes its own side, and a faulted capture empties the channel without
making it any shorter. The other side, the length of the channel and whether the line is attached
are as before. -/
theorem fault_strikes (actualBytes : Nat) : l.Strikes h.direction (h.fault actualBytes l) := by
  have hlength : ∀ channel : Option Channel,
      (channel.map Channel.reset).map Channel.length = channel.map Channel.length := by
    intro channel
    cases channel with
    | none => rfl
    | some c => exact congrArg some c.length_reset
  have hother : ∀ d', d' ≠ h.direction → (l.markFaulted h.direction).state d' = l.state d' :=
    fun d' hd' => Line.state_setState_ne l _ hd'
  unfold fault
  -- only a faulted capture empties the channel
  split
  · exact ⟨.inr (Line.state_setState l _ _), hother, hlength _, Link.report_attached _ _⟩
  · exact ⟨.inr (Line.state_setState l _ _), hother, rfl, Link.report_attached _ _⟩

/-- **A capture** strikes its own side at most, in whatever state it is called and with whatever
buffer. A period that is passed on goes into a channel of the same length
(`Channel.length_of_publish`) and strikes nobody. -/
theorem capture_strikes (frames : List Int16) :
    l.Strikes h.direction (h.capture p frames l).2 := by
  unfold capture
  split
  · exact l.strikes_refl _
  · cases hchannel : l.channel with
    | none => exact l.strikes_refl _
    | some c =>
      dsimp only
      split
      · exact h.fault_strikes l _
      · split
        · exact h.fault_strikes l _
        · next hpublish =>
          have hlength := Channel.length_of_publish hpublish
          exact (undisturbed_exchange hchannel hlength _ _ _).strikes _

/-- **A playback** strikes its own side at most, too. The cases are those of a capture, with
`Channel.length_of_consumed` for the channel. -/
theorem render_strikes (length : Nat) : l.Strikes h.direction (h.render p length l).2.2 := by
  unfold render
  split
  · exact l.strikes_refl _
  · cases hchannel : l.channel with
    | none => exact l.strikes_refl _
    | some c =>
      dsimp only
      split
      · exact h.fault_strikes l _
      · split
        · exact h.fault_strikes l _
        · next hconsume =>
          have hlength := Channel.length_of_consumed hconsume
          exact (undisturbed_exchange hchannel hlength _ _ _).strikes _

theorem afterClose_strikes (error : HostError) :
    l.Strikes h.direction (h.afterClose p error l) where
  state := .inr (Line.state_setState l _ _)
  others _ hd' := Line.state_setState_ne l _ hd'
  channel := rfl
  attached := Link.report_attached _ _

end Handler

/-! ## Whatever the hardware calls -/

/-- What the hardware can call. -/
inductive Callback
  | capture (handler : Handler) (properties : StreamInfo) (frames : List Int16)
  | render (handler : Handler) (properties : StreamInfo) (length : Nat)
  | beforeClose (handler : Handler) (properties : StreamInfo) (error : HostError)
  | afterClose (handler : Handler) (properties : StreamInfo) (error : HostError)

namespace Callback

def direction : Callback → Direction
  | capture handler _ _ => handler.direction
  | render handler _ _ => handler.direction
  | beforeClose handler _ _ => handler.direction
  | afterClose handler _ _ => handler.direction

/-- The line after a callback. -/
def called (l : Line) : Callback → Line
  | capture handler properties frames => (handler.capture properties frames l).2
  | render handler properties length => (handler.render properties length l).2.2
  | beforeClose handler properties error => handler.beforeClose properties error l
  | afterClose handler properties error => handler.afterClose properties error l

/-- **Whatever the hardware calls** strikes one side at most, the one of the callback. This is what
a host has to show of its own callbacks to be `Answering`. -/
theorem called_strikes (c : Callback) (l : Line) : l.Strikes c.direction (called l c) := by
  cases c with
  | capture handler properties frames => exact handler.capture_strikes properties l frames
  | render handler properties length => exact handler.render_strikes properties l length
  | beforeClose handler properties error => exact l.strikes_refl _
  | afterClose handler properties error => exact handler.afterClose_strikes properties l error

end Callback

/-! ## Hosts -/

/-- **A host that answers.** It does not die, and no call of it moves anything on the line. A stream
that it opens is one for which the engine is in the middle of opening one. -/
class Answering (H : Type) [StreamHost Handler Line H] : Prop where
  opening_ne_crashed (side : Direction) (r : StreamSpec) (callback : Handler) (h : H) (l : Line)
    (message : String) : (StreamHost.openStream side r callback h l).1 ≠ .crashed message
  openStream (r : StreamSpec) (callback : Handler) (h : H) (l : Line)
    (hstate : l.state callback.direction = .opening) :
    l.Unmoved (StreamHost.openStream callback.direction r callback h l).2.2
  setBufferSize (s : StreamHandle) (frames : Nat) (h : H) (l : Line) :
    l.Unmoved (StreamHost.setBufferSize s frames h l).2.2
  /-- Another size of its buffer changes nothing that a stream has been checked for. -/
  infoOf_setBufferSize (s : StreamHandle) (frames : Nat) (h : H) (l : Line) :
    StreamHost.infoOf s (StreamHost.setBufferSize s frames h l).2.1 = StreamHost.infoOf s h
  startStream (s : StreamHandle) (h : H) (l : Line) :
    l.Unmoved (StreamHost.startStream s h l).2.2
  stopStream (s : StreamHandle) (h : H) (l : Line) :
    l.Unmoved (StreamHost.stopStream s h l).2.2
  closeStream (s : StreamHandle) (h : H) (l : Line) :
    l.Unmoved (StreamHost.closeStream s h l).2.2
  discard (s : StreamHandle) (h : H) (l : Line) : l.Unmoved (StreamHost.discard s h l).2.2

instance : Answering (SimulatedHost Handler) where
  opening_ne_crashed side r callback h l message := by
    show (SimulatedHost.openStream side r callback h).1 ≠ _
    unfold SimulatedHost.openStream
    dsimp only
    split <;> exact nofun
  openStream _ _ _ l _ := .refl l
  setBufferSize _ _ _ l := .refl l
  infoOf_setBufferSize _ _ _ _ := rfl
  startStream _ _ l := .refl l
  stopStream _ _ l := .refl l
  closeStream _ _ l := .refl l
  discard _ _ l := .refl l

instance : Answering (DesktopHost Handler) where
  opening_ne_crashed side r callback h l message := by
    show (DesktopHost.openStream side r callback h).1 ≠ _
    unfold DesktopHost.openStream
    split <;> exact nofun
  openStream _ _ _ l _ := .refl l
  setBufferSize _ _ _ l := .refl l
  infoOf_setBufferSize _ _ _ _ := rfl
  startStream _ _ l := .refl l
  stopStream _ _ l := .refl l
  closeStream _ _ l := .refl l
  discard _ _ l := .refl l

/-- What is exchanged early is exchanged by a stream that is being opened, and so it moves nothing,
by `Strikes.unmoved`. A side that is `opening` cannot be struck, for the transition table knows no
fault from there. -/
theorem MobileHost.earlyExchange_unmoved (adapter : Mobile.Adapter) (r : StreamSpec)
    {callback : Handler} (data : List Int16) {l : Line}
    (hstate : l.state callback.direction = .opening) :
    l.Unmoved (earlyExchange callback.direction adapter r callback data l).2 := by
  have hstrikes : l.Strikes callback.direction
      (earlyExchange callback.direction adapter r callback data l).2 := by
    unfold earlyExchange
    dsimp only
    split
    · exact callback.capture_strikes _ l _
    · exact callback.render_strikes _ l _
  exact hstrikes.unmoved hstate

instance : Answering (MobileHost Handler) where
  opening_ne_crashed side r callback h l message := by
    show (MobileHost.openStream side r callback h l).1 ≠ _
    unfold MobileHost.openStream
    split
    · exact nofun
    · dsimp only
      split <;> exact nofun
  openStream r callback h l hstate := by
    show l.Unmoved (MobileHost.openStream callback.direction r callback h l).2.2
    unfold MobileHost.openStream
    split
    · exact .refl l
    · dsimp only
      split
      · exact .refl l
      · split
        · exact .refl l
        · exact MobileHost.earlyExchange_unmoved _ r _ hstate
  setBufferSize _ _ _ l := .refl l
  infoOf_setBufferSize _ _ _ _ := rfl
  startStream _ _ l := .refl l
  stopStream _ _ l := .refl l
  closeStream _ _ l := .refl l
  discard _ _ l := .refl l

end Passthrough
