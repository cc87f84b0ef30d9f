import Passthrough.Engine.Hardware
import Passthrough.Proofs.Host.Streams
import Passthrough.Proofs.Line.Handler
/-!
# One side of an engine

The two shapes that one direction of an engine on simulated hardware can have between two calls: a
side is *vacant* (closed, no handle, no live stream), or it is *occupied* by the stream of a
handle.

An engine program works on one side at a time. What it leaves alone is said by `ActsOn`: the other
side stays as it is, and so does everything that both sides share. Both shapes survive whatever
leaves their own side alone (`Vacant.frame`, `Occupied.frame`); that is what the specifications of
the programs are put together with.
-/

namespace Passthrough

/-! ## Streams that fit -/

/-- The check of a negotiated stream passes exactly for the streams that the period admits.
Everything later speaks of `PeriodFormat.Admits`, and the order in which `checkFit` looks at the
rate, the channels and the size of the period is not needed again. -/
theorem checkFit_eq_ok_iff (f : PeriodFormat) (p : StreamInfo) :
    EngineM.checkFit f f.sampleRate p = .ok () ↔ f.Admits p := by
  unfold EngineM.checkFit
  constructor
  · intro h
    by_cases hrate : p.sampleRate = f.sampleRate
    · by_cases hchannels : p.channelCount = f.channelCount
      · by_cases hroom : f.bufferBytes p.bufferCapacityFrames < f.bytes
        · simp [hrate, hchannels, hroom] at h
        · exact ⟨hrate, hchannels, Nat.le_of_not_lt hroom⟩
      · simp [hrate, hchannels] at h
    · simp [hrate] at h
  · intro h
    simp [h.sampleRate, h.channelCount, Nat.not_lt.mpr h.capacity]

namespace Engine

variable {e e' e'' : SimulatedEngine} {d d' : Direction} {s : StreamHandle}

/-! ## The two shapes -/

/-- **A vacant side.** -/
structure Vacant (e : SimulatedEngine) (d : Direction) : Prop where
  state : e.state d = .closed
  handle : e.streams.get d = none
  live : e.host.live d = []

/-- The live stream of the host that a handle stands for. It runs while its side is running and
rests while its side is open; what a failed side does is up to the hardware. -/
structure Backs (e : SimulatedEngine) (d : Direction) (s : StreamHandle)
    (x : SimulatedStream Handler) : Prop where
  id : x.id = s.id
  properties : x.properties = s.properties
  side : x.side = d
  handler : x.callback.direction = d
  period : x.callback.period = e.config.period
  /-- Its callbacks have been set up over the channel in use. -/
  channelId : x.callback.channelId = e.line.channelId
  running : e.state d = .running → x.running = true
  resting : e.state d = .opened → x.running = false

/-- **An occupied side.** The handle's stream is the only live one of its direction, or the
hardware has taken it and the side has failed. -/
structure Occupied (e : SimulatedEngine) (d : Direction) (s : StreamHandle) : Prop where
  handle : e.streams.get d = some s
  unclosed : s.closed = false
  direction : s.properties.direction = d
  admitted : e.config.period.Admits s.properties
  state : e.state d = .opened ∨ e.state d = .running ∨ e.state d = .error
  live : (∃ x, e.host.live d = [x] ∧ Backs e d s x) ∨ (e.host.live d = [] ∧ e.state d = .error)
  /-- The number of the stream has been given out. -/
  number : s.id ≤ e.host.opened
  /-- The number is not one of the other direction. -/
  own : ∀ x ∈ e.host.streams, x.id = s.id → x.properties.direction = d

/-- A side between two calls. -/
def Settled (e : SimulatedEngine) (d : Direction) : Prop := Vacant e d ∨ ∃ s, Occupied e d s

/-- The two shapes exclude each other, because a vacant side has no handle and an occupied one
has. -/
theorem Vacant.not_occupied (h : Vacant e d) : ¬ Occupied e d s := by
  intro ho
  have hnone := h.handle
  rw [ho.handle] at hnone
  cases hnone

/-- A side is occupied by one stream, so that two lemmas that each provide the handle speak of the
same one. -/
theorem Occupied.handle_eq {s' : StreamHandle} (h : Occupied e d s) (h' : Occupied e d s') :
    s = s' :=
  Option.some.inj (h.handle.symm.trans h'.handle)

/-- A side that has not failed has its stream on the host. Only for a side in `error` the hardware
may have taken the stream away, which is the second half of `Occupied.live`. -/
theorem Occupied.backed (h : Occupied e d s) (hd : e.state d ≠ .error) :
    ∃ x, e.host.live d = [x] ∧ Backs e d s x := by
  rcases h.live with hx | ⟨_, hs⟩
  · exact hx
  · exact absurd hs hd

/-- No live stream of the other direction has the number of an occupied side, so that a stop, a
start or a close by number, as the host carries them out, cannot strike the wrong stream. -/
theorem Occupied.id_ne (h : Occupied e d s) (hd : d' ≠ d) :
    ∀ x ∈ e.host.live d', x.id ≠ s.id := by
  intro x hx hid
  obtain ⟨hmem, hdir⟩ := SimulatedHost.mem_live.mp hx
  exact hd (hdir.symm.trans (h.own x hmem hid))

/-! ## What is left alone -/

/-- Nothing has happened to a side, and no other channel has been made. -/
structure SameSide (d : Direction) (e e' : SimulatedEngine) : Prop where
  state : e'.state d = e.state d
  handle : e'.streams.get d = e.streams.get d
  live : e'.host.live d = e.host.live d
  channelId : e'.line.channelId = e.line.channelId

theorem SameSide.refl (d : Direction) (e : SimulatedEngine) : SameSide d e e :=
  ⟨rfl, rfl, rfl, rfl⟩

/-- What happens to neither side in two steps happens to it in neither of them; the chain may go
through any number of programs of the other side. -/
theorem SameSide.trans (h : SameSide d e e') (h' : SameSide d e' e'') : SameSide d e e'' where
  state := h'.state.trans h.state
  handle := h'.handle.trans h.handle
  live := h'.live.trans h.live
  channelId := h'.channelId.trans h.channelId

/-- What no program of the streams changes: the configuration and the manner of the engine, what
waits for its observers, and the events that wait for it. -/
structure Keeps (e e' : SimulatedEngine) : Prop where
  config : e'.config = e.config
  recovery : e'.recovery = e.recovery
  observer : e'.observer = e.observer
  poisoned : e'.poisoned = e.poisoned
  heard : e'.line.heard = e.line.heard
  pending : e'.line.link.pending = e.line.link.pending
  listening : e'.line.link.listening = e.line.link.listening
  host : SimulatedHost.Follows e.host e'.host

theorem Keeps.refl (e : SimulatedEngine) : Keeps e e :=
  ⟨rfl, rfl, rfl, rfl, rfl, rfl, rfl, .refl e.host⟩

/-- The frame composes along a program. Its last field says that the host has followed, which
composes by `Follows.trans` and not by an equation. -/
theorem Keeps.trans (h : Keeps e e') (h' : Keeps e' e'') : Keeps e e'' where
  config := h'.config.trans h.config
  recovery := h'.recovery.trans h.recovery
  observer := h'.observer.trans h.observer
  poisoned := h'.poisoned.trans h.poisoned
  heard := h'.heard.trans h.heard
  pending := h'.pending.trans h.pending
  listening := h'.listening.trans h.listening
  host := h.host.trans h'.host

/-- A change of the line that leaves alone what waits on it, such as attaching, detaching or another
channel. The mark of a started session may change with it. -/
theorem keeps_line (e : SimulatedEngine) {line : Line} (started : Bool)
    (hheard : line.heard = e.line.heard) (hpending : line.link.pending = e.line.link.pending)
    (hlistening : line.link.listening = e.line.link.listening) :
    Keeps e { e with line, started } where
  config := rfl
  recovery := rfl
  observer := rfl
  poisoned := rfl
  heard := hheard
  pending := hpending
  listening := hlistening
  host := .refl e.host

/-- **Work on one side.** The other side and all that both sides share stay as they are. -/
structure ActsOn (d : Direction) (e e' : SimulatedEngine) : Prop extends Keeps e e' where
  channel : e'.line.channel = e.line.channel
  link : e'.line.link = e.line.link
  started : e'.started = e.started
  effectOn : e'.effectOn = e.effectOn
  other : ∀ d', d' ≠ d → SameSide d' e e'

theorem ActsOn.refl (d : Direction) (e : SimulatedEngine) : ActsOn d e e where
  toKeeps := .refl e
  channel := rfl
  link := rfl
  started := rfl
  effectOn := rfl
  other _ _ := .refl _ e

/-- Work on one side, done in two parts. A proof about a program of several steps gives one `ActsOn`
for each step and composes them. -/
theorem ActsOn.trans (h : ActsOn d e e') (h' : ActsOn d e' e'') : ActsOn d e e'' where
  toKeeps := h.toKeeps.trans h'.toKeeps
  channel := h'.channel.trans h.channel
  link := h'.link.trans h.link
  started := h'.started.trans h.started
  effectOn := h'.effectOn.trans h.effectOn
  other d' hd := (h.other d' hd).trans (h'.other d' hd)

/-! ## The shapes survive -/

/-- A vacant side has no callbacks, so it stays vacant over another channel too. This is why it
asks for less than `Vacant.frame`, which is what `closed_of_vacant` needs when the channel is given
up. -/
theorem Vacant.of_same (h : Vacant e d) (hstate : e'.state d = e.state d)
    (hhandle : e'.streams.get d = e.streams.get d) (hlive : e'.host.live d = e.host.live d) :
    Vacant e' d where
  state := hstate.trans h.state
  handle := hhandle.trans h.handle
  live := hlive.trans h.live

/-- A vacant side survives whatever leaves it alone. The stream table may have changed for the other
side, as long as nothing of this direction has come to live in it. -/
theorem Vacant.frame (h : Vacant e d) (same : SameSide d e e') : Vacant e' d :=
  h.of_same same.state same.handle same.live

/-- The number of an occupied side stays its own while the host goes on, because new streams get
numbers beyond all that were given out and old ones keep their direction. -/
theorem Occupied.own_of_follows (h : Occupied e d s) {host : SimulatedHost Handler}
    (hhost : SimulatedHost.Follows e.host host) :
    ∀ x ∈ host.streams, x.id = s.id → x.properties.direction = d := by
  intro x hx hid
  rcases hhost.streams x hx with ⟨hnew, _⟩ | ⟨y, hy, hyid, hyprops⟩
  · -- a new stream has a number beyond all that were given out
    have := h.number
    omega
  · rw [← hyprops]
    exact h.own y hy (hyid.trans hid)

/-- An occupied side survives whatever leaves it alone, as long as the period stays and the host
follows: then its stream is the same one, with the same callbacks over the same channel. -/
theorem Occupied.frame (h : Occupied e d s) (same : SameSide d e e')
    (hperiod : e'.config.period = e.config.period)
    (hhost : SimulatedHost.Follows e.host e'.host) : Occupied e' d s where
  handle := same.handle.trans h.handle
  unclosed := h.unclosed
  direction := h.direction
  admitted := hperiod ▸ h.admitted
  state := by
    rw [same.state]
    exact h.state
  live := by
    rw [same.state, same.live]
    -- the same stream, whose handler agrees with the same period, channel and state
    rcases h.live with ⟨x, hx, hb⟩ | hlost
    · refine Or.inl ⟨x, hx, ⟨hb.id, hb.properties, hb.side, hb.handler, ?_, ?_, ?_, ?_⟩⟩
      · exact hb.period.trans hperiod.symm
      · exact hb.channelId.trans same.channelId.symm
      · exact fun hs => hb.running (same.state.symm.trans hs)
      · exact fun hs => hb.resting (same.state.symm.trans hs)
    · exact Or.inr hlost
  number := Nat.le_trans h.number hhost.opened
  own := h.own_of_follows hhost

/-- Work on one side does not touch the shape of the other, whichever of the two shapes that is. The
programs that close and stop need no more than this, since they start from sides of any shape. -/
theorem Settled.frame (h : Settled e d) (same : SameSide d e e')
    (hperiod : e'.config.period = e.config.period)
    (hhost : SimulatedHost.Follows e.host e'.host) : Settled e' d := by
  rcases h with hv | ⟨s, ho⟩
  · exact Or.inl (hv.frame same)
  · exact Or.inr ⟨s, ho.frame same hperiod hhost⟩

/-- What a program of one side does cannot fill the other side: `Vacant.frame` at the field
`other`. -/
theorem ActsOn.vacant (h : ActsOn d e e') (hd : d' ≠ d) (hv : Vacant e d') : Vacant e' d' :=
  hv.frame (h.other d' hd)

/-- What a program of one side does cannot empty the other side, nor replace its stream:
`Occupied.frame` at the field `other`. -/
theorem ActsOn.occupied (h : ActsOn d e e') (hd : d' ≠ d) (ho : Occupied e d' s) :
    Occupied e' d' s :=
  ho.frame (h.other d' hd) (by rw [h.config]) h.host

/-- The other side keeps its shape, whichever it is, through a program of this one. -/
theorem ActsOn.settled (h : ActsOn d e e') (hd : d' ≠ d) (hs : Settled e d') : Settled e' d' :=
  hs.frame (h.other d' hd) (by rw [h.config]) h.host

end Engine

end Passthrough
