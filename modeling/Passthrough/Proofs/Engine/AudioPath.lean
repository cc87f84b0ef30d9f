import Passthrough.Proofs.Engine.Run
import Passthrough.Proofs.Period.History
/-!
# The audio path of an engine

What an open engine makes of the buffers of its devices depends on little of it: on the channel, on
the states of its sides, and on which sides have a stream that is called back. An `AudioPath` is a
machine of these three. An engine that plays as a path does makes the same of every buffer as the
path (`PlaysAs.exchange`).

So two engines that play as the same path cannot be told apart by their devices, whatever streams
they have and however these came about.

* **`exchanges_alike`** — what such engines answer, what they play, and the channel that is left.
* **`playsAs_of_sound`** — where no side has failed, the states and the channel tell the path.
-/

namespace Passthrough

open SimulatedHost

/-! ## The path -/

/-- A buffer of a device, which has captured it or wants it to be filled. -/
inductive DeviceBuffer
  | captured (frames : List Int16)
  | wanted (dest : List Int16)

/-- What is answered for a buffer, and what is in it afterwards. -/
abbrev DeviceAnswer := Option Verdict × List Int16

/-- **What the sound of an engine depends on.** -/
structure AudioPath where
  channel : Channel
  states : Duplex StreamState
  /-- Whether a side has a stream that its device calls back. -/
  called : Duplex Bool

namespace AudioPath

/-- The path of an engine of which no side has failed: a side is called back while it runs. -/
def sound (channel : Channel) (states : Duplex StreamState) : AudioPath where
  channel
  states
  called := ⟨states.input = .running, states.output = .running⟩

variable (p : AudioPath) (d : Direction)

/-- A stream that has answered stop is called back no more. -/
def rest : AudioPath := { p with called := p.called.set d false }

def fail : AudioPath := { p.rest d with states := p.states.set d .error }

/-- **One buffer.** A side that has failed refuses it; a side that runs fails over a buffer that is
not one period long, and otherwise passes it through the channel. A failing input empties the
channel, a failing output does not. -/
def exchange : DeviceBuffer → DeviceAnswer × AudioPath
  | .captured frames =>
    if p.called.get .input = false then ((none, frames), p)
    else if p.states.get .input ≠ .running then ((some .stop, frames), p.rest .input)
    else if frames.length ≠ p.channel.length then
      ((some .stop, frames), { p.fail .input with channel := p.channel.step .reset })
    else ((some .proceed, frames), { p with channel := p.channel.step (.publish frames) })
  | .wanted dest =>
    let silence := Handler.silence dest.length
    if p.called.get .output = false then ((none, dest), p)
    else if p.states.get .output ≠ .running then ((some .stop, silence), p.rest .output)
    else if dest.length ≠ p.channel.length then ((some .stop, silence), p.fail .output)
    else ((some .proceed, p.channel.samples), { p with channel := p.channel.step (.consume dest) })

end AudioPath

/-! ## Uses of the channel -/

namespace Channel

variable {c c' : Channel} {frames dest : List Int16}

/-- A publication that the channel accepts is a step of its history, so that a path may be stated by
the uses of a channel alone. -/
theorem step_of_publish {n : Nat} (h : c.publish frames = .ok (n, c')) :
    c.step (.publish frames) = c' := by
  show (c.write frames).2 = c'
  unfold write
  rw [h]

theorem step_of_consume {freshness : Freshness}
    (h : c.consume dest.length = .ok (freshness, frames, c')) : c.step (.consume dest) = c' := by
  show (c.read dest).2.2 = c'
  unfold read
  rw [h]

end Channel

/-! ## Streams that are called back -/

namespace SimulatedHost

variable {κ : Type} {h h' : SimulatedHost κ} {d : Direction}

/-- Whether a device calls back is a question about the live streams of its direction. -/
theorem hasRunning_of_live (hlive : h'.live d = h.live d) : h'.hasRunning d = h.hasRunning d := by
  unfold hasRunning newestRunning?
  rw [hlive]

theorem hasRunning_of_newestRunning? {x : SimulatedStream κ} (hx : h.newestRunning? d = some x) :
    h.hasRunning d = true := by
  unfold hasRunning
  rw [hx]
  rfl

/-- Where none is called back, none runs, and the side is called no more until it is started or
replaced. -/
theorem hasRunning_of_idle (hx : h.newestRunning? d = none) : h.hasRunning d = false := by
  unfold hasRunning
  rw [hx]
  rfl

end SimulatedHost

namespace Engine

variable {e e' : SimulatedEngine} {p p' : AudioPath} {d : Direction} {s : StreamHandle}

/-- One buffer on an engine. -/
def exchange (e : SimulatedEngine) : DeviceBuffer → DeviceAnswer × SimulatedEngine
  | .captured frames => (((e.feed frames).1, frames), (e.feed frames).2)
  | .wanted dest => (((e.draw dest).1, (e.draw dest).2.1), (e.draw dest).2.2)

/-- Buffers on an engine, one after another. -/
def exchanges (e : SimulatedEngine) : List DeviceBuffer → List DeviceAnswer × SimulatedEngine
  | [] => ([], e)
  | b :: bs => ((e.exchange b).1 :: ((e.exchange b).2.exchanges bs).1,
      ((e.exchange b).2.exchanges bs).2)

/-- **An engine that plays as a path does.** -/
structure PlaysAs (e : SimulatedEngine) (p : AudioPath) : Prop where
  isOpen : Open e
  channel : e.line.channel = some p.channel
  state : ∀ d, e.state d = p.states.get d
  called : ∀ d, e.host.hasRunning d = p.called.get d

/-- The channel of the path has the length of the period in force, so the length that a buffer is
compared with is the same on both sides. -/
theorem PlaysAs.samples (h : PlaysAs e p) : p.channel.length = e.config.period.samples := by
  obtain ⟨c, hc, hlen⟩ := h.isOpen.channel
  rw [h.channel] at hc
  rw [Option.some.inj hc]
  exact hlen

/-! ## What a buffer does to one side

A buffer is passed on, refused by a side that has failed, or fails the side over its length. The
engine and the path change together in each of these cases. -/

/-- The stream of an occupied side is the only one that its device could call back, so once it rests
the side is not called. There are two cases: the stream is the one that is live, and is set to rest,
or the device has lost it and none is live. -/
theorem Occupied.not_called (h : Occupied e d s) :
    (e.host.setRunning s.id false).hasRunning d = false := by
  apply hasRunning_of_idle
  rcases h.live with ⟨x, hx, hb⟩ | ⟨hnil, _⟩
  · have hlive : (e.host.setRunning s.id false).live d = [{ x with running := false }] := by
      rw [SimulatedHost.live_setRunning, hx]
      simp [hb.id]
    rw [newestRunning?_of_single hlive]
    rfl
  · apply newestRunning?_of_nil
    rw [SimulatedHost.live_setRunning, hnil]
    rfl

/-- What the hardware does to one side leaves the other side of the path alone. The three equations
are about the side itself and the channel. `Disturbs` gives the state and the live streams of the
other side, and these settle what the path says of it. -/
theorem PlaysAs.disturbed (h : PlaysAs e p) (hd : Disturbs d e e') (ho : Open e')
    (hchannel : e'.line.channel = some p'.channel) (hstate : e'.state d = p'.states.get d)
    (hcalled : e'.host.hasRunning d = p'.called.get d)
    (hother : ∀ d', d' ≠ d → p'.states.get d' = p.states.get d'
      ∧ p'.called.get d' = p.called.get d') : PlaysAs e' p' where
  isOpen := ho
  channel := hchannel
  state d' := by
    by_cases hne : d' = d
    · rw [hne]
      exact hstate
    · rw [(hd.other d' hne).state, h.state, (hother d' hne).1]
  called d' := by
    by_cases hne : d' = d
    · rw [hne]
      exact hcalled
    · rw [hasRunning_of_live (hd.other d' hne).live, h.called, (hother d' hne).2]

/-- A side that had failed before refuses a buffer: engine and path let its stream rest. -/
theorem PlaysAs.rested (h : PlaysAs e p) (hs : Occupied e d s) (herr : e.state d = .error) :
    PlaysAs { e with host := e.host.setRunning s.id false } (p.rest d) := by
  obtain ⟨hd, ho⟩ := h.isOpen.refused hs herr
  refine h.disturbed hd ho h.channel (h.state d) ?_ fun d' hne => ⟨rfl, ?_⟩
  · exact hs.not_called.trans (Duplex.get_set _ _ _).symm
  · exact Duplex.get_set_ne _ _ hne

/-- A side fails over a buffer: engine and path mark it, let its stream rest and go on with the
channel that is left, which is empty after a capture. -/
theorem PlaysAs.failed (h : PlaysAs e p) (hs : Occupied e d s) {c : Channel} {link : Link}
    (hlistening : link.listening = e.line.link.listening)
    (hattached : link.attached = e.line.link.attached) (hlen : c.length = p.channel.length) :
    PlaysAs { e with
        host := e.host.setRunning s.id false
        line := { e.line with states := e.line.states.set d .error, channel := some c, link } }
      { p.fail d with channel := c } := by
  have hkept : ∀ c₀, e.line.channel = some c₀ → ∃ c', some c = some c' ∧ c'.length = c₀.length := by
    intro c₀ hc₀
    rw [h.channel] at hc₀
    exact ⟨c, rfl, hlen.trans (congrArg Channel.length (Option.some.inj hc₀))⟩
  obtain ⟨hd, ho⟩ := h.isOpen.stopped hs hlistening hattached hkept
  refine h.disturbed hd ho rfl ?_ ?_ fun d' hne => ⟨Duplex.get_set_ne _ _ hne, ?_⟩
  · exact (Duplex.get_set _ _ _).trans (Duplex.get_set _ _ _).symm
  · exact hs.not_called.trans (Duplex.get_set _ _ _).symm
  · exact Duplex.get_set_ne _ _ hne

/-- A period passed: engine and path go on with the channel as it is now. What observers are given
is not part of a path. -/
theorem PlaysAs.passed (h : PlaysAs e p) (d : Direction) {c : Channel} (heard : List Heard)
    (hlen : c.length = p.channel.length) :
    PlaysAs { e with line := { e.line with channel := some c, heard } }
      { p with channel := c } := by
  obtain ⟨hd, ho⟩ := h.isOpen.passed d h.channel hlen heard
  exact h.disturbed hd ho rfl (h.state d) (h.called d) fun _ _ => ⟨rfl, rfl⟩

/-! ## One buffer -/

/-- **A captured buffer** is answered alike by the engine and by its path, and both go on alike, in
each of the cases that `exchange` tells apart. -/
theorem PlaysAs.captured (h : PlaysAs e p) (frames : List Int16) :
    (e.exchange (.captured frames)).1 = (p.exchange (.captured frames)).1
      ∧ PlaysAs (e.exchange (.captured frames)).2 (p.exchange (.captured frames)).2 := by
  obtain ⟨s, hs⟩ := h.isOpen.occupied .input
  unfold Engine.exchange AudioPath.exchange
  simp only [← h.called, ← h.state, h.samples]
  rcases hs.newestRunning? with hnone | ⟨x, hnewest, hb, hrun | herr⟩
  · simp only [feed_of_idle hnone, hasRunning_of_idle hnone, if_true]
    exact ⟨trivial, h⟩
  -- the input runs: the buffer is one period and is published, or the input fails
  · simp only [hasRunning_of_newestRunning? hnewest, hrun, Bool.true_eq_false, if_false, ne_eq,
      not_true_eq_false]
    by_cases hframes : frames.length = e.config.period.samples
    · obtain ⟨c, hpublish, hsamples⟩ := Channel.publish_of_length (hframes.trans h.samples.symm)
      obtain ⟨x, _, hfeed⟩ := feed_of_publish h.isOpen hrun hframes h.channel hpublish
      obtain ⟨heard, hheard⟩ := Line.notify_eq { e.line with channel := some c }
        x.callback.observer .input frames
      rw [hheard] at hfeed
      simp only [hframes, not_true_eq_false, if_false, hfeed, Channel.step_of_publish hpublish]
      exact ⟨trivial, h.passed .input heard (Channel.length_of_publish hpublish)⟩
    · simp only [hframes, not_false_eq_true, if_true,
        feed_of_misfit h.isOpen hrun hnewest hb hs hframes, h.channel, Option.map_some]
      exact ⟨trivial, h.failed hs (Link.report_listening _ _) (Link.report_attached _ _)
        (Channel.length_reset _)⟩
  · simp only [hasRunning_of_newestRunning? hnewest, herr, Bool.true_eq_false, if_false, ne_eq,
      reduceCtorEq, not_false_eq_true, if_true, feed_of_failed herr hnewest hb]
    exact ⟨trivial, h.rested hs herr⟩

/-- **A buffer to be filled** is answered alike too, with the same frames in it. What the channel
hands out depends on what it holds and on the length asked for (`Channel.consume_of_length`); a
buffer of another length fails the output and leaves the channel as it is. -/
theorem PlaysAs.wanted (h : PlaysAs e p) (dest : List Int16) :
    (e.exchange (.wanted dest)).1 = (p.exchange (.wanted dest)).1
      ∧ PlaysAs (e.exchange (.wanted dest)).2 (p.exchange (.wanted dest)).2 := by
  obtain ⟨s, hs⟩ := h.isOpen.occupied .output
  unfold Engine.exchange AudioPath.exchange
  simp only [← h.called, ← h.state, h.samples]
  rcases hs.newestRunning? with hnone | ⟨x, hnewest, hb, hrun | herr⟩
  · simp only [draw_of_idle hnone, hasRunning_of_idle hnone, if_true]
    exact ⟨trivial, h⟩
  -- the output runs: the channel fills a buffer of one period, any other one fails the output
  · simp only [hasRunning_of_newestRunning? hnewest, hrun, Bool.true_eq_false, if_false, ne_eq,
      not_true_eq_false]
    by_cases hdest : dest.length = e.config.period.samples
    · obtain ⟨c, hconsume, hsamples⟩ := Channel.consume_of_length (hdest.trans h.samples.symm)
      obtain ⟨x, _, hdraw⟩ := draw_of_consume h.isOpen hrun hdest h.channel hconsume
      obtain ⟨heard, hheard⟩ := Line.notify_eq { e.line with channel := some c }
        x.callback.observer .output p.channel.samples
      rw [hheard] at hdraw
      simp only [hdest, not_true_eq_false, if_false, hdraw, Channel.step_of_consume hconsume]
      exact ⟨trivial, h.passed .output heard (congrArg List.length hsamples)⟩
    · -- the fault is reported, and the channel keeps what it holds for the next output
      have hfailed := h.failed hs (c := p.channel) (Link.report_listening e.line.link
        (.fault .output e.config.period.bytes (dest.length * sampleBytes)))
        (Link.report_attached _ _) rfl
      rw [← h.channel] at hfailed
      simp only [hdest, not_false_eq_true, if_true,
        draw_of_misfit h.isOpen hrun hnewest hb hs hdest]
      exact ⟨trivial, hfailed⟩
  · simp only [hasRunning_of_newestRunning? hnewest, herr, Bool.true_eq_false, if_false, ne_eq,
      reduceCtorEq, not_false_eq_true, if_true, draw_of_failed herr hnewest hb]
    exact ⟨trivial, h.rested hs herr⟩

/-- **One buffer**: the engine makes of it what the path makes, and goes on playing as the path. -/
theorem PlaysAs.exchange (h : PlaysAs e p) (b : DeviceBuffer) :
    (e.exchange b).1 = (p.exchange b).1 ∧ PlaysAs (e.exchange b).2 (p.exchange b).2 := by
  cases b with
  | captured frames => exact h.captured frames
  | wanted dest => exact h.wanted dest

/-! ## Engines that play alike -/

/-- **Two engines that play as one path** make the same of all buffers, and are left with the same
channel. The induction is on the buffers. Since each exchange is answered as the path answers it,
neither engine has to be looked into again. -/
theorem exchanges_alike (h : PlaysAs e p) (h' : PlaysAs e' p) (bs : List DeviceBuffer) :
    (e'.exchanges bs).1 = (e.exchanges bs).1
      ∧ (e'.exchanges bs).2.line.channel = (e.exchanges bs).2.line.channel := by
  induction bs generalizing e e' p with
  | nil => exact ⟨rfl, h'.channel.trans h.channel.symm⟩
  | cons b bs ih =>
    obtain ⟨hsame, hgoes⟩ := h.exchange b
    obtain ⟨hsame', hgoes'⟩ := h'.exchange b
    obtain ⟨hrest, hchannel⟩ := ih hgoes hgoes'
    refine ⟨?_, hchannel⟩
    show (e'.exchange b).1 :: _ = (e.exchange b).1 :: _
    rw [hsame', ← hsame, hrest]

/-- **Where no side has failed**, the states of an engine tell which of them are called back. A side
that runs has a stream that is called back (`newestRunning_of_running`), and one that rests has
none. -/
theorem playsAs_of_sound (h : Open e) {c : Channel} (hc : e.line.channel = some c)
    (hsound : ∀ d, e.state d ≠ .error) : PlaysAs e (.sound c e.line.states) where
  isOpen := h
  channel := hc
  state _ := rfl
  called d := by
    have hcalled : (AudioPath.sound c e.line.states).called.get d
        = decide (e.state d = .running) := by
      cases d <;> rfl
    obtain ⟨s, hs⟩ := h.occupied d
    rw [hcalled]
    by_cases hrun : e.state d = .running
    · obtain ⟨x, hnewest, _⟩ := hs.newestRunning_of_running hrun
      rw [hasRunning_of_newestRunning? hnewest, decide_eq_true hrun]
    · rw [decide_eq_false hrun]
      -- a stream that is called back belongs to a side that runs or has failed
      rcases hs.newestRunning? with hnone | ⟨x, _, _, hstate⟩
      · exact hasRunning_of_idle hnone
      · exact absurd (hstate.resolve_right (hsound d)) hrun

end Engine

end Passthrough
