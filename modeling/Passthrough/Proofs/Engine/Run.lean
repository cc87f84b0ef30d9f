import Passthrough.Proofs.Engine.Calls
import Passthrough.Proofs.Engine.Hardware
/-!
# Runs of an engine

A run is any sequence of actions on an engine on simulated hardware: calls of its owner, wakes of
its worker, callbacks and lost devices, and the faults and substitutes that the host is told to
show. Nothing restricts their order.

* **`perform_sound`** — every step keeps the invariant.
* **`after_sound`** — so does a whole run.
* **`after_closed_or_open`** — between two steps an engine is closed or open, in full.
* **`after_sharesChannel`** — its live callbacks have been set up over the channel in use.
-/

namespace Passthrough

open EngineM SimulatedHost

/-! ## Actions -/

/-- What the simulated host is told. -/
inductive Script
  | openFault (d : Direction) (error : HostError)
  | startFault (d : Direction) (error : HostError)
  | stopFault (d : Direction) (error : HostError)
  | rate (d : Direction) (rate : Option Nat)
  | capacity (d : Direction) (frames : Option Nat)
  | mode (d : Direction) (mode : Option PerformanceMode)
  | recommendAAudio (recommend : Bool)
  | forgetCalls

/-- One step of a run. -/
inductive Action
  | call (c : Call)
  /-- The device captures a buffer. -/
  | feed (frames : List Int16)
  /-- The device asks for a buffer to play. -/
  | draw (dest : List Int16)
  | unplug (d : Direction) (error : HostError)
  | script (s : Script)
  /-- The observers collect what they were given. -/
  | collect

/-- The host after it has been told something. -/
def SimulatedHost.follow {κ : Type} (h : SimulatedHost κ) : Script → SimulatedHost κ
  | .openFault d error => h.plantOpenFault d error
  | .startFault d error => h.plantStartFault d error
  | .stopFault d error => h.plantStopFault d error
  | .rate d rate => h.substituteRate d rate
  | .capacity d frames => h.substituteCapacity d frames
  | .mode d mode => h.substituteMode d mode
  | .recommendAAudio recommend => { h with recommendsAAudio := recommend }
  | .forgetCalls => h.forgetCalls

namespace Engine

variable {e e' : SimulatedEngine}

/-- The engine after one step. -/
def perform (a : Action) (e : SimulatedEngine) : SimulatedEngine :=
  match a with
  | .call c => e.call c
  | .feed frames => (e.feed frames).2
  | .draw dest => (e.draw dest).2.2
  | .unplug d error => (e.unplug d error).2
  | .script s => { e with host := e.host.follow s }
  | .collect => { e with line := e.line.takeHeard.2 }

/-- The engine after a run. -/
def after (e : SimulatedEngine) (as : List Action) : SimulatedEngine :=
  as.foldl (fun e a => e.perform a) e

/-- A run can be cut at any point, which is how a theorem speaks of what is true at its moments. -/
theorem after_append (e : SimulatedEngine) (as bs : List Action) :
    e.after (as ++ bs) = (e.after as).after bs :=
  List.foldl_append

/-! ## Every step -/

/-- What the host is told concerns later requests only; the streams that it has are left alone, and
so are the numbers it has given out. -/
theorem follow_streams (h : SimulatedHost Handler) (s : Script) :
    (h.follow s).opened = h.opened ∧ (h.follow s).streams = h.streams := by
  cases s <;> exact ⟨rfl, rfl⟩

/-- Telling the host something is not noticed by the sides, so a script may stand anywhere in a
run. -/
theorem unnoticed_script (e : SimulatedEngine) (s : Script) :
    Unnoticed e { e with host := e.host.follow s } := by
  obtain ⟨hopened, hstreams⟩ := follow_streams e.host s
  have hsame : ∀ d, SameSide d e { e with host := e.host.follow s } := fun d =>
    ⟨rfl, rfl, live_eq_of_streams hstreams d, rfl⟩
  exact ⟨hsame, fun _ => rfl, rfl, rfl, rfl, rfl, rfl, rfl, .of_streams hopened hstreams⟩

theorem unnoticed_collect (e : SimulatedEngine) :
    Unnoticed e { e with line := e.line.takeHeard.2 } :=
  ⟨fun _ => ⟨rfl, rfl, rfl, rfl⟩, fun _ => rfl, rfl, rfl, rfl, rfl, rfl, rfl, .refl _⟩

/-- **What the hardware does**: nothing to a closed engine, and to an open one a disturbance. -/
def Endures (e e' : SimulatedEngine) : Prop :=
  e' = e ∨ ∃ d, Open e ∧ Disturbs d e e' ∧ Open e'

/-- A capture is endured, by an engine of either shape and with a buffer of any length. -/
theorem feed_endures (h : Sound e) (frames : List Int16) : Endures e (e.feed frames).2 := by
  rcases h.shape with hc | ho
  · rw [feed_of_closed hc]
    exact Or.inl rfl
  · obtain ⟨r, e', hfeed, hdisturbs, hopen, _⟩ := feed_of_open ho frames
    rw [hfeed]
    exact Or.inr ⟨.input, ho, hdisturbs, hopen⟩

/-- A playback is endured, by an engine of either shape and into a buffer of any length. -/
theorem draw_endures (h : Sound e) (dest : List Int16) : Endures e (e.draw dest).2.2 := by
  rcases h.shape with hc | ho
  · rw [draw_of_closed hc]
    exact Or.inl rfl
  · obtain ⟨r, dest', e', hdraw, hdisturbs, hopen, _⟩ := draw_of_open ho dest
    rw [hdraw]
    exact Or.inr ⟨.output, ho, hdisturbs, hopen⟩

/-- The loss of a device is endured, whether or not there is a stream to lose. On an open engine
`unplug_of_open` says what is left of the side, and nothing else is touched. -/
theorem unplug_endures (h : Sound e) (d : Direction) (error : HostError) :
    Endures e (e.unplug d error).2 := by
  rcases h.shape with hc | ho
  · rw [unplug_of_idle (hc.vacant d).live]
    exact Or.inl rfl
  · obtain ⟨e', hunplug, hdisturbs, hopen, _⟩ := unplug_of_open ho d error
    rw [hunplug]
    exact Or.inr ⟨d, ho, hdisturbs, hopen⟩

/-- What the hardware does leaves an engine sound: it is `Closed` or `Open` as before, for the
hardware can neither open nor close it. Numbers that the host has given out stay given out
(`Numbered.of_follows`). -/
theorem Endures.sound (h : Endures e e') (hs : Sound e) :
    Sound e' ∧ e'.recovery = e.recovery := by
  rcases h with rfl | ⟨d, _, hdisturbs, hopen⟩
  · exact ⟨hs, rfl⟩
  · refine ⟨⟨Or.inr hopen, ?_, ?_, ?_⟩, hdisturbs.recovery⟩
    · exact hdisturbs.poisoned.trans hs.poisoned
    · exact hdisturbs.listening.trans hs.listening
    · exact hs.numbered.of_follows hdisturbs.host

/-- **One step** of a run, whatever the step is. The way in which the engine recovers is fixed when
it is made, and stays. Calls are settled by `call_leaves`, buffers and losses by what the hardware
does (`Endures.sound`), and the rest is not noticed by the engine. -/
theorem perform_sound (h : Sound e) (a : Action) :
    Sound (e.perform a) ∧ (e.perform a).recovery = e.recovery := by
  cases a with
  | call c => exact ⟨(call_leaves h c).sound h, (call_leaves h c).recovery⟩
  | script s => exact ⟨((unnoticed_script e s).leaves h).sound h, rfl⟩
  | collect => exact ⟨((unnoticed_collect e).leaves h).sound h, rfl⟩
  | feed frames => exact (feed_endures h frames).sound h
  | draw dest => exact (draw_endures h dest).sound h
  | unplug d error => exact (unplug_endures h d error).sound h

/-- **A whole run** leaves the engine sound, from any engine that is; the invariant is `Sound`, and
`perform_sound` is the step. Nearly every statement about runs begins with it. -/
theorem after_sound (h : Sound e) (as : List Action) :
    Sound (e.after as) ∧ (e.after as).recovery = e.recovery := by
  induction as generalizing e with
  | nil => exact ⟨h, rfl⟩
  -- by induction on the run, for any engine that it may start from
  | cons a as ih =>
    obtain ⟨hstep, hrecovery⟩ := perform_sound h a
    obtain ⟨hrun, hrecovery'⟩ := ih hstep
    exact ⟨hrun, hrecovery'.trans hrecovery⟩

/-- **Between two steps of any run** an engine is closed or it is open, in full and not both: with
handles, states, channel, link and live streams as `Closed` and `Open` say. -/
theorem after_closed_or_open (config : Config) (recovery : Recovery) (noticeCapacity : Nat)
    (as : List Action) :
    let e := (create {} config recovery noticeCapacity : SimulatedEngine).after as
    (Closed e ∧ ¬ Open e) ∨ (Open e ∧ ¬ Closed e) := by
  intro e
  rcases (after_sound (sound_create config recovery noticeCapacity) as).1.shape with hc | ho
  · exact Or.inl ⟨hc, hc.not_open⟩
  · exact Or.inr ⟨ho, fun hc => hc.not_open ho⟩

/-- **Live callbacks share the channel in use**, after any run: whatever has opened and replaced
streams, no live one was set up over a channel that has been given up for another. So it makes no
difference that a `Handler` keeps the number of its channel and finds the channel on the line. -/
theorem after_sharesChannel (config : Config) (recovery : Recovery) (noticeCapacity : Nat)
    (as : List Action) :
    SharesChannel ((create {} config recovery noticeCapacity : SimulatedEngine).after as) := by
  rcases (after_sound (sound_create config recovery noticeCapacity) as).1.shape with hc | ho
  · exact hc.sharesChannel
  · exact ho.sharesChannel

end Engine

end Passthrough
