import Passthrough.Proofs.Engine.Run
/-!
# Events of an earlier session

Events wait in the queue of the link until the engine attends to them, and the streams that they
tell of may be gone by then. What that means for a session in which nothing has failed depends on
the event. A loss is looked for in the states before anything is done about it, so that a stale one
does no harm. A fault is not: whatever session is open when a fault is attended to is ended.

* **`attendPending_untouched_iff`** — a healthy engine is left alone exactly if it is closed or no
  fault waits; and else its session is ended.
-/

namespace Passthrough

open EngineM SimulatedHost

namespace Engine

variable {e e' : SimulatedEngine}

/-- **An engine left alone.** Its host has not been asked for anything, and its streams, their
states, the channel and the effect are what they were. -/
structure Untouched (e e' : SimulatedEngine) : Prop where
  host : e'.host = e.host
  streams : e'.streams = e.streams
  states : e'.line.states = e.line.states
  channel : e'.line.channel = e.line.channel
  effectOn : e'.effectOn = e.effectOn

/-- Events that come to nothing but notices leave an engine alone. Taking them off the queue and
publishing are the only things that happen. Without events nothing happens at all, and that leaves
the engine alone as well. -/
theorem untouched_of_board (hrecovery : e.recovery = .manual)
    (hattend : ∃ board, attend e.line.link.pending e.taken = .ok () { e.taken with board }) :
    Untouched e e.attendPending.2 := by
  by_cases hempty : e.line.link.pending = []
  · rw [attendPending_of_empty hrecovery hempty]
    exact ⟨rfl, rfl, rfl, rfl, rfl⟩
  · obtain ⟨board, hboard⟩ := hattend
    have hrun : e.taken.runAnyway (attend e.line.link.pending)
        = (.ok (), { e.taken with board }) := by
      unfold Engine.runAnyway
      rw [hboard]
    rw [attendPending_of_attended hrecovery hempty hrun]
    exact ⟨rfl, rfl, rfl, rfl, rfl⟩

/-- Attending to nothing but losses leaves an engine alone in which no side has failed, because a
repair looks at the states before it does anything. -/
theorem attendPending_of_no_fault (hrecovery : e.recovery = .manual)
    (hhealthy : ∀ d, e.state d ≠ .error)
    (hfault : e.line.link.pending.any Event.isFault = false) : Untouched e e.attendPending.2 :=
  untouched_of_board hrecovery (attend_of_sound (e := e.taken) hfault fun _ _ => hhealthy)

/-- Attending to anything leaves a closed engine alone: there is no session to end and no stream to
replace. -/
theorem attendPending_of_closed (h : Closed e) (hrecovery : e.recovery = .manual) :
    Untouched e e.attendPending.2 := by
  have hclosed : Closed e.taken := h.frame (fun _ => ⟨rfl, rfl, rfl, rfl⟩) rfl rfl rfl
  exact untouched_of_board hrecovery (attend_of_closed e.line.link.pending hclosed)

/-- Attending to a fault ends the session that is open, whichever it is. The fault may be one of an
earlier session, for nothing in it says which session it was. -/
theorem attendPending_of_fault (h : Open e) (hrecovery : e.recovery = .manual)
    (hfault : e.line.link.pending.any Event.isFault = true) : Ended e.attendPending.2 := by
  have hne : e.line.link.pending ≠ [] := by
    intro hempty
    rw [hempty] at hfault
    cases hfault
  have hopen : Open e.taken := h.frame (fun _ => ⟨rfl, rfl, rfl, rfl⟩) rfl (.refl _) rfl rfl rfl
  obtain ⟨r, hreply, hr, _, hended⟩ := (attend_fault_ends hopen hfault).runAnyway
  rw [hr] at hreply
  rw [attendPending_of_attended hrecovery hne (Prod.ext hreply rfl)]
  exact hended

/-- **Stale events in a healthy session.** After any run of an engine that its owner attends to, and
with neither side failed, attending to the events that wait leaves the engine alone exactly if it is
closed or no fault is among them. If it is open and a fault is among them, its session is ended, and
the effect is off. -/
theorem attendPending_untouched_iff (config : Config) (noticeCapacity : Nat) (as : List Action)
    (hhealthy : ∀ d,
      ((create {} config .manual noticeCapacity : SimulatedEngine).after as).state d ≠ .error) :
    let e := (create {} config .manual noticeCapacity : SimulatedEngine).after as
    (Untouched e e.attendPending.2
        ↔ ¬ (e.holdsStreams = true ∧ e.line.link.pending.any Event.isFault = true))
      ∧ (e.holdsStreams = true → e.line.link.pending.any Event.isFault = true →
          Ended e.attendPending.2) := by
  intro e
  obtain ⟨h, hrecovery⟩ := after_sound (sound_create config .manual noticeCapacity) as
  have hfault : e.holdsStreams = true → e.line.link.pending.any Event.isFault = true →
      Ended e.attendPending.2 := by
    intro hheld hfault
    rcases h.shape with hc | ho
    · rw [hc.holdsStreams] at hheld
      cases hheld
    · exact attendPending_of_fault ho hrecovery hfault
  refine ⟨⟨?_, fun hno => ?_⟩, hfault⟩
  · -- an engine that has been closed no longer holds what it held
    rintro huntouched ⟨hheld, hstale⟩
    have hclosed := (hfault hheld hstale).isClosed.holdsStreams
    unfold holdsStreams at hclosed hheld
    rw [huntouched.streams, hheld] at hclosed
    cases hclosed
  · cases hany : e.line.link.pending.any Event.isFault with
    | false => exact attendPending_of_no_fault hrecovery hhealthy hany
    | true =>
      rcases h.shape with hc | ho
      · exact attendPending_of_closed hc hrecovery
      · exact absurd ⟨ho.holdsStreams, hany⟩ hno

/-- The effect is switched on, faults, and is switched off and on again. -/
def switchedAgain : List Action :=
  [.call (.switch true), .feed [1], .call (.switch false), .call (.switch true)]

/-- A fault that was never attended to turns the effect off that was switched on after it, although
both sides of that effect run. The states are computed, and the theorem says what the event does to
them. -/
theorem attendPending_ends_switchedAgain :
    let e := (create {} { sampleRate := 8000, periodMs := 1 } .manual : SimulatedEngine).after
      switchedAgain
    (∀ d, e.state d = .running) ∧ e.effectOn = true
      ∧ ¬ Untouched e e.attendPending.2 ∧ Ended e.attendPending.2 := by
  intro e
  have hrunning : ∀ d, e.state d = .running := by
    intro d
    cases d <;> rfl
  -- no side has failed, so the exact condition for being left alone applies
  have hhealthy : ∀ d, e.state d ≠ .error := by
    intro d
    rw [hrunning d]
    simp
  obtain ⟨huntouched, hended⟩ :=
    attendPending_untouched_iff { sampleRate := 8000, periodMs := 1 } 64 switchedAgain hhealthy
  refine ⟨hrunning, rfl, ?_, hended rfl rfl⟩
  intro h
  exact huntouched.mp h ⟨rfl, rfl⟩

end Engine

end Passthrough
