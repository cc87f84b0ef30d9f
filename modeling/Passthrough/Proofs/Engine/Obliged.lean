import Passthrough.Proofs.Engine.DeviceChange
import Passthrough.Proofs.Engine.Restart
/-!
# Stopping and recovering on a host that obliges

On a host that has not been told to fail, nothing that an engine does to its streams fails either:
not a stop, not a close, and not the replacement of a pair whose input was lost. The host obliges
afterwards as it did before.

* **`shutDown_obliged`** — streams of any shape are shut down without an error.
* **`attendPending_resumes`** — a running session that has lost its input is attended to, and runs
  again over a new channel.
* **`switch_off_obliged`** — an effect that is on is turned off without an error.
-/

namespace Passthrough

open EngineM SimulatedHost

namespace SimulatedHost

variable {κ : Type} {h : SimulatedHost κ}

/-- A stream that is not closed is stopped when it is asked for, live or not. Without a fault
waiting, only a handle that is closed would be refused. -/
theorem Obliging.stopStream (ho : Obliging h) {s : StreamHandle} (hs : s.closed = false) :
    ∃ h', SimulatedHost.stopStream s h = (.ok (), h') ∧ Obliging h' := by
  have hfault : ((h.record s.properties.direction .stop).faults.get
      s.properties.direction).stop = none := by
    show (h.faults.get s.properties.direction).stop = none
    rw [ho.faults, Duplex.get_both]
  unfold SimulatedHost.stopStream
  simp only [hs, hfault]
  exact ⟨_, rfl, ho.faults, ho.substitutes⟩

/-- A stream that is not closed is closed when it is asked for, and its handle marked so. -/
theorem Obliging.closeStream (ho : Obliging h) {s : StreamHandle} (hs : s.closed = false) :
    ∃ h', SimulatedHost.closeStream s h = ((.ok (), { s with closed := true }), h')
      ∧ Obliging h' :=
  ⟨_, closeStream_of_unclosed hs h, ho.faults, ho.substitutes⟩

end SimulatedHost

namespace Engine

variable {e e' : SimulatedEngine} {d : Direction} {s : StreamHandle}

/-- A program that succeeds, on a host that obliges afterwards too. -/
abbrev Succeeds (r : Except AudioError Unit) (e' : SimulatedEngine) : Prop :=
  r = .ok () ∧ Obliging e'.host

/-! ## One side -/

/-- Stopping a side of either shape succeeds on a host that obliges. A vacant side does nothing, and
so does an occupied one that does not run. -/
theorem stopSide_obliged (h : Settled e d) (ho : Obliging e.host) :
    Ends (stopSide d) e Succeeds := by
  rcases h with hv | ⟨s, hs⟩
  · exact ends_of_ok (stopSide_vacant hv) ⟨rfl, ho⟩
  · by_cases hrun : e.state d = .running
    · obtain ⟨host, hask, hobliging⟩ := ho.stopStream hs.unclosed
      have hstop : StreamHost.stopStream s e.host (e.line.setState d .stopping)
          = (.ok (), host, e.line.setState d .stopping) :=
        congrArg (fun r => (r.1, r.2, e.line.setState d .stopping)) hask
      exact ends_of_ok (stopSide_of_ok hs.handle hrun hstop) ⟨rfl, hobliging⟩
    · exact ends_of_ok (stopSide_of_not_running hrun) ⟨rfl, ho⟩

/-- Closing a side of either shape succeeds. An occupied side holds an unclosed handle, and that is
all that the host asks for. -/
theorem closeSide_obliged (h : Settled e d) (ho : Obliging e.host) :
    Ends (closeSide d) e Succeeds := by
  rcases h with hv | ⟨s, hs⟩
  · exact ends_of_ok (closeSide_vacant hv) ⟨rfl, ho⟩
  · obtain ⟨host, hask, hobliging⟩ := ho.closeStream hs.unclosed
    have hclose : StreamHost.closeStream s e.host e.line
        = ((.ok (), { s with closed := true }), host, e.line) :=
      congrArg (fun r => (r.1, r.2, e.line)) hask
    have hdiscard : StreamHost.discard { s with closed := true } host e.line
        = ((), host, e.line) := rfl
    exact ends_of_ok (closeSide_of_some hs.handle hclose hdiscard) ⟨rfl, hobliging⟩

/-! ## The pair -/

/-- Stopping both sides succeeds. The second side is as settled as it was when the first one has
been stopped (`ActsOn.settled`). -/
theorem stopSides_obliged (h : ∀ d, Settled e d) (ho : Obliging e.host) :
    Ends stopSides e Succeeds := by
  unfold stopSides
  refine ((stopSide_settled (h .output)).and (stopSide_obliged (h .output) ho)).attempt_bind
    fun r₁ e₁ ⟨hstops₁, hr₁, ho₁⟩ => ?_
  have hin : Settled e₁ .input := hstops₁.toActsOn.settled (by simp) (h .input)
  refine (stopSide_obliged hin ho₁).attempt_bind fun r₂ e₂ ⟨hr₂, ho₂⟩ => ?_
  subst hr₁ hr₂
  exact ends_modify_bind (ends_ofExcept ⟨rfl, ho₂⟩)

/-- **Shutting down** succeeds, from sides of any shape, the failed ones included. Beside the
answers the shapes of the sides are carried along, as each of the four programs asks for a settled
side. -/
theorem shutDown_obliged (h : ∀ d, Settled e d) (ho : Obliging e.host) :
    Ends shutDown e Succeeds := by
  unfold shutDown
  refine ((stopSides_ends h).and (stopSides_obliged h ho)).attempt_bind
    fun r₁ e₁ ⟨hhalt, hr₁, ho₁⟩ => ?_
  refine ends_modifyLine_bind ?_
  let e₂ : SimulatedEngine := { e₁ with line := e₁.line.detach }
  have hsettled : ∀ d, Settled e₂ d := fun d =>
    (hhalt.settled (h d)).frame ⟨rfl, rfl, rfl, rfl⟩ rfl (.refl _)
  refine ((closeSide_settled (hsettled .output)).and
    (closeSide_obliged (hsettled .output) ho₁)).attempt_bind
      fun r₃ e₃ ⟨⟨_, _, hact₃⟩, hr₃, ho₃⟩ => ?_
  have hin : Settled e₃ .input := hact₃.settled (by simp) (hsettled .input)
  refine (closeSide_obliged hin ho₃).attempt_bind fun r₄ e₄ ⟨hr₄, ho₄⟩ => ?_
  subst hr₁ hr₃ hr₄
  exact ends_modify_bind (ends_ofExcept ⟨rfl, ho₄⟩)

/-- Stopping succeeds as a call does, notice included. -/
theorem stop_obliged (h : ∀ d, Settled e d) (ho : Obliging e.host) :
    Ends EngineM.stop e Succeeds := by
  unfold EngineM.stop
  refine ends_get_bind ((stopSides_obliged h ho).attempt_bind fun r e₁ hsucceeds => ?_)
  cases e.started with
  | true => exact ends_publish_bind (ends_ofExcept hsucceeds)
  | false => exact ends_ofExcept hsucceeds

/-- Closing succeeds. -/
theorem bringDown_obliged (h : ∀ d, Settled e d) (ho : Obliging e.host) :
    Ends EngineM.bringDown e Succeeds := by
  unfold EngineM.bringDown
  refine ends_get_bind ((shutDown_obliged h ho).attempt_bind fun r e₁ hsucceeds => ?_)
  cases e.holdsStreams with
  | true => exact ends_publish_bind (ends_ofExcept hsucceeds)
  | false => exact ends_ofExcept hsucceeds

/-- **Turning the effect off** succeeds: neither the stop nor the closing has an error to report. It
is two attempts whose answers are joined in the end, and both are `.ok`. -/
theorem switch_off_obliged (hon : e.effectOn = true) (h : ∀ d, Settled e d)
    (ho : Obliging e.host) : Ends (EngineM.switch false) e Succeeds := by
  unfold EngineM.switch
  refine ends_get_bind ?_
  simp only [hon, Bool.false_eq_true, if_false]
  refine ((stop_ends h).and (stop_obliged h ho)).attempt_bind
    fun stopped e₁ ⟨hhalt, hstopped, ho₁⟩ => ?_
  have hsettled : ∀ d, Settled e₁ d := fun d => hhalt.settled (h d)
  refine (bringDown_obliged hsettled ho₁).attempt_bind fun closed e₂ ⟨hclosed, ho₂⟩ => ?_
  subst hstopped hclosed
  exact ends_modify_bind (ends_ofExcept ⟨rfl, ho₂⟩)

/-! ## Recovery -/

/-- **Replacing both sides** succeeds, whatever has become of them: what is left of the old pair is
shut down without an error, and the new one is opened as any other. -/
theorem replaceBoth_obliged (h : Open e) (hn : Numbered e.host)
    (hmodest : e.config.period.Modest) (ho : Obliging e.host) (restart : Bool) :
    Ends (replaceBoth restart) e Succeeds := by
  unfold replaceBoth
  refine ((shutDown_ends h.settled).and (shutDown_obliged h.settled ho)).attempt_bind
    fun _ e₁ ⟨⟨hclosed₁, hkeep₁, _⟩, _, ho₁⟩ => ?_
  -- shutting down opens nothing, so numbers and period are as before
  have hn₁ : Numbered e₁.host := hn.of_follows hkeep₁.host
  have hmodest₁ : e₁.config.period.Modest := hkeep₁.config ▸ hmodest
  refine ((openSides_ends hclosed₁ hn₁).and (openSides_obliged hclosed₁ hn₁ hmodest₁ ho₁)).bind
    (fun _ e₂ ⟨⟨_, _, hcases₂⟩, _, hasked₂⟩ => ?_) fun err e₂ ⟨_, hr, _⟩ => ?_
  · -- a pair that was not started rests when it is open
    have ho₂ : Obliging e₂.host := hasked₂.obliging ho₁
    rcases hcases₂ with ⟨_, hopen₂, hstate₂, _⟩ | ⟨⟨_, herr⟩, _⟩
    · cases restart with
      | false => exact ends_pure ⟨rfl, ho₂⟩
      | true =>
        exact (startSides_obliged hopen₂ hstate₂ ho₂).mono fun _ _ ⟨hr, hasked₃⟩ =>
          ⟨hr, hasked₃.obliging ho₂⟩
    · cases herr
  · cases hr

/-- **Repairing a pair that has lost its input** succeeds, and so the session goes on. Since the
input is lost both sides are replaced, which is where the host has to oblige six times. -/
theorem repair_obliged (h : Open e) (hn : Numbered e.host)
    (hmodest : e.config.period.Modest) (ho : Obliging e.host) (hlost : e.state .input = .error) :
    Ends EngineM.repair e Succeeds := by
  have hneeded : (e.holdsStreams && (decide (e.state .input = .error)
      || decide (e.state .output = .error))) = true :=
    lost_iff.mpr ⟨h.holdsStreams, .input, hlost⟩
  unfold EngineM.repair
  refine ends_get_bind ?_
  simp only [hneeded, if_true]
  rw [if_pos hlost]
  refine (replaceBoth_obliged h hn hmodest ho _).attempt_bind fun r e₁ ⟨hr, ho₁⟩ => ?_
  subst hr
  exact ends_publish ⟨rfl, ho₁⟩

/-- **A session that runs** on both sides, and counts as started. -/
structure Runs (e : SimulatedEngine) : Prop where
  started : e.started = true
  running : ∀ d, e.state d = .running

/-- **A running session that has lost its input** runs again when the engine has attended to that:
over a new channel, with the effect as it was. -/
theorem attendPending_resumes (h : Sound e) (hmanual : e.recovery = .manual)
    (hmodest : e.config.period.Modest) (ho : Obliging e.host) (hstarted : e.started = true)
    (hlost : e.state .input = .error)
    (hfault : e.line.link.pending.any Event.isFault = false)
    (hloss : e.line.link.pending.any Event.isDisconnect = true) :
    Keeps e.taken e.attendPending.2 ∧ Fresh e.attendPending.2 ∧ Runs e.attendPending.2
      ∧ e.attendPending.2.effectOn = e.effectOn ∧ Obliging e.attendPending.2.host := by
  have hopen : Open e.taken := h.taken.isOpen_of_ne_closed (d := .input) (by
    have hsame : e.taken.state .input = e.state .input := rfl
    simp [hsame, hlost])
  obtain ⟨board, hattend⟩ := attend_of_no_fault (e := e.taken) hfault
  rw [hloss, if_pos rfl] at hattend
  have hends : Ends (attend e.line.link.pending) e.taken fun r e' => r = .ok ()
      ∧ Keeps e.taken e' ∧ Repaired e.taken e' ∧ Obliging e'.host := by
    refine Ends.of_eq ?_ hattend
    refine ((repair_ends (hopen.board board) h.taken.numbered ⟨.input, hlost⟩).and
      (repair_obliged (hopen.board board) h.taken.numbered hmodest ho hlost)).attempt_bind
        fun r e' ⟨⟨hkeep, hcases⟩, hr, hobliging⟩ => ?_
    rcases hcases with ⟨_, hrep⟩ | ⟨⟨_, herr⟩, _⟩
    · exact ends_pure ⟨rfl, (keeps_board e.taken board).trans hkeep, hrep.of_board, hobliging⟩
    · rw [hr] at herr
      cases herr
  obtain ⟨r, hreply, hr, hkeep, hrep, hobliging⟩ := hends.runAnyway
  have hne : e.line.link.pending ≠ [] := by
    intro hempty
    rw [hempty] at hloss
    cases hloss
  rw [hr] at hreply
  rw [attendPending_of_attended hmanual hne (Prod.ext hreply rfl)]
  have hstarted' := hrep.started.trans hstarted
  -- no side has failed, so both sides of a started pair run
  exact ⟨hkeep, hrep.fresh hlost, ⟨hstarted', fun d =>
    (hrep.isOpen.started hstarted' d).resolve_right (hrep.sound d)⟩, hrep.effectOn, hobliging⟩

end Engine

end Passthrough
