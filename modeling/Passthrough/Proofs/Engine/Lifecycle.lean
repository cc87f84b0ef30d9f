import Passthrough.Proofs.Engine.Pair
/-!
# The calls that open, start, stop and close

What the programs behind the lifecycle calls of an engine come to, from an engine that is closed or
open. They add notices, the effect and the order of the steps to the programs of the pair.

Each leads to an engine that is closed or open again. How the channel fares is said with it: a
channel is new, or it is the one from before, or the engine is closed and has none.
-/

namespace Passthrough

open EngineM SimulatedHost

namespace Engine

variable {e e' : SimulatedEngine}

/-- A publication is all that happened: the board is not part of what `Keeps` speaks of, and
everything else is the same by `rfl`. -/
theorem keeps_board (e : SimulatedEngine) (board : NoticeBoard) : Keeps e { e with board } :=
  ⟨rfl, rfl, rfl, rfl, rfl, rfl, rfl, .refl _⟩

/-- Notices do not concern the shape of an engine. The same holds of `Open.board`, and both are used
wherever a program publishes at its end. -/
theorem Closed.board (h : Closed e) (board : NoticeBoard) : Closed { e with board } :=
  h.frame (fun _ => ⟨rfl, rfl, rfl, rfl⟩) rfl rfl rfl

theorem Open.board (h : Open e) (board : NoticeBoard) : Open { e with board } :=
  h.frame (fun _ => ⟨rfl, rfl, rfl, rfl⟩) rfl (.refl _) rfl rfl rfl

/-- The mark of the effect is not part of the frame, so that it may change between the programs of
the pair. -/
theorem keeps_effectOn (e : SimulatedEngine) (effectOn : Bool) : Keeps e { e with effectOn } :=
  ⟨rfl, rfl, rfl, rfl, rfl, rfl, rfl, .refl _⟩

/-- The mark of the effect does not concern the shape of an engine: a closed engine with the effect
on is still `Closed`, which is why the mark is spoken of apart. -/
theorem Closed.effectOn (h : Closed e) (effectOn : Bool) : Closed { e with effectOn } :=
  h.frame (fun _ => ⟨rfl, rfl, rfl, rfl⟩) rfl rfl rfl

theorem Open.effectOn (h : Open e) (effectOn : Bool) : Open { e with effectOn } :=
  h.frame (fun _ => ⟨rfl, rfl, rfl, rfl⟩) rfl (.refl _) rfl rfl rfl

/-! ## Opening and closing -/

/-- A new session: open, and over a channel that nothing has been captured into. -/
structure Fresh (e : SimulatedEngine) : Prop where
  isOpen : Open e
  channel : e.line.channel = some (.ofLength e.config.period.samples)

/-- **Opening a closed engine** ends open at rest over a new channel, or closed with the error of
the host. The notice about the opening is on the board in the first case only. -/
theorem bringUp_closed_ends (h : Closed e) (hn : Numbered e.host) :
    Ends EngineM.bringUp e fun r e' => Keeps e e' ∧ e'.effectOn = e.effectOn
      ∧ ((r = .ok () ∧ Fresh e' ∧ e'.started = false ∧ ∀ d, e'.state d = .opened)
        ∨ ((∃ err, r = .error err) ∧ Closed e')) := by
  unfold EngineM.bringUp
  refine (openSides_ends h hn).bind (fun _ e₁ ⟨hkeep, heffect, hcases⟩ => ?_)
    fun err e₁ ⟨hkeep, heffect, hcases⟩ => ?_
  · rcases hcases with ⟨_, hopen, hstate, hstarted, hchannel⟩ | ⟨⟨_, herr⟩, _⟩
    · obtain ⟨s, hin⟩ := hopen.occupied .input
      refine ends_bind_of_ok (inputRate_of_occupied hin) (ends_get_bind (ends_publish ?_))
      refine ⟨hkeep.trans (keeps_board e₁ _), heffect,
        Or.inl ⟨rfl, ⟨hopen.board _, ?_⟩, hstarted, hstate⟩⟩
      -- the period of the channel is that of the configuration, which nothing has changed
      rw [← hkeep.config] at hchannel
      exact hchannel
    · cases herr
  · rcases hcases with ⟨hok, _⟩ | ⟨_, hclosed⟩
    · cases hok
    · exact ⟨hkeep, heffect, Or.inr ⟨⟨err, rfl⟩, hclosed⟩⟩

/-- An open engine is not opened again, and it is not closed for it either: the error leaves
everything as it is. -/
theorem bringUp_of_open (h : Open e) : EngineM.bringUp e = .error (.error .alreadyOpen) e := by
  unfold EngineM.bringUp
  rw [bind_apply, openSides_of_holdsStreams h.holdsStreams]

/-- **Closing ends closed**, from sides of any shape. The effect keeps its mark, which is not part
of what is shut down. A failure among the answers of the host changes only what is returned, as each
part is attempted. -/
theorem bringDown_ends (h : ∀ d, Settled e d) :
    Ends EngineM.bringDown e fun _ e' => Closed e' ∧ Keeps e e' ∧ e'.effectOn = e.effectOn := by
  unfold EngineM.bringDown
  refine ends_get_bind ((shutDown_ends h).attempt_bind fun r e₁ ⟨hclosed, hkeep, heffect⟩ => ?_)
  by_cases hwas : e.holdsStreams = true
  · simp only [hwas, if_true]
    exact ends_publish_bind
      (ends_ofExcept ⟨hclosed.board _, hkeep.trans (keeps_board e₁ _), heffect⟩)
  · simp only [hwas]
    exact ends_ofExcept ⟨hclosed, hkeep, heffect⟩

/-! ## Starting and stopping -/

/-- **Starting an open engine** leaves it open over its channel, whether the host agrees or not.
Only if both sides run does the session count as started. -/
theorem start_ends (h : Open e) :
    Ends EngineM.start e fun r e' => Keeps e e' ∧ e'.effectOn = e.effectOn ∧ Open e'
      ∧ e'.line.channel = e.line.channel
      ∧ ((r = .ok () ∧ e'.started = true ∧ ∀ d, e'.state d = .running)
        ∨ ((∃ err, r = .error err) ∧ e'.started = e.started)) := by
  unfold EngineM.start
  refine (startSides_ends h).bind (fun _ e₁ ⟨hkeep, heffect, hopen, hchannel, hcases⟩ => ?_)
    fun err e₁ hends => hends
  rcases hcases with ⟨_, hrun⟩ | ⟨⟨_, herr⟩, _⟩
  · exact ends_publish
      ⟨hkeep.trans (keeps_board e₁ _), heffect, hopen.board _, hchannel, Or.inl ⟨rfl, hrun⟩⟩
  · cases herr

theorem start_of_closed (h : Closed e) : EngineM.start e = .error (.error .notOpen) e := by
  have hin : e.streams.input = none := (h.vacant .input).handle
  unfold EngineM.start startSides
  simp only [bind_apply, get_apply, hin, Option.isNone_none, Bool.true_or, if_true, fail_apply]

/-- **Stopping halts the pair**, of any shape. The notice about it comes after the halt, and only if
the session counted as started. The shapes of both sides go through to the engine with the notice,
which is another one only in its board. -/
theorem stop_ends (h : ∀ d, Settled e d) : Ends EngineM.stop e fun _ e' => Halts e e' := by
  unfold EngineM.stop
  refine ends_get_bind ((stopSides_ends h).attempt_bind fun r e₁ hhalt => ?_)
  by_cases hwas : e.started = true
  · simp only [hwas, if_true]
    refine ends_publish_bind (ends_ofExcept { hhalt with
      toKeeps := hhalt.toKeeps.trans (keeps_board e₁ _)
      vacant := fun d hv => (hhalt.vacant d hv).frame ⟨rfl, rfl, rfl, rfl⟩
      occupied := fun d s ho => (hhalt.occupied d s ho).frame ⟨rfl, rfl, rfl, rfl⟩ rfl (.refl _) })
  · simp only [hwas]
    exact ends_ofExcept hhalt

/-! ## The effect -/

/-- An effect that is as asked is left alone: the programs behind the switch are not run at all, and
so the streams do not come into it. -/
theorem switch_of_eq {on : Bool} (h : e.effectOn = on) : EngineM.switch on e = .ok () e := by
  unfold EngineM.switch
  rw [bind_apply, get_apply]
  simp only [h, if_true]
  exact pure_apply () e

/-- Streams that were opened without the effect stand in its way: turning it on is refused, and they
are left open as they are. -/
theorem switch_on_of_open (hoff : e.effectOn = false) (h : Open e) :
    EngineM.switch true e = .error (.error .alreadyOpen) e := by
  unfold EngineM.switch
  rw [bind_apply, get_apply]
  simp only [hoff, Bool.true_eq_false, if_false, if_true]
  rw [bind_apply, bringUp_of_open h]

/-- **Switching on** from closed ends running, or closed and off. A start that fails is followed by
a shutdown, so that no half of the effect remains. -/
theorem switch_on_ends (hoff : e.effectOn = false) (h : Closed e) (hn : Numbered e.host) :
    Ends (EngineM.switch true) e fun r e' => Keeps e e'
      ∧ ((r = .ok () ∧ Fresh e' ∧ e'.effectOn = true ∧ e'.started = true
            ∧ ∀ d, e'.state d = .running)
        ∨ ((∃ err, r = .error err) ∧ Closed e' ∧ e'.effectOn = false)) := by
  unfold EngineM.switch
  refine ends_get_bind ?_
  simp only [hoff, Bool.true_eq_false, if_false, if_true]
  refine (bringUp_closed_ends h hn).bind (fun _ e₁ ⟨hkeep₁, heffect₁, hcases⟩ => ?_)
    fun err e₁ ⟨hkeep₁, heffect₁, hcases⟩ => ?_
  · rcases hcases with ⟨_, hfresh, _, _⟩ | ⟨⟨_, herr⟩, _⟩
    · refine (start_ends hfresh.isOpen).attempt_bind
        fun r e₂ ⟨hkeep₂, heffect₂, hopen₂, hchannel₂, hcases₂⟩ => ?_
      rcases hcases₂ with ⟨rfl, hstarted, hrun⟩ | ⟨⟨err, rfl⟩, _⟩
      · refine ends_modify ⟨(hkeep₁.trans hkeep₂).trans (keeps_effectOn e₂ true),
          Or.inl ⟨rfl, ⟨hopen₂.effectOn true, ?_⟩, rfl, hstarted, hrun⟩⟩
        have hchannel := hchannel₂.trans hfresh.channel
        rw [← hkeep₂.config] at hchannel
        exact hchannel
      · -- the pair opened and did not start: it is closed again
        refine (bringDown_ends hopen₂.settled).attempt_bind
          fun _ e₃ ⟨hclosed₃, hkeep₃, heffect₃⟩ => ?_
        refine ends_fail ⟨(hkeep₁.trans hkeep₂).trans hkeep₃, Or.inr ⟨⟨err, rfl⟩, hclosed₃, ?_⟩⟩
        rw [heffect₃, heffect₂, heffect₁, hoff]
    · cases herr
  · rcases hcases with ⟨hok, _⟩ | ⟨_, hclosed⟩
    · cases hok
    · exact ⟨hkeep₁, Or.inr ⟨⟨err, rfl⟩, hclosed, heffect₁.trans hoff⟩⟩

/-- **Switching off** an effect that is on ends closed and off, past all errors of the host. The
reply is the first of those errors, if there was one. -/
theorem switch_off_ends (hon : e.effectOn = true) (h : ∀ d, Settled e d) :
    Ends (EngineM.switch false) e fun _ e' =>
      Closed e' ∧ Keeps e e' ∧ e'.effectOn = false := by
  unfold EngineM.switch
  refine ends_get_bind ?_
  simp only [hon, Bool.false_eq_true, if_false]
  refine (stop_ends h).attempt_bind fun _ e₁ hhalt => ?_
  refine (bringDown_ends fun d => hhalt.settled (h d)).attempt_bind
    fun _ e₂ ⟨hclosed, hkeep, _⟩ => ?_
  exact ends_modify_bind (ends_ofExcept
    ⟨hclosed.effectOn false, (hhalt.toKeeps.trans hkeep).trans (keeps_effectOn e₂ false), rfl⟩)

/-- A try comes to what the switch comes to, and answers whether the effect is as asked; turning off
always is. With this every statement about `switch` is one about `trySwitch`, and no run of the
latter has to be followed. -/
theorem trySwitch_ends {on : Bool} {Q : Except AudioError Unit → SimulatedEngine → Prop}
    (h : Ends (EngineM.switch on) e Q) :
    Ends (EngineM.trySwitch on) e fun r e' =>
      ∃ r', Q r' e' ∧ r = .ok (r'.isOk || !on) := by
  unfold EngineM.trySwitch
  refine h.attempt_bind fun r' e' hq => ?_
  cases r' with
  | ok _ => exact ends_pure ⟨.ok (), hq, by simp [Except.isOk, Except.toBool]⟩
  | error err => exact ends_pure ⟨.error err, hq, by simp [Except.isOk, Except.toBool]⟩

end Engine

end Passthrough
