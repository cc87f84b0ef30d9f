import Passthrough.Proofs.Engine.Lifecycle
import Passthrough.Proofs.Host.Logged
/-!
# The calls that an engine makes

Which calls of its host an engine makes, and in which order. The host records them one by one;
`Issues` says which have been added to its record between two states of an engine.

A side is asked to stop if it runs and to start if it rests, whatever the host answers. So what
stopping and closing a pair asks for is settled before the first call is made.

* **`stopSide_issues`**, **`closeSide_issues`**, **`openSide_issues`**, **`startSide_issues`** — the
  programs of one side.
* **`stopSides_issues`**, **`shutDown_issues`** — stopping both sides, and closing them.
-/

namespace Passthrough

open EngineM SimulatedHost

namespace Engine

variable {e e' e'' : SimulatedEngine} {d : Direction} {s : StreamHandle}
  {calls calls' : List CallRecord}

/-- **The calls made** of the host between two states of an engine, oldest first. -/
def Issues (calls : List CallRecord) (e e' : SimulatedEngine) : Prop :=
  e'.host.calls = e.host.calls ++ calls

theorem issues_nothing (hcalls : e'.host.calls = e.host.calls) : Issues [] e e' :=
  hcalls.trans (List.append_nil _).symm

theorem Issues.trans (h : Issues calls e e') (h' : Issues calls' e' e'') :
    Issues (calls ++ calls') e e'' := by
  unfold Issues at *
  rw [h', h, List.append_assoc]

/-- What stopping a side takes. -/
def callsToStop (d : Direction) (e : SimulatedEngine) : List CallRecord :=
  if e.state d = .running then [⟨d, .stop⟩] else []

/-- What starting a side takes. -/
def callsToStart (d : Direction) (e : SimulatedEngine) : List CallRecord :=
  if e.state d = .opened then [⟨d, .start⟩] else []

/-! ## One side

A side that holds a stream makes one call for each thing that it has done to it. The record keeps
the call whether the host obliges or refuses, so each lemma treats both answers alike. -/

/-- Stopping a side of either shape makes one call if the side runs and none if it does not,
whatever the host answers. The direction of the call is that of the handle, which an occupied side
has as its own (`Occupied.direction`). -/
theorem stopSide_issues (h : Settled e d) :
    Ends (stopSide d) e fun _ e' => Issues (e.callsToStop d) e e' := by
  unfold callsToStop
  by_cases hr : e.state d = .running
  · rw [if_pos hr]
    rcases h with hv | ⟨s, ho⟩
    · rw [hv.state] at hr
      cases hr
    · have hcalls := calls_stopStream s e.host
      rcases hask : SimulatedHost.stopStream s e.host with ⟨answer, host⟩
      rw [hask, ho.direction] at hcalls
      have hstop := quiet_of_eq hask (e.line.setState d .stopping)
      cases answer with
      | ok _ => exact ends_of_ok (stopSide_of_ok ho.handle hr hstop) hcalls
      | error source => exact ends_of_error (stopSide_of_error ho.handle hr hstop) hcalls
  · rw [if_neg hr]
    exact ends_of_ok (stopSide_of_not_running hr) (issues_nothing rfl)

/-- Closing an occupied side makes one call; a vacant one makes none, which is `closeSide_vacant`.
Both answers of the host come with the same calls, as the call is recorded before it is answered. -/
theorem closeSide_issues (h : Occupied e d s) :
    Ends (closeSide d) e fun _ e' => Issues [⟨d, .close⟩] e e' := by
  have hcalls := calls_closeStream h.unclosed e.host
  rcases hask : SimulatedHost.closeStream s e.host with ⟨⟨answer, s'⟩, host⟩
  rw [hask, h.direction] at hcalls
  -- the stream is forgotten after it has been closed, of which the host keeps no record
  have hdiscarded : (SimulatedHost.discard s' host).2.calls = e.host.calls ++ [⟨d, .close⟩] :=
    (calls_discard s' host).trans hcalls
  refine Ends.of_eq ?_ (closeSide_of_some h.handle (quiet_of_eq hask e.line) rfl)
  cases answer with
  | ok _ => exact ends_pure hdiscarded
  | error source => exact ends_fail hdiscarded

/-- A side is asked to open once; what does not fit is closed again, and then the opening has
failed. A refusal by the host is on record as an opening too. -/
theorem openSide_issues (h : Vacant e d) (hc : e.line.channel.isSome = true) (rate : Nat) :
    Ends (openSide d rate) e fun r e' => Issues [⟨d, .openStream⟩] e e'
      ∨ ((∃ err, r = .error err) ∧ Issues [⟨d, .openStream⟩, ⟨d, .close⟩] e e') := by
  have hcalls := calls_openStream d (e.config.spec d rate) (handlerFor d e) e.host
  rcases openStream_cases d (e.config.spec d rate) (handlerFor d e) e.host with
    ⟨source, host, hask, _⟩ | ⟨host, hask, _⟩
  · rw [hask] at hcalls
    have hrefused := quiet_of_eq hask (e.line.setState d .opening)
    exact ends_of_error (openSide_of_refused hc h.state hrefused) (Or.inl hcalls)
  · rw [hask] at hcalls
    have hopen := quiet_of_eq hask (e.line.setState d .opening)
    cases hfit : checkFit e.config.period rate (e.host.granted (e.config.spec d rate)) with
    | ok _ => exact ends_of_ok (openSide_of_fit hc h.state hopen hfit rfl) (Or.inl hcalls)
    | error err =>
      -- the stream that does not fit is closed before the side gives up
      refine ends_of_error (openSide_of_misfit hc h.state hopen hfit rfl rfl)
        (Or.inr ⟨⟨err, rfl⟩, ?_⟩)
      show host.calls ++ [(⟨d, .close⟩ : CallRecord)] = _
      rw [hcalls, List.append_assoc]
      rfl

/-- Of the states that an occupied side can be in, it is startable in one, so that `callsToStart`
need not speak of the transition table. -/
theorem Occupied.startable_iff (h : Occupied e d s) :
    (e.state d).canMoveTo .running = true ↔ e.state d = .opened := by
  rcases h.state with hs | hs | hs <;> rw [hs] <;> decide

/-- Starting an occupied side makes one call if the side rests and none otherwise. A refusal by the
host is recorded as a start too; only a side that cannot start asks for nothing. -/
theorem startSide_issues (h : Occupied e d s) :
    Ends (startSide d) e fun _ e' => Issues (e.callsToStart d) e e' := by
  unfold callsToStart
  by_cases hopened : e.state d = .opened
  · rw [if_pos hopened]
    -- an occupied side can start just if it rests
    have hr := h.startable_iff.mpr hopened
    have hcalls := calls_startStream s e.host
    rcases hask : SimulatedHost.startStream s e.host with ⟨answer, host⟩
    rw [hask, h.direction] at hcalls
    have hstart := quiet_of_eq hask e.line
    cases answer with
    | ok _ => exact ends_of_ok (startSide_of_ok h.handle hr hstart) hcalls
    | error source => exact ends_of_error (startSide_of_error h.handle hr hstart) hcalls
  · rw [if_neg hopened]
    have hr : (e.state d).canMoveTo .running = false := by
      rw [← Bool.not_eq_true, h.startable_iff]
      exact hopened
    exact ends_of_error (startSide_of_not_startable h.handle hr) (issues_nothing rfl)

/-! ## The pair

What stopping one side comes to does not decide whether the other one is stopped, nor does stopping
decide whether the pair is closed. So the calls of a pair are those of its sides. -/

/-- The output is stopped first, then the input. What stopping the output comes to does not change
whether the input runs, so the calls are known from the engine before. -/
theorem stopSides_issues (h : ∀ d, Settled e d) :
    Ends stopSides e fun _ e' =>
      Issues (e.callsToStop .output ++ e.callsToStop .input) e e' := by
  unfold stopSides
  refine ((stopSide_settled (h .output)).and (stopSide_issues (h .output))).attempt_bind
    fun r₁ e₁ ⟨hout, hissues₁⟩ => ?_
  have hin : Settled e₁ .input := hout.toActsOn.settled (by simp) (h .input)
  -- the input still runs if it ran before the output was stopped
  have hsame : e₁.callsToStop .input = e.callsToStop .input := by
    unfold callsToStop
    rw [(hout.other .input (by simp)).state]
  refine (stopSide_issues hin).attempt_bind fun r₂ e₂ hissues₂ => ?_
  rw [hsame] at hissues₂
  exact ends_modify_bind (ends_ofExcept (hissues₁.trans hissues₂))

/-- **Shutting down an open pair** stops what runs and closes both sides, output first, even if the
host refuses to stop them. The calls of the four programs are added up with `Issues.trans`; each of
them finds its side as the one before has left it. -/
theorem shutDown_issues (h : Open e) :
    Ends shutDown e fun _ e' => Issues (e.callsToStop .output ++ e.callsToStop .input
      ++ [⟨.output, .close⟩, ⟨.input, .close⟩]) e e' := by
  obtain ⟨sᵢ, hin⟩ := h.occupied .input
  obtain ⟨sₒ, hout⟩ := h.occupied .output
  unfold shutDown
  refine ((stopSides_ends h.settled).and (stopSides_issues h.settled)).attempt_bind
    fun r₁ e₁ ⟨hhalt, hissues₁⟩ => ?_
  refine ends_modifyLine_bind ?_
  -- detaching the link leaves both sides as they were
  let e₂ : SimulatedEngine := { e₁ with line := e₁.line.detach }
  have hout₂ : Occupied e₂ .output sₒ :=
    (hhalt.occupied .output sₒ hout).frame ⟨rfl, rfl, rfl, rfl⟩ rfl (.refl _)
  have hin₂ : Occupied e₂ .input sᵢ :=
    (hhalt.occupied .input sᵢ hin).frame ⟨rfl, rfl, rfl, rfl⟩ rfl (.refl _)
  refine ((closeSide_ends hout₂).and (closeSide_issues hout₂)).attempt_bind
    fun r₃ e₃ ⟨⟨_, _, hact₃⟩, hissues₃⟩ => ?_
  refine (closeSide_issues (hact₃.occupied (by simp) hin₂)).attempt_bind fun r₄ e₄ hissues₄ => ?_
  exact ends_modify_bind (ends_ofExcept (hissues₁.trans (Issues.trans hissues₃ hissues₄)))

end Engine

end Passthrough
