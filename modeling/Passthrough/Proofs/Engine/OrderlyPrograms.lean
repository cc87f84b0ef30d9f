import Passthrough.Proofs.Engine.Calls
import Passthrough.Proofs.Engine.Shown
/-!
# Programs whose calls are in order

Every call that a program of an engine makes of its host comes at a moment that is in order
(`Moment.Orderly`), on every path: opening and giving up a half-open pair, starting, stopping,
closing, and repairing either side.

The programs of one side are in order under a condition on the other side, which is where the rules
are (`stopSide_shows`, `startSide_shows`, `closeSide_shows`, `openSide_shows`). The programs of the
pair meet these conditions by what they have done before.
-/

namespace Passthrough

open EngineM SimulatedHost

namespace Engine

variable {e : SimulatedEngine} {d : Direction} {s : StreamHandle} {log : List Moment}

/-! ## One side -/

/-- A move of the state does not ask the host, whether it is allowed or refused. The line is the
same under observation, and so is the verdict of the transition table. -/
theorem shows_move (d : Direction) (t : StreamState) : Shows (move d t) (move d t) e log := by
  unfold move
  refine shows_get_bind ?_
  have hline : (e.withLog log).line = e.line := rfl
  rw [hline]
  cases e.line.move d t with
  | ok moved => exact shows_modifyLine _
  | error err => exact shows_fail err

/-- Put under observation, an engine has the states that it had. This and the `withLog_` lemmas
after it let `simp only` bring the guards of a program to the plain engine. -/
theorem withLog_state (e : SimulatedEngine) (log : List Moment) (d : Direction) :
    (e.withLog log).state d = e.state d := rfl

theorem withLog_streams (e : SimulatedEngine) (log : List Moment) :
    (e.withLog log).streams = e.streams := rfl

theorem withLog_config (e : SimulatedEngine) (log : List Moment) :
    (e.withLog log).config = e.config := rfl

/-- Stopping is in order: the input's after the output's. For the output nothing is asked, and for
the input that the output neither runs nor is being stopped. -/
theorem stopSide_shows (h : Settled e d)
    (hout : d = .input → e.state .output ≠ .running ∧ e.state .output ≠ .stopping) :
    Shows (stopSide d) (stopSide d) e log := by
  unfold stopSide
  refine shows_get_bind ?_
  by_cases hr : e.state d = .running
  · simp only [withLog_state, hr, if_true]
    refine shows_get_bind ?_
    rcases h with hv | ⟨s, ho⟩
    · rw [hv.state] at hr
      cases hr
    · simp only [withLog_streams, ho.handle]
      refine (shows_move d .stopping).bind fun _ e₁ log₁ hmove => ?_
      rw [move_of_canMoveTo (by rw [hr]; rfl)] at hmove
      cases hmove
      have hissued : (StreamHost.stopStream s e.host (e.line.setState d .stopping)).2.1.calls
          = e.host.calls ++ [⟨d, .stop⟩] := by
        rw [← ho.direction]
        exact calls_stopStream s e.host
      -- the rule is about the input only: the output must have come to rest
      refine (shows_askHost hissued fun c hc => ?_).bind fun r e₂ log₂ _ => ?_
      · rw [List.mem_singleton.mp hc]
        cases d with
        | input =>
          show (e.line.setState .input .stopping).state .output ≠ .running ∧ _
          rw [Line.state_setState_ne _ _ (by simp)]
          exact hout rfl
        | output => trivial
      · cases r with
        | ok _ => exact shows_move d .opened
        | error source => exact (shows_modifyLine _).bind fun _ _ _ _ => shows_fail _
  · simp only [withLog_state, hr, if_false]
    exact shows_pure ()

/-- Starting is in order: the output's over an input that runs. For the input nothing is asked. The
order that is asked of a call (`Orderly`) is judged on the engine at the moment when it is made. -/
theorem startSide_shows (h : Occupied e d s) (hin : d = .output → e.state .input = .running) :
    Shows (startSide d) (startSide d) e log := by
  unfold startSide
  refine shows_get_bind ?_
  simp only [withLog_streams, h.handle]
  refine shows_get_bind ?_
  simp only [withLog_state]
  by_cases hr : (e.state d).canMoveTo .running = true
  · simp only [hr, Bool.not_true, Bool.false_eq_true, if_false]
    have hissued : (StreamHost.startStream s e.host e.line).2.1.calls
        = e.host.calls ++ [⟨d, .start⟩] := by
      rw [← h.direction]
      exact calls_startStream s e.host
    -- the rule is about the output only: the input has to run already
    refine (shows_askHost hissued fun c hc => ?_).bind fun r e₂ log₂ _ => ?_
    · rw [List.mem_singleton.mp hc]
      cases d with
      | input => trivial
      | output => exact hin rfl
    · cases r with
      | ok _ => exact shows_move d .running
      | error source => exact shows_fail _
  · simp only [hr, Bool.not_false, if_true]
    exact (shows_fail _).bind fun _ _ _ hfail => by cases hfail

/-- Closing is in order: the input's under an output that is gone. What is asked is that the host
has no live output any more, for the handle alone would not tell. -/
theorem closeSide_shows (h : Settled e d) (hout : d = .input → e.host.live .output = []) :
    Shows (closeSide d) (closeSide d) e log := by
  unfold closeSide
  refine shows_get_bind ?_
  simp only [withLog_streams]
  rcases h with hv | ⟨s, ho⟩
  · simp only [hv.handle]
    exact shows_modifyLine _
  · simp only [ho.handle]
    refine (shows_modify rfl rfl).bind fun _ _ log₁ hmodify => ?_
    cases hmodify
    -- the handle is let go of before the host is asked, so the order is judged on this engine
    let e₁ : SimulatedEngine := { e with streams := e.streams.set d none }
    show Shows _ _ e₁ log₁
    have hissued : (StreamHost.closeStream s e₁.host e₁.line).2.1.calls
        = e₁.host.calls ++ [⟨d, .close⟩] := by
      rw [← ho.direction]
      exact calls_closeStream ho.unclosed e.host
    refine (shows_askHost hissued fun c hc => ?_).bind fun r e₂ log₂ _ => ?_
    · rw [List.mem_singleton.mp hc]
      cases d with
      | input => exact hout rfl
      | output => trivial
    · refine (shows_askHost_unrecorded (calls_discard _ _)).bind fun _ e₃ log₃ _ => ?_
      refine (shows_modifyLine _).bind fun _ e₄ log₄ _ => ?_
      cases r.1 with
      | ok _ => exact shows_pure ()
      | error source => exact shows_fail _

theorem shows_warnIfSlow (p : StreamInfo) : Shows (warnIfSlow p) (warnIfSlow p) e log := by
  unfold warnIfSlow
  exact shows_ite (fun _ => shows_publish _ _) fun _ => shows_pure ()

/-- A stream that does not fit is closed in order: an input under no output. A stream that fits is
only sized, and the host does not record that. -/
theorem acceptStream_shows {rate : Nat} (hs : s.closed = false) (hd : s.properties.direction = d)
    (hout : d = .input → e.host.live .output = []) :
    Shows (acceptStream d rate s) (acceptStream d rate s) e log := by
  unfold acceptStream
  refine shows_get_bind (shows_get_bind ?_)
  have hinfo : StreamHost.infoOf s (e.withLog log).host = StreamHost.infoOf s e.host := rfl
  simp only [withLog_config, hinfo]
  cases checkFit e.config.period rate (StreamHost.infoOf s e.host) with
  | error err =>
    have hissued : (StreamHost.closeStream s e.host e.line).2.1.calls
        = e.host.calls ++ [⟨d, .close⟩] := by
      rw [← hd]
      exact calls_closeStream hs e.host
    -- a misfit is closed at once, and the rule about closing applies to that as well
    refine (shows_askHost hissued fun c hc => ?_).bind fun r e₁ log₁ _ => ?_
    · rw [List.mem_singleton.mp hc]
      cases d with
      | input => exact hout rfl
      | output => trivial
    · refine (shows_move d .closed).attempt.bind fun _ e₂ log₂ _ => ?_
      exact (shows_askHost_unrecorded (calls_discard _ _)).bind fun _ _ _ _ => shows_fail err
  | ok _ =>
    have hcalls : (StreamHost.setBufferSize s e.config.period.doubleFrames e.host e.line).2.1.calls
        = e.host.calls := calls_setBufferSize s e.config.period.doubleFrames e.host
    refine (shows_askHost_unrecorded hcalls).bind fun _ e₁ log₁ _ => ?_
    refine (shows_warnIfSlow _).bind fun _ e₂ log₂ _ => ?_
    refine (shows_move d .opened).attempt.bind fun r e₃ log₃ _ => ?_
    cases r with
    | error err =>
      exact (shows_askHost_unrecorded (calls_discard _ _)).bind fun _ _ _ _ => shows_fail err
    | ok _ => exact shows_modify rfl rfl

/-- Opening is in order: the output's over an input that is there, the input's under no output. The
same conditions cover the close of a stream that comes out wrong. -/
theorem openSide_shows {rate : Nat} (h : Vacant e d) (hc : e.line.channel.isSome = true)
    (hin : d = .output → e.host.live .input ≠ []
      ∧ (e.state .input = .opened ∨ e.state .input = .running))
    (hout : d = .input → e.host.live .output = []) :
    Shows (openSide d rate) (openSide d rate) e log := by
  have hnone : e.line.channel.isNone = false := by
    rw [← Option.not_isSome, hc]
    rfl
  unfold openSide
  refine shows_get_bind ?_
  have hnone' : (e.withLog log).line.channel.isNone = false := hnone
  simp only [hnone, hnone', Bool.false_eq_true, if_false]
  refine (shows_move d .opening).bind fun _ e₁ log₁ hmove => ?_
  rw [move_of_canMoveTo (by rw [h.state]; rfl)] at hmove
  cases hmove
  let spec := e.config.spec d rate
  have hissued : (StreamHost.openStream d spec (handlerFor d e) e.host
      (e.line.setState d .opening)).2.1.calls = e.host.calls ++ [⟨d, .openStream⟩] :=
    calls_openStream d spec (handlerFor d e) e.host
  refine (shows_askHost hissued fun c hc => ?_).bind fun r e₂ log₂ hask => ?_
  · rw [List.mem_singleton.mp hc]
    cases d with
    | input => trivial
    | output =>
      have hstate : (e.line.setState .output .opening).state .input = e.state .input :=
        Line.state_setState_ne _ _ (by simp)
      show e.host.live .input ≠ [] ∧ ((e.line.setState .output .opening).state .input = .opened
        ∨ (e.line.setState .output .opening).state .input = .running)
      rw [hstate]
      exact hin rfl
  -- the answer decides how it goes on, so it is read off the plain host
  · rw [askHost_apply] at hask
    obtain ⟨hr, he₂⟩ : r = (openStream d spec (handlerFor d e) e.host).1
        ∧ e₂.host = (openStream d spec (handlerFor d e) e.host).2 := by
      cases hask
      exact ⟨rfl, rfl⟩
    rcases openStream_cases d spec (handlerFor d e) e.host with
      ⟨source, host, hopen, _⟩ | ⟨host, hopen, hstreams, _⟩
    · rw [hopen] at hr
      subst hr
      exact (shows_move d .closed).attempt.bind fun _ _ _ _ => shows_fail _
    · rw [hopen] at hr he₂
      subst hr
      refine acceptStream_shows rfl rfl fun hd => ?_
      subst hd
      have hdir : (e.host.nextStream .input spec (handlerFor .input e)).properties.direction
          ≠ .output := by
        show Direction.input ≠ .output
        simp
      rw [he₂, live_append hstreams, if_neg hdir]
      exact hout rfl

/-! ## The pair -/

/-- No side is stopping between two calls; that state is only passed through in `stopSide`. -/
theorem Settled.state_ne_stopping (h : Settled e d) : e.state d ≠ .stopping := by
  rcases h with hv | ⟨s, ho⟩
  · rw [hv.state]
    simp
  · rcases ho.state with hs | hs | hs <;> rw [hs] <;> simp

/-- Stopping both sides is in order, since the output is stopped first and does not run after that,
even where the host has refused. What the second stop needs of the first is that the output is not
running any more (`hstop.resting`), and is not on its way to stop. -/
theorem stopSides_shows (h : ∀ d, Settled e d) : Shows stopSides stopSides e log := by
  unfold stopSides
  refine (stopSide_shows (h .output) (by simp)).attempt_bind (stopSide_settled (h .output))
    fun r₁ e₁ log₁ hstop => ?_
  have hin : Settled e₁ .input := hstop.toActsOn.settled (by simp) (h .input)
  have hout : Settled e₁ .output := hstop.settled (h .output)
  refine (stopSide_shows hin fun _ => ⟨hstop.resting, hout.state_ne_stopping⟩).attempt_bind
    (stopSide_settled hin) fun r₂ e₂ log₂ _ => ?_
  exact (shows_modify rfl rfl).bind fun _ _ _ _ => shows_ofExcept _

/-- Shutting down is in order from sides of any shape: the output is closed first, and it is gone by
then for the host as well. To close the input asks for an output that the host has no live stream
of, which is what its own closing leaves. -/
theorem shutDown_shows (h : ∀ d, Settled e d) : Shows shutDown shutDown e log := by
  unfold shutDown
  refine (stopSides_shows h).attempt_bind (stopSides_ends h) fun r₁ e₁ log₁ hhalt => ?_
  refine (shows_modifyLine _).bind fun _ _ log₂ hdetach => ?_
  cases hdetach
  have hsettled : ∀ d, Settled { e₁ with line := e₁.line.detach } d := fun d =>
    (hhalt.settled (h d)).frame ⟨rfl, rfl, rfl, rfl⟩ rfl (.refl _)
  refine (closeSide_shows (hsettled .output) (by simp)).attempt_bind
    (closeSide_settled (hsettled .output)) fun r₃ e₃ log₃ ⟨_, hout, hact₃⟩ => ?_
  have hin : Settled e₃ .input := hact₃.settled (by simp) (hsettled .input)
  refine (closeSide_shows hin fun _ => hout.live).attempt_bind (closeSide_settled hin)
    fun r₄ e₄ log₄ _ => ?_
  exact (shows_modify rfl rfl).bind fun _ _ _ _ => shows_ofExcept _

theorem shows_inputRate : Shows inputRate inputRate e log := by
  unfold inputRate
  exact shows_get_bind (shows_pure _)

theorem withLog_holdsStreams (e : SimulatedEngine) (log : List Moment) :
    (e.withLog log).holdsStreams = e.holdsStreams := rfl

theorem openSides_shows_of_open (h : Open e) : Shows openSides openSides e log := by
  unfold openSides
  refine shows_get_bind ?_
  simp only [withLog_holdsStreams, h.holdsStreams, if_true]
  exact (shows_fail _).bind fun _ _ _ hfail => by cases hfail

/-- An input that is occupied and has not failed is there for an output to open over: its stream is
live and its state is one of the two that the rule admits. -/
theorem Occupied.ready (h : Occupied e .input s) (hs : e.state .input ≠ .error) :
    e.host.live .input ≠ [] ∧ (e.state .input = .opened ∨ e.state .input = .running) := by
  obtain ⟨x, hx, _⟩ := h.backed hs
  refine ⟨by rw [hx]; simp, ?_⟩
  rcases h.state with ho | hr | herr
  · exact Or.inl ho
  · exact Or.inr hr
  · exact absurd herr hs

/-- Opening a pair is in order, and so is giving up a half-open one. The output is opened over the
input that `openSide_ends` has left, and the input is closed only where no output has come to be. -/
theorem openSides_shows (h : Closed e) (hn : Numbered e.host) :
    Shows openSides openSides e log := by
  unfold openSides
  refine shows_get_bind ?_
  simp only [withLog_holdsStreams, withLog_config, h.holdsStreams, Bool.false_eq_true, if_false]
  refine (shows_modify rfl rfl).bind fun _ _ log₁ hmodify => ?_
  cases hmodify
  let e₁ : SimulatedEngine := { e with
    line := e.line.renew e.config.period.samples }
  show Shows _ _ e₁ log₁
  -- a new channel touches no side
  have hvacant : ∀ d, Vacant e₁ d := fun d => (h.vacant d).of_same rfl rfl rfl
  have hidle : e₁.host.live .output = [] := (hvacant .output).live
  refine (openSide_shows (hvacant .input) rfl (by simp) fun _ => hidle).attempt_bind
    (openSide_ends (hvacant .input) rfl hn) fun r₂ e₂ log₂ ⟨hact₂, hcases⟩ => ?_
  -- the work on the input has left the output as it was
  have hout : Vacant e₂ .output := hact₂.vacant (by simp) (hvacant .output)
  rcases hcases with ⟨rfl, ⟨s, hin⟩, hstate⟩ | ⟨⟨err, rfl⟩, _⟩
  · refine shows_inputRate.bind fun rate _ log₃ hrate => ?_
    rw [inputRate_of_occupied hin] at hrate
    cases hrate
    have hc₂ : e₂.line.channel.isSome = true := by
      rw [hact₂.channel]
      rfl
    have hready := hin.ready (by rw [hstate]; simp)
    refine (openSide_shows hout hc₂ (fun _ => hready) (by simp)).attempt_bind
      (openSide_ends hout hc₂ (hn.of_follows hact₂.host)) fun r₃ e₃ log₄ ⟨hact₃, hcases⟩ => ?_
    have hin₃ : Occupied e₃ .input s := hact₃.occupied (by simp) hin
    rcases hcases with ⟨rfl, _⟩ | ⟨⟨err, rfl⟩, hout₃⟩
    · exact shows_pure ()
    · refine (shows_modifyLine _).bind fun _ _ log₅ hdetach => ?_
      cases hdetach
      -- the output was refused, and the input has to be closed again
      have hin₄ : Settled { e₃ with line := e₃.line.detach } .input :=
        Or.inr ⟨s, hin₃.frame ⟨rfl, rfl, rfl, rfl⟩ rfl (.refl _)⟩
      refine (closeSide_shows hin₄ fun _ => hout₃.live).attempt.bind fun _ _ _ _ => ?_
      exact (shows_modify rfl rfl).bind fun _ _ _ _ => shows_fail err
  · refine (shows_modifyLine _).bind fun _ _ _ _ => ?_
    exact (shows_modify rfl rfl).bind fun _ _ _ _ => shows_fail err

theorem startSides_shows_of_closed (h : Closed e) : Shows startSides startSides e log := by
  have hnone : e.streams.input = none := (h.vacant .input).handle
  unfold startSides
  refine shows_get_bind ?_
  simp only [withLog_streams, hnone, Option.isNone_none, Bool.true_or, if_true]
  exact (shows_fail _).bind fun _ _ _ hfail => by cases hfail

/-- Starting a pair is in order: the output starts after the input does, and is not started at all
where the input has refused. The start of the output is judged on the engine that the start of the
input has left, where the input runs. -/
theorem startSides_shows (h : Open e) : Shows startSides startSides e log := by
  obtain ⟨s, hin⟩ := h.occupied .input
  obtain ⟨s', hout⟩ := h.occupied .output
  have h₁ : e.streams.input = some s := hin.handle
  have h₂ : e.streams.output = some s' := hout.handle
  unfold startSides
  refine shows_get_bind ?_
  simp only [withLog_streams, h₁, h₂, Option.isNone_some, Bool.or_self, Bool.false_eq_true,
    if_false]
  refine (startSide_shows hin (by simp)).bind_ends (startSide_ends hin)
    fun _ e₁ log₁ ⟨_, hact₁, hcases⟩ => ?_
  rcases hcases with ⟨_, _, hrun₁⟩ | ⟨⟨_, herr⟩, _⟩
  · have hout₁ : Occupied e₁ .output s' := hact₁.occupied (by simp) hout
    exact (startSide_shows hout₁ fun _ => hrun₁).bind fun _ _ _ _ => shows_modify rfl rfl
  · cases herr

/-! ## The lifecycle -/

/-- Opening is in order on a sound engine, closed or open: it opens a pair, or it is refused. The
notice of it comes after the calls, and is no call itself. -/
theorem bringUp_shows (h : Sound e) : Shows EngineM.bringUp EngineM.bringUp e log := by
  unfold EngineM.bringUp
  have hopen : Shows openSides openSides e log := by
    rcases h.shape with hc | ho
    · exact openSides_shows hc h.numbered
    · exact openSides_shows_of_open ho
  refine hopen.bind fun _ e₁ log₁ _ => ?_
  refine shows_inputRate.bind fun rate e₂ log₂ _ => ?_
  exact shows_get_bind (shows_publish _ _)

/-- Closing is in order from sides of any shape; the notice about it is not a call of the host. The
one program inside it is `shutDown`, which is in order from any sides (`shutDown_shows`). -/
theorem bringDown_shows (h : ∀ d, Settled e d) :
    Shows EngineM.bringDown EngineM.bringDown e log := by
  unfold EngineM.bringDown
  refine shows_get_bind ?_
  refine (shutDown_shows h).attempt.bind fun r e₁ log₁ _ => ?_
  simp only [withLog_holdsStreams]
  by_cases hwas : e.holdsStreams = true
  · simp only [hwas, if_true]
    exact (shows_publish _ _).bind fun _ _ _ _ => shows_ofExcept r
  · simp only [hwas]
    exact shows_ofExcept r

/-- Starting is in order on a sound engine, closed or open. -/
theorem start_shows (h : Sound e) : Shows EngineM.start EngineM.start e log := by
  unfold EngineM.start
  have hstart : Shows startSides startSides e log := by
    rcases h.shape with hc | ho
    · exact startSides_shows_of_closed hc
    · exact startSides_shows ho
  exact hstart.bind fun _ _ _ _ => shows_publish _ _

theorem withLog_started (e : SimulatedEngine) (log : List Moment) :
    (e.withLog log).started = e.started := rfl

/-- Stopping is in order from sides of any shape, however the session has been marked. The one
program inside it is `stopSides`, and the mark decides only whether a notice follows. -/
theorem stop_shows (h : ∀ d, Settled e d) : Shows EngineM.stop EngineM.stop e log := by
  unfold EngineM.stop
  refine shows_get_bind ?_
  refine (stopSides_shows h).attempt.bind fun r e₁ log₁ _ => ?_
  simp only [withLog_started]
  by_cases hwas : e.started = true
  · simp only [hwas, if_true]
    exact (shows_publish _ _).bind fun _ _ _ _ => shows_ofExcept r
  · simp only [hwas]
    exact shows_ofExcept r

theorem withLog_effectOn (e : SimulatedEngine) (log : List Moment) :
    (e.withLog log).effectOn = e.effectOn := rfl

/-- The effect is switched in order both ways: on by an opening and a start, off by a stop and a
closing, and a start that fails by the closing after it. -/
theorem switch_shows (h : Sound e) (on : Bool) :
    Shows (EngineM.switch on) (EngineM.switch on) e log := by
  unfold EngineM.switch
  refine shows_get_bind ?_
  simp only [withLog_effectOn]
  by_cases hsame : on = e.effectOn
  · simp only [hsame, if_true]
    exact shows_pure ()
  · simp only [hsame, if_false]
    cases on with
    | true =>
      refine (bringUp_shows h).bind_ends (bringUp_leaves h) fun _ e₁ log₁ hleaves => ?_
      have h₁ : Sound e₁ := hleaves.sound h
      refine (start_shows h₁).attempt_bind (start_leaves h₁) fun r e₂ log₂ hleaves₂ => ?_
      cases r with
      | ok _ => exact shows_modify rfl rfl
      | error err =>
        -- what opened and did not start is closed again, output first
        exact (bringDown_shows (hleaves₂.sound h₁).settled).attempt.bind fun _ _ _ _ =>
          shows_fail err
    | false =>
      refine (stop_shows h.settled).attempt_bind (stop_leaves h) fun r e₁ log₁ hleaves => ?_
      refine (bringDown_shows (hleaves.sound h).settled).attempt.bind fun r₂ e₂ log₂ _ => ?_
      exact (shows_modify rfl rfl).bind fun _ _ _ _ => shows_ofExcept _

/-- To answer a truth value instead of an error asks nothing more of the host. -/
theorem trySwitch_shows (h : Sound e) (on : Bool) :
    Shows (EngineM.trySwitch on) (EngineM.trySwitch on) e log := by
  unfold EngineM.trySwitch
  refine (switch_shows h on).attempt.bind fun r e₁ log₁ _ => ?_
  cases r with
  | ok _ => exact shows_pure true
  | error _ => exact shows_pure (!on)

/-! ## Recovery -/

/-- Replacing both streams is in order: a shutdown, and an opening and a start from there. Each of
the three programs ends in what the next one begins with: a closed pair, then an open one. -/
theorem replaceBoth_shows (h : Open e) (hn : Numbered e.host) (restart : Bool) :
    Shows (replaceBoth restart) (replaceBoth restart) e log := by
  unfold replaceBoth
  refine (shutDown_shows h.settled).attempt_bind (shutDown_ends h.settled)
    fun _ e₁ log₁ ⟨hclosed, hkeep, _⟩ => ?_
  have hn₁ : Numbered e₁.host := hn.of_follows hkeep.host
  refine (openSides_shows hclosed hn₁).bind_ends (openSides_ends hclosed hn₁)
    fun _ e₂ log₂ ⟨_, _, hcases⟩ => ?_
  rcases hcases with ⟨_, hopen, _⟩ | ⟨⟨_, herr⟩, _⟩
  · cases restart with
    | true => exact startSides_shows hopen
    | false => exact shows_pure ()
  · cases herr

/-- Replacing the output is in order: a session that counts as started, and whose input has not
failed, has an input that runs. The new output opens over an input that is ready, and starts over
one that runs. -/
theorem replaceOutput_shows (h : Open e) (hn : Numbered e.host) (hin : e.state .input ≠ .error) :
    Shows (replaceOutput e.started) (replaceOutput e.started) e log := by
  obtain ⟨s, hs⟩ := h.occupied .input
  have hinfo : (e.withLog log).infoOf .input = some s.properties := hs.infoOf
  unfold replaceOutput
  refine shows_get_bind ?_
  simp only [hs.infoOf, hinfo]
  refine (stopSide_shows (h.settled .output) (by simp)).attempt_bind
    (stopSide_settled (h.settled .output)) fun _ e₁ log₁ hstop => ?_
  have hout₁ : Settled e₁ .output := hstop.settled (h.settled .output)
  refine (closeSide_shows hout₁ (by simp)).attempt_bind (closeSide_settled hout₁)
    fun _ e₂ log₂ ⟨_, hvacant₂, hclose⟩ => ?_
  have hact₂ : ActsOn .output e e₂ := hstop.toActsOn.trans hclose
  have hsome₂ : e₂.line.channel.isSome = true := h.channel_isSome hact₂
  have hsame₂ : SameSide .input e e₂ := hact₂.other .input (by simp)
  have hin₂ : Occupied e₂ .input s := hact₂.occupied (by simp) hs
  -- the input has been left alone, so it is there for the output to open over
  have hready := hin₂.ready (by rw [hsame₂.state]; exact hin)
  rw [hs.rate_of_actsOn hact₂]
  refine (openSide_shows hvacant₂ hsome₂ (fun _ => hready) (by simp)).bind_ends
    (openSide_ends hvacant₂ hsome₂ (hn.of_follows hact₂.host)) fun _ e₃ log₃ ⟨hopen₃, hcases₃⟩ => ?_
  rcases hcases₃ with ⟨_, ⟨s', hout₃⟩, _⟩ | ⟨⟨_, herr⟩, _⟩
  · cases hrestart : e.started with
    | false => exact shows_pure ()
    | true =>
      refine startSide_shows hout₃ fun _ => ?_
      rw [(hopen₃.other .input (by simp)).state, hsame₂.state]
      exact (h.started hrestart .input).resolve_right hin
  · cases herr

/-- A repair is in order, whichever side is lost. After a replacement that has failed half way the
sides are `Settled`, and that is all that the shutdown asks. -/
theorem repair_shows (h : Sound e) : Shows EngineM.repair EngineM.repair e log := by
  unfold EngineM.repair
  refine shows_get_bind ?_
  simp only [withLog_holdsStreams, withLog_state, withLog_started]
  rcases h.shape with hc | ho
  · simp only [hc.holdsStreams, Bool.false_and, Bool.false_eq_true, if_false]
    exact shows_pure ()
  · -- a lost input takes the output with it
    have hreplace : Shows (if e.state .input = .error then replaceBoth e.started
          else replaceOutput e.started)
        (if e.state .input = .error then replaceBoth e.started else replaceOutput e.started)
        e log :=
      shows_ite (fun _ => replaceBoth_shows ho h.numbered e.started)
        fun hin => replaceOutput_shows ho h.numbered hin
    refine shows_ite (fun _ => ?_) fun _ => shows_pure ()
    refine hreplace.attempt_bind (replace_ends ho h.numbered) fun r e₁ log₁ ⟨_, hcases⟩ => ?_
    rcases hcases with ⟨rfl, _⟩ | ⟨⟨err, rfl⟩, hsettled⟩
    · exact shows_publish _ _
    · refine (shutDown_shows hsettled).attempt.bind fun _ e₂ log₂ _ => ?_
      refine (shows_modify rfl rfl).bind fun _ e₃ log₃ _ => ?_
      exact (shows_publish _ _).bind fun _ _ _ _ => shows_fail err

/-- Telling of faults asks the host for nothing, however long the batch is. The induction is on the
batch, of which only the faults are told. -/
theorem publishFaults_shows (batch : List Event) :
    Shows (publishFaults batch) (publishFaults batch) e log := by
  induction batch generalizing e log with
  | nil => exact shows_pure ()
  | cons event rest ih =>
    cases event with
    | disconnected _ _ => exact ih
    | fault d expected actual => exact (shows_publish _ _).bind fun _ _ _ _ => ih

/-- The end of a session over a fault is in order: it stops and closes as the owner would. A closing
follows the stop in any case, and finds the sides as settled as before. -/
theorem endSession_shows (h : Sound e) : Shows endSession endSession e log := by
  unfold endSession
  refine shows_get_bind ?_
  simp only [withLog_holdsStreams]
  refine shows_ite (fun _ => ?_) fun _ => shows_pure ()
  refine (stop_shows h.settled).attempt_bind (stop_leaves h) fun _ e₁ log₁ hleaves => ?_
  refine (bringDown_shows (hleaves.sound h).settled).attempt.bind fun _ e₂ log₂ _ => ?_
  exact shows_modify rfl rfl

/-- Attending to a batch is in order, whatever the batch tells of. After the notices there is a
session that ends, a repair, or nothing, and each of these is in order on a sound engine. -/
theorem attend_shows (h : Sound e) (batch : List Event) :
    Shows (attend batch) (attend batch) e log := by
  unfold attend
  refine (publishFaults_shows batch).bind fun _ e₁ log₁ hpublish => ?_
  obtain ⟨board, hboard⟩ := publishFaults_apply batch e
  rw [hboard] at hpublish
  cases hpublish
  have h₁ : Sound { e with board } := ((unnoticed_board e board).leaves h).sound h
  refine shows_ite (fun _ => endSession_shows h₁) fun _ => ?_
  exact shows_ite (fun _ => (repair_shows h₁).attempt.bind fun _ _ _ _ => shows_pure ())
    fun _ => shows_pure ()

end Engine

end Passthrough
