import Passthrough.Proofs.Engine.Upright
/-!
# Closing always completes

Whatever a host that answers says to it, closing ends with nothing left. What it asks for is settled
before it begins (`partings`): the sides that run are stopped, output first, and then those that
hold a stream are closed, output first. Every one of these calls is made, whatever became of the
calls before it; the first failure among the answers is what closing comes to.

* **`shutDown_minutes`** — what shutting down asks for, what it comes to and what it leaves.
* **`bringDown_completes`** — so it is in every run, and closing once more does nothing.
-/

namespace Passthrough

open EngineM Parting

namespace Engine

variable {H : Type}

/-! ## What closing asks for -/

/-- **What closing a pair takes**: the output is stopped before the input, and both are stopped
before either is closed. -/
def partings (e : Engine H) : List Parting :=
  e.stopping .output ++ e.stopping .input ++ e.closing .output ++ e.closing .input

/-- **An engine of which nothing is left**: nothing is held, the channel is gone, and nobody is
linked. -/
structure Shut (e : Engine H) : Prop where
  states : ∀ d, e.state d = .closed
  streams : ∀ d, e.streams.get d = none
  channel : e.line.channel = none
  detached : e.line.link.attached = false
  started : e.started = false

variable {e e' : Engine (MinutedHost H)}

/-- What stopping a side takes depends on its state and on the stream that it holds, and on nothing
else. -/
theorem stopping_of_same {d : Direction} (hstate : e'.state d = e.state d)
    (hheld : e'.streams.get d = e.streams.get d) : e'.stopping d = e.stopping d := by
  unfold stopping
  rw [hstate, hheld]

/-- What closing a side takes depends on the stream that it holds, and on nothing else. -/
theorem closing_of_same {d : Direction} (hheld : e'.streams.get d = e.streams.get d) :
    e'.closing d = e.closing d := by
  unfold closing
  rw [hheld]

end Engine

namespace EngineM

open Engine

variable {H : Type}

/-- **Calls of both sides**, with what they come to and what they leave of everything else. -/
structure Parted (ps : List Parting) (r : Except AudioError Unit) (e e' : Engine (MinutedHost H)) :
    Prop where
  calls : ∃ calls, calls.map Prod.fst = ps ∧ r = outcome calls
    ∧ e'.host.minutes = e.host.minutes ++ minutes calls
  config : e'.config = e.config
  effectOn : e'.effectOn = e.effectOn
  poisoned : e'.poisoned = e.poisoned

/-- The calls of one side are calls of both, of which the other has made none. -/
theorem parted_of_amid {d : Direction} {e e' : Engine (MinutedHost H)}
    {calls : List (Parting × Except HostError Unit)} (hamid : Amid d (minutes calls) e e') :
    Parted (calls.map Prod.fst) (outcome calls) e e' where
  calls := ⟨calls, rfl, rfl, hamid.minutes⟩
  config := hamid.config
  effectOn := hamid.effectOn
  poisoned := hamid.poisoned

/-- All calls are made, and the first failure counts. What the first of two programs comes to goes
before what the second one does, also where both have failed (`firstError`). -/
theorem Parted.trans {ps qs : List Parting} {r r' : Except AudioError Unit}
    {e e' e'' : Engine (MinutedHost H)} (h : Parted ps r e e') (h' : Parted qs r' e' e'') :
    Parted (ps ++ qs) (firstError r r') e e'' where
  calls := by
    obtain ⟨calls, rfl, rfl, hminutes⟩ := h.calls
    obtain ⟨calls', rfl, rfl, hminutes'⟩ := h'.calls
    refine ⟨calls ++ calls', List.map_append, outcome_append.symm, ?_⟩
    rw [hminutes', hminutes, minutes_append, List.append_assoc]
  config := h'.config.trans h.config
  effectOn := h'.effectOn.trans h.effectOn
  poisoned := h'.poisoned.trans h.poisoned

/-- What both sides share is not part of it: the line, the board and the worker may be changed
between two programs that close. What `Parted` keeps of the engine is its configuration, its effect
and whether it is poisoned, beside the calls in the minutes. -/
theorem Parted.mark {ps : List Parting} {r : Except AudioError Unit}
    {e e' e'' : Engine (MinutedHost H)} (h : Parted ps r e e') (hhost : e''.host = e'.host)
    (hconfig : e''.config = e'.config) (heffect : e''.effectOn = e'.effectOn)
    (halive : e''.poisoned = e'.poisoned) : Parted ps r e e'' where
  calls := by
    rw [hhost]
    exact h.calls
  config := hconfig.trans h.config
  effectOn := heffect.trans h.effectOn
  poisoned := halive.trans h.poisoned

variable [StreamHost Handler Line H] [Answering H]

/-- Stopping both sides asks for the output first, and for the input whatever became of the output.
No stream is let go of, so that closing finds them all. -/
theorem stopSides_minutes (e : Engine (MinutedHost H)) :
    Ends stopSides e fun r e' => Parted (e.stopping .output ++ e.stopping .input) r e e'
      ∧ e'.streams = e.streams := by
  unfold stopSides
  refine (stopSide_minutes .output e).attempt_bind ?_
  rintro r₁ e₁ ⟨calls₁, hcalls₁, rfl, hamid₁, hstreams₁, _⟩
  refine (stopSide_minutes .input e₁).attempt_bind ?_
  rintro r₂ e₂ ⟨calls₂, hcalls₂, rfl, hamid₂, hstreams₂, _⟩
  have hstopping : e₁.stopping .input = e.stopping .input :=
    stopping_of_same (hamid₁.state .input nofun) (hamid₁.held .input nofun)
  rw [← hcalls₁, ← hstopping, ← hcalls₂]
  refine ends_modify_bind (ends_ofExcept ⟨?_, hstreams₂.trans hstreams₁⟩)
  exact ((parted_of_amid hamid₁).trans (parted_of_amid hamid₂)).mark rfl rfl rfl rfl

/-- **Shutting down** makes all of its calls, comes to their first failure, and leaves nothing. Each
of the four programs is attempted, so that a failure of one does not keep the next from being run;
what each asks for is told from the engine at the beginning, as none before it has changed what it
depends on (`closing_of_same`). -/
theorem shutDown_minutes (e : Engine (MinutedHost H)) :
    Ends shutDown e fun r e' => Parted e.partings r e e' ∧ e'.Shut := by
  unfold shutDown
  refine (stopSides_minutes e).attempt_bind fun r₁ e₁ ⟨hparted₁, hstreams₁⟩ => ?_
  refine ends_modifyLine_bind ?_
  refine (closeSide_minutes .output _).attempt_bind ?_
  rintro r₂ e₂ ⟨calls₂, hcalls₂, rfl, hamid₂, hnone₂, hclosed₂⟩
  refine (closeSide_minutes .input e₂).attempt_bind ?_
  rintro r₃ e₃ ⟨calls₃, hcalls₃, rfl, hamid₃, hnone₃, hclosed₃⟩
  -- the sides have been stopped by now, but they hold what they held at the beginning
  have houtput : calls₂.map Prod.fst = e.closing .output := by
    rw [hcalls₂]
    exact closing_of_same (congrArg (·.get .output) hstreams₁)
  have hinput : calls₃.map Prod.fst = e.closing .input := by
    have hheld : e₂.streams.get .input = e₁.streams.get .input := hamid₂.held .input nofun
    rw [hcalls₃]
    exact closing_of_same (hheld.trans (congrArg (·.get .input) hstreams₁))
  have hdetached : Parted (e.stopping .output ++ e.stopping .input) r₁ e
      { e₁ with line := e₁.line.detach } := hparted₁.mark rfl rfl rfl rfl
  have hparted := hdetached.trans ((parted_of_amid hamid₂).trans (parted_of_amid hamid₃))
  rw [houtput, hinput, ← List.append_assoc] at hparted
  refine ends_modify_bind (ends_ofExcept ⟨hparted.mark rfl rfl rfl rfl, ?_⟩)
  -- each side is closed by its own program, and the other one leaves it so
  exact {
    states := fun
      | .input => hclosed₃
      | .output => (hamid₃.state .output nofun).trans hclosed₂
    streams := fun
      | .input => hnone₃
      | .output => (hamid₃.held .output nofun).trans hnone₂
    channel := rfl
    detached := hamid₃.attached.trans hamid₂.attached
    started := rfl }

/-- Bringing down is shutting down, and a notice if there was something to close; the notice asks
the host for nothing. The notice changes the board alone, so that what is shown goes
through to it from `shutDown_minutes`. -/
theorem bringDown_minutes (e : Engine (MinutedHost H)) :
    Ends bringDown e fun r e' => Parted e.partings r e e' ∧ e'.Shut := by
  unfold bringDown
  refine ends_get_bind ((shutDown_minutes e).attempt_bind fun r e' ⟨hparted, hshut⟩ => ?_)
  split
  · exact ends_publish_bind (ends_ofExcept
      ⟨hparted.mark rfl rfl rfl rfl, ⟨hshut.1, hshut.2, hshut.3, hshut.4, hshut.5⟩⟩)
  · exact ends_ofExcept ⟨hparted, hshut⟩

/-! ## Closing once more -/

section Again

variable {H : Type} [StreamHost Handler Line H] {e : Engine H}

/-- Where nothing is held there is nothing to stop. Each side is closed, and what is not running is
not stopped (`stopSide_of_not_running`); the mark of being started is off already. -/
theorem stopSides_of_shut (h : e.Shut) : stopSides e = .ok () e := by
  have hstop : ∀ d, attempt (stopSide d) e = .ok (.ok ()) e := by
    intro d
    have hidle : e.state d ≠ .running := by
      rw [h.states d]
      exact nofun
    rw [attempt_apply, stopSide_of_not_running hidle]
  have hsame : { e with started := false } = e := by
    rw [← h.started]
  unfold stopSides
  simp only [bind_apply, hstop, modify_apply, hsame]
  rfl

/-- An engine of which nothing is left is left as it is by shutting down, to the last field. Line by
line: there is nobody to detach, nothing to close, no channel to give up, and both sides are
settled. -/
theorem shutDown_of_shut (h : e.Shut) : shutDown e = .ok () e := by
  -- one equation for each step of the program
  have hdetach : { e with line := e.line.detach } = e := by
    unfold Line.detach Link.detach
    rw [← h.detached]
  have hclose : ∀ d, attempt (closeSide d) e = .ok (.ok ()) e := by
    intro d
    have hsettle : e.line.settle d = e.line := by
      unfold Line.settle
      rw [StreamState.settled_eq_closed]
      exact Line.setState_of_state_eq (h.states d)
    rw [attempt_apply, closeSide_of_none (h.streams d), hsettle]
  have hsame : { e with line := { e.line with channel := none }, started := false } = e := by
    rw [← h.started, ← h.channel]
  have hstop : attempt stopSides e = .ok (.ok ()) e := by
    rw [attempt_apply, stopSides_of_shut h]
  unfold shutDown
  simp only [bind_apply, hstop, modifyLine_apply, hdetach, hclose, modify_apply, hsame]
  rfl

/-- So it is by bringing down: no notice is sent a second time, because nothing was held. It is the
second half of `bringDown_completes`: closing can be asked for again without harm. -/
theorem bringDown_of_shut (h : e.Shut) : bringDown e = .ok () e := by
  have hunheld : e.holdsStreams = false := by
    have hinput := h.streams .input
    have houtput := h.streams .output
    unfold Engine.holdsStreams
    rw [show e.streams.input = none from hinput, show e.streams.output = none from houtput]
    rfl
  have hshut : attempt shutDown e = .ok (.ok ()) e := by
    rw [attempt_apply, shutDown_of_shut h]
  unfold bringDown
  simp only [bind_apply, get_apply, hshut, hunheld, Bool.false_eq_true, if_false]
  rfl

end Again

end EngineM

/-! ## Every run -/

namespace Engine

variable {H : Type} [StreamHost Handler Line H] [Answering H]

/-- **Closing completes**, after any run and whatever the host answers. It makes just the calls that
are due, in their order, and comes to the first failure among their answers. Nothing is left, so
that closing once more changes nothing, asks for nothing and tells of nothing. -/
theorem bringDown_completes (host : H) (config : Config) (recovery : Recovery)
    (noticeCapacity : Nat) (ts : List (Turn H)) :
    let e := afterTurns host config recovery noticeCapacity ts
    (∀ d, e.state d = .running → (e.streams.get d).isSome = true)
      ∧ (∃ calls, calls.map Prod.fst = e.partings
        ∧ e.bringDown.2.host.minutes = e.host.minutes ++ minutes calls
        ∧ e.bringDown.1 = (outcome calls).mapError .error
        ∧ (e.bringDown.1 = .ok () ↔ ∀ call ∈ calls, call.2 = .ok ()))
      ∧ e.bringDown.2.Shut
      ∧ e.bringDown.2.bringDown = (.ok (), e.bringDown.2) := by
  intro e
  have hupright : e.Upright := upright_afterTurns host config recovery noticeCapacity ts
  obtain ⟨r, hreply, hparted, hshut⟩ := (bringDown_minutes e).run hupright.alive
  -- the minutes of the two sides are those of one list of calls
  obtain ⟨calls, hcalls, rfl, hminutes⟩ := hparted.calls
  have hok : (outcome calls).mapError Failure.error = .ok () ↔ outcome calls = .ok () := by
    cases outcome calls with
    | ok _ => exact ⟨fun _ => rfl, fun _ => rfl⟩
    | error err => exact ⟨nofun, nofun⟩
  have hresult : e.bringDown.1 = (outcome calls).mapError .error := hreply
  refine ⟨fun d hd => hupright.held hd, ⟨calls, hcalls, hminutes, hresult, ?_⟩, hshut, ?_⟩
  · rw [hresult, hok]
    exact outcome_eq_ok_iff
  · have halive : e.bringDown.2.poisoned = false := hparted.poisoned.trans hupright.alive
    exact run_of_ok (bringDown_of_shut hshut) halive

/-- A mobile device whose streams run, and refuse to be stopped and to be closed. -/
def obstinate : Engine (MinutedHost (MobileHost Handler)) :=
  let refusing : Mobile.Script := { stopError := some .timeout, closeError := some .internal }
  afterTurns { scripts := .both refusing } { sampleRate := 8000, periodMs := 1 } .manual 64
    [.call .bringUp, .call .start]

/-- Closing completes on it, with the first of four failures. -/
theorem bringDown_completes_obstinate :
    obstinate.bringDown.1 = .error (.error (.streamStopFailed .output .timeout))
      ∧ obstinate.partings.length = 4 ∧ obstinate.bringDown.2.Shut
      ∧ obstinate.bringDown.2.bringDown = (.ok (), obstinate.bringDown.2) := by
  refine ⟨rfl, rfl, ?_⟩
  unfold obstinate
  exact (bringDown_completes (H := MobileHost Handler) _ _ _ _ _).2.2

end Engine

end Passthrough
