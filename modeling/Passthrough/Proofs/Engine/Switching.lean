import Passthrough.Proofs.Engine.Run
import Passthrough.Session
/-!
# Switching the effect

What turning the effect on or off comes to, from any state that a run can reach.

The effect goes by its own mark, not by the streams. Where the mark is as asked, nothing happens,
also not to streams that were opened apart from the effect; where it is not, turning off closes
everything, and turning on ends running or closed. Streams that are open without the effect stand in
the way of turning it on: it fails over them and leaves them alone.

* **`switch_off_closes`** — turning off, in each of its three forms.
* **`switch_on_closes`** — turning on, where it fails.
-/

namespace Passthrough

open EngineM SimulatedHost

namespace Engine

variable {e : SimulatedEngine}

/-! ## The switch -/

/-- Where the mark is as asked, the switch succeeds at once, and leaves streams alone that were
opened apart from the effect. -/
theorem switch_as_is {on : Bool} (h : Sound e) (heq : e.effectOn = on) :
    e.switch on = (.ok (), e) :=
  run_of_ok (switch_of_eq heq) h.poisoned

/-- Turning off an effect that is on ends the session, whatever the host refuses on the way; only
the answer tells of it. -/
theorem switch_off_ended (h : Sound e) (hon : e.effectOn = true) :
    (∃ r : Except AudioError Unit, (e.switch false).1 = r.mapError .error)
      ∧ Ended (e.switch false).2 := by
  obtain ⟨r, hreply, hclosed, _, hoff⟩ := (switch_off_ends hon h.settled).run h.poisoned
  exact ⟨⟨r, hreply⟩, hclosed, hoff⟩

/-- Streams that are open without the effect stay as they are, and the switch answers
`alreadyOpen`. -/
theorem switch_on_refused (h : Sound e) (hoff : e.effectOn = false) (ho : Open e) :
    e.switch true = (.error (.error .alreadyOpen), e) :=
  run_of_error (switch_on_of_open hoff ho) h.poisoned

/-- From a closed engine, turning on ends with a new session under the mark, or with nothing open
and the mark off. -/
theorem switch_on_outcome (h : Sound e) (hoff : e.effectOn = false) (hc : Closed e) :
    ((e.switch true).1 = .ok () ∧ Fresh (e.switch true).2 ∧ (e.switch true).2.effectOn = true)
      ∨ (∃ err, (e.switch true).1 = .error (.error err) ∧ Ended (e.switch true).2) := by
  obtain ⟨r, hreply, _, hcases⟩ := (switch_on_ends hoff hc h.numbered).run h.poisoned
  rcases hcases with ⟨rfl, hfresh, hon, _⟩ | ⟨⟨err, rfl⟩, hclosed, hoff'⟩
  · exact Or.inl ⟨hreply, hfresh, hon⟩
  · exact Or.inr ⟨err, hreply, hclosed, hoff'⟩

/-- **A try is a switch** whose failure is an answer. Turning off always counts as done, since
nothing is left on by it. Both run the same program, and the attempt turns its failure into an
answer with the engine as it is. -/
theorem trySwitch_eq_switch (h : Sound e) (on : Bool) :
    e.trySwitch on = (.ok ((e.switch on).1.isOk || !on), (e.switch on).2) := by
  have hswitch : e.switch on = e.run (EngineM.switch on) := rfl
  rw [trySwitch_eq_run h.poisoned, hswitch]
  -- the switch ends with a reply, and the try answers it in the same state
  rcases (switch_leaves h on).cases with ⟨_, e', hx, _⟩ | ⟨err, e', hx, _⟩
  · have hanswer : EngineM.trySwitch on e = .ok true e' := by
      unfold EngineM.trySwitch
      rw [bind_apply, attempt_apply, hx]
      rfl
    rw [run_of_ok hanswer h.poisoned, run_of_ok hx h.poisoned]
    rfl
  · have hanswer : EngineM.trySwitch on e = .ok (!on) e' := by
      unfold EngineM.trySwitch
      rw [bind_apply, attempt_apply, hx]
      rfl
    rw [run_of_ok hanswer h.poisoned, run_of_error hx h.poisoned]
    rfl

/-- The two calls leave the same engine, so what is said of one holds of the other. -/
theorem call_trySwitch (h : Sound e) (on : Bool) :
    e.call (.trySwitch on) = e.call (.switch on) :=
  congrArg Prod.snd (trySwitch_eq_switch h on)

/-! ## Off -/

/-- **Turning off**, after any run and past any errors, leaves the effect off. It leaves everything
closed if the effect was on or nothing was open; an effect that was off before, over streams that
somebody else had opened, is left alone with them. A try does the same and says yes, and so does the
session. -/
theorem switch_off_closes (config : Config) (recovery : Recovery) (noticeCapacity : Nat)
    (as : List Action) (tap : Option (ObserverId × Tap)) (taps : Nat) :
    let e := (create {} config recovery noticeCapacity : SimulatedEngine).after as
    let e' := (e.switch false).2
    (∃ r : Except AudioError Unit, (e.switch false).1 = r.mapError .error)
      ∧ e'.effectOn = false
      ∧ (e.effectOn = true ∨ e.holdsStreams = false →
          ∀ d, e'.state d = .closed ∧ e'.host.live d = [])
      ∧ (e.effectOn = false → e.switch false = (.ok (), e))
      ∧ e.trySwitch false = (.ok true, e')
      ∧ (Session.mk e tap taps).switchOff
          = (Session.status (e.switch false).1, Session.mk e' tap taps) := by
  intro e e'
  have h : Sound e := (after_sound (sound_create config recovery noticeCapacity) as).1
  have htry : e.trySwitch false = (.ok true, e') := by
    rw [trySwitch_eq_switch h, Bool.not_false, Bool.or_true]
  cases hon : e.effectOn with
  | true =>
    obtain ⟨hreply, hended⟩ := switch_off_ended h hon
    refine ⟨hreply, hended.effectOn, fun _ d => ?_, fun hoff => ?_, htry, rfl⟩
    · have hvacant := hended.isClosed.vacant d
      exact ⟨hvacant.state, hvacant.live⟩
    · cases hoff
  -- off already: nothing is done, and whoever opened the streams keeps them
  | false =>
    have hsame : e.switch false = (.ok (), e) := switch_as_is h hon
    have he' : e' = e := congrArg Prod.snd hsame
    refine ⟨⟨.ok (), congrArg Prod.fst hsame⟩, ?_, fun hbefore d => ?_, fun _ => hsame, htry, rfl⟩
    · rw [he', hon]
    · have hvacant := (h.isClosed (by simpa using hbefore)).vacant d
      rw [he']
      exact ⟨hvacant.state, hvacant.live⟩

/-- The output refuses to stop, so the switch fails with that error; everything is closed all the
same, in the engine and on the host. The error is computed; that everything is closed is the
theorem. -/
theorem switch_off_closes_past_error :
    let e := (create {} { sampleRate := 8000, periodMs := 1 } .manual : SimulatedEngine).after
      [.call (.switch true), .script (.stopFault .output .timeout)]
    (e.switch false).1 = .error (.error (.streamStopFailed .output .timeout))
      ∧ ∀ d, (e.switch false).2.state d = .closed ∧ (e.switch false).2.host.live d = [] := by
  intro e
  obtain ⟨_, _, hcloses, _⟩ := switch_off_closes { sampleRate := 8000, periodMs := 1 } .manual 64
    [.call (.switch true), .script (.stopFault .output .timeout)] none 0
  exact ⟨rfl, hcloses (Or.inl rfl)⟩

/-- Streams that were opened and started apart from the effect run on when it is turned off. The
effect was off before, so that there is nothing to turn off and the call answers at once. -/
theorem switch_off_not_closes :
    let e := (create {} { sampleRate := 8000, periodMs := 1 } .manual : SimulatedEngine).after
      [.call .bringUp, .call .start]
    let e' := (e.switch false).2
    ¬ ((∀ d, e'.state d = .closed) ∧ (∀ d, e'.host.live d = []) ∧ e'.effectOn = false) := by
  rintro e e' ⟨hstate, _⟩
  have hrunning : e'.state .input = .running := rfl
  rw [hstate .input] at hrunning
  cases hrunning

/-! ## On -/

/-- **Turning on that fails**, after any run and whatever the host refuses, leaves the effect off.
It leaves everything closed if nothing was open before; streams that were open without the effect
are the reason of the failure, and are left alone. A try fails with the switch. -/
theorem switch_on_closes (config : Config) (recovery : Recovery) (noticeCapacity : Nat)
    (as : List Action) :
    let e := (create {} config recovery noticeCapacity : SimulatedEngine).after as
    let e' := (e.switch true).2
    e.trySwitch true = (.ok (e.switch true).1.isOk, e')
      ∧ ((e.switch true).1 = .ok ()
        ∨ (e.holdsStreams = true ∧ e.effectOn = false
            ∧ e.switch true = (.error (.error .alreadyOpen), e))
        ∨ (e.holdsStreams = false ∧ (∃ err, (e.switch true).1 = .error (.error err))
            ∧ (∀ d, e'.state d = .closed) ∧ (∀ d, e'.host.live d = [])
            ∧ e'.line.channel = none ∧ e'.effectOn = false)) := by
  intro e e'
  have h : Sound e := (after_sound (sound_create config recovery noticeCapacity) as).1
  refine ⟨?_, ?_⟩
  · rw [trySwitch_eq_switch h, Bool.not_true, Bool.or_false]
  · cases hon : e.effectOn with
    | true => exact Or.inl (congrArg Prod.fst (switch_as_is h hon))
    | false =>
      rcases h.shape with hc | ho
      · -- nothing was open, so a failure has put everything back
        rcases switch_on_outcome h hon hc with ⟨hok, _⟩ | ⟨err, hfailed, hended⟩
        · exact Or.inl hok
        · have hvacant := hended.isClosed.vacant
          exact Or.inr (Or.inr ⟨hc.holdsStreams, ⟨err, hfailed⟩, fun d => (hvacant d).state,
            fun d => (hvacant d).live, hended.isClosed.channel, hended.effectOn⟩)
      · exact Or.inr (Or.inl ⟨ho.holdsStreams, rfl, switch_on_refused h hon ho⟩)

/-- The output refuses to start: what has been opened for it by then is closed again, and the answer
is that the effect is not on. Of the three cases of the theorem two are ruled out by the answer and
by the streams. -/
theorem switch_on_closes_of_startFault :
    let e := (create {} { sampleRate := 8000, periodMs := 1 } .manual : SimulatedEngine).after
      [.script (.startFault .output .unavailable)]
    (e.trySwitch true).1 = .ok false ∧ ∀ d, (e.trySwitch true).2.state d = .closed := by
  refine ⟨rfl, ?_⟩
  obtain ⟨htry, hcases⟩ := switch_on_closes { sampleRate := 8000, periodMs := 1 } .manual 64
    [.script (.startFault .output .unavailable)]
  rw [congrArg Prod.snd htry]
  rcases hcases with hok | ⟨hheld, _⟩ | ⟨_, _, hclosed, _⟩
  · cases hok
  · cases hheld
  · exact hclosed

/-- Streams that were opened apart from the effect stay open when it fails to turn on: the answer is
`false`, and neither direction is closed. The opening is refused with `alreadyOpen` before anything
is done, and nothing is closed after it. -/
theorem switch_on_not_closes :
    let e := (create {} { sampleRate := 8000, periodMs := 1 } .manual : SimulatedEngine).after
      [.call .bringUp]
    let e' := (e.trySwitch true).2
    (e.trySwitch true).1 = .ok false
      ∧ ¬ ((∀ d, e'.state d = .closed) ∧ (∀ d, e'.host.live d = [])
          ∧ e'.line.channel = none ∧ e'.effectOn = false) := by
  intro e e'
  refine ⟨rfl, ?_⟩
  rintro ⟨hstate, _⟩
  have hopened : e'.state .input = .opened := rfl
  rw [hstate .input] at hopened
  cases hopened

end Engine

end Passthrough
