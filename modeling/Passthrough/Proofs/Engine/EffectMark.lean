import Passthrough.Proofs.Engine.Switching
/-!
# The mark of the effect

The effect is a mark of its own, kept apart from the streams, so every call that gives the streams
up has to take the mark back. Turning the effect off does so, and so do a repair that fails and the
end of a session after a fault. Closing the streams does not: it leaves the effect on with nothing
open, and then turning it on answers that it is on.

* **`perform_inStep`** — every other step keeps mark and streams in step, unless it mends them.
* **`perform_adrift_iff`** — what one step does to a mark without streams.
* **`effectHeld_iff`** — a run leaves the mark without streams exactly if it has closed them under
  an effect that was on, and done nothing since that would bring the two together again.
-/

namespace Passthrough

open EngineM SimulatedHost

namespace Engine

variable {e e' : SimulatedEngine} {a : Action}

/-- An effect that counts as on has its streams. -/
def EffectHeld (e : SimulatedEngine) : Prop :=
  e.effectOn = true → ∀ d, (e.streams.get d).isSome = true

/-- The effect counts as on over an engine that holds nothing. -/
def Adrift (e : SimulatedEngine) : Prop := e.effectOn = true ∧ e.holdsStreams = false

/-- Streams are held in both directions or in none, so that an effect either has all its streams or
is adrift, with nothing in between. So `Adrift` is followed through runs in place of `EffectHeld`,
as it speaks of no direction. -/
theorem Sound.effectHeld_iff_not_adrift (h : Sound e) : EffectHeld e ↔ ¬ Adrift e := by
  constructor
  · rintro hheld ⟨hon, hnone⟩
    rw [holdsStreams_iff.mpr ⟨.input, hheld hon .input⟩] at hnone
    cases hnone
  · intro hno hon d
    rcases h.shape with hc | ho
    · exact absurd ⟨hon, hc.holdsStreams⟩ hno
    · obtain ⟨s, hs⟩ := ho.occupied d
      rw [hs.handle]
      rfl

/-! ## In step -/

/-- **Mark and streams in step.** Neither has changed; or streams are held where the effect was off;
or the effect is off where streams were held. -/
inductive InStep (e e' : SimulatedEngine) : Prop
  | same (mark : e'.effectOn = e.effectOn) (held : e'.holdsStreams = e.holdsStreams)
  | turnedOn (off : e.effectOn = false) (held : e'.holdsStreams = true)
  | ended (held : e.holdsStreams = true) (off : e'.effectOn = false)

/-- A step in which mark and streams stay in step neither strands the mark nor mends it. -/
theorem InStep.adrift_iff (h : InStep e e') : Adrift e' ↔ Adrift e := by
  unfold Adrift
  cases h with
  | same hmark hheld => rw [hmark, hheld]
  | turnedOn hoff hheld => simp [hoff, hheld]
  | ended hheld hoff => simp [hheld, hoff]

theorem InStep.of_taken (h : InStep e.taken e') : InStep e e' := by
  cases h with
  | same hmark hheld => exact .same hmark hheld
  | turnedOn hoff hheld => exact .turnedOn hoff hheld
  | ended hheld hoff => exact .ended hheld hoff

/-- Between two closed engines only the mark could make a difference, and it has not changed. -/
theorem inStep_of_closed (hc : Closed e) (hc' : Closed e') (hmark : e'.effectOn = e.effectOn) :
    InStep e e' :=
  .same hmark (by rw [hc.holdsStreams, hc'.holdsStreams])

theorem inStep_of_open (ho : Open e) (ho' : Open e') (hmark : e'.effectOn = e.effectOn) :
    InStep e e' :=
  .same hmark (by rw [ho.holdsStreams, ho'.holdsStreams])

/-- A recovery that carries the session on keeps the mark, and one that gives up takes it back with
the streams. This is what a closing of the streams omits. -/
theorem Recovers.inStep (h : Recovers e e') : InStep e e' := by
  rcases h.outcome with hrep | hended
  · exact inStep_of_open h.wasOpen hrep.isOpen hrep.effectOn
  · exact .ended h.wasOpen.holdsStreams hended.effectOn

/-- The hardware can neither open nor close an engine, and does not know of the mark. -/
theorem Endures.inStep (h : Endures e e') : InStep e e' := by
  rcases h with rfl | ⟨d, hopen, hdisturbs, hopen'⟩
  · exact .same rfl rfl
  · exact inStep_of_open hopen hopen' hdisturbs.effectOn

/-! ## The calls -/

theorem configures_inStep {c : Call} (hc : c.configures = true) : InStep e (e.call c) := by
  obtain ⟨_, _, heq, _⟩ := e.call_of_configures hc
  rw [heq]
  exact .same rfl rfl

theorem start_inStep (h : Sound e) : Ends EngineM.start e fun _ e' => InStep e e' := by
  rcases h.shape with hc | ho
  · exact ends_of_error (start_of_closed hc) (.same rfl rfl)
  · exact (start_ends ho).mono fun r e' ⟨_, hmark, hopen, _⟩ => inStep_of_open ho hopen hmark

theorem stop_inStep (h : Sound e) : Ends EngineM.stop e fun _ e' => InStep e e' := by
  refine (stop_ends h.settled).mono fun r e' hhalt => ?_
  rcases h.shape with hc | ho
  · exact inStep_of_closed hc (hhalt.closed hc) hhalt.effectOn
  · exact inStep_of_open ho (hhalt.open ho) hhalt.effectOn

theorem repair_inStep (h : Sound e) : Ends EngineM.repair e fun _ e' => InStep e e' := by
  refine (repair_recovers h).mono fun r e' hcases => ?_
  rcases hcases with rfl | hrecovers
  · exact .same rfl rfl
  · exact hrecovers.inStep

/-- What is attended to has been taken before, and that changes neither mark nor streams. What
follows is a recovery, or notices. Both outcomes of `attend_recovers` are `InStep`, the second by
what a recovery does to mark and streams alike. -/
theorem attend_taken_inStep (h : Sound e) (batch : List Event) :
    ∃ e', e.taken.runAnyway (attend batch) = (.ok (), e') ∧ InStep e e' := by
  obtain ⟨r, hreply, hr, hcases⟩ := (attend_recovers h.taken batch).runAnyway
  rw [hr] at hreply
  refine ⟨(e.taken.runAnyway (attend batch)).2, Prod.ext hreply rfl, ?_⟩
  rcases hcases with ⟨board, heq⟩ | hrecovers
  · rw [heq]
    exact .same rfl rfl
  · exact hrecovers.inStep.of_taken

/-- Where turning on succeeds, the streams come with the mark; where it is refused or fails, neither
comes. On an engine that is adrift it changes nothing at all. -/
theorem switch_on_inStep (h : Sound e) : InStep e (e.switch true).2 := by
  cases hon : e.effectOn with
  | true =>
    rw [switch_as_is h hon]
    exact .same rfl rfl
  | false =>
    rcases h.shape with hc | ho
    · rcases switch_on_outcome h hon hc with ⟨_, hfresh, _⟩ | ⟨_, _, hended⟩
      · exact .turnedOn hon hfresh.isOpen.holdsStreams
      · exact inStep_of_closed hc hended.isClosed (hended.effectOn.trans hon.symm)
    · rw [switch_on_refused h hon ho]
      exact .same rfl rfl

/-! ## Mending

A mark without streams goes when it is turned off, and gets its streams when they are opened. -/

/-- Whether an action brings mark and streams together, whatever they were. -/
def mends (a : Action) (e : SimulatedEngine) : Bool :=
  match a with
  | .call .bringUp => e.bringUp.1.isOk
  | .call (.switch on) | .call (.trySwitch on) => !on
  | _ => false

/-- An opening ends open, and then the streams are there for a mark that was adrift, or it changes
nothing that the mark could notice. An open engine refuses with `alreadyOpen` and stays as it was,
which is the second case too. -/
theorem bringUp_outcome (h : Sound e) :
    (e.bringUp.1.isOk = true ∧ Open e.bringUp.2)
      ∨ (e.bringUp.1.isOk = false ∧ InStep e e.bringUp.2) := by
  rcases h.shape with hc | ho
  · obtain ⟨r, hreply, _, hmark, hcases⟩ := (bringUp_closed_ends hc h.numbered).run h.poisoned
    rcases hcases with ⟨rfl, hfresh, _⟩ | ⟨⟨err, rfl⟩, hclosed⟩
    · exact Or.inl ⟨congrArg Except.isOk hreply, hfresh.isOpen⟩
    · exact Or.inr ⟨congrArg Except.isOk hreply, inStep_of_closed hc hclosed hmark⟩
  · have hrefused : e.bringUp = (.error (.error .alreadyOpen), e) :=
      run_of_error (bringUp_of_open ho) h.poisoned
    rw [hrefused]
    exact Or.inr ⟨rfl, .same rfl rfl⟩

/-- Turning the effect off takes the mark back, with streams or without, so nothing is adrift after
it. The two cases are those of `switch`: it turns off what was on, or the effect was off already and
nothing happens. -/
theorem switch_off_not_adrift (h : Sound e) : ¬ Adrift (e.switch false).2 := by
  rintro ⟨hon, _⟩
  cases hwas : e.effectOn with
  | true =>
    rw [(switch_off_ended h hwas).2.effectOn] at hon
    cases hon
  | false =>
    rw [switch_as_is h hwas, hwas] at hon
    cases hon

/-- A step that `mends` leaves nothing adrift: it takes the mark back, or it opens the streams.
These are the only steps that can end a stranding, which is one half of `perform_adrift_iff`. -/
theorem not_adrift_of_mends (h : Sound e) (hmends : mends a e = true) :
    ¬ Adrift (e.perform a) := by
  unfold mends at hmends
  split at hmends
  · -- a pair that has just been opened is held, so the mark has its streams
    rcases bringUp_outcome h with ⟨_, hopen⟩ | ⟨hfailed, _⟩
    · rintro ⟨_, hnone⟩
      have hheld : (e.perform (.call .bringUp)).holdsStreams = true := hopen.holdsStreams
      rw [hheld] at hnone
      cases hnone
    · rw [hfailed] at hmends
      cases hmends
  · next on =>
    cases on with
    | true => cases hmends
    | false => exact switch_off_not_adrift h
  · next on =>
    cases on with
    | true => cases hmends
    | false =>
      show ¬ Adrift (e.call (.trySwitch false))
      rw [call_trySwitch h]
      exact switch_off_not_adrift h
  · cases hmends

/-! ## Every step -/

/-- Every call that does not mend keeps mark and streams in step, but for the closing. This goes
call by call, since each treats the mark in its own way. -/
theorem call_inStep (h : Sound e) {c : Call} (hclosing : c ≠ .bringDown)
    (hmends : mends (.call c) e = false) : InStep e (e.call c) := by
  cases c with
  | configure | selectApi | selectDevice | selectObserver => exact configures_inStep rfl
  | bringUp =>
    rcases bringUp_outcome h with ⟨hok, _⟩ | ⟨_, hinStep⟩
    · -- an opening that succeeds would have mended
      have hno : e.bringUp.1.isOk = false := hmends
      rw [hok] at hno
      cases hno
    · exact hinStep
  | start =>
    obtain ⟨_, _, hinStep⟩ := (start_inStep h).run h.poisoned
    exact hinStep
  | stop =>
    obtain ⟨_, _, hinStep⟩ := (stop_inStep h).run h.poisoned
    exact hinStep
  | bringDown => exact absurd rfl hclosing
  | switch on =>
    cases on with
    | true => exact switch_on_inStep h
    | false => cases hmends
  | trySwitch on =>
    cases on with
    | true =>
      rw [call_trySwitch h]
      exact switch_on_inStep h
    | false => cases hmends
  | repair =>
    obtain ⟨_, _, hinStep⟩ := (repair_inStep h).run h.poisoned
    exact hinStep
  | attendPending =>
    exact attendPending_cases (P := InStep e) (.same rfl rfl) (.same rfl rfl)
      (attend_taken_inStep h _)
  | runWorker =>
    exact runWorker_cases (P := InStep e) (.same rfl rfl) (.same rfl rfl)
      (attend_taken_inStep h _)

/-- Every step that does not mend does so, but for the closing; what the hardware does is
`Endures.inStep`. The other half: a step that neither mends nor closes carries a mark that is adrift
along, and strands none. -/
theorem perform_inStep (h : Sound e) (hclosing : a ≠ .call .bringDown)
    (hmends : mends a e = false) : InStep e (e.perform a) := by
  cases a with
  | call c => exact call_inStep h (fun hc => hclosing (congrArg Action.call hc)) hmends
  | script s => exact .same rfl rfl
  | collect => exact .same rfl rfl
  | feed frames => exact (feed_endures h frames).inStep
  | draw dest => exact (draw_endures h dest).inStep
  | unplug d error => exact (unplug_endures h d error).inStep

/-- Closing the streams leaves the mark as it is, so it strands the mark exactly if the effect was
on. It is the only step at which the mark and the streams part. -/
theorem bringDown_adrift_iff (h : Sound e) :
    Adrift (e.perform (.call .bringDown)) ↔ e.effectOn = true := by
  obtain ⟨_, _, hclosed, _, hmark⟩ := (bringDown_ends h.settled).run h.poisoned
  have hmark' : (e.perform (.call .bringDown)).effectOn = e.effectOn := hmark
  have hnone : (e.perform (.call .bringDown)).holdsStreams = false := hclosed.holdsStreams
  unfold Adrift
  rw [hmark', hnone]
  simp

/-- **One step of a mark without streams.** Closing the streams under an effect that is on makes
one, and one that is there stays until an action mends it. -/
theorem perform_adrift_iff (h : Sound e) (a : Action) :
    Adrift (e.perform a)
      ↔ (a = .call .bringDown ∧ e.effectOn = true) ∨ (Adrift e ∧ mends a e = false) := by
  by_cases hclosing : a = .call .bringDown
  · subst hclosing
    rw [bringDown_adrift_iff h]
    constructor
    · exact fun hon => Or.inl ⟨rfl, hon⟩
    · rintro (⟨_, hon⟩ | ⟨⟨hon, _⟩, _⟩)
      · exact hon
      · exact hon
  · cases hmends : mends a e with
    -- whatever was before, nothing is adrift now
    | true =>
      have hno := not_adrift_of_mends h hmends
      simp [hclosing, hno]
    | false =>
      rw [(perform_inStep h hclosing hmends).adrift_iff]
      simp [hclosing]

/-! ## Runs -/

/-- Nothing in the run mends what it finds. -/
def Unmended (e : SimulatedEngine) : List Action → Prop
  | [] => True
  | a :: as => mends a e = false ∧ Unmended (e.perform a) as

theorem unmended_cons {as : List Action} :
    Unmended e (a :: as) ↔ mends a e = false ∧ Unmended (e.perform a) as := Iff.rfl

/-- **A run that strands the mark.** It closes the streams under an effect that is on, and mends
nothing after that. -/
def Strands (e : SimulatedEngine) (as : List Action) : Prop :=
  ∃ bs cs, as = bs ++ .call .bringDown :: cs ∧ (e.after bs).effectOn = true
    ∧ Unmended (e.after (bs ++ [.call .bringDown])) cs

/-- A run strands the mark with its first step or in the rest, which is the form that an induction
over runs needs. The list of `Strands` is cut at its first step in both directions. -/
theorem strands_cons {as : List Action} : Strands e (a :: as)
    ↔ (a = .call .bringDown ∧ e.effectOn = true ∧ Unmended (e.perform a) as)
      ∨ Strands (e.perform a) as := by
  constructor
  · rintro ⟨bs, cs, heq, hon, hrest⟩
    cases bs with
    | nil =>
      obtain ⟨rfl, rfl⟩ := List.cons.inj heq
      exact Or.inl ⟨rfl, hon, hrest⟩
    | cons b bs =>
      obtain ⟨rfl, rfl⟩ := List.cons.inj heq
      exact Or.inr ⟨bs, cs, rfl, hon, hrest⟩
  · rintro (⟨rfl, hon, hrest⟩ | ⟨bs, cs, rfl, hon, hrest⟩)
    · exact ⟨[], as, rfl, hon, hrest⟩
    · exact ⟨a :: bs, cs, rfl, hon, hrest⟩

/-- **A whole run.** The mark is without streams after it if the run has stranded it, or if it was
so before and nothing has mended it. Each step is settled by `perform_adrift_iff`, and the two ways
to be adrift are carried along by `strands_cons` and `unmended_cons`. -/
theorem after_adrift_iff (h : Sound e) (as : List Action) :
    Adrift (e.after as) ↔ Strands e as ∨ (Adrift e ∧ Unmended e as) := by
  -- by induction on the run, for any engine that it may start from
  induction as generalizing e with
  | nil =>
    have hno : ¬ Strands e [] := by
      rintro ⟨bs, cs, heq, _⟩
      cases bs <;> cases heq
    show Adrift e ↔ _
    simp [hno, Unmended]
  | cons a as ih =>
    have hrun : Adrift (e.after (a :: as))
        ↔ Strands (e.perform a) as ∨ (Adrift (e.perform a) ∧ Unmended (e.perform a) as) :=
      ih (perform_sound h a).1
    rw [hrun, strands_cons, unmended_cons, perform_adrift_iff h a]
    constructor
    · rintro (hstrands | ⟨⟨rfl, hon⟩ | ⟨hadrift, hmends⟩, hrest⟩)
      · exact Or.inl (Or.inr hstrands)
      · exact Or.inl (Or.inl ⟨rfl, hon, hrest⟩)
      · exact Or.inr ⟨hadrift, hmends, hrest⟩
    · rintro ((⟨rfl, hon, hrest⟩ | hstrands) | ⟨hadrift, hmends, hrest⟩)
      · exact Or.inr ⟨Or.inl ⟨rfl, hon⟩, hrest⟩
      · exact Or.inl hstrands
      · exact Or.inr ⟨Or.inr ⟨hadrift, hmends⟩, hrest⟩

/-- **The mark and the streams**, after any run. An effect that counts as on has a stream in each
direction unless the run has stranded the mark. If it has, everything is closed, and to turn the
effect on is answered with success and opens nothing. -/
theorem effectHeld_iff (config : Config) (recovery : Recovery) (noticeCapacity : Nat)
    (as : List Action) (tap : Option (ObserverId × Tap)) (taps : Nat) :
    let new : SimulatedEngine := create {} config recovery noticeCapacity
    let e := new.after as
    (EffectHeld e ↔ ¬ Strands new as)
      ∧ (Strands new as → e.effectOn = true ∧ (∀ d, e.state d = .closed ∧ e.host.live d = [])
          ∧ e.switch true = (.ok (), e)
          ∧ (Session.mk e tap taps).switchOn = (.ok .ok, Session.mk e tap taps)) := by
  intro new e
  have hnew : Sound new := sound_create config recovery noticeCapacity
  have h : Sound e := (after_sound hnew as).1
  have hadrift : Adrift e ↔ Strands new as := by
    rw [after_adrift_iff hnew as]
    -- a new engine is off
    have hoff : ¬ Adrift new := by
      rintro ⟨hon, _⟩
      cases hon
    simp [hoff]
  refine ⟨by rw [h.effectHeld_iff_not_adrift, hadrift], fun hstrands => ?_⟩
  obtain ⟨hon, hnone⟩ := hadrift.mpr hstrands
  have hsame : e.switch true = (.ok (), e) := switch_as_is h hon
  have hvacant := (h.isClosed hnone).vacant
  refine ⟨hon, fun d => ⟨(hvacant d).state, (hvacant d).live⟩, hsame, ?_⟩
  unfold Session.switchOn
  rw [hsame]
  rfl

/-- The effect is turned on, the streams are closed, and the effect cannot be turned on again: the
call answers that it is on, and leaves both directions closed. -/
theorem switch_on_answers_when_closed :
    let e := (create {} { sampleRate := 8000, periodMs := 1 } .manual : SimulatedEngine).after
      [.call (.switch true), .call .bringDown]
    ¬ EffectHeld e ∧ (∀ d, e.state d = .closed) ∧ e.switch true = (.ok (), e) := by
  intro e
  obtain ⟨hheld, hstranded⟩ := effectHeld_iff { sampleRate := 8000, periodMs := 1 } .manual 64
    [.call (.switch true), .call .bringDown] none 0
  have hstrands : Strands (create {} { sampleRate := 8000, periodMs := 1 } .manual 64)
      [.call (.switch true), .call .bringDown] :=
    ⟨[.call (.switch true)], [], rfl, rfl, trivial⟩
  obtain ⟨_, hclosed, hsame, _⟩ := hstranded hstrands
  exact ⟨fun h => hheld.mp h hstrands, fun d => (hclosed d).1, hsame⟩

end Engine

end Passthrough
