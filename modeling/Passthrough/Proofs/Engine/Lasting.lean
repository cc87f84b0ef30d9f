import Passthrough.Proofs.Engine.Calls
/-!
# Invariants that last

An invariant of an engine on any host, shown for the programs that ask the host and lifted to every
call.

Only four programs ask the host for anything: those that stop, start, close and open one side. An
invariant may be broken inside the programs that open a side, because the channel is made before
anything is open; so these two, `openSides` and `replaceOutput`, are shown as a whole. All the other
programs and calls are put together from those, and from changes that an invariant has to survive
anyway (`LastingInvariant`).

* **`Lasts`** — a program does not crash, and leaves the invariant as it found it.
* **`SteadyInvariant`** — what lasts as long as nothing is opened.
* **`LastingInvariant.call`** — what lasts through these programs lasts through every call.
-/

namespace Passthrough

open Engine

namespace EngineM

variable {H α β : Type} {I : Engine H → Prop} {x : EngineM H α}

/-- **A program through which an invariant lasts**, whether it succeeds or fails. -/
def Lasts (I : Engine H → Prop) (x : EngineM H α) : Prop :=
  ∀ e, I e → Ends x e fun _ e' => I e'

/-! ## How programs go on -/

theorem lasts_pure (a : α) : Lasts I (pure a) := fun _ h => ends_pure h

theorem lasts_fail (err : AudioError) : Lasts I (fail err : EngineM H α) := fun _ h => ends_fail h

theorem lasts_fail_bind (err : AudioError) (f : α → EngineM H β) : Lasts I (fail err >>= f) :=
  fun _ h => ends_of_error (by rw [bind_apply, fail_apply]) h

/-- A reply that was kept is handed on, from an engine that has the invariant already. -/
theorem lasts_ofExcept (r : Except AudioError α) : Lasts I (ofExcept r) :=
  fun _ h => ends_ofExcept h

theorem lasts_modify {g : Engine H → Engine H} (hg : ∀ e, I e → I (g e)) :
    Lasts I (modify g) := fun e h => ends_modify (hg e h)

/-- What lasts through both parts of a program lasts through the program; where the first fails, it
has lasted that far. -/
theorem Lasts.bind {f : α → EngineM H β} (h : Lasts I x) (hf : ∀ a, Lasts I (f a)) :
    Lasts I (x >>= f) :=
  fun e he => (h e he).bind (fun a e' h' => hf a e' h') fun _ _ h' => h'

/-- An attempted program goes on with whatever it was answered, from an engine that has the
invariant in either case. -/
theorem Lasts.attempt_bind {g : Except AudioError α → EngineM H β} (h : Lasts I x)
    (hg : ∀ r, Lasts I (g r)) : Lasts I (attempt x >>= g) :=
  fun e he => (h e he).attempt_bind fun r e' h' => hg r e' h'

/-- What is read is any engine, since `Lasts` does not say from which one the rest is run. -/
theorem lasts_get_bind {f : Engine H → EngineM H β} (h : ∀ e, Lasts I (f e)) :
    Lasts I (get >>= f) :=
  fun e he => ends_get_bind (h e e he)

/-- What lasts through both arms lasts through the branch, without a look at the condition. -/
theorem lasts_ite {c : Prop} [Decidable c] {y : EngineM H α} (hx : Lasts I x) (hy : Lasts I y) :
    Lasts I (if c then x else y) := by
  split
  · exact hx
  · exact hy

/-- A call of a program does not crash, so it leaves what the program leaves, and does not poison
the engine. -/
theorem Lasts.runAnyway {e : Engine H} (h : Lasts I x) (he : I e) : I (e.runAnyway x).2 := by
  obtain ⟨_, _, h'⟩ := (h e he).runAnyway
  exact h'

/-- The same for calls that look at the poison first; a poisoned engine is left alone. -/
theorem Lasts.run {e : Engine H} (h : Lasts I x) (he : I e) : I (e.run x).2 := by
  unfold Engine.run
  split
  · exact he
  · exact h.runAnyway he

/-! ## Invariants -/

/-- What the callbacks and the sides do not see of a change: the host, the handles, the states, the
configuration, the observer and what it was given stay, the channel stays or is given up and none is
made, no event is added, and nothing has died. -/
structure Marks (e e' : Engine H) : Prop where
  host : e'.host = e.host := by rfl
  streams : e'.streams = e.streams := by rfl
  states : e'.line.states = e.line.states := by rfl
  config : e'.config = e.config := by rfl
  observer : e'.observer = e.observer := by rfl
  poisoned : e'.poisoned = e.poisoned := by rfl
  heard : e'.line.heard = e.line.heard := by rfl
  channel : e'.line.channel = e.line.channel ∨ e'.line.channel = none := by exact Or.inl rfl
  channelId : e'.line.channelId = e.line.channelId := by rfl
  pending : ∀ event ∈ e'.line.link.pending, event ∈ e.line.link.pending := by exact fun _ h => h

variable [StreamHost Handler Line H]

/-! An invariant that holds even in the midst of an opening lasts through the programs that open, if
it does through those of one side. -/

theorem lasts_inputRate : Lasts I (inputRate : EngineM H Nat) := by
  unfold inputRate
  exact lasts_get_bind fun _ => lasts_pure _

/-- An invariant that survives a new channel and the opening of one side lasts through the opening
of the pair, on all three of its paths. These are the refusal of the input, the refusal of the
output with the closing of the input, and success. -/
theorem lasts_openSides (hmark : ∀ {e e'}, I e → Marks e e' → I e')
    (hattach : ∀ e length, I e → I { e with line := e.line.renew length })
    (hopen : ∀ d rate, Lasts I (openSide d rate)) (hclose : ∀ d, Lasts I (closeSide d)) :
    Lasts I (openSides : EngineM H Unit) := by
  have hdetach : Lasts I (modifyLine Line.detach) := lasts_modify fun _ h => hmark h {}
  -- giving up the pair drops its channel, on each of the two ways there
  have habandon : ∀ err, Lasts I (abandonPair >>= fun _ => fail err : EngineM H Unit) := by
    intro err
    refine Lasts.bind (lasts_modify fun _ h => ?_) fun _ => lasts_fail err
    exact hmark h { channel := Or.inr rfl }
  unfold openSides
  refine lasts_get_bind fun e => lasts_ite (lasts_fail_bind _ _) ?_
  refine Lasts.bind (lasts_modify fun e h => hattach e _ h) fun _ => ?_
  refine (hopen .input _).attempt_bind fun r => ?_
  cases r with
  | error err => exact hdetach.bind fun _ => habandon err
  | ok _ =>
    refine lasts_inputRate.bind fun rate => (hopen .output rate).attempt_bind fun r => ?_
    cases r with
    | ok _ => exact lasts_pure ()
    | error err => exact hdetach.bind fun _ => (hclose .input).attempt_bind fun _ => habandon err

/-- Likewise it lasts through the replacement of the output, which opens no channel. The rate is
read off the input before anything is done, and without an input nothing is. -/
theorem lasts_replaceOutput (hstop : ∀ d, Lasts I (stopSide d))
    (hclose : ∀ d, Lasts I (closeSide d)) (hopen : ∀ d rate, Lasts I (openSide d rate))
    (hstart : ∀ d, Lasts I (startSide d))
    (restart : Bool) : Lasts I (replaceOutput restart : EngineM H Unit) := by
  unfold replaceOutput
  refine lasts_get_bind fun e => ?_
  cases e.infoOf .input with
  | none => exact lasts_fail _
  | some p =>
    refine (hstop .output).attempt_bind fun _ => (hclose .output).attempt_bind fun _ => ?_
    exact (hopen .output p.sampleRate).bind fun _ => lasts_ite (hstart .output) (lasts_pure ())

/-- **A steady invariant** lasts as long as nothing is opened: through the programs that stop, start
and close one side, and through changes that no side sees. -/
structure SteadyInvariant (I : Engine H → Prop) : Prop where
  mark {e e' : Engine H} (h : I e) (marks : Marks e e') : I e'
  stopSide (d : Direction) : Lasts I (stopSide d)
  startSide (d : Direction) : Lasts I (startSide d)
  closeSide (d : Direction) : Lasts I (closeSide d)

/-- **An invariant that lasts**: it is steady, and it also lasts through the programs that open a
side and through what the configuration calls do. -/
structure LastingInvariant (I : Engine H → Prop) : Prop extends SteadyInvariant I where
  openSides : Lasts I openSides
  replaceOutput (restart : Bool) : Lasts I (replaceOutput restart)
  /-- New options are taken over while nothing is held. -/
  configured {e : Engine H} {options : Options} {config : Config} (h : I e)
    (unheld : e.holdsStreams = false) (checked : Config.ofOptions options = .ok config) :
    I { e with config }
  /-- Devices and the interface can be chosen without a new period. -/
  chosen {e : Engine H} {config : Config} (h : I e) (period : config.period = e.config.period) :
    I { e with config }

/-! ### Without an opening -/

namespace SteadyInvariant

variable (hI : SteadyInvariant I)
include hI

/-- A modification that the sides do not see is one that the invariant survives, by `mark`. -/
theorem marked {g : Engine H → Engine H} (hg : ∀ e, Marks e (g e)) : Lasts I (modify g) :=
  lasts_modify fun e h => hI.mark h (hg e)

/-- A notice is not seen by the sides. This and the lemmas after it give every program that opens
nothing to a `SteadyInvariant`. -/
theorem publish (kind : Occurrence) (detail : Option String) :
    Lasts I (EngineM.publish kind detail : EngineM H Unit) :=
  hI.marked fun _ => {}

/-- Detaching the line is not seen: it makes events that come later get lost, and loses none that
wait. -/
theorem detach : Lasts I (modifyLine Line.detach : EngineM H Unit) :=
  hI.marked fun _ => {}

theorem abandonPair (err : AudioError) :
    Lasts I (EngineM.abandonPair >>= fun _ => fail err : EngineM H Unit) :=
  Lasts.bind (hI.marked fun _ => { channel := Or.inr rfl }) fun _ => lasts_fail err

theorem stopSides : Lasts I (EngineM.stopSides : EngineM H Unit) := by
  unfold EngineM.stopSides
  refine (hI.stopSide .output).attempt_bind fun output => ?_
  refine (hI.stopSide .input).attempt_bind fun input => ?_
  exact (hI.marked fun _ => {}).bind fun _ => lasts_ofExcept _

/-- Starting both sides is two starts and a mark, or a refusal before either. -/
theorem startSides : Lasts I (EngineM.startSides : EngineM H Unit) := by
  unfold EngineM.startSides
  refine lasts_get_bind fun e => lasts_ite (lasts_fail_bind _ _) ?_
  exact (hI.startSide .input).bind fun _ => (hI.startSide .output).bind fun _ =>
    hI.marked fun _ => {}

/-- Shutting down is two stops, two closings and marks in between; no opening is part of it. -/
theorem shutDown : Lasts I (EngineM.shutDown : EngineM H Unit) := by
  unfold EngineM.shutDown
  refine hI.stopSides.attempt_bind fun stopped => hI.detach.bind fun _ => ?_
  refine (hI.closeSide .output).attempt_bind fun output => ?_
  refine (hI.closeSide .input).attempt_bind fun input => ?_
  refine Lasts.bind ?_ fun _ => lasts_ofExcept _
  exact hI.marked fun _ => { channel := Or.inr rfl }

theorem bringDown : Lasts I (EngineM.bringDown : EngineM H Unit) := by
  unfold EngineM.bringDown
  refine lasts_get_bind fun e => hI.shutDown.attempt_bind fun r => lasts_ite ?_ ?_
  · exact (hI.publish _ _).bind fun _ => lasts_ofExcept r
  · exact lasts_ofExcept r

theorem start : Lasts I (EngineM.start : EngineM H Unit) := by
  unfold EngineM.start
  exact hI.startSides.bind fun _ => hI.publish _ _

theorem stop : Lasts I (EngineM.stop : EngineM H Unit) := by
  unfold EngineM.stop
  refine lasts_get_bind fun e => hI.stopSides.attempt_bind fun r => lasts_ite ?_ ?_
  · exact (hI.publish _ _).bind fun _ => lasts_ofExcept r
  · exact lasts_ofExcept r

/-- Turning the effect off opens nothing, so a steady invariant lasts through it; turning it on
takes a `LastingInvariant`. -/
theorem switchOff : Lasts I (EngineM.switch false : EngineM H Unit) := by
  unfold EngineM.switch
  refine lasts_get_bind fun e => lasts_ite (lasts_pure ()) ?_
  simp only [Bool.false_eq_true, if_false]
  refine hI.stop.attempt_bind fun stopped => hI.bringDown.attempt_bind fun closed => ?_
  exact (hI.marked fun _ => {}).bind fun _ => lasts_ofExcept _

/-- What a repair that has failed does about it: a shutdown, a mark and a notice, and then it fails
itself. -/
theorem giveUp (err : AudioError) :
    Lasts I (attempt EngineM.shutDown >>= fun _ => modify (fun e => { e with effectOn := false })
      >>= fun _ => EngineM.publish .deviceChangeFailed (some err.message)
      >>= fun _ => fail err : EngineM H Unit) :=
  hI.shutDown.attempt_bind fun _ => Lasts.bind (hI.marked fun _ => {}) fun _ =>
    (hI.publish _ _).bind fun _ => lasts_fail err

/-- Ending a session does not fail, whatever fails in it: both of its parts are attempted. So it
answers with `.ok ()` in every case, and the worker that ends a session has no error to drop. -/
theorem endSession {e : Engine H} (h : I e) :
    Ends (EngineM.endSession : EngineM H Unit) e fun r e' => r = .ok () ∧ I e' := by
  unfold EngineM.endSession
  refine ends_get_bind ?_
  split
  · refine (hI.stop e h).attempt_bind fun _ e₁ h₁ => ?_
    refine (hI.bringDown e₁ h₁).attempt_bind fun _ e₂ h₂ => ?_
    exact ends_modify ⟨rfl, hI.mark h₂ {}⟩
  · exact ends_pure ⟨rfl, h⟩

end SteadyInvariant

/-! ### Every program and call -/

namespace LastingInvariant

variable (hI : LastingInvariant I)
include hI

theorem bringUp : Lasts I (EngineM.bringUp : EngineM H Unit) := by
  unfold EngineM.bringUp
  refine hI.openSides.bind fun _ => lasts_inputRate.bind fun rate => ?_
  exact lasts_get_bind fun _ => hI.publish _ _

/-- Switching lasts either way; with the effect as asked it is nothing at all. Turning on is opening
and starting, with a closing behind a start that fails; turning off is `switchOff`. -/
theorem switch (on : Bool) : Lasts I (EngineM.switch on : EngineM H Unit) := by
  cases on with
  | false => exact hI.switchOff
  | true =>
    unfold EngineM.switch
    refine lasts_get_bind fun e => lasts_ite (lasts_pure ()) ?_
    simp only [if_true]
    refine hI.bringUp.bind fun _ => hI.start.attempt_bind fun r => ?_
    cases r with
    | ok _ => exact hI.marked fun _ => {}
    | error err => exact hI.bringDown.attempt_bind fun _ => lasts_fail err

/-- To answer a truth value instead of an error changes nothing more. -/
theorem trySwitch (on : Bool) : Lasts I (EngineM.trySwitch on : EngineM H Bool) := by
  unfold EngineM.trySwitch
  refine (hI.switch on).attempt_bind fun r => ?_
  cases r with
  | ok _ => exact lasts_pure true
  | error _ => exact lasts_pure !on

theorem replaceBoth (restart : Bool) : Lasts I (EngineM.replaceBoth restart : EngineM H Unit) := by
  unfold EngineM.replaceBoth
  refine hI.shutDown.attempt_bind fun _ => hI.openSides.bind fun _ => ?_
  exact lasts_ite hI.startSides (lasts_pure ())

/-- A repair replaces, and gives up where that fails; where nothing is lost it does nothing. Which
of the two replacements it is depends on the state of the input alone. -/
theorem repair : Lasts I (EngineM.repair : EngineM H Unit) := by
  unfold EngineM.repair
  refine lasts_get_bind fun e => lasts_ite ?_ (lasts_pure ())
  refine (lasts_ite (hI.replaceBoth e.started) (hI.replaceOutput e.started)).attempt_bind
    fun r => ?_
  cases r with
  | ok _ => exact hI.publish _ _
  | error err => exact hI.giveUp err

/-- Attending to events does not fail, whatever fails in it: what a repair answers is dropped. First
all faults of the batch are told of, and then there are three cases: a session that ends, a repair,
and nothing more. -/
theorem attend {e : Engine H} (h : I e) (batch : List Event) :
    Ends (EngineM.attend batch : EngineM H Unit) e fun r e' => r = .ok () ∧ I e' := by
  obtain ⟨board, hfaults⟩ := publishFaults_apply batch e
  have hmarked : I { e with board } := hI.mark h {}
  unfold EngineM.attend
  refine ends_bind_of_ok hfaults ?_
  split
  · exact hI.endSession hmarked
  · split
    · exact (hI.repair _ hmarked).attempt_bind fun _ _ h' => ends_pure ⟨rfl, h'⟩
    · exact ends_pure ⟨rfl, hmarked⟩

variable {e : Engine H}

/-- Setting options is a change of the configuration, which the invariant has to survive while no
streams are held. -/
theorem configure (h : I e) (options : Options) : I (e.configure options).2 := by
  rcases e.configure_cases options with ⟨_, heq⟩ | ⟨config, hchecked, hheld, heq⟩ <;> rw [heq]
  · exact h
  · exact hI.configured h hheld hchecked

theorem selectApi (h : I e) (api : AudioApi) : I (e.selectApi api).2 := by
  rcases e.selectApi_cases api with heq | ⟨_, heq⟩ <;> rw [heq]
  · exact h
  · exact hI.chosen h rfl

/-- Selecting a device is a change of the configuration that may come at any time. -/
theorem selectDevice (h : I e) (d : Direction) (id : Int) : I (e.selectDevice d id).2 := by
  rcases e.selectDevice_cases d id with ⟨_, heq⟩ | heq <;> rw [heq]
  · exact h
  · cases d <;> exact hI.chosen h rfl

theorem taken (h : I e) : I e.taken :=
  hI.mark h { pending := fun _ hevent => by cases hevent }

theorem attended (h : I e) : ∃ e', e.taken.runAnyway (EngineM.attend e.line.link.pending)
    = (.ok (), e') ∧ I e' := by
  obtain ⟨r, hreply, rfl, h'⟩ := (hI.attend (hI.taken h) e.line.link.pending).runAnyway
  exact ⟨_, Prod.ext hreply rfl, h'⟩

/-- **Every call**, if the invariant survives another observer where one is chosen. It is the step
that an induction over a run takes for calls, on any host. -/
theorem call (h : I e) (c : Call)
    (hobserver : ∀ observer, c = .selectObserver observer → I (e.selectObserver observer)) :
    I (e.call c) := by
  cases c with
  | configure options => exact hI.configure h options
  | selectApi api => exact hI.selectApi h api
  | selectDevice d id => exact hI.selectDevice h d id
  | selectObserver observer => exact hobserver observer rfl
  | bringUp => exact hI.bringUp.run h
  | start => exact hI.start.run h
  | stop => exact hI.stop.run h
  | bringDown => exact hI.bringDown.run h
  | switch on => exact (hI.switch on).run h
  | trySwitch on =>
    show I (e.trySwitch on).2
    unfold Engine.trySwitch
    -- a poisoned engine refuses a try as it is
    split
    · exact h
    · exact (hI.trySwitch on).run h
  | repair => exact hI.repair.run h
  | attendPending => exact attendPending_cases h (hI.taken h) (hI.attended h)
  | runWorker => exact runWorker_cases h (hI.taken h) (hI.attended h)

end LastingInvariant

end EngineM

end Passthrough
