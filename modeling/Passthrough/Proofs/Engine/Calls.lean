import Passthrough.Proofs.Engine.Recovery
/-!
# The calls of an engine

What every call of an engine on simulated hardware leaves, whether it succeeds or fails.

* **`Sound`** — the invariant between two calls: closed or open, not poisoned, and with a listener.
* **`call_of_configures`** — the calls that only set something change nothing else.
* **`Leaves`** — what a call makes of a sound engine: it is sound again, over a new channel if the
  call made one, and else over the old one or over none.
* **`call_leaves`** — every call does so.
-/

namespace Passthrough

open EngineM SimulatedHost

/-! ## Calls -/

/-- A call of an engine, from its owner or from its worker. -/
inductive Call
  | configure (options : Options)
  | selectApi (api : AudioApi)
  | selectDevice (d : Direction) (id : Int)
  | selectObserver (observer : Option ObserverId)
  | bringUp
  | start
  | stop
  | bringDown
  | switch (on : Bool)
  | trySwitch (on : Bool)
  | repair
  | attendPending
  | runWorker
  deriving DecidableEq

/-- The calls that only set something. -/
def Call.configures : Call → Bool
  | .configure _ | .selectApi _ | .selectDevice _ _ | .selectObserver _ => true
  | _ => false

/-- A configuration with another device for a direction. -/
def Config.withDevice (c : Config) (d : Direction) (id : Int) : Config :=
  match d with
  | .input => { c with recordDeviceId := id }
  | .output => { c with playbackDeviceId := id }

namespace Engine

/-- The engine after a call, whatever the call answers. -/
def call {H : Type} [StreamHost Handler Line H] (c : Call) (e : Engine H) : Engine H :=
  match c with
  | .configure options => (e.configure options).2
  | .selectApi api => (e.selectApi api).2
  | .selectDevice d id => (e.selectDevice d id).2
  | .selectObserver observer => e.selectObserver observer
  | .bringUp => e.bringUp.2
  | .start => e.start.2
  | .stop => e.stop.2
  | .bringDown => e.bringDown.2
  | .switch on => (e.switch on).2
  | .trySwitch on => (e.trySwitch on).2
  | .repair => e.repair.2
  | .attendPending => e.attendPending.2
  | .runWorker => e.runWorker

/-! ### Calls that configure

Each of them is refused as a whole, or takes over what it was given. -/

section Configures

variable {H : Type} (g : Engine H)

/-- Options are refused as a whole, for what they say or because streams are held, or they are
resolved into a configuration. With the two lemmas below it makes `call_of_configures`. -/
theorem configure_cases (options : Options) :
    (∃ err, g.configure options = (.error err, g))
      ∨ ∃ config, Config.ofOptions options = .ok config ∧ g.holdsStreams = false
        ∧ g.configure options = (.ok (), { g with config }) := by
  unfold configure
  cases Config.ofOptions options with
  | error err => exact Or.inl ⟨err, rfl⟩
  | ok config =>
    cases g.holdsStreams with
    | true => exact Or.inl ⟨_, rfl⟩
    | false => exact Or.inr ⟨config, rfl, rfl, rfl⟩

/-- An interface is taken over only while no streams are held, for a stream keeps the interface that
it was opened on. While the effect is on it is refused as well, also where no stream is held. -/
theorem selectApi_cases (api : AudioApi) :
    g.selectApi api = (false, g)
      ∨ g.holdsStreams = false
        ∧ g.selectApi api = (true, { g with config := { g.config with audioApi := api } }) := by
  unfold selectApi
  split
  · exact Or.inl rfl
  · next hfree =>
    rw [Bool.or_eq_true, not_or, Bool.not_eq_true, Bool.not_eq_true] at hfree
    exact Or.inr ⟨hfree.2, rfl⟩

/-- A device is taken over whether or not streams are held, for it only counts at the next opening.
All that can be wrong is its number. The check of the number is the one of the options
(`Config.deviceId`), under the field of the direction. -/
theorem selectDevice_cases (d : Direction) (id : Int) :
    (∃ err, g.selectDevice d id = (.error err, g))
      ∨ g.selectDevice d id = (.ok (), { g with config := g.config.withDevice d id }) := by
  unfold selectDevice
  by_cases hneg : id < 0
  · have hrefused : Config.deviceId (deviceField d) id
        = .error (.outOfRange (deviceField d) id) := if_pos hneg
    rw [hrefused]
    exact Or.inl ⟨_, rfl⟩
  · have hpasses : Config.deviceId (deviceField d) id = .ok id := if_neg hneg
    rw [hpasses]
    cases d <;> exact Or.inr rfl

/-- **What configuring comes to**: another configuration or observer, and while streams are held
other devices at most. Every invariant of calls has these four in one case by it, and none of their
definitions has to be opened again. -/
theorem call_of_configures [StreamHost Handler Line H] {c : Call} (hc : c.configures = true) :
    ∃ config observer, g.call c = { g with config, observer }
      ∧ (g.holdsStreams = true → ∃ recordDeviceId playbackDeviceId,
          config = { g.config with recordDeviceId, playbackDeviceId }) := by
  cases c with
  | configure options =>
    rcases g.configure_cases options with ⟨_, heq⟩ | ⟨config, _, hheld, heq⟩
    · exact ⟨g.config, g.observer, congrArg Prod.snd heq, fun _ => ⟨_, _, rfl⟩⟩
    · exact ⟨config, g.observer, congrArg Prod.snd heq, fun hh => by simp [hheld] at hh⟩
  | selectApi api =>
    rcases g.selectApi_cases api with heq | ⟨hheld, heq⟩
    · exact ⟨g.config, g.observer, congrArg Prod.snd heq, fun _ => ⟨_, _, rfl⟩⟩
    · exact ⟨_, g.observer, congrArg Prod.snd heq, fun hh => by simp [hheld] at hh⟩
  | selectDevice d id =>
    rcases g.selectDevice_cases d id with ⟨_, heq⟩ | heq
    · exact ⟨g.config, g.observer, congrArg Prod.snd heq, fun _ => ⟨_, _, rfl⟩⟩
    · refine ⟨_, g.observer, congrArg Prod.snd heq, fun _ => ?_⟩
      -- the device of one direction is chosen, and the other keeps its own
      cases d <;> exact ⟨_, _, rfl⟩
  | selectObserver observer => exact ⟨g.config, observer, rfl, fun _ => ⟨_, _, rfl⟩⟩
  | _ => cases hc

/-- The calls that only set something do not ask the host, whichever host that is. -/
theorem host_of_configures [StreamHost Handler Line H] {c : Call} (hc : c.configures = true) :
    (g.call c).host = g.host := by
  obtain ⟨_, _, heq, _⟩ := g.call_of_configures hc
  rw [heq]

end Configures

/-! ### Calls that make a channel -/

/-- Whether the pair of a lost input has been rebuilt between two states of the engine. -/
def rebuilt (e e' : SimulatedEngine) : Bool :=
  e.state .input = .error && e'.holdsStreams && e'.state .input ≠ .error

/-- Whether a call makes a channel: a successful opening, the effect switched on, or a recovery that
rebuilds the pair. -/
def renews (c : Call) (e : SimulatedEngine) : Bool :=
  match c with
  | .bringUp => e.bringUp.1.isOk
  | .switch on => on && !e.effectOn && (e.switch on).1.isOk
  | .trySwitch on => on && !e.effectOn && (e.trySwitch on).1.toOption = some true
  | .repair | .attendPending | .runWorker => rebuilt e (e.call c)
  | _ => false

/-! ## The invariant -/

/-- **An engine between two steps of a run.** -/
structure Sound (e : SimulatedEngine) : Prop where
  shape : Closed e ∨ Open e
  poisoned : e.poisoned = false
  listening : e.line.link.listening = true
  numbered : Numbered e.host

/-- A new engine is closed, and not poisoned. Runs start from it, so this is the base of every
induction over a run. There are no streams on the host, so that no number has been given out that a
stream could have. -/
theorem sound_create (config : Config) (recovery : Recovery) (noticeCapacity : Nat) :
    Sound (create {} config recovery noticeCapacity) where
  shape := Or.inl ⟨fun d => by cases d <;> exact ⟨rfl, rfl, rfl⟩, rfl, rfl, rfl⟩
  poisoned := rfl
  listening := rfl
  numbered := by
    intro x hx
    cases hx

/-- Both sides of a sound engine have one of the two shapes, whichever of them the engine has. The
programs that stop and close ask for no more. -/
theorem Sound.settled {e : SimulatedEngine} (h : Sound e) (d : Direction) : Settled e d := by
  rcases h.shape with hc | ho
  · exact hc.settled d
  · exact ho.settled d

/-- An engine that holds a stream is open in full. The guards of the program look at `holdsStreams`,
and this turns their answer into the shape that the specifications start from. -/
theorem Sound.isOpen {e : SimulatedEngine} (h : Sound e) (hheld : e.holdsStreams = true) :
    Open e := by
  rcases h.shape with hc | ho
  · rw [hc.holdsStreams] at hheld
    cases hheld
  · exact ho

/-- An engine that holds no stream is closed in full, with no channel and nothing attached. -/
theorem Sound.isClosed {e : SimulatedEngine} (h : Sound e) (hnone : e.holdsStreams = false) :
    Closed e := by
  rcases h.shape with hc | ho
  · exact hc
  · rw [ho.holdsStreams] at hnone
    cases hnone

/-- A side that is not closed is one of an open pair, so the other side is occupied as well. No
engine is half open between two calls. -/
theorem Sound.isOpen_of_ne_closed {e : SimulatedEngine} {d : Direction} (h : Sound e)
    (hd : e.state d ≠ .closed) : Open e := by
  rcases h.shape with hc | ho
  · exact absurd (hc.vacant d).state hd
  · exact ho

/-- What is reported to an open engine waits for it: its line is attached, and a sound engine
listens. This is what keeps faults from getting lost. -/
theorem Open.accepts {e : SimulatedEngine} (h : Open e) (hs : Sound e) :
    e.line.link.accepts = true := by
  unfold Link.accepts
  rw [h.attached, hs.listening]
  rfl

/-- **What a step leaves.** The engine is sound as before, over a new channel if the step made one,
and else over the old one or over none. -/
structure Leaves (e e' : SimulatedEngine) (renewed : Bool) : Prop where
  shape : Closed e' ∨ Open e'
  recovery : e'.recovery = e.recovery
  poisoned : e'.poisoned = e.poisoned
  listening : e'.line.link.listening = e.line.link.listening
  host : Follows e.host e'.host
  fresh : renewed = true → Fresh e'
  kept : renewed = false → e'.line.channel = none ∨ e'.line.channel = e.line.channel

variable {e e' : SimulatedEngine} {renewed : Bool}

/-- What a step leaves is sound again, since it is closed or open and neither poison nor the
listener has changed. -/
theorem Leaves.sound (h : Leaves e e' renewed) (hs : Sound e) : Sound e' where
  shape := h.shape
  poisoned := h.poisoned.trans hs.poisoned
  listening := h.listening.trans hs.listening
  numbered := hs.numbered.of_follows h.host

/-- A program that ends closed has made no channel that is still there, and so it leaves what it
should. -/
theorem leaves_closed (hkeep : Keeps e e') (h : Closed e') : Leaves e e' false :=
  ⟨Or.inl h, hkeep.recovery, hkeep.poisoned, hkeep.listening, hkeep.host, by simp,
    fun _ => Or.inl h.channel⟩

theorem leaves_open (hkeep : Keeps e e') (h : Open e')
    (hchannel : e'.line.channel = e.line.channel) : Leaves e e' false :=
  ⟨Or.inr h, hkeep.recovery, hkeep.poisoned, hkeep.listening, hkeep.host, by simp,
    fun _ => Or.inr hchannel⟩

/-- A program that ends open over a new channel leaves what it should, and has made a channel. -/
theorem leaves_fresh (hkeep : Keeps e e') (h : Fresh e') : Leaves e e' true :=
  ⟨Or.inr h.isOpen, hkeep.recovery, hkeep.poisoned, hkeep.listening, hkeep.host, fun _ => h,
    by simp⟩

/-- **A change that no side notices**, and nothing that waits on the line. -/
structure Unnoticed (e e' : SimulatedEngine) : Prop where
  same : ∀ d, SameSide d e e'
  period : e.holdsStreams = true → e'.config.period = e.config.period
  recovery : e'.recovery = e.recovery
  poisoned : e'.poisoned = e.poisoned
  channel : e'.line.channel = e.line.channel
  attached : e'.line.link.attached = e.line.link.attached
  listening : e'.line.link.listening = e.line.link.listening
  started : e'.started = e.started
  host : Follows e.host e'.host

/-- A change that no side notices leaves a sound engine with the shape that it had, over the channel
that it had. -/
theorem Unnoticed.leaves (h : Unnoticed e e') (hs : Sound e) : Leaves e e' false := by
  refine ⟨?_, h.recovery, h.poisoned, h.listening, h.host, by simp, fun _ => Or.inr h.channel⟩
  rcases hs.shape with hc | ho
  · exact Or.inl (hc.frame h.same h.channel h.attached h.started)
  · exact Or.inr
      (ho.frame h.same (h.period ho.holdsStreams) h.host h.channel h.attached h.started)

/-- A call that is refused at its guard leaves the engine as it is, and this counts as leaving what
it should. -/
theorem leaves_same (h : Sound e) : Leaves e e false :=
  ⟨h.shape, rfl, rfl, rfl, .refl _, by simp, fun _ => Or.inr rfl⟩

/-- A publication is not noticed by the sides, nor by anything that waits on the line. -/
theorem unnoticed_board (e : SimulatedEngine) (board : NoticeBoard) :
    Unnoticed e { e with board } :=
  ⟨fun _ => ⟨rfl, rfl, rfl, rfl⟩, fun _ => rfl, rfl, rfl, rfl, rfl, rfl, rfl, .refl _⟩

/-! ## Configuring -/

/-- The calls that only set something are not noticed by the sides. The period of an open pair
stays, because all that can be set while it is open are the devices. -/
theorem configures_leaves (h : Sound e) {c : Call} (hc : c.configures = true) :
    Leaves e (e.call c) false := by
  obtain ⟨config, observer, heq, hdevices⟩ := e.call_of_configures hc
  rw [heq]
  have hunnoticed : Unnoticed e { e with config, observer } := by
    refine ⟨fun _ => ⟨rfl, rfl, rfl, rfl⟩, fun hheld => ?_, rfl, rfl, rfl, rfl, rfl, rfl, .refl _⟩
    obtain ⟨_, _, rfl⟩ := hdevices hheld
    rfl
  exact hunnoticed.leaves h

/-! ## The lifecycle -/

/-- An opening makes a channel exactly if it succeeds: refused by an open engine it leaves the
channel from before, and one that fails leaves none. -/
theorem bringUp_leaves (h : Sound e) :
    Ends EngineM.bringUp e fun r e' => Leaves e e' r.isOk := by
  rcases h.shape with hc | ho
  · refine (bringUp_closed_ends hc h.numbered).mono fun r e' ⟨hkeep, _, hcases⟩ => ?_
    rcases hcases with ⟨rfl, hfresh, _, _⟩ | ⟨⟨err, rfl⟩, hclosed⟩
    · exact leaves_fresh hkeep hfresh
    · exact leaves_closed hkeep hclosed
  · exact ends_of_error (bringUp_of_open ho) (leaves_same h)

/-- A start never makes a channel, so that a session that is stopped and started again goes on with
what was captured last. -/
theorem start_leaves (h : Sound e) : Ends EngineM.start e fun _ e' => Leaves e e' false := by
  rcases h.shape with hc | ho
  · exact ends_of_error (start_of_closed hc) (leaves_same h)
  · exact (start_ends ho).mono fun r e' ⟨hkeep, _, hopen, hchannel, _⟩ =>
      leaves_open hkeep hopen hchannel

/-- A stop makes no channel either, and does not empty the one that there is. -/
theorem stop_leaves (h : Sound e) : Ends EngineM.stop e fun _ e' => Leaves e e' false := by
  refine (stop_ends h.settled).mono fun r e' hhalt => ?_
  rcases h.shape with hc | ho
  · exact leaves_closed hhalt.toKeeps (hhalt.closed hc)
  · exact leaves_open hhalt.toKeeps (hhalt.open ho) hhalt.channel

/-- After a closing there is no channel, which needs no case of its own: a closed engine satisfies
what `Leaves` says of channels. -/
theorem bringDown_leaves (h : Sound e) :
    Ends EngineM.bringDown e fun _ e' => Leaves e e' false :=
  (bringDown_ends h.settled).mono fun _ _ ⟨hclosed, hkeep, _⟩ => leaves_closed hkeep hclosed

/-- Only an effect that was off can be switched on over a new channel. An effect that is as asked is
left alone, and one that is switched off ends without a channel. -/
theorem switch_leaves (h : Sound e) (on : Bool) :
    Ends (EngineM.switch on) e fun r e' => Leaves e e' (on && !e.effectOn && r.isOk) := by
  by_cases hsame : e.effectOn = on
  -- the effect is as asked: nothing happens
  · refine ends_of_ok (switch_of_eq hsame) ?_
    have hno : (on && !e.effectOn && (Except.ok () : Except AudioError Unit).isOk) = false := by
      rw [hsame]
      cases on <;> rfl
    rw [hno]
    exact leaves_same h
  · cases on with
    | true =>
      have hoff : e.effectOn = false := by simpa using hsame
      rcases h.shape with hc | ho
      · refine (switch_on_ends hoff hc h.numbered).mono fun r e' ⟨hkeep, hcases⟩ => ?_
        rcases hcases with ⟨rfl, hfresh, _⟩ | ⟨⟨err, rfl⟩, hclosed, _⟩
        · rw [hoff]
          exact leaves_fresh hkeep hfresh
        · rw [hoff]
          exact leaves_closed hkeep hclosed
      -- streams are open without the effect: it cannot be switched on over them
      · refine ends_of_error (switch_on_of_open hoff ho) ?_
        rw [hoff]
        exact leaves_same h
    | false =>
      have hon : e.effectOn = true := by simpa using hsame
      exact (switch_off_ends hon h.settled).mono fun r e' ⟨hclosed, hkeep, _⟩ =>
        leaves_closed hkeep hclosed

/-- The call that answers a truth value instead of an error makes a channel in the same cases;
`true` alone does not tell, since it is also the answer where there was nothing to do. -/
theorem trySwitch_leaves (h : Sound e) (on : Bool) :
    Ends (EngineM.trySwitch on) e fun r e' =>
      Leaves e e' (on && !e.effectOn && r.toOption = some true) := by
  refine (trySwitch_ends (switch_leaves h on)).mono fun r e' ⟨r', hleaves, hr⟩ => ?_
  have hsame : (on && !e.effectOn && r.toOption = some true)
      = (on && !e.effectOn && r'.isOk) := by
    rw [hr]
    cases on with
    | false => rfl
    | true => cases r' <;> rfl
  rw [hsame]
  exact hleaves

/-! ## Recovery -/

/-- Where the input had not failed, no recovery has rebuilt the pair, and the channel is the one
from before. -/
theorem rebuilt_of_sound (h : e.state .input ≠ .error) (e' : SimulatedEngine) :
    rebuilt e e' = false := by
  unfold rebuilt
  rw [decide_eq_false h]
  rfl

theorem rebuilt_of_closed (e : SimulatedEngine) (h : Closed e') : rebuilt e e' = false := by
  unfold rebuilt
  rw [h.holdsStreams, Bool.and_false]
  rfl

/-- **What recovery comes to** on an open engine: the session goes on, or it has ended. -/
structure Recovers (e e' : SimulatedEngine) : Prop where
  wasOpen : Open e
  keeps : Keeps e e'
  outcome : Repaired e e' ∨ Ended e'

/-- Whether or not the input was lost, recovery leaves what it should: over a new channel where the
input was lost, over the old one where only the output was, and over none where it has given up. -/
theorem Recovers.leaves (h : Recovers e e') : Leaves e e' (rebuilt e e') := by
  rcases h.outcome with hrep | hended
  · by_cases hin : e.state .input = .error
    · have hyes : rebuilt e e' = true := by
        simp [rebuilt, hin, hrep.isOpen.holdsStreams, hrep.sound .input]
      rw [hyes]
      exact leaves_fresh h.keeps (hrep.fresh hin)
    · rw [rebuilt_of_sound hin]
      exact leaves_open h.keeps hrep.isOpen (hrep.kept hin).1
  · rw [rebuilt_of_closed e hended.isClosed]
    exact leaves_closed h.keeps hended.isClosed

/-- An engine whose input stands where it stood has rebuilt nothing, for a rebuilt input has failed
before and does not fail any more. It turns the flag of `Leaves` into the one that the engine is
read by (`rebuilt`). -/
theorem Leaves.not_rebuilt (h : Leaves e e' false) (hstate : e'.state .input = e.state .input) :
    Leaves e e' (rebuilt e e') := by
  have hno : rebuilt e e' = false := by
    unfold rebuilt
    rw [hstate]
    cases e.state .input <;> simp
  rw [hno]
  exact h

/-- A repair that is called for recovers; any other does nothing. The two cases are told apart by
`lost_iff`. With `Recovers` both outcomes of a repair are one case for the invariants that do not
tell them apart. -/
theorem repair_recovers (h : Sound e) :
    Ends EngineM.repair e fun _ e' => e' = e ∨ Recovers e e' := by
  by_cases hneeded : Open e ∧ ∃ d, e.state d = .error
  · obtain ⟨ho, hlost⟩ := hneeded
    refine (repair_ends ho h.numbered hlost).mono fun r e' ⟨hkeep, hcases⟩ => Or.inr ?_
    rcases hcases with ⟨_, hrep⟩ | ⟨_, hended⟩
    · exact ⟨ho, hkeep, Or.inl hrep⟩
    · exact ⟨ho, hkeep, Or.inr hended⟩
  · have hsound : e.holdsStreams = true → ∀ d, e.state d ≠ .error := fun hheld d hd =>
      hneeded ⟨h.isOpen hheld, d, hd⟩
    exact ends_of_ok (repair_of_sound hsound) (Or.inl rfl)

/-- A repair makes a channel exactly if it has rebuilt the pair, which `rebuilt` reads off the
states before and after. -/
theorem repair_leaves (h : Sound e) :
    Ends EngineM.repair e fun _ e' => Leaves e e' (rebuilt e e') := by
  refine (repair_recovers h).mono fun r e' hcases => ?_
  rcases hcases with rfl | hrecovers
  · exact (leaves_same h).not_rebuilt rfl
  · exact hrecovers.leaves

/-- **Attending to a batch** never fails as a call. It recovers, or it comes to nothing but notices;
both the end over a fault and the repair of a loss count as recovering. -/
theorem attend_recovers (h : Sound e) (batch : List Event) :
    Ends (attend batch) e fun r e' =>
      r = .ok () ∧ ((∃ board, e' = { e with board }) ∨ Recovers e e') := by
  rcases h.shape with hc | ho
  -- a closed engine has nothing to end and nothing to repair
  · obtain ⟨board, hattend⟩ := attend_of_closed batch hc
    exact ends_of_ok hattend ⟨rfl, Or.inl ⟨board, rfl⟩⟩
  · cases hfault : batch.any Event.isFault with
    | true =>
      exact (attend_fault_ends ho hfault).mono fun r e' ⟨hr, hkeep, hended⟩ =>
        ⟨hr, Or.inr ⟨ho, hkeep, Or.inr hended⟩⟩
    | false =>
      by_cases hneeded : batch.any Event.isDisconnect = true ∧ ∃ d, e.state d = .error
      · obtain ⟨hloss, hlost⟩ := hneeded
        exact (attend_loss_ends ho h.numbered hfault hloss hlost).mono
          fun r e' ⟨hr, hkeep, hcases⟩ => ⟨hr, Or.inr ⟨ho, hkeep, hcases⟩⟩
      -- no loss is told of, or no side shows it
      · obtain ⟨board, hattend⟩ := attend_of_sound hfault fun hloss _ d hd =>
          hneeded ⟨hloss, d, hd⟩
        exact ends_of_ok hattend ⟨rfl, Or.inl ⟨board, rfl⟩⟩

/-- Attending to a batch of events makes a channel exactly if it has rebuilt the pair. -/
theorem attend_leaves (h : Sound e) (batch : List Event) :
    Ends (attend batch) e fun r e' => r = .ok () ∧ Leaves e e' (rebuilt e e') := by
  refine (attend_recovers h batch).mono fun r e' ⟨hr, hcases⟩ => ⟨hr, ?_⟩
  rcases hcases with ⟨board, rfl⟩ | hrecovers
  · exact ((unnoticed_board e board).leaves h).not_rebuilt rfl
  · exact hrecovers.leaves

/-! ## Events that wait -/

section Queue

variable {H : Type} [StreamHost Handler Line H] {g g' : Engine H}

/-- An engine whose events have been taken. -/
def taken (g : Engine H) : Engine H := { g with line := g.line.takeEvents.2 }

/-- An engine with a worker leaves the events to it: attending by hand answers that nothing was
done, and takes nothing. -/
theorem attendPending_of_worker (h : g.recovery = .worker) : g.attendPending = (.ok 0, g) := by
  unfold attendPending
  split
  · rfl
  · next hmanual =>
    rw [h] at hmanual
    cases hmanual

/-- Without events there is nothing to attend to. Taking an empty batch is the only thing that
happens, and `unnoticed_taken` says that nobody sees it. -/
theorem attendPending_of_empty (h : g.recovery = .manual) (hempty : g.line.link.pending = []) :
    g.attendPending = (.ok 0, g.taken) := by
  have hbatch : g.line.takeEvents.1.isEmpty = true := by
    show g.line.link.pending.isEmpty = true
    rw [hempty]
    rfl
  unfold attendPending
  split
  · next hworker =>
    rw [h] at hworker
    cases hworker
  · simp only [hbatch, if_true]
    rfl

/-- With events waiting, all of them are taken at once and attended to as one batch; the answer is
their number. The hypothesis `hattend` is about the engine with its events taken, as the program
finds it. -/
theorem attendPending_of_attended (h : g.recovery = .manual) (hne : g.line.link.pending ≠ [])
    (hattend : g.taken.runAnyway (attend g.line.link.pending) = (.ok (), g')) :
    g.attendPending = (.ok g.line.link.pending.length, g') := by
  have hbatch : g.line.takeEvents.1.isEmpty = false := by
    show g.line.link.pending.isEmpty = false
    simpa using hne
  have hattend' : runAnyway (attend g.line.takeEvents.1) { g with line := g.line.takeEvents.2 }
      = (.ok (), g') := hattend
  unfold attendPending
  split
  · next hworker =>
    rw [h] at hworker
    cases hworker
  · simp only [hbatch, Bool.false_eq_true, if_false, hattend']
    rfl

/-- Without a worker a wake does nothing, so that a run may wake it at any time. -/
theorem runWorker_of_manual (h : g.recovery = .manual) : g.runWorker = g := by
  unfold runWorker
  split
  · rfl
  · next hworker =>
    rw [h] at hworker
    cases hworker

/-- A worker that wakes without events goes back to sleep. The engine is as after taking an empty
batch. The program takes the events before it looks whether there are any. -/
theorem runWorker_of_empty (h : g.recovery = .worker) (hempty : g.line.link.pending = []) :
    g.runWorker = g.taken := by
  have hbatch : g.line.takeEvents.1.isEmpty = true := by
    show g.line.link.pending.isEmpty = true
    rw [hempty]
    rfl
  unfold runWorker
  split
  · next hmanual =>
    rw [h] at hmanual
    cases hmanual
  · simp only [hbatch, if_true]
    rfl

/-- A worker that finds events attends to them as `attendPending` does, in one batch; only the
answer is missing. So what holds after the one holds after the other, and `runWorker_cases` needs
both of them. -/
theorem runWorker_of_attended (h : g.recovery = .worker) (hne : g.line.link.pending ≠ [])
    (hattend : g.taken.runAnyway (attend g.line.link.pending) = (.ok (), g')) :
    g.runWorker = g' := by
  have hbatch : g.line.takeEvents.1.isEmpty = false := by
    show g.line.link.pending.isEmpty = false
    simpa using hne
  have hattend' : runAnyway (attend g.line.takeEvents.1) { g with line := g.line.takeEvents.2 }
      = (.ok (), g') := hattend
  unfold runWorker
  split
  · next hmanual =>
    rw [h] at hmanual
    cases hmanual
  · simp only [hbatch, Bool.false_eq_true, if_false, hattend']

variable {P : Engine H → Prop}

/-- Attending to what waits comes to nothing, or to taking the events, or to attending to them.
Whatever holds in these three cases holds afterwards; no proof has to open `attendPending` again. -/
theorem attendPending_cases (hsame : P g) (htaken : P g.taken)
    (hattended : ∃ g', g.taken.runAnyway (attend g.line.link.pending) = (.ok (), g') ∧ P g') :
    P g.attendPending.2 := by
  cases hrecovery : g.recovery with
  | worker =>
    rw [attendPending_of_worker hrecovery]
    exact hsame
  | manual =>
    by_cases hempty : g.line.link.pending = []
    · rw [attendPending_of_empty hrecovery hempty]
      exact htaken
    · obtain ⟨g', hattend, hg'⟩ := hattended
      rw [attendPending_of_attended hrecovery hempty hattend]
      exact hg'

/-- A wake of the worker comes to the same three cases, so that every invariant is proved once for
both ways in which an engine recovers. The three cases are an engine whose owner attends, a worker
that finds nothing, and one that attends. -/
theorem runWorker_cases (hsame : P g) (htaken : P g.taken)
    (hattended : ∃ g', g.taken.runAnyway (attend g.line.link.pending) = (.ok (), g') ∧ P g') :
    P g.runWorker := by
  cases hrecovery : g.recovery with
  | manual =>
    rw [runWorker_of_manual hrecovery]
    exact hsame
  | worker =>
    by_cases hempty : g.line.link.pending = []
    · rw [runWorker_of_empty hrecovery hempty]
      exact htaken
    · obtain ⟨g', hattend, hg'⟩ := hattended
      rw [runWorker_of_attended hrecovery hempty hattend]
      exact hg'

end Queue

/-- Taking the events is not noticed by the sides: the states, the handles and the channel are where
they were. -/
theorem unnoticed_taken (e : SimulatedEngine) : Unnoticed e e.taken :=
  ⟨fun _ => ⟨rfl, rfl, rfl, rfl⟩, fun _ => rfl, rfl, rfl, rfl, rfl, rfl, rfl, .refl _⟩

/-- The events of a sound engine may be taken first and attended to afterwards, since the engine
between the two is sound as well. -/
theorem Sound.taken (h : Sound e) : Sound e.taken := ((unnoticed_taken e).leaves h).sound h

/-- What is left after the events were taken is left from before that: taking them changes nothing
that `Leaves` speaks of. -/
theorem Leaves.of_taken (h : Leaves e.taken e' renewed) : Leaves e e' renewed :=
  ⟨h.shape, h.recovery, h.poisoned, h.listening, h.host, h.fresh, h.kept⟩

/-- Taking the events and attending to none leaves what it should, and nothing has been rebuilt. -/
theorem taken_leaves (h : Sound e) : Leaves e e.taken (rebuilt e e.taken) :=
  ((unnoticed_taken e).leaves h).not_rebuilt rfl

/-- Attending to the events that were taken always comes to an answer, `.ok ()`, and leaves what it
should. -/
theorem attend_taken (h : Sound e) (batch : List Event) :
    ∃ e', e.taken.runAnyway (attend batch) = (.ok (), e') ∧ Leaves e e' (rebuilt e e') := by
  obtain ⟨r, hreply, hr, hleaves⟩ := (attend_leaves h.taken batch).runAnyway
  rw [hr] at hreply
  exact ⟨_, Prod.ext hreply rfl, hleaves.of_taken⟩

/-- Attending to what waits leaves what it should, with or without a worker and whatever waits. -/
theorem attendPending_leaves (h : Sound e) :
    Leaves e e.attendPending.2 (rebuilt e e.attendPending.2) :=
  attendPending_cases (P := fun e' => Leaves e e' (rebuilt e e'))
    ((leaves_same h).not_rebuilt rfl) (taken_leaves h) (attend_taken h _)

/-- So does a wake of the worker. The events that are taken with it are those that wait, in
order. -/
theorem runWorker_leaves (h : Sound e) : Leaves e e.runWorker (rebuilt e e.runWorker) :=
  runWorker_cases (P := fun e' => Leaves e e' (rebuilt e e'))
    ((leaves_same h).not_rebuilt rfl) (taken_leaves h) (attend_taken h _)

/-! ## Every call -/

/-- Whether an answer is a success does not depend on the clothes of its error; it is used to read
`renews` off the answer of a call instead of the reply of its program. -/
theorem isOk_mapError {α : Type} (r : Except AudioError α) :
    (r.mapError Failure.error).isOk = r.isOk := by
  cases r <;> rfl

theorem toOption_mapError {α : Type} (r : Except AudioError α) :
    (r.mapError Failure.error).toOption = r.toOption := by
  cases r <;> rfl

/-- On an engine that is not poisoned, `trySwitch` runs its program like the other calls. It has a
definition of its own only because it answers `false` on a poisoned one. -/
theorem trySwitch_eq_run {H : Type} [StreamHost Handler Line H] {e : Engine H}
    (h : e.poisoned = false) (on : Bool) : e.trySwitch on = e.run (EngineM.trySwitch on) := by
  unfold trySwitch
  rw [h]
  rfl

/-- **What a call leaves**, whichever call it is and whether it succeeds or fails. It is the step
lemma behind `after_sound`, and behind everything that is said of the channel along a run. -/
theorem call_leaves (h : Sound e) (c : Call) : Leaves e (e.call c) (renews c e) := by
  cases c with
  | configure | selectApi | selectDevice | selectObserver => exact configures_leaves h rfl
  | bringUp =>
    obtain ⟨r, hreply, hleaves⟩ := (bringUp_leaves h).run h.poisoned
    -- the channel is a new one just if the pair could be opened
    have hrenews : renews .bringUp e = r.isOk :=
      (congrArg Except.isOk hreply).trans (isOk_mapError r)
    rw [hrenews]
    exact hleaves
  | start =>
    obtain ⟨_, _, hleaves⟩ := (start_leaves h).run h.poisoned
    exact hleaves
  | stop =>
    obtain ⟨_, _, hleaves⟩ := (stop_leaves h).run h.poisoned
    exact hleaves
  | bringDown =>
    obtain ⟨_, _, hleaves⟩ := (bringDown_leaves h).run h.poisoned
    exact hleaves
  | switch on =>
    obtain ⟨r, hreply, hleaves⟩ := (switch_leaves h on).run h.poisoned
    have hok : (e.switch on).1.isOk = r.isOk :=
      (congrArg Except.isOk hreply).trans (isOk_mapError r)
    have hrenews : renews (.switch on) e = (on && !e.effectOn && r.isOk) := by
      show (on && !e.effectOn && (e.switch on).1.isOk) = _
      rw [hok]
    rw [hrenews]
    exact hleaves
  | trySwitch on =>
    obtain ⟨r, hreply, hleaves⟩ := (trySwitch_leaves h on).run h.poisoned
    -- a try is the same program as a switch, and answers otherwise
    have hcall := trySwitch_eq_run h.poisoned on
    have hok : (e.trySwitch on).1.toOption = r.toOption := by
      rw [hcall, hreply, toOption_mapError]
    have hrenews : renews (.trySwitch on) e = (on && !e.effectOn && r.toOption = some true) := by
      show (on && !e.effectOn && (e.trySwitch on).1.toOption = some true) = _
      rw [hok]
    have hafter : e.call (.trySwitch on) = (e.run (EngineM.trySwitch on)).2 :=
      congrArg Prod.snd hcall
    rw [hrenews, hafter]
    exact hleaves
  | repair =>
    obtain ⟨_, _, hleaves⟩ := (repair_leaves h).run h.poisoned
    exact hleaves
  | attendPending => exact attendPending_leaves h
  | runWorker => exact runWorker_leaves h

end Engine

end Passthrough
