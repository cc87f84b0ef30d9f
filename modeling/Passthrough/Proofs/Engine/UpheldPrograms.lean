import Passthrough.Proofs.Engine.Run
import Passthrough.Proofs.Engine.Upheld
/-!
# Programs and calls that uphold an invariant

What work on one side upholds is upheld by every program of the engine, because nothing but work on
one side asks the host; and so it is by every call. Taking the events that wait is the only thing
that an invariant of the sides may not survive, so the calls that do that come with a condition.

* **`upholds_attend`**, **`upholds_switch`** and their like — the programs.
* **`call_stands`** — a call on the journaled host leaves what it leaves on the host beneath.
* **`advance_stands`** — and so does a whole run that is written down.
-/

namespace Passthrough

open EngineM

namespace EngineM

variable {I : JournaledEngine → Prop} (hI : SideInvariant I)
include hI

/-! ## The pair -/

/-- Stopping both sides upholds what stopping one does; the mark of the session is not seen by
it. -/
theorem upholds_stopSides : Upholds I stopSides stopSides := by
  unfold stopSides
  refine (upholds_stopSide hI .output).attempt.bind fun output => ?_
  refine (upholds_stopSide hI .input).attempt.bind fun input => ?_
  exact (upholds_mark hI).bind fun _ => upholds_ofExcept _

/-- Starting both sides upholds what starting one does, also where the second is not reached. -/
theorem upholds_startSides : Upholds I startSides startSides := by
  unfold startSides
  refine upholds_get_bind fun w => upholds_ite (upholds_fail_bind _ _ _) ?_
  refine (upholds_startSide hI .input).bind fun _ => (upholds_startSide hI .output).bind fun _ => ?_
  exact upholds_mark hI

/-- Shutting down upholds it: two stops, two closings, and marks in between. -/
theorem upholds_shutDown : Upholds I shutDown shutDown := by
  unfold shutDown
  refine (upholds_stopSides hI).attempt.bind fun stopped => (upholds_detach hI).bind fun _ => ?_
  refine (upholds_closeSide hI .output).attempt.bind fun output => ?_
  refine (upholds_closeSide hI .input).attempt.bind fun input => ?_
  exact (upholds_mark hI).bind fun _ => upholds_ofExcept _

omit hI in
theorem upholds_inputRate : Upholds I inputRate inputRate := by
  unfold inputRate
  exact upholds_get_bind fun w => upholds_pure _

theorem upholds_abandonPair_fail (err : AudioError) :
    Upholds I (abandonPair >>= fun _ => fail err : EngineM _ Unit)
      (abandonPair >>= fun _ => fail err) :=
  (upholds_mark hI).bind fun _ => upholds_fail err

/-- Opening the pair upholds it, on every path: refused, with one side given up, or with both open.
The conditions of a `SideInvariant` are about one side, and are met here by `upholds_openSide` and
`upholds_closeSide`. -/
theorem upholds_openSides : Upholds I openSides openSides := by
  unfold openSides
  refine upholds_get_bind fun w => upholds_ite (upholds_fail_bind _ _ _) ?_
  refine (upholds_mark hI).bind fun _ => (upholds_openSide hI .input _).attempt.bind fun r => ?_
  cases r with
  | error err => exact (upholds_detach hI).bind fun _ => upholds_abandonPair_fail hI err
  | ok _ =>
    refine upholds_inputRate.bind fun rate => (upholds_openSide hI .output rate).attempt.bind
      fun r => ?_
    cases r with
    | ok _ => exact upholds_pure ()
    | error err =>
      refine (upholds_detach hI).bind fun _ => (upholds_closeSide hI .input).attempt.bind fun _ => ?_
      exact upholds_abandonPair_fail hI err

/-! ## The lifecycle -/

theorem upholds_bringUp : Upholds I bringUp bringUp := by
  unfold bringUp
  refine (upholds_openSides hI).bind fun _ => upholds_inputRate.bind fun rate => ?_
  exact upholds_get_bind fun w => upholds_publish hI _ _

theorem upholds_bringDown : Upholds I bringDown bringDown := by
  unfold bringDown
  refine upholds_get_bind fun w => (upholds_shutDown hI).attempt.bind fun r => upholds_ite ?_ ?_
  · exact (upholds_publish hI _ _).bind fun _ => upholds_ofExcept r
  · exact upholds_ofExcept r

theorem upholds_start : Upholds I start start := by
  unfold start
  exact (upholds_startSides hI).bind fun _ => upholds_publish hI _ _

theorem upholds_stop : Upholds I stop stop := by
  unfold stop
  refine upholds_get_bind fun w => (upholds_stopSides hI).attempt.bind fun r => upholds_ite ?_ ?_
  · exact (upholds_publish hI _ _).bind fun _ => upholds_ofExcept r
  · exact upholds_ofExcept r

/-- Switching the effect upholds it, both ways and on every path; its mark is not seen by the sides.
It is put together from opening, starting, stopping and closing, each of which upholds it. -/
theorem upholds_switch (on : Bool) : Upholds I (switch on) (switch on) := by
  unfold switch
  refine upholds_get_bind fun w => upholds_ite (upholds_pure ()) (upholds_ite ?_ ?_)
  · refine (upholds_bringUp hI).bind fun _ => (upholds_start hI).attempt.bind fun r => ?_
    cases r with
    | ok _ => exact upholds_mark hI
    | error err => exact (upholds_bringDown hI).attempt.bind fun _ => upholds_fail err
  · refine (upholds_stop hI).attempt.bind fun stopped => ?_
    refine (upholds_bringDown hI).attempt.bind fun closed => ?_
    exact (upholds_mark hI).bind fun _ => upholds_ofExcept _

/-- To answer a truth value instead of an error is upheld with the switch itself. -/
theorem upholds_trySwitch (on : Bool) : Upholds I (trySwitch on) (trySwitch on) := by
  unfold trySwitch
  refine (upholds_switch hI on).attempt.bind fun r => ?_
  cases r with
  | ok _ => exact upholds_pure true
  | error _ => exact upholds_pure !on

/-! ## Recovery -/

/-- Replacing both streams upholds it: a shutdown, an opening and perhaps a start. -/
theorem upholds_replaceBoth (restart : Bool) :
    Upholds I (replaceBoth restart) (replaceBoth restart) := by
  unfold replaceBoth
  refine (upholds_shutDown hI).attempt.bind fun _ => (upholds_openSides hI).bind fun _ => ?_
  exact upholds_ite (upholds_startSides hI) (upholds_pure ())

/-- Replacing the output upholds it, although one side is worked on while the other one is open; the
conditions are about one side at a time. The rate is read off the handle of the input, which both
engines have. -/
theorem upholds_replaceOutput (restart : Bool) :
    Upholds I (replaceOutput restart) (replaceOutput restart) := by
  unfold replaceOutput
  refine upholds_get_bind fun w => ?_
  have hinfo : w.beneath.infoOf .input = w.infoOf .input := rfl
  rw [hinfo]
  cases w.infoOf .input with
  | none => exact upholds_fail .notOpen
  | some p =>
    refine (upholds_stopSide hI .output).attempt.bind fun _ => ?_
    refine (upholds_closeSide hI .output).attempt.bind fun _ => ?_
    refine (upholds_openSide hI .output p.sampleRate).bind fun _ => ?_
    exact upholds_ite (upholds_startSide hI .output) (upholds_pure ())

/-- A repair upholds it, where it succeeds and where it gives up. Which of the two replacements it
is depends on the states, and these are the same beneath the journal. -/
theorem upholds_repair : Upholds I repair repair := by
  unfold repair
  refine upholds_get_bind fun w => upholds_ite ?_ (upholds_pure ())
  refine (upholds_ite (upholds_replaceBoth hI w.started)
    (upholds_replaceOutput hI w.started)).attempt.bind fun r => ?_
  cases r with
  | ok _ => exact upholds_publish hI _ _
  | error err =>
    refine (upholds_shutDown hI).attempt.bind fun _ => (upholds_mark hI).bind fun _ => ?_
    exact (upholds_publish hI _ _).bind fun _ => upholds_fail err

theorem upholds_endSession : Upholds I endSession endSession := by
  unfold endSession
  refine upholds_get_bind fun w => upholds_ite ?_ (upholds_pure ())
  refine (upholds_stop hI).attempt.bind fun _ => (upholds_bringDown hI).attempt.bind fun _ => ?_
  exact upholds_mark hI

/-- Telling of faults upholds it, by induction on the batch. Losses are passed over, and a notice is
not seen by the sides. -/
theorem upholds_publishFaults (batch : List Event) :
    Upholds I (publishFaults batch) (publishFaults batch) := by
  induction batch with
  | nil => exact upholds_pure ()
  | cons event rest ih =>
    cases event with
    | disconnected _ _ => exact ih
    | fault _ _ _ => exact (upholds_publish hI _ _).bind fun _ => ih

/-- Attending to a batch of events upholds it, whatever the batch tells of. That the events have
been taken is not covered, for an invariant may speak of what waits. -/
theorem upholds_attend (batch : List Event) : Upholds I (attend batch) (attend batch) := by
  unfold attend
  refine (upholds_publishFaults hI batch).bind fun _ => upholds_ite (upholds_endSession hI) ?_
  exact upholds_ite ((upholds_repair hI).attempt.bind fun _ => upholds_pure ()) (upholds_pure ())

/-! ## Calls of an engine -/

variable {α : Type} {x : EngineM JournaledHost α} {y : EngineM (SimulatedHost Handler) α}
  {w : JournaledEngine}

/-- From programs to calls: the answers are the same, the host beneath is the same, and the
invariant holds again. A failure of the program is an answer here, and the engine is the one that it
has left. -/
theorem Upholds.runAnyway (h : Upholds I x y) (hw : I w) :
    (w.runAnyway x).1 = (w.beneath.runAnyway y).1
      ∧ (w.runAnyway x).2.beneath = (w.beneath.runAnyway y).2 ∧ I (w.runAnyway x).2 := by
  have hrun := h w hw
  unfold Engine.runAnyway
  revert hrun
  generalize x w = r
  generalize y w.beneath = r'
  intro hrun
  cases hrun with
  | ok upheld => exact ⟨rfl, rfl, upheld⟩
  | @error failure _ upheld =>
    cases failure with
    | error err => exact ⟨rfl, rfl, upheld⟩
    -- a crash poisons the engine, and no side shows that
    | crash message => exact ⟨rfl, rfl, hI.frame upheld rfl rfl rfl rfl⟩

/-- The same for calls that look at the poison first; a poisoned engine is left as it is. That case
answers `lockPoisoned` with the name of the lock, on both engines. -/
theorem Upholds.run (h : Upholds I x y) (hw : I w) :
    (w.run x).1 = (w.beneath.run y).1 ∧ (w.run x).2.beneath = (w.beneath.run y).2
      ∧ I (w.run x).2 := by
  cases hp : w.poisoned with
  | true =>
    -- poisoned, both engines refuse with the same message
    have hrun : w.run x = (.error (.error (.lockPoisoned Engine.lockName)), w) := by
      unfold Engine.run
      rw [hp]
      rfl
    have hrun' : w.beneath.run y = (.error (.error (.lockPoisoned Engine.lockName)), w.beneath) := by
      unfold Engine.run
      rw [show w.beneath.poisoned = true from hp]
      rfl
    rw [hrun, hrun']
    exact ⟨rfl, rfl, hw⟩
  | false =>
    rw [run_of_not_poisoned hp, run_of_not_poisoned (e := w.beneath) hp]
    exact h.runAnyway hI hw

end EngineM

namespace Engine

/-! ## Every call -/

variable {I : JournaledEngine → Prop} {w : JournaledEngine}

/-- Setting options leaves a journaled engine what it leaves the one beneath, and is not seen by the
sides. It is taken over only while nothing is held, which both engines agree on. -/
theorem configure_stands (hI : SideInvariant I) (hw : I w) (options : Options) :
    (w.configure options).2.beneath = (w.beneath.configure options).2
      ∧ I (w.configure options).2 := by
  have hheld : w.beneath.holdsStreams = w.holdsStreams := rfl
  unfold configure
  rw [hheld]
  cases Config.ofOptions options with
  | error _ => exact ⟨rfl, hw⟩
  | ok config =>
    cases w.holdsStreams with
    | true => exact ⟨rfl, hw⟩
    | false => exact ⟨rfl, hI.frame hw rfl rfl rfl rfl⟩

/-- So does selecting an interface. The guard looks at the effect and at the handles, and both
engines have the same of either. -/
theorem selectApi_stands (hI : SideInvariant I) (hw : I w) (api : AudioApi) :
    (w.selectApi api).2.beneath = (w.beneath.selectApi api).2 ∧ I (w.selectApi api).2 := by
  have hbusy : (w.beneath.effectOn || w.beneath.holdsStreams) = (w.effectOn || w.holdsStreams) := rfl
  unfold selectApi
  rw [hbusy]
  split
  · exact ⟨rfl, hw⟩
  · exact ⟨rfl, hI.frame hw rfl rfl rfl rfl⟩

/-- So does selecting a device. -/
theorem selectDevice_stands (hI : SideInvariant I) (hw : I w) (d : Direction) (id : Int) :
    (w.selectDevice d id).2.beneath = (w.beneath.selectDevice d id).2
      ∧ I (w.selectDevice d id).2 := by
  unfold selectDevice
  cases Config.deviceId (deviceField d) id with
  | error _ => exact ⟨rfl, hw⟩
  | ok id => cases d <;> exact ⟨rfl, hI.frame hw rfl rfl rfl rfl⟩

/-- **A call that takes no events** leaves beneath the journal what it leaves without one, and
upholds every `SideInvariant`. The two calls that take events are `attendPending_stands` and
`runWorker_stands`, with `htaken` for what taking them does to the invariant. -/
theorem call_stands (hI : SideInvariant I) (h : Sound w.beneath) (hw : I w) {c : Call}
    (hattend : c ≠ .attendPending) (hworker : c ≠ .runWorker) :
    (w.call c).beneath = w.beneath.call c ∧ I (w.call c) := by
  -- every call that runs a program is settled by what its program upholds
  cases c with
  | configure options => exact configure_stands hI hw options
  | selectApi api => exact selectApi_stands hI hw api
  | selectDevice d id => exact selectDevice_stands hI hw d id
  | selectObserver observer => exact ⟨rfl, hI.frame hw rfl rfl rfl rfl⟩
  | bringUp => exact ((upholds_bringUp hI).run hI hw).2
  | start => exact ((upholds_start hI).run hI hw).2
  | stop => exact ((upholds_stop hI).run hI hw).2
  | bringDown => exact ((upholds_bringDown hI).run hI hw).2
  | switch on => exact ((upholds_switch hI on).run hI hw).2
  | trySwitch on =>
    have hp : w.poisoned = false := h.poisoned
    show (w.trySwitch on).2.beneath = (w.beneath.trySwitch on).2 ∧ I (w.trySwitch on).2
    rw [trySwitch_eq_run hp, trySwitch_eq_run (e := w.beneath) hp]
    exact ((upholds_trySwitch hI on).run hI hw).2
  | repair => exact ((upholds_repair hI).run hI hw).2
  | attendPending => exact absurd rfl hattend
  | runWorker => exact absurd rfl hworker

/-- Events that are attended to have been taken before, so the invariant is asked of the engine
without them. That it answers `.ok ()` comes from the plain engine (`attend_taken`), and the answers
are the same. -/
theorem attend_taken_stands (hI : SideInvariant I) (h : Sound w.beneath) (htaken : I w.taken)
    (batch : List Event) : ∃ w' : JournaledEngine,
      w.taken.runAnyway (attend batch) = (.ok (), w')
        ∧ w.beneath.taken.runAnyway (attend batch) = (.ok (), w'.beneath) ∧ I w' := by
  obtain ⟨hreply, hplain, hupheld⟩ := (upholds_attend hI batch).runAnyway hI htaken
  obtain ⟨e', hattend, _⟩ := attend_taken h batch
  have hbeneath : w.taken.beneath.runAnyway (attend batch) = (.ok (), e') := hattend
  rw [hbeneath] at hreply hplain
  exact ⟨_, Prod.ext hreply rfl, hattend.trans (Prod.ext rfl hplain.symm), hupheld⟩

/-- Attending by hand, in its three cases, upholds an invariant that survives the taking of the
events. The premise `htaken` is what the journal has to be asked for, as the queue of events is not
part of a side. -/
theorem attendPending_stands (hI : SideInvariant I) (h : Sound w.beneath) (hw : I w)
    (htaken : I w.taken) :
    w.attendPending.2.beneath = w.beneath.attendPending.2 ∧ I w.attendPending.2 := by
  cases hrecovery : w.recovery with
  | worker =>
    rw [attendPending_of_worker hrecovery, attendPending_of_worker (g := w.beneath) hrecovery]
    exact ⟨rfl, hw⟩
  | manual =>
    by_cases hempty : w.line.link.pending = []
    · rw [attendPending_of_empty hrecovery hempty,
        attendPending_of_empty (g := w.beneath) hrecovery hempty]
      exact ⟨rfl, htaken⟩
    · obtain ⟨w', hattend, hplain, hupheld⟩ := attend_taken_stands hI h htaken w.line.link.pending
      rw [attendPending_of_attended hrecovery hempty hattend,
        attendPending_of_attended (g := w.beneath) hrecovery hempty hplain]
      exact ⟨rfl, hupheld⟩

/-- A wake of the worker does so in the same three cases. The worker does not answer, so that only
the engines have to be compared. -/
theorem runWorker_stands (hI : SideInvariant I) (h : Sound w.beneath) (hw : I w)
    (htaken : I w.taken) : w.runWorker.beneath = w.beneath.runWorker ∧ I w.runWorker := by
  cases hrecovery : w.recovery with
  | manual =>
    rw [runWorker_of_manual hrecovery, runWorker_of_manual (g := w.beneath) hrecovery]
    exact ⟨rfl, hw⟩
  | worker =>
    by_cases hempty : w.line.link.pending = []
    · rw [runWorker_of_empty hrecovery hempty,
        runWorker_of_empty (g := w.beneath) hrecovery hempty]
      exact ⟨rfl, htaken⟩
    · obtain ⟨w', hattend, hplain, hupheld⟩ := attend_taken_stands hI h htaken w.line.link.pending
      rw [runWorker_of_attended hrecovery hempty hattend,
        runWorker_of_attended (g := w.beneath) hrecovery hempty hplain]
      exact ⟨rfl, hupheld⟩

/-- An engine that is given up is shut down first, and the host that is left is that of a closed
engine. Only the host is left of a dismissed engine, and its journal is what the books are read
from. -/
theorem dismiss_stands (hI : SideInvariant I) (h : Sound w.beneath) (hw : I w) :
    ∃ w' : JournaledEngine, w.dismiss = w'.host ∧ w.beneath.dismiss = w'.host.inner ∧ I w'
      ∧ Closed w'.beneath := by
  have hheld' : w.beneath.holdsStreams = w.holdsStreams := rfl
  unfold dismiss
  rw [hheld']
  cases hheld : w.holdsStreams with
  | false => exact ⟨w, rfl, rfl, hw, h.isClosed hheld⟩
  | true =>
    obtain ⟨_, hplain, hupheld⟩ := (upholds_shutDown hI).runAnyway hI hw
    obtain ⟨_, _, hclosed, _⟩ := (shutDown_ends h.settled).runAnyway
    rw [← hplain] at hclosed
    refine ⟨(w.runAnyway shutDown).2, rfl, ?_, hupheld, hclosed⟩
    exact congrArg Engine.host hplain.symm

/-! ## Runs that are written down -/

/-- A step that the host is not asked for: the journal goes on with what the step has made of the
host beneath. -/
def resume (w : JournaledEngine) (e : SimulatedEngine) : JournaledEngine :=
  { e with host := w.host.enter [] e.host }

/-- One step that is written down. -/
def advance (a : Action) (w : JournaledEngine) : JournaledEngine :=
  match a with
  | .call c => w.call c
  | a => resume w (w.beneath.perform a)

/-- A run that is written down from the moment the engine is made. -/
def journaled (e : SimulatedEngine) (as : List Action) : JournaledEngine :=
  as.foldl (fun w a => advance a w) { e with host := { inner := e.host } }

/-- **A whole run that is written down** is the run, and leaves what its steps leave. The steps may
be restricted by `allowed`, as the balance of the books does with the forgetting of records. -/
theorem advance_stands {allowed : Action → Prop}
    (hstep : ∀ (w : JournaledEngine) (a : Action), Sound w.beneath → allowed a → I w →
      (advance a w).beneath = w.beneath.perform a ∧ I (advance a w))
    (h : Sound w.beneath) (hw : I w) {as : List Action} (has : ∀ a ∈ as, allowed a) :
    (as.foldl (fun w a => advance a w) w).beneath = w.beneath.after as
      ∧ I (as.foldl (fun w a => advance a w) w) := by
  induction as generalizing w with
  | nil => exact ⟨rfl, hw⟩
  | cons a as ih =>
    obtain ⟨hplain, hupheld⟩ := hstep w a h (has a (by simp)) hw
    have hsound : Sound (advance a w).beneath := by
      rw [hplain]
      exact (perform_sound h a).1
    obtain ⟨hplain', hupheld'⟩ := ih hsound hupheld fun b hb => has b (by simp [hb])
    refine ⟨hplain'.trans ?_, hupheld'⟩
    rw [hplain]
    rfl

end Engine

end Passthrough
