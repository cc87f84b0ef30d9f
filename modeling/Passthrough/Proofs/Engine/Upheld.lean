import Passthrough.Engine.Hardware
import Passthrough.Proofs.Engine.Answers
import Passthrough.Proofs.Host.Journaled
/-!
# Programs that uphold an invariant

A program of an engine does not know its host, so it can be run on the journaled host beside the
simulated one. `Upholds I x y` says what that comes to: from any engine with `I`, `x` on the
journaled host ends as `y` does on the host beneath, and leaves an engine with `I` again.

An invariant may speak of the journal, and it may be broken while one side is worked on; so what it
has to survive is the work on one side as a whole, one condition for each way in which the host can
answer (`SideInvariant`). From these conditions every program upholds the invariant.

* **`upholds_stopSide`**, **`upholds_startSide`**, **`upholds_closeSide`**,
  **`upholds_openSide`** — the programs of one side, for any side and any answer.
* **`Upholds.bind`**, **`Upholds.attempt`**, **`upholds_get_bind`** — the ways in which programs go
  on from one another.
-/

namespace Passthrough

open EngineM

/-- An engine whose host keeps a journal. -/
abbrev JournaledEngine := Engine JournaledHost

/-- The engine on the host beneath the journal. -/
def Engine.beneath (w : JournaledEngine) : SimulatedEngine := { w with host := w.host.inner }

namespace EngineM

variable {α β : Type} {I : JournaledEngine → Prop} {w w' : JournaledEngine}
  {d : Direction} {s : StreamHandle}

/-- **Two runs that agree**: the same ending, and the engines are the same but for the journal. -/
inductive Agrees (I : JournaledEngine → Prop) :
    EStateM.Result Failure JournaledEngine α → EStateM.Result Failure SimulatedEngine α → Prop
  | ok {a : α} {w : JournaledEngine} (upheld : I w) : Agrees I (.ok a w) (.ok a w.beneath)
  | error {failure : Failure} {w : JournaledEngine} (upheld : I w) :
    Agrees I (.error failure w) (.error failure w.beneath)

/-- **A program that upholds an invariant.** -/
def Upholds (I : JournaledEngine → Prop) (x : EngineM JournaledHost α)
    (y : EngineM (SimulatedHost Handler) α) : Prop :=
  ∀ w, I w → Agrees I (x w) (y w.beneath)

variable {x : EngineM JournaledHost α} {y : EngineM (SimulatedHost Handler) α}

/-- Two runs that are known outright, and that end alike, agree if the invariant holds of what is
left. -/
theorem agrees_of_ok {a : α} (hx : x w = .ok a w') (hy : y w.beneath = .ok a w'.beneath)
    (h : I w') : Agrees I (x w) (y w.beneath) := by
  rw [hx, hy]
  exact .ok h

/-- The same for two runs that fail. What is left after a failure has to have the invariant as well,
for the program that comes next starts from there. -/
theorem agrees_of_error {failure : Failure} (hx : x w = .error failure w')
    (hy : y w.beneath = .error failure w'.beneath) (h : I w') : Agrees I (x w) (y w.beneath) := by
  rw [hx, hy]
  exact .error h

/-! ## How programs go on -/

theorem upholds_pure (a : α) : Upholds I (pure a) (pure a) := fun _ h => .ok h

theorem upholds_throw (failure : Failure) :
    Upholds I (throw failure : EngineM JournaledHost α) (throw failure) := fun _ h => .error h

theorem upholds_fail (err : AudioError) :
    Upholds I (fail err : EngineM JournaledHost α) (fail err) := upholds_throw _

theorem upholds_fail_bind (err : AudioError) (f : α → EngineM JournaledHost β)
    (g : α → EngineM (SimulatedHost Handler) β) :
    Upholds I (fail err >>= f) (fail err >>= g) := fun _ h => .error h

theorem upholds_ofExcept (r : Except AudioError α) : Upholds I (ofExcept r) (ofExcept r) := by
  cases r with
  | ok a => exact upholds_pure a
  | error err => exact upholds_fail err

/-- A modification upholds what it preserves, and has to be the same beneath the journal. -/
theorem upholds_modify {g : JournaledEngine → JournaledEngine}
    {g' : SimulatedEngine → SimulatedEngine} (hbeneath : ∀ w, (g w).beneath = g' w.beneath)
    (hI : ∀ w, I w → I (g w)) : Upholds I (modify g) (modify g') := fun w h =>
  agrees_of_ok (modify_apply g w) (by rw [modify_apply, hbeneath]) (hI w h)

/-- Programs that uphold an invariant uphold it one after the other: between the two it holds, so
the second starts from where it may. The two runs are told apart from what they answer by
generalizing them, so that the cases are those of `Agrees`. -/
theorem Upholds.bind {f : α → EngineM JournaledHost β} {g : α → EngineM (SimulatedHost Handler) β}
    (h : Upholds I x y) (hf : ∀ a, Upholds I (f a) (g a)) : Upholds I (x >>= f) (y >>= g) := by
  intro w hw
  have hrun := h w hw
  rw [bind_apply, bind_apply]
  revert hrun
  generalize x w = r
  generalize y w.beneath = r'
  intro hrun
  cases hrun with
  | ok upheld => exact hf _ _ upheld
  | error upheld => exact .error upheld

/-- An attempted program upholds what the program does: both runs fail, or neither. A crash is
passed on by both, with the invariant as it was when it happened. -/
theorem Upholds.attempt (h : Upholds I x y) :
    Upholds I (EngineM.attempt x) (EngineM.attempt y) := by
  intro w hw
  have hrun := h w hw
  rw [attempt_apply, attempt_apply]
  revert hrun
  generalize x w = r
  generalize y w.beneath = r'
  intro hrun
  cases hrun with
  | ok upheld => exact .ok upheld
  | @error failure _ upheld =>
    cases failure with
    | error err => exact .ok upheld
    | crash message => exact .error upheld

/-- What a program reads is the same beneath the journal, so that both go on in the same way. The
host is among what is read, but no program looks at a journal. -/
theorem upholds_get_bind {f : JournaledEngine → EngineM JournaledHost β}
    {g : SimulatedEngine → EngineM (SimulatedHost Handler) β}
    (h : ∀ w₀, Upholds I (f w₀) (g w₀.beneath)) : Upholds I (get >>= f) (get >>= g) :=
  fun w hw => h w w hw

theorem upholds_ite {c : Prop} [Decidable c] {x' : EngineM JournaledHost α}
    {y' : EngineM (SimulatedHost Handler) α} (h : Upholds I x y) (h' : Upholds I x' y') :
    Upholds I (if c then x else x') (if c then y else y') := by
  split
  · exact h
  · exact h'

/-! ## Invariants of the sides -/

/-- Where a side stands after the host was asked to stop its stream. -/
def stateAfterStop : Except HostError Unit → StreamState
  | .ok () => .opened
  | .error _ => .error

/-- **An invariant that work on one side survives**, whatever the host answers. -/
structure SideInvariant (I : JournaledEngine → Prop) : Prop where
  /-- It is about the host, the handles, the states and the events that wait. -/
  frame {w w' : JournaledEngine} (h : I w) (host : w'.host = w.host)
    (streams : w'.streams = w.streams) (states : w'.line.states = w.line.states)
    (pending : w'.line.link.pending = w.line.link.pending) : I w'
  stopped {w : JournaledEngine} {d : Direction} {s : StreamHandle} {host : JournaledHost}
    {answer : Except HostError Unit} (h : I w) (held : w.streams.get d = some s)
    (running : w.state d = .running) (asked : w.host.stopStream s = (answer, host)) :
    I { w with host, line := w.line.setState d (stateAfterStop answer) }
  started {w : JournaledEngine} {d : Direction} {s : StreamHandle} {host : JournaledHost}
    (h : I w) (held : w.streams.get d = some s) (resting : w.state d = .opened)
    (asked : w.host.startStream s = (.ok (), host)) :
    I { w with host, line := w.line.setState d .running }
  notStarted {w : JournaledEngine} {d : Direction} {s : StreamHandle} {host : JournaledHost}
    {source : HostError} (h : I w) (held : w.streams.get d = some s)
    (asked : w.host.startStream s = (.error source, host)) : I { w with host }
  settled {w : JournaledEngine} {d : Direction} (h : I w) (held : w.streams.get d = none) :
    I { w with line := w.line.setState d .closed }
  closed {w : JournaledEngine} {d : Direction} {s s' : StreamHandle} {host host' : JournaledHost}
    {answer : Except HostError Unit} (h : I w) (held : w.streams.get d = some s)
    (asked : w.host.closeStream s = ((answer, s'), host))
    (discarded : host.discard s' = ((), host')) :
    I { w with
      host := host', streams := w.streams.set d none, line := w.line.setState d .closed }
  refused {w : JournaledEngine} {d : Direction} {r : StreamSpec} {handler : Handler}
    {host : JournaledHost} {source : HostError} (h : I w) (state : w.state d = .closed)
    (asked : w.host.openStream d r handler = (.refused source, host)) : I { w with host }
  unfit {w : JournaledEngine} {d : Direction} {r : StreamSpec} {handler : Handler}
    {s s' : StreamHandle} {host host' host'' : JournaledHost} {answer : Except HostError Unit}
    (h : I w) (state : w.state d = .closed) (direction : r.direction = d)
    (asked : w.host.openStream d r handler = (.opened s, host))
    (closed : host.closeStream s = ((answer, s'), host'))
    (discarded : host'.discard s' = ((), host'')) : I { w with host := host'' }
  opened {w : JournaledEngine} {d : Direction} {r : StreamSpec} {handler : Handler}
    {s : StreamHandle} {host host' : JournaledHost} {frames : Nat} {answer : Except HostError Nat}
    (h : I w) (state : w.state d = .closed) (direction : r.direction = d)
    (asked : w.host.openStream d r handler = (.opened s, host))
    (sized : host.setBufferSize s frames = (answer, host')) :
    I { w with
      host := host', streams := w.streams.set d (some s), line := w.line.setState d .opened }

variable (hI : SideInvariant I)
include hI

/-! ## Programs that do not ask the host -/

/-- A change that no side shows, of the mark of the session, the effect or the channel. The frame
condition of `SideInvariant` is all that it takes. -/
theorem upholds_mark {g : JournaledEngine → JournaledEngine}
    {g' : SimulatedEngine → SimulatedEngine}
    (hbeneath : ∀ w, (g w).beneath = g' w.beneath := by intro _; rfl)
    (hhost : ∀ w, (g w).host = w.host := by intro _; rfl)
    (hstreams : ∀ w, (g w).streams = w.streams := by intro _; rfl)
    (hstates : ∀ w, (g w).line.states = w.line.states := by intro _; rfl)
    (hpending : ∀ w, (g w).line.link.pending = w.line.link.pending := by intro _; rfl) :
    Upholds I (modify g) (modify g') :=
  upholds_modify hbeneath fun w h => hI.frame h (hhost w) (hstreams w) (hstates w) (hpending w)

/-- A notice is such a change, for an invariant of the sides does not speak of the board. -/
theorem upholds_publish (kind : Occurrence) (detail : Option String) :
    Upholds I (publish kind detail) (publish kind detail) := upholds_mark hI

theorem upholds_detach : Upholds I (modifyLine Line.detach) (modifyLine Line.detach) :=
  upholds_mark hI

/-! ## One side -/

/-- **Stopping a side** upholds an invariant of the sides. It may have no handle, not run, stop, or
be refused; the last two are conditions of `SideInvariant`. -/
theorem upholds_stopSide (d : Direction) : Upholds I (stopSide d) (stopSide d) := by
  intro w h
  by_cases hr : w.state d = .running
  · cases hs : w.streams.get d with
    | none => exact agrees_of_ok (stopSide_of_none hs) (stopSide_of_none hs) h
    | some s =>
      -- the host beneath answers, and the journal is about that answer
      rcases hask : SimulatedHost.stopStream s w.host.inner with ⟨answer, inner⟩
      have hjournaled : w.host.stopStream s = (answer, w.host.enter (Deed.ofStop s answer) inner) := by
        unfold JournaledHost.stopStream
        rw [hask]
      have hplain := quiet_of_eq hask (w.line.setState d .stopping)
      have hshown := quiet_of_eq hjournaled (w.line.setState d .stopping)
      have hupheld := hI.stopped h hs hr hjournaled
      cases answer with
      | ok _ =>
        exact agrees_of_ok (stopSide_of_ok hs hr hshown)
          (stopSide_of_ok (e := w.beneath) hs hr hplain) hupheld
      | error source =>
        exact agrees_of_error (stopSide_of_error hs hr hshown)
          (stopSide_of_error (e := w.beneath) hs hr hplain) hupheld
  · exact agrees_of_ok (stopSide_of_not_running hr) (stopSide_of_not_running hr) h

/-- **Starting a side** upholds it. Only an open side can be started, so the condition about a start
that succeeds may assume that. A side without a stream or in another state is refused before the
host is asked, and the invariant is not touched. -/
theorem upholds_startSide (d : Direction) : Upholds I (startSide d) (startSide d) := by
  intro w h
  cases hs : w.streams.get d with
  | none => exact agrees_of_error (startSide_of_none hs) (startSide_of_none hs) h
  | some s =>
    by_cases hr : (w.state d).canMoveTo .running = true
    · have hopened : w.state d = .opened := by
        cases hstate : w.state d with
        | opened => rfl
        | _ => rw [hstate] at hr; cases hr
      -- one answer serves both runs: the journaled host asks the one beneath and adds to the
      -- journal
      rcases hask : SimulatedHost.startStream s w.host.inner with ⟨answer, inner⟩
      have hjournaled : w.host.startStream s = (answer, w.host.enter [] inner) := by
        unfold JournaledHost.startStream
        rw [hask]
      have hplain := quiet_of_eq hask w.line
      have hshown := quiet_of_eq hjournaled w.line
      cases answer with
      | ok _ =>
        exact agrees_of_ok (startSide_of_ok hs hr hshown)
          (startSide_of_ok (e := w.beneath) hs hr hplain) (hI.started h hs hopened hjournaled)
      | error source =>
        exact agrees_of_error (startSide_of_error hs hr hshown)
          (startSide_of_error (e := w.beneath) hs hr hplain) (hI.notStarted h hs hjournaled)
    · have hno : (w.state d).canMoveTo .running = false := by simpa using hr
      exact agrees_of_error (startSide_of_not_startable hs hno)
        (startSide_of_not_startable (e := w.beneath) hs hno) h

/-- **Closing a side** upholds it, with a handle or without one. A close that the host refuses is
told apart from one that it makes in the journal only, by `Deed.ofClose`. -/
theorem upholds_closeSide (d : Direction) : Upholds I (closeSide d) (closeSide d) := by
  intro w h
  cases hs : w.streams.get d with
  | none =>
    have hsettle : w.line.settle d = w.line.setState d .closed := by
      unfold Line.settle
      rw [StreamState.settled_eq_closed]
    have hupheld := hI.settled h hs
    rw [← hsettle] at hupheld
    exact agrees_of_ok (closeSide_of_none hs) (closeSide_of_none (e := w.beneath) hs) hupheld
  | some s =>
    -- again one answer for both runs; whether it was a close or a refusal is in the journal
    rcases hask : SimulatedHost.closeStream s w.host.inner with ⟨⟨answer, s'⟩, inner⟩
    have hjournaled : w.host.closeStream s
        = ((answer, s'), w.host.enter (Deed.ofClose s answer) inner) := by
      unfold JournaledHost.closeStream
      rw [hask]
    have hplain := quiet_of_eq hask w.line
    have hshown := quiet_of_eq hjournaled w.line
    have hupheld := hI.closed h hs hjournaled rfl
    have hx := closeSide_of_some hs hshown rfl
    have hy := closeSide_of_some (e := w.beneath) hs hplain rfl
    cases answer with
    | ok _ => exact agrees_of_ok hx hy hupheld
    | error source => exact agrees_of_error hx hy hupheld

/-- **Opening a side** upholds it: it may be refused at the guard, by the host, or by the check of
what the host has opened, and each of these is a condition of its own. -/
theorem upholds_openSide (d : Direction) (rate : Nat) :
    Upholds I (openSide d rate) (openSide d rate) := by
  intro w h
  by_cases hc : w.line.channel.isSome = true
  · by_cases hstate : w.state d = .closed
    · rcases hask : SimulatedHost.openStream d (w.config.spec d rate) (handlerFor d w) w.host.inner
        with ⟨answer, inner⟩
      have hjournaled : w.host.openStream d (w.config.spec d rate) (handlerFor d w)
          = (answer, w.host.enter (Deed.ofOpening d answer) inner) := by
        unfold JournaledHost.openStream
        rw [hask]
        rfl
      have hplain := quiet_of_eq hask (w.line.setState d .opening)
      have hshown := quiet_of_eq hjournaled (w.line.setState d .opening)
      cases answer with
      | crashed message =>
        -- this host does not crash
        rcases SimulatedHost.openStream_cases d (w.config.spec d rate) (handlerFor d w) w.host.inner
          with ⟨_, _, hrefused, _⟩ | ⟨_, hopened, _⟩
        · rw [hask] at hrefused
          cases hrefused
        · rw [hask] at hopened
          cases hopened
      | refused source =>
        exact agrees_of_error (openSide_of_refused hc hstate hshown)
          (openSide_of_refused (e := w.beneath) hc hstate hplain) (hI.refused h hstate hjournaled)
      | opened s =>
        cases hfit : checkFit w.config.period rate s.properties with
        | error err =>
          exact agrees_of_error (openSide_of_misfit hc hstate hshown hfit rfl rfl)
            (openSide_of_misfit (e := w.beneath) hc hstate hplain hfit rfl rfl)
            (hI.unfit h hstate rfl hjournaled rfl rfl)
        | ok _ =>
          have hsized : (w.host.enter (Deed.ofOpening d (.opened s)) inner).setBufferSize s
              w.config.period.doubleFrames = (_, _) := rfl
          have hupheld := hI.opened h hstate rfl hjournaled hsized
          refine agrees_of_ok (openSide_of_fit hc hstate hshown hfit rfl)
            (openSide_of_fit (e := w.beneath) hc hstate hplain hfit rfl) ?_
          exact hI.frame hupheld rfl rfl rfl rfl
    · exact agrees_of_error (openSide_of_not_closed hc hstate rate)
        (openSide_of_not_closed (e := w.beneath) hc hstate rate) h
  · have hnone : w.line.channel = none := by simpa using hc
    exact agrees_of_error (openSide_of_no_channel hnone rate)
      (openSide_of_no_channel (e := w.beneath) hnone rate) h

end EngineM

end Passthrough
