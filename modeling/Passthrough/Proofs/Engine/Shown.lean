import Passthrough.Engine.Hardware
import Passthrough.Proofs.Engine.Outcome
import Passthrough.Proofs.Host.Logged
/-!
# Programs under observation

A program of an engine does not know its host, so it can be run beside itself on the logged host.
`Shows x y e log` says what that comes to: `x`, on the logged host, replies as `y` does on the
simulated one and leaves the same engine, and the log has grown by the calls that the host recorded,
each of them in order.

Programs that do not ask the host show nothing; a program that asks it shows the calls that it
issues (`shows_askHost`); and programs that go on from one another show what both show. Where the
order of a call depends on what came before it, the ending of the plain program (`Ends`) says what
that was.
-/

namespace Passthrough

open EngineM

/-- An engine under observation. -/
abbrev LoggedEngine := Engine LoggedHost

/-- The engine on the host beneath the log. -/
def LoggedEngine.plain (e : LoggedEngine) : SimulatedEngine := { e with host := e.host.inner }

namespace Engine

/-- An engine put under observation, with what has been logged so far. -/
def withLog (e : SimulatedEngine) (log : List Moment) : LoggedEngine :=
  { e with host := { inner := e.host, log } }

/-- **What is added to a log.** The record of the host and the log grow by the same calls, and each
of them is in order. -/
def Logs (e e' : SimulatedEngine) (log log' : List Moment) : Prop :=
  ∃ new : List Moment, log' = log ++ new ∧ e'.host.calls = e.host.calls ++ new.map (·.call)
    ∧ ∀ m ∈ new, m.Orderly

variable {e e' e'' : SimulatedEngine} {log log' log'' : List Moment}

/-- A program during which the host records nothing adds nothing to a log, whatever else it does. -/
theorem logs_nothing (hcalls : e'.host.calls = e.host.calls) (log : List Moment) :
    Logs e e' log log :=
  ⟨[], (List.append_nil log).symm, by simpa using hcalls, by simp⟩

/-- What two programs add to a log one after the other is in order if each of the two parts is. The
calls of both are what the host has recorded meanwhile, and the log has the same. -/
theorem Logs.trans (h : Logs e e' log log') (h' : Logs e' e'' log' log'') :
    Logs e e'' log log'' := by
  obtain ⟨new, rfl, hcalls, horder⟩ := h
  obtain ⟨new', rfl, hcalls', horder'⟩ := h'
  refine ⟨new ++ new', List.append_assoc .., ?_, ?_⟩
  · rw [hcalls', hcalls, List.map_append, List.append_assoc]
  · intro m hm
    rcases List.mem_append.mp hm with hold | hnew
    · exact horder m hold
    · exact horder' m hnew

/-- A log of calls in order that grows by calls in order is one. The order of a call is judged at
the moment at which it is issued, so what comes later cannot break it. -/
theorem Logs.orderly (h : Logs e e' log log') (hlog : ∀ m ∈ log, m.Orderly) :
    ∀ m ∈ log', m.Orderly := by
  obtain ⟨new, rfl, _, horder⟩ := h
  intro m hm
  rcases List.mem_append.mp hm with hold | hnew
  · exact hlog m hold
  · exact horder m hnew

/-- A log that covers the record of the host covers it still: both have grown at the same end, by
the same calls. -/
theorem Logs.covers (h : Logs e e' log log') (hlog : e.host.calls <:+ log.map (·.call)) :
    e'.host.calls <:+ log'.map (·.call) := by
  obtain ⟨new, rfl, hcalls, _⟩ := h
  obtain ⟨old, hold⟩ := hlog
  refine ⟨old, ?_⟩
  rw [hcalls, List.map_append, ← hold, List.append_assoc]

end Engine

namespace EngineM

open Engine

variable {α β : Type} {e : SimulatedEngine} {log : List Moment}
  {x : EngineM LoggedHost α} {y : EngineM (SimulatedHost Handler) α}
  {Q : Except AudioError α → SimulatedEngine → Prop}

/-- **A program beside itself.** -/
inductive Shows (x : EngineM LoggedHost α) (y : EngineM (SimulatedHost Handler) α)
    (e : SimulatedEngine) (log : List Moment) : Prop
  | ok {a : α} {e' : SimulatedEngine} {log' : List Moment} (plain : y e = .ok a e')
    (shown : x (e.withLog log) = .ok a (e'.withLog log')) (logs : Logs e e' log log')
  | error {failure : Failure} {e' : SimulatedEngine} {log' : List Moment}
    (plain : y e = .error failure e')
    (shown : x (e.withLog log) = .error failure (e'.withLog log')) (logs : Logs e e' log log')

/-! ## Programs that do not ask the host -/

theorem shows_pure (a : α) : Shows (pure a) (pure a) e log :=
  .ok rfl rfl (logs_nothing rfl log)

theorem shows_throw (failure : Failure) :
    Shows (throw failure : EngineM LoggedHost α) (throw failure) e log :=
  .error rfl rfl (logs_nothing rfl log)

theorem shows_fail (err : AudioError) : Shows (fail err : EngineM LoggedHost α) (fail err) e log :=
  shows_throw _

theorem shows_ofExcept (r : Except AudioError α) : Shows (ofExcept r) (ofExcept r) e log := by
  cases r with
  | ok a => exact shows_pure a
  | error err => exact shows_fail err

/-- A change that the host has no part in shows nothing. It has to be made on both engines alike,
and `hg` says that it is. -/
theorem shows_modify {g : LoggedEngine → LoggedEngine} {g' : SimulatedEngine → SimulatedEngine}
    (hg : g (e.withLog log) = (g' e).withLog log) (hhost : (g' e).host = e.host) :
    Shows (modify g) (modify g') e log := by
  refine .ok (modify_apply g' e) ?_ (logs_nothing (by rw [hhost]) log)
  rw [modify_apply, hg]

/-- The line is the same on both sides of an observation, so the same change applies to both. -/
theorem shows_modifyLine (f : Line → Line) : Shows (modifyLine f) (modifyLine f) e log :=
  .ok rfl rfl (logs_nothing rfl log)

theorem shows_publish (kind : Occurrence) (detail : Option String) :
    Shows (publish kind detail) (publish kind detail) e log :=
  .ok rfl rfl (logs_nothing rfl log)

/-! ## How programs go on -/

/-- Programs that go on from one another show what both show. The second starts from the engine that
the plain program has left, so that what is known of that engine may be used. -/
theorem Shows.bind {f : α → EngineM LoggedHost β} {g : α → EngineM (SimulatedHost Handler) β}
    (h : Shows x y e log) (hf : ∀ a e' log', y e = .ok a e' → Shows (f a) (g a) e' log') :
    Shows (x >>= f) (y >>= g) e log := by
  cases h with
  | error plain shown logs =>
    exact .error (by rw [bind_apply, plain]) (by rw [bind_apply, shown]) logs
  | ok plain shown logs =>
    cases hf _ _ _ plain with
    | ok plain' shown' logs' =>
      exact .ok (by rw [bind_apply, plain]; exact plain') (by rw [bind_apply, shown]; exact shown')
        (logs.trans logs')
    | error plain' shown' logs' =>
      exact .error (by rw [bind_apply, plain]; exact plain')
        (by rw [bind_apply, shown]; exact shown') (logs.trans logs')

/-- What comes next may rely on how the plain program has ended: its ending is stated by `Ends` and
does not have to be proved again under observation. -/
theorem Shows.bind_ends {f : α → EngineM LoggedHost β}
    {g : α → EngineM (SimulatedHost Handler) β} (h : Shows x y e log) (hy : Ends y e Q)
    (hf : ∀ a e' log', Q (.ok a) e' → Shows (f a) (g a) e' log') :
    Shows (x >>= f) (y >>= g) e log := by
  -- the plain program has one ending, which is what `hy` speaks of
  refine h.bind fun a e' log' plain => hf a e' log' ?_
  unfold Ends at hy
  rw [plain] at hy
  exact hy

/-- An attempted program shows what the program shows, whether it fails or not. A crash is passed on
by both runs, and an error becomes an answer in both. -/
theorem Shows.attempt (h : Shows x y e log) :
    Shows (EngineM.attempt x) (EngineM.attempt y) e log := by
  cases h with
  | ok plain shown logs =>
    exact .ok (by rw [attempt_apply, plain]) (by rw [attempt_apply, shown]) logs
  | @error failure _ _ plain shown logs =>
    cases failure with
    | error err => exact .ok (by rw [attempt_apply, plain]) (by rw [attempt_apply, shown]) logs
    | crash message =>
      exact .error (by rw [attempt_apply, plain]) (by rw [attempt_apply, shown]) logs

/-- After an attempt both runs go on with the same reply, and the ending of the plain program says
what that may be. This is the step by which a program with several parts is shown, since most parts
are attempted. -/
theorem Shows.attempt_bind {f : Except AudioError α → EngineM LoggedHost β}
    {g : Except AudioError α → EngineM (SimulatedHost Handler) β} (h : Shows x y e log)
    (hy : Ends y e Q) (hf : ∀ r e' log', Q r e' → Shows (f r) (g r) e' log') :
    Shows (EngineM.attempt x >>= f) (EngineM.attempt y >>= g) e log := by
  refine h.attempt.bind fun r e' log' plain => hf r e' log' ?_
  rw [attempt_apply] at plain
  rcases hy.cases with ⟨a, e₁, hrun, hq⟩ | ⟨err, e₁, hrun, hq⟩
  · rw [hrun] at plain
    cases plain
    exact hq
  · rw [hrun] at plain
    cases plain
    exact hq

/-- What a program reads is the plain engine with a log beside it; it cannot tell the two apart,
since its host answers the same. -/
theorem shows_get_bind {f : LoggedEngine → EngineM LoggedHost β}
    {g : SimulatedEngine → EngineM (SimulatedHost Handler) β}
    (h : Shows (f (e.withLog log)) (g e) e log) : Shows (get >>= f) (get >>= g) e log := by
  cases h with
  | ok plain shown logs => exact .ok plain shown logs
  | error plain shown logs => exact .error plain shown logs

/-- A branch is shown by showing its arms, each under its own condition. The condition is about the
plain engine, on which both runs agree. Neither arm has to be shown where the condition rules it
out. -/
theorem shows_ite {c : Prop} [Decidable c] {x' : EngineM LoggedHost α}
    {y' : EngineM (SimulatedHost Handler) α} (ht : c → Shows x y e log)
    (hf : ¬ c → Shows x' y' e log) :
    Shows (if c then x else x') (if c then y else y') e log := by
  by_cases hc : c
  · rw [if_pos hc, if_pos hc]
    exact ht hc
  · rw [if_neg hc, if_neg hc]
    exact hf hc

/-! ## Programs that ask the host -/

/-- **Asking the host** shows the calls that it records, as of now. This is the only place where
anything gets into the log, and where an order has to be proved. -/
theorem shows_askHost {call : HostAction (SimulatedHost Handler) Line α}
    {issued : List CallRecord}
    (hissued : (call e.host e.line).2.1.calls = e.host.calls ++ issued)
    (horder : ∀ c ∈ issued, Moment.Orderly ⟨c, e.host, e.line⟩) :
    Shows (askHost (LoggedHost.logged call)) (askHost call) e log := by
  have hlogged : LoggedHost.logged call ⟨e.host, log⟩ e.line
      = ((call e.host e.line).1,
          ⟨(call e.host e.line).2.1, log ++ issued.map fun c => ⟨c, e.host, e.line⟩⟩,
          (call e.host e.line).2.2) :=
    LoggedHost.logged_apply rfl hissued log
  have hshown : askHost (LoggedHost.logged call) (e.withLog log)
      = .ok (call e.host e.line).1 (({ e with
          host := (call e.host e.line).2.1
          line := (call e.host e.line).2.2 } : SimulatedEngine).withLog
            (log ++ issued.map fun c => ⟨c, e.host, e.line⟩)) := by
    rw [askHost_apply]
    show EStateM.Result.ok (LoggedHost.logged call ⟨e.host, log⟩ e.line).1
      { e with
        host := (LoggedHost.logged call ⟨e.host, log⟩ e.line).2.1
        line := (LoggedHost.logged call ⟨e.host, log⟩ e.line).2.2 } = _
    rw [hlogged]
    rfl
  -- the moments logged carry the calls recorded, in the same order
  refine .ok (askHost_apply call e) hshown ⟨_, rfl, ?_, ?_⟩
  · show (call e.host e.line).2.1.calls = _
    rw [hissued, List.map_map]
    exact congrArg _ (List.map_id' issued).symm
  · intro m hm
    obtain ⟨c, hc, rfl⟩ := List.mem_map.mp hm
    exact horder c hc

/-- A call that the host does not record, such as the sizing of a buffer, shows nothing and needs no
order. -/
theorem shows_askHost_unrecorded {call : HostAction (SimulatedHost Handler) Line α}
    (hcalls : (call e.host e.line).2.1.calls = e.host.calls) :
    Shows (askHost (LoggedHost.logged call)) (askHost call) e log :=
  shows_askHost (by rw [hcalls, List.append_nil]) (by simp)

/-! ## Calls of an engine -/

/-- From programs to calls: the call under observation answers as the plain one does, and the log
has grown by what was asked. A crash poisons both engines, and no call of the simulated host comes
to one. -/
theorem Shows.runAnyway (h : Shows x y e log) :
    ∃ log', (e.withLog log).runAnyway x
        = ((e.runAnyway y).1, (e.runAnyway y).2.withLog log')
      ∧ Logs e (e.runAnyway y).2 log log' := by
  unfold Engine.runAnyway
  cases h with
  | @ok _ _ log' plain shown logs =>
    rw [plain, shown]
    exact ⟨log', rfl, logs⟩
  | @error failure _ log' plain shown logs =>
    rw [plain, shown]
    cases failure with
    | error err => exact ⟨log', rfl, logs⟩
    | crash message => exact ⟨log', rfl, logs⟩

/-- The same for calls that look at the poison first. A poisoned engine refuses on both sides and
asks nothing, so that the two cases need nothing of `x` and `y` but `Shows`. -/
theorem Shows.run (h : Shows x y e log) :
    ∃ log', (e.withLog log).run x = ((e.run y).1, (e.run y).2.withLog log')
      ∧ Logs e (e.run y).2 log log' := by
  -- the poison is part of the engine, not of the host, and so the same on both sides
  cases hp : e.poisoned with
  | true =>
    have hrun : e.run y = (.error (.error (.lockPoisoned lockName)), e) := by
      unfold Engine.run
      rw [hp]
      rfl
    have hrun' : (e.withLog log).run x
        = (.error (.error (.lockPoisoned lockName)), e.withLog log) := by
      unfold Engine.run
      rw [show (e.withLog log).poisoned = true from hp]
      rfl
    rw [hrun, hrun']
    exact ⟨log, rfl, logs_nothing rfl log⟩
  | false =>
    have hrun : e.run y = e.runAnyway y := by
      unfold Engine.run
      rw [hp]
      rfl
    have hrun' : (e.withLog log).run x = (e.withLog log).runAnyway x := by
      unfold Engine.run
      rw [show (e.withLog log).poisoned = false from hp]
      rfl
    rw [hrun, hrun']
    exact h.runAnyway

end EngineM

end Passthrough
