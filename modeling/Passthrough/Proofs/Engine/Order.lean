import Passthrough.Proofs.Engine.OrderlyPrograms
import Passthrough.Proofs.Engine.Run
/-!
# The order of the hardware calls

A run under observation keeps a log of the calls that the engine makes of its host, each with the
moment at which it is issued. Whatever the run, every call in the log is in order, and so is every
call of the engine's dismissal.

* **`call_observed`** — a call under observation ends as it would, and logs what it asks for.
* **`observe_ends`**, **`observed_run`** — so does a step, and so does a run.
* **`calls_in_order`** — what the log of any run says.
-/

namespace Passthrough

open EngineM SimulatedHost

namespace Engine

variable {e : SimulatedEngine} {log : List Moment}

/-! ## The calls of an engine -/

/-- A call under observation: the engine ends as it would, and the log covers what was asked. -/
def Observed (c : Call) (e : SimulatedEngine) (log : List Moment) : Prop :=
  ∃ log', (e.withLog log).call c = (e.call c).withLog log' ∧ Logs e (e.call c) log log'

/-- A call that does not go through to the host logs nothing; the engine under observation ends as
the plain one does, with the log that it had. -/
theorem observed_of_configures {c : Call} (hc : c.configures = true)
    (hcall : (e.withLog log).call c = (e.call c).withLog log) : Observed c e log :=
  ⟨log, hcall, logs_nothing (congrArg (·.calls) (e.host_of_configures hc)) log⟩

/-- A call that runs a program is observed if its program shows. The two equations only say which
program the call runs. So each call that runs a program is one line in `call_observed`, with the
lemma of the program that it runs. -/
theorem observed_of_run {α : Type} {c : Call} {x : EngineM LoggedHost α}
    {y : EngineM (SimulatedHost Handler) α} (h : Shows x y e log)
    (hx : (e.withLog log).call c = ((e.withLog log).run x).2) (hy : e.call c = (e.run y).2) :
    Observed c e log := by
  obtain ⟨log', hrun, hlogs⟩ := h.run
  refine ⟨log', ?_, ?_⟩
  · rw [hx, hy, hrun]
  · rw [hy]
    exact hlogs

/-- Options are taken over or refused on both sides alike, since the guard looks at handles and not
at the host. The two engines have the same handles (`withLog_holdsStreams`), and `ofOptions` reads
neither. -/
theorem observed_configure (options : Options) : Observed (.configure options) e log := by
  refine observed_of_configures rfl ?_
  show ((e.withLog log).configure options).2 = (e.configure options).2.withLog log
  unfold configure
  rw [withLog_holdsStreams]
  cases Config.ofOptions options with
  | error _ => rfl
  | ok config => cases e.holdsStreams <;> rfl

theorem observed_selectApi (api : AudioApi) : Observed (.selectApi api) e log := by
  refine observed_of_configures rfl ?_
  show ((e.withLog log).selectApi api).2 = (e.selectApi api).2.withLog log
  unfold selectApi
  rw [withLog_holdsStreams, withLog_effectOn]
  split <;> rfl

/-- A device is taken over or refused on both sides alike. -/
theorem observed_selectDevice (d : Direction) (id : Int) : Observed (.selectDevice d id) e log := by
  refine observed_of_configures rfl ?_
  show ((e.withLog log).selectDevice d id).2 = (e.selectDevice d id).2.withLog log
  unfold selectDevice
  cases Config.deviceId (deviceField d) id with
  | error _ => rfl
  | ok id => cases d <;> rfl

/-- Attending to the events that wait, whoever does it: under observation the same answer, the same
engine, and a log that has grown in order. The owner and the worker take the events in the same way,
so that both rest on this lemma. -/
theorem attend_taken_shows (h : Sound e) (batch : List Event) (log : List Moment) :
    ∃ e' log', e.taken.runAnyway (attend batch) = (.ok (), e')
      ∧ (e.withLog log).taken.runAnyway (attend batch) = (.ok (), e'.withLog log')
      ∧ Logs e e' log log' := by
  obtain ⟨e', hattend, _⟩ := attend_taken h batch
  obtain ⟨log', hrun, hlogs⟩ := (attend_shows h.taken batch).runAnyway
  rw [hattend] at hrun hlogs
  exact ⟨e', log', hattend, hrun, hlogs⟩

/-- Attending by hand is observed in its three cases: nothing to do for want of the right or of
events, and a batch that is attended to. The cases are told apart by fields that the two engines
share, the recovery and the link. -/
theorem observed_attendPending (h : Sound e) : Observed .attendPending e log := by
  unfold Observed
  show ∃ log', (e.withLog log).attendPending.2 = e.attendPending.2.withLog log'
    ∧ Logs e e.attendPending.2 log log'
  cases hrecovery : e.recovery with
  | worker =>
    have hlogged : (e.withLog log).recovery = .worker := hrecovery
    rw [attendPending_of_worker hrecovery, attendPending_of_worker hlogged]
    exact ⟨log, rfl, logs_nothing rfl log⟩
  | manual =>
    have hlogged : (e.withLog log).recovery = .manual := hrecovery
    by_cases hempty : e.line.link.pending = []
    · rw [attendPending_of_empty hrecovery hempty, attendPending_of_empty hlogged hempty]
      exact ⟨log, rfl, logs_nothing rfl log⟩
    · -- with events, both engines attend to the same batch
      obtain ⟨e', log', hattend, hshown, hlogs⟩ := attend_taken_shows h e.line.link.pending log
      rw [attendPending_of_attended hrecovery hempty hattend,
        attendPending_of_attended hlogged hempty hshown]
      exact ⟨log', rfl, hlogs⟩

/-- A wake of the worker is observed in the same three cases. The worker finds nothing where the
owner attends, and the other way round; that is all the difference. -/
theorem observed_runWorker (h : Sound e) : Observed .runWorker e log := by
  unfold Observed
  show ∃ log', (e.withLog log).runWorker = e.runWorker.withLog log' ∧ Logs e e.runWorker log log'
  cases hrecovery : e.recovery with
  | manual =>
    have hlogged : (e.withLog log).recovery = .manual := hrecovery
    rw [runWorker_of_manual hrecovery, runWorker_of_manual hlogged]
    exact ⟨log, rfl, logs_nothing rfl log⟩
  | worker =>
    have hlogged : (e.withLog log).recovery = .worker := hrecovery
    by_cases hempty : e.line.link.pending = []
    · rw [runWorker_of_empty hrecovery hempty, runWorker_of_empty hlogged hempty]
      exact ⟨log, rfl, logs_nothing rfl log⟩
    · obtain ⟨e', log', hattend, hshown, hlogs⟩ := attend_taken_shows h e.line.link.pending log
      rw [runWorker_of_attended hrecovery hempty hattend,
        runWorker_of_attended hlogged hempty hshown]
      exact ⟨log', rfl, hlogs⟩

/-- **Every call is observed in order**, on a sound engine: it ends as it would without the log, and
what it asks for is in the log, each call in order at its moment. -/
theorem call_observed (h : Sound e) (c : Call) (log : List Moment) : Observed c e log := by
  cases c with
  | configure options => exact observed_configure options
  | selectApi api => exact observed_selectApi api
  | selectDevice d id => exact observed_selectDevice d id
  | selectObserver observer => exact observed_of_configures rfl rfl
  | bringUp => exact observed_of_run (bringUp_shows h) rfl rfl
  | start => exact observed_of_run (start_shows h) rfl rfl
  | stop => exact observed_of_run (stop_shows h.settled) rfl rfl
  | bringDown => exact observed_of_run (bringDown_shows h.settled) rfl rfl
  | switch on => exact observed_of_run (switch_shows h on) rfl rfl
  | trySwitch on =>
    have hlogged : (e.withLog log).poisoned = false := h.poisoned
    exact observed_of_run (trySwitch_shows h on) (congrArg Prod.snd (trySwitch_eq_run hlogged on))
      (congrArg Prod.snd (trySwitch_eq_run h.poisoned on))
  | repair => exact observed_of_run (repair_shows h) rfl rfl
  | attendPending => exact observed_attendPending h
  | runWorker => exact observed_runWorker h

/-! ## Runs under observation -/

/-- One step under observation. What the hardware does asks the host for nothing. -/
def observe (a : Action) (w : LoggedEngine) : LoggedEngine :=
  match a with
  | .call c => w.call c
  | a => (w.plain.perform a).withLog w.host.log

/-- A run under observation, from the moment the engine is made. -/
def observed (e : SimulatedEngine) (as : List Action) : LoggedEngine :=
  as.foldl (fun w a => observe a w) (e.withLog [])

/-- **What a log says about a host.** It holds all calls that the host has on record, and each call
that it holds was in order when it was issued. -/
structure Covers (log : List Moment) (host : SimulatedHost Handler) : Prop where
  calls : host.calls <:+ log.map (·.call)
  orderly : ∀ m ∈ log, m.Orderly

theorem Logs.keeps_covers {e' : SimulatedEngine} {log' : List Moment} (h : Logs e e' log log')
    (hlog : Covers log e.host) : Covers log' e'.host :=
  ⟨h.covers hlog.calls, h.orderly hlog.orderly⟩

/-- The hardware makes no calls, and a host that is told to forget its record has only less of it;
so no step but a call of the engine gives the log anything to cover. -/
theorem perform_calls (a : Action) (h : ∀ c, a ≠ .call c) :
    (e.perform a).host.calls = e.host.calls ∨ (e.perform a).host.calls = [] := by
  cases a with
  | call c => exact absurd rfl (h c)
  | collect => exact Or.inl rfl
  | script s =>
    cases s with
    | forgetCalls => exact Or.inr rfl
    | _ => exact Or.inl rfl
  | feed frames => exact Or.inl (calls_feed frames e.host e.line)
  | draw dest => exact Or.inl (calls_draw dest e.host e.line)
  | unplug d error => exact Or.inl (calls_unplug d error e.host e.line)

/-- **One step under observation** ends as it would, and the log goes on covering the host. Only a
call can make the host record anything; any other step leaves the calls, or clears them
(`perform_calls`), and the log covers a suffix of what it has seen. -/
theorem observe_ends (h : Sound e) (hlog : Covers log e.host) (a : Action) :
    ∃ log', observe a (e.withLog log) = (e.perform a).withLog log'
      ∧ Covers log' (e.perform a).host := by
  by_cases hcall : ∃ c, a = .call c
  · obtain ⟨c, rfl⟩ := hcall
    obtain ⟨log', hobserved, hlogs⟩ := call_observed h c log
    exact ⟨log', hobserved, hlogs.keeps_covers hlog⟩
  -- anything else works on the plain engine, and the log stays
  · have hne : ∀ c, a ≠ .call c := fun c hc => hcall ⟨c, hc⟩
    have hobserve : observe a (e.withLog log) = (e.perform a).withLog log := by
      cases a with
      | call c => exact absurd rfl (hne c)
      | _ => rfl
    refine ⟨log, hobserve, ?_, hlog.orderly⟩
    rcases perform_calls a hne with hsame | hnone
    · rw [hsame]
      exact hlog.calls
    · rw [hnone]
      exact List.nil_suffix

/-- **A whole run under observation**, by induction with `observe_ends`: it is the run, and the log
covers all that the engine has asked for on the way. -/
theorem observed_run (h : Sound e) (hlog : Covers log e.host) (as : List Action) :
    ∃ log', as.foldl (fun w a => observe a w) (e.withLog log) = (e.after as).withLog log'
      ∧ Covers log' (e.after as).host := by
  induction as generalizing e log with
  | nil => exact ⟨log, rfl, hlog⟩
  -- the step keeps the log over the record, and the engine sound for the rest of the run
  | cons a as ih =>
    obtain ⟨log', hobserve, hlog'⟩ := observe_ends h hlog a
    obtain ⟨log'', hrun, hlog''⟩ := ih (perform_sound h a).1 hlog'
    refine ⟨log'', ?_, hlog''⟩
    rw [List.foldl_cons, hobserve]
    exact hrun

/-- The dismissal at the end is observed like a step: it shuts down what is open, in order. An
engine that holds nothing is dismissed without a call, and its log stays as it is. -/
theorem dismiss_observed (h : Sound e) (hlog : Covers log e.host) :
    ∃ log', (e.withLog log).dismiss = ⟨e.dismiss, log'⟩ ∧ Covers log' e.dismiss := by
  unfold dismiss
  simp only [withLog_holdsStreams]
  by_cases hheld : e.holdsStreams = true
  · have hshut : Shows shutDown shutDown e log := shutDown_shows h.settled
    obtain ⟨log', hrun, hlogs⟩ := hshut.runAnyway
    simp only [hheld, if_true, hrun]
    exact ⟨log', rfl, hlogs.keeps_covers hlog⟩
  · simp only [hheld]
    exact ⟨log, rfl, hlog⟩

/-- **The order of the hardware calls.** Over any run of an engine, and when it is dismissed at the
end of it, every call that the engine makes of its host comes at a moment that is in order; and the
engine under observation is the engine. -/
theorem calls_in_order (config : Config) (recovery : Recovery) (noticeCapacity : Nat)
    (as : List Action) :
    let new : SimulatedEngine := create {} config recovery noticeCapacity
    let w := new.observed as
    w.plain = new.after as ∧ Covers w.host.log (new.after as).host
      ∧ w.dismiss.inner = (new.after as).dismiss ∧ Covers w.dismiss.log (new.after as).dismiss := by
  intro new w
  have hsound : Sound new := sound_create config recovery noticeCapacity
  have hempty : Covers [] new.host := ⟨List.nil_suffix, by simp⟩
  obtain ⟨log, hrun, hlog⟩ := observed_run hsound hempty as
  obtain ⟨log', hdismiss, hlog'⟩ := dismiss_observed (after_sound hsound as).1 hlog
  have hw : w = (new.after as).withLog log := hrun
  rw [hw, hdismiss]
  exact ⟨rfl, hlog, rfl, hlog'⟩

end Engine

end Passthrough
