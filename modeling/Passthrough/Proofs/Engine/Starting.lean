import Passthrough.Proofs.Engine.Issued
import Passthrough.Proofs.Engine.Run
/-!
# What a start comes to

A start is not taken back when it fails half way: an input that was started before the output
refused is left running. So its outcome is told in full. A side is *ready* if it is open and no
fault is planted for its start (`Ready`); starting a side succeeds just if it is ready, because the
stream of an open side is always live on the host.

* **`startSide_of_ready`**, **`startSide_of_unready`** — the two outcomes of one side.
* **`Unstarted`** — what a start leaves that fails: the engine is as it was, but for an input that
  was ready and now runs.
* **`start_exact`** — a start succeeds just if both sides are ready.
-/

namespace Passthrough

open EngineM SimulatedHost

/-! ## A host that is only asked to start -/

namespace SimulatedHost

variable {κ : Type} {h h' h'' : SimulatedHost κ} {calls calls' : List CallRecord}

/-- **Nothing opened, stopped or closed.** The host has been asked for these calls, and its streams
are those from before, of which some have begun to run. -/
structure Begins (calls : List CallRecord) (h h' : SimulatedHost κ) : Prop where
  asked : h'.calls = h.calls ++ calls
  requests : h'.requests = h.requests
  opened : h'.opened = h.opened
  streams : ∃ begun : List Nat, h'.streams
    = h.streams.map fun x => { x with running := x.running || begun.contains x.id }

/-- A host that has been asked without effect: the calls are recorded, and its streams are those
from before. -/
theorem begins_of_streams (hasked : h'.calls = h.calls ++ calls) (hrequests : h'.requests = h.requests)
    (hopened : h'.opened = h.opened) (hstreams : h'.streams = h.streams) : Begins calls h h' where
  asked := hasked
  requests := hrequests
  opened := hopened
  streams := ⟨[], by simp [hstreams]⟩

/-- What is asked in two parts is asked in all, and a stream runs in the end if it ran before or
was begun in either. Which streams have begun is a list of numbers, and the two lists are put
together. -/
theorem Begins.trans (hb : Begins calls h h') (hb' : Begins calls' h' h'') :
    Begins (calls ++ calls') h h'' where
  asked := by rw [hb'.asked, hb.asked, List.append_assoc]
  requests := hb'.requests.trans hb.requests
  opened := hb'.opened.trans hb.opened
  streams := by
    obtain ⟨begun, hstreams⟩ := hb.streams
    obtain ⟨begun', hstreams'⟩ := hb'.streams
    refine ⟨begun ++ begun', ?_⟩
    rw [hstreams', hstreams, List.map_map]
    simp [Function.comp_def, Bool.or_assoc]

/-- One stream that begins to run. It is what an accepted start does to the host, with its own call
in the record. -/
theorem begins_setRunning (h : SimulatedHost κ) (d : Direction) (id : Nat) :
    Begins [⟨d, .start⟩] h ((h.record d .start).setRunning id true) where
  asked := rfl
  requests := rfl
  opened := rfl
  streams := by
    refine ⟨[id], List.map_congr_left fun x _ => ?_⟩
    by_cases hx : x.id = id <;> simp [hx]

end SimulatedHost

namespace Engine

variable {e e' : SimulatedEngine} {d d' : Direction} {s : StreamHandle}

/-! ## One side -/

/-- **A side that is ready to start**: it is open, and no fault waits for its start. -/
def Ready (e : SimulatedEngine) (d : Direction) : Prop :=
  e.state d = .opened ∧ (e.host.faults.get d).start = none

instance (e : SimulatedEngine) (d : Direction) : Decidable (e.Ready d) :=
  inferInstanceAs (Decidable (_ ∧ _))

/-- The engine after a side has started. -/
def begun (d : Direction) (s : StreamHandle) (e : SimulatedEngine) : SimulatedEngine :=
  { e with
    host := (e.host.record d .start).setRunning s.id true
    line := e.line.setState d .running }

/-- **A side that is ready** starts: the stream of an open side is live on the host, and no fault
waits for it, so that nothing is left that could refuse. -/
theorem startSide_of_ready (h : Occupied e d s) (hready : e.Ready d) :
    startSide d e = .ok () (begun d s e) := by
  obtain ⟨hopened, hfault⟩ := hready
  -- the stream of an open side is on the host
  obtain ⟨x, hx, hb⟩ := h.backed (by simp [hopened])
  have hlive : x ∈ e.host.live d := hx ▸ List.mem_singleton_self x
  have hcontains : e.host.contains s.id = true :=
    List.any_eq_true.mpr ⟨x, (mem_live.mp hlive).1, by simpa using hb.id⟩
  have hask := startStream_of_live h.unclosed hcontains (by rwa [h.direction])
  rw [h.direction] at hask
  exact startSide_of_ok h.handle (h.startable_iff.mpr hopened) (quiet_of_eq hask e.line)

/-- **A side that is not ready** fails to start, and only the host has noticed, which is asked just
if the side is open. An open side that is not ready has a fault waiting for its start. -/
theorem startSide_of_unready (h : Occupied e d s) (hunready : ¬ e.Ready d) :
    ∃ err host, startSide d e = .error (.error err) { e with host }
      ∧ Begins (e.callsToStart d) e.host host := by
  unfold callsToStart
  by_cases hopened : e.state d = .opened
  · rw [if_pos hopened]
    -- open, so that it can only be the fault that is in the way
    cases hfault : (e.host.faults.get d).start with
    | none => exact absurd ⟨hopened, hfault⟩ hunready
    | some source =>
      have hask := startStream_of_fault (h := e.host) h.unclosed (by rwa [h.direction])
      have hrefused := startSide_of_error h.handle (h.startable_iff.mpr hopened)
        (quiet_of_eq hask e.line)
      refine ⟨_, _, hrefused, begins_of_streams ?_ rfl rfl rfl⟩
      show e.host.calls ++ [⟨s.properties.direction, .start⟩] = _
      rw [h.direction]
  · rw [if_neg hopened]
    -- a side in any other state is turned away before the host is asked
    have hr : (e.state d).canMoveTo .running = false := by
      rw [← Bool.not_eq_true, h.startable_iff]
      exact hopened
    refine ⟨_, e.host, startSide_of_not_startable h.handle hr, ?_⟩
    exact begins_of_streams (List.append_nil _).symm rfl rfl rfl

theorem state_begun_ne (s : StreamHandle) (hd : d' ≠ d) : (begun d s e).state d' = e.state d' :=
  Line.state_setState_ne _ _ hd

/-- Whether the other side is ready is the same before and after this one has started. -/
theorem ready_begun_ne (s : StreamHandle) (hd : d' ≠ d) : (begun d s e).Ready d' ↔ e.Ready d' := by
  unfold Ready
  rw [state_begun_ne s hd]
  rfl

theorem callsToStart_begun_ne (s : StreamHandle) (hd : d' ≠ d) :
    (begun d s e).callsToStart d' = e.callsToStart d' := by
  unfold callsToStart
  rw [state_begun_ne s hd]

theorem Occupied.actsOn_begun (h : Occupied e d s) : ActsOn d e (begun d s e) :=
  actsOn_restate _ (fun _ hd => h.live_setRunning_ne .start true hd) (follows_switch _ _ _ _ _)

/-! ## Both sides -/

/-- **What a successful start leaves.** -/
structure Started (e e' : SimulatedEngine) : Prop where
  running : ∀ d, e'.state d = .running
  started : e'.started = true
  calls : Issues [⟨.input, .start⟩, ⟨.output, .start⟩] e e'

/-- The calls of a start that fails: the output is asked just after the input has started. -/
def callsInVain (e : SimulatedEngine) : List CallRecord :=
  if e.Ready .input then ⟨.input, .start⟩ :: e.callsToStart .output else e.callsToStart .input

/-- **What a start leaves that fails.** The engine is as it was, with its streams, its notices, its
effect, its channel and its events, but for an input that was ready: that one runs. -/
structure Unstarted (e e' : SimulatedEngine) : Prop where
  engine : e' = { e with
    host := e'.host
    line := if e.Ready .input then e.line.setState .input .running else e.line }
  host : Begins e.callsInVain e.host e'.host

theorem Closed.unready (h : Closed e) (d : Direction) : ¬ e.Ready d := by
  rintro ⟨hopened, _⟩
  rw [(h.vacant d).state] at hopened
  cases hopened

/-- A closed engine that does nothing has been left as it was. No side is ready, so that no call is
made in vain either. -/
theorem Closed.unstarted (h : Closed e) : Unstarted e e where
  engine := by rw [if_neg (h.unready .input)]
  host := by
    have hcalls : e.callsInVain = [] := by
      unfold callsInVain callsToStart
      rw [if_neg (h.unready .input), (h.vacant .input).state]
      rfl
    rw [hcalls]
    exact begins_of_streams (List.append_nil _).symm rfl rfl rfl

/-- A start of an open pair gets to its sides, the input first; the checks before that all pass.
With it the program of `startSides_exact` is three steps, and no test has to be looked at again. -/
theorem startSides_of_open (h : Open e) : startSides e
    = (startSide .input >>= fun _ => startSide .output >>= fun _ =>
        modify fun e => { e with started := true } : EngineM _ Unit) e := by
  obtain ⟨s, hin⟩ := h.occupied .input
  obtain ⟨s', hout⟩ := h.occupied .output
  have hin' : e.streams.input = some s := hin.handle
  have hout' : e.streams.output = some s' := hout.handle
  unfold startSides
  rw [bind_apply, get_apply]
  simp only [hin', hout', Option.isNone_some, Bool.or_self, Bool.false_eq_true, if_false]

/-- **Starting an open pair** succeeds just if both sides are ready. The output is as ready after
the input has started as it was before (`ready_begun_ne`), so that both can be read off the engine
at the beginning. -/
theorem startSides_exact (h : Open e) :
    Ends startSides e fun r e' =>
      (r = .ok () ∧ (∀ d, e.Ready d) ∧ Started e e')
        ∨ ((∃ err, r = .error err) ∧ (¬ ∀ d, e.Ready d) ∧ Unstarted e e') := by
  obtain ⟨s, hin⟩ := h.occupied .input
  obtain ⟨s', hout⟩ := h.occupied .output
  refine Ends.of_eq ?_ (startSides_of_open h)
  by_cases hready : e.Ready .input
  · refine ends_bind_of_ok (startSide_of_ready hin hready) ?_
    have hout' : Occupied (begun .input s e) .output s' :=
      hin.actsOn_begun.occupied (by simp) hout
    have hboth : (∀ d, e.Ready d) ↔ (begun .input s e).Ready .output := by
      rw [ready_begun_ne s (by simp)]
      exact ⟨fun hall => hall .output, fun hr d => by cases d <;> assumption⟩
    by_cases hready' : (begun .input s e).Ready .output
    · refine ends_bind_of_ok (startSide_of_ready hout' hready') (ends_modify (.inl ?_))
      refine ⟨rfl, hboth.mpr hready', ⟨fun d => ?_, rfl, List.append_assoc _ _ _⟩⟩
      cases d with
      | input =>
        exact (state_begun_ne s' (by simp)).trans (Line.state_setState e.line .input .running)
      | output => exact Line.state_setState _ .output .running
    -- the output does not start: the input is left running
    · obtain ⟨err, host, hrefused, hbegins⟩ := startSide_of_unready hout' hready'
      refine ends_of_error (by rw [bind_apply, hrefused]) (.inr ?_)
      refine ⟨⟨err, rfl⟩, fun hall => hready' (hboth.mp hall), ⟨?_, ?_⟩⟩
      · rw [if_pos hready]
        rfl
      · unfold callsInVain
        rw [if_pos hready]
        rw [callsToStart_begun_ne s (by simp)] at hbegins
        exact (begins_setRunning e.host .input s.id).trans hbegins
  · obtain ⟨err, host, hrefused, hbegins⟩ := startSide_of_unready hin hready
    refine ends_of_error (by rw [bind_apply, hrefused]) (.inr ?_)
    refine ⟨⟨err, rfl⟩, fun hall => hready (hall .input), ⟨?_, ?_⟩⟩
    · rw [if_neg hready]
    · unfold callsInVain
      rw [if_neg hready]
      exact hbegins

/-- **Starting** from any sound engine. Only a start that succeeds is told of, and one that begins
with the engine closed has no side that is ready. -/
theorem start_outcome (h : Sound e) :
    Ends EngineM.start e fun r e' =>
      (r = .ok () ∧ (∀ d, e.Ready d) ∧ Started e e')
        ∨ ((∃ err, r = .error err) ∧ (¬ ∀ d, e.Ready d) ∧ Unstarted e e') := by
  rcases h.shape with hc | ho
  · exact ends_of_error (start_of_closed hc)
      (.inr ⟨⟨_, rfl⟩, fun hall => hc.unready .input (hall .input), hc.unstarted⟩)
  · unfold EngineM.start
    refine (startSides_exact ho).bind (fun _ e₁ hcases => ?_) fun err e₁ hcases => ?_
    · rcases hcases with ⟨_, hready, hstarted⟩ | ⟨⟨_, herr⟩, _⟩
      · exact ends_publish (.inl ⟨rfl, hready, ⟨hstarted.running, hstarted.started, hstarted.calls⟩⟩)
      · cases herr
    · rcases hcases with ⟨hok, _⟩ | hfailed
      · cases hok
      · exact .inr hfailed

/-- **A start is exact**, after any run. It succeeds just if both sides are ready; then both run.
Where it fails, the engine is as it was, but for an input that was ready. -/
theorem start_exact (config : Config) (recovery : Recovery) (noticeCapacity : Nat)
    (as : List Action) :
    let e := (create {} config recovery noticeCapacity : SimulatedEngine).after as
    (e.start.1 = .ok () ↔ ∀ d, e.Ready d)
      ∧ (e.start.1 = .ok () → Started e e.start.2)
      ∧ (e.start.1 ≠ .ok () →
          (∃ err, e.start.1 = .error (.error err)) ∧ Unstarted e e.start.2) := by
  intro e
  have hsound : Sound e := (after_sound (sound_create config recovery noticeCapacity) as).1
  obtain ⟨r, hreply, hcases⟩ := (start_outcome hsound).run hsound.poisoned
  have hreply' : e.start.1 = r.mapError .error := hreply
  rw [hreply']
  rcases hcases with ⟨rfl, hready, hstarted⟩ | ⟨⟨err, rfl⟩, hunready, hunstarted⟩
  · exact ⟨⟨fun _ => hready, fun _ => rfl⟩, fun _ => hstarted, fun hno => absurd rfl hno⟩
  · refine ⟨⟨nofun, fun hready => absurd hready hunready⟩, nofun, fun _ => ⟨⟨err, rfl⟩, hunstarted⟩⟩

/-- The output refuses to start, and the input is left running. -/
example :
    let e : SimulatedEngine := (create {} {} : SimulatedEngine).after
      [.call .bringUp, .script (.startFault .output .disconnected)]
    e.start.2.state .input = .running ∧ e.start.2.state .output = .opened
      ∧ e.start.2.started = false := by
  decide +kernel

end Engine

end Passthrough
