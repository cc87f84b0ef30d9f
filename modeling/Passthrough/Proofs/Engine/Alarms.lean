import Passthrough.Proofs.Engine.UpheldPrograms
/-!
# No alarm is lost

A side fails because the hardware takes its stream, because a callback is given a period of the
wrong size, or because the host refuses to stop its stream. Of the last the caller hears at once; of
the others the engine hears by an event. So while a side has failed whose stream the host has never
refused to stop, an event waits, and an engine that has attended to what waits has no such side.

* **`feed_alerts`**, **`draw_alerts`**, **`unplug_alerts`** — the hardware fails no side in silence.
* **`sideInvariant_watched`** — the engine fails no side but by a stop that was refused.
* **`attend_mends`** — once a batch of events has been attended to, no side has failed.
* **`alarms_wait`** — what that comes to over a run.
-/

namespace Passthrough

open EngineM SimulatedHost

/-! ## The callbacks -/

namespace Line

variable {l l' l'' : Line}

/-- **What callbacks do to the alarm.** A side that fails leaves an event waiting, and no event that
waits is lost. -/
structure Alerts (l l' : Line) : Prop where
  pending : l.link.pending ≠ [] → l'.link.pending ≠ []
  failed : ∀ d, l'.state d = .error → l.state d = .error ∨ l'.link.pending ≠ []

/-- A callback that leaves states and link alone gives no alarm, and none is due. -/
theorem alerts_of_same (hlink : l'.link = l.link) (hstates : l'.states = l.states) :
    Alerts l l' where
  pending hne := hlink ▸ hne
  failed d hd := by
    unfold state at hd ⊢
    rw [hstates] at hd
    exact Or.inl hd

/-- An event that is reported on a line that accepts it waits there, and those that waited before it
wait still. -/
theorem alerts_report (hl : l'.link.accepts = true) (event : Event) :
    Alerts l (l'.report event) := by
  have hne : (l'.report event).link.pending ≠ [] := by
    unfold report Link.report
    rw [if_pos hl]
    exact List.append_ne_nil_of_right_ne_nil _ (List.cons_ne_nil event [])
  exact ⟨fun _ => hne, fun _ _ => Or.inr hne⟩

end Line

namespace Handler

variable {h : Handler} {p : StreamInfo} {l : Line}

/-- A fault of a callback marks its side and reports it, so that the failure comes with its
event. -/
theorem fault_alerts (hl : l.link.accepts = true) (actualBytes : Nat) :
    l.Alerts (h.fault actualBytes l) := by
  unfold fault
  refine Line.alerts_report ?_ _
  split <;> exact hl

/-- A capture fails a side by a fault only, whatever it was given: a refusal for the state of the
side changes nothing. The four ways through `capture` are gone through: refused, not running, a
fault of the length or of the channel, and a period that is passed on and heard. -/
theorem capture_alerts (hl : l.link.accepts = true) (frames : List Int16) :
    l.Alerts (h.capture p frames l).2 := by
  unfold capture
  split
  · exact Line.alerts_of_same rfl rfl
  · split
    · exact Line.alerts_of_same rfl rfl
    · split
      · exact fault_alerts hl _
      · split
        · exact fault_alerts hl _
        · next channel _ =>
          obtain ⟨heard, hheard⟩ :=
            Line.notify_eq { l with channel := some channel } h.observer .input frames
          rw [hheard]
          exact Line.alerts_of_same rfl rfl

/-- A playback fails a side by a fault only, whatever it was asked for. The ways through `render`
are those of `capture`, and a period that is handed out is heard in the same way. -/
theorem render_alerts (hl : l.link.accepts = true) (length : Nat) :
    l.Alerts (h.render p length l).2.2 := by
  unfold render
  split
  · exact Line.alerts_of_same rfl rfl
  · split
    · exact Line.alerts_of_same rfl rfl
    · split
      · exact fault_alerts hl _
      · split
        · exact fault_alerts hl _
        · next frames channel _ =>
          obtain ⟨heard, hheard⟩ :=
            Line.notify_eq { l with channel := some channel } h.observer .output frames
          rw [hheard]
          exact Line.alerts_of_same rfl rfl

theorem afterClose_alerts (hl : l.link.accepts = true) (error : HostError) :
    l.Alerts (h.afterClose p error l) := by
  have hfaulted : (l.markFaulted h.direction).link.accepts = true := hl
  exact Line.alerts_report hfaulted _

end Handler

namespace Engine

/-! ## The hardware -/

section Hardware

variable {e : SimulatedEngine}

/-- What the hardware does to a closed engine is nothing, and an open one hears of it: the line of
an open engine is attached and `Open.accepts` what is reported. -/
theorem feed_alerts (h : Sound e) (frames : List Int16) :
    e.line.Alerts (e.feed frames).2.line := by
  rcases h.shape with hc | ho
  · rw [feed_of_closed hc]
    exact Line.alerts_of_same rfl rfl
  · unfold Engine.feed SimulatedHost.feed
    cases e.host.newestRunning? .input with
    | none => exact Line.alerts_of_same rfl rfl
    | some x =>
      cases hside : x.side with
      | input =>
        simp only [hside]
        exact Handler.capture_alerts (ho.accepts h) frames
      | output =>
        simp only [hside]
        exact Line.alerts_of_same rfl rfl

/-- The same for a playback, into a buffer of any length. On a closed engine no callback is called,
and on an open one it is that of the newest stream that runs (`Handler.render_alerts`). -/
theorem draw_alerts (h : Sound e) (dest : List Int16) :
    e.line.Alerts (e.draw dest).2.2.line := by
  rcases h.shape with hc | ho
  · rw [draw_of_closed hc]
    exact Line.alerts_of_same rfl rfl
  · unfold Engine.draw SimulatedHost.draw
    cases e.host.newestRunning? .output with
    | none => exact Line.alerts_of_same rfl rfl
    | some x =>
      cases hside : x.side with
      | input =>
        simp only [hside]
        exact Line.alerts_of_same rfl rfl
      | output =>
        simp only [hside]
        exact Handler.render_alerts (ho.accepts h) dest.length

/-- The same for the loss of a device, on either side. The side is marked and the loss is reported
in one callback, `Handler.afterClose_alerts`, which is called for the last live stream. -/
theorem unplug_alerts (h : Sound e) (d : Direction) (error : HostError) :
    e.line.Alerts (e.unplug d error).2.line := by
  rcases h.shape with hc | ho
  · rw [unplug_of_idle (hc.vacant d).live]
    exact Line.alerts_of_same rfl rfl
  · unfold Engine.unplug SimulatedHost.unplug
    cases (e.host.live d).getLast? with
    | none => exact Line.alerts_of_same rfl rfl
    | some x => exact Handler.afterClose_alerts (ho.accepts h) error

end Hardware

/-! ## The programs of one side -/

variable {w w' : JournaledEngine} {d : Direction}

/-- The host has refused to stop the stream that a side has the handle of. -/
def StopRefused (w : JournaledEngine) (d : Direction) : Prop :=
  ∃ s, w.streams.get d = some s ∧ .stopRefused s.id ∈ w.host.deeds

/-- **Every failure is known or will be.** -/
def Watched (w : JournaledEngine) : Prop :=
  ∀ d, w.state d = .error → w.StopRefused d ∨ w.line.link.pending ≠ []

/-- **What keeps an engine watched.** What the host did stays on record, events go on waiting, and a
side that has failed had failed before with the same stream or its failure is known. -/
theorem Watched.mono (h : Watched w) (hdeeds : w.host.deeds <+: w'.host.deeds)
    (hpending : w.line.link.pending ≠ [] → w'.line.link.pending ≠ [])
    (hfailed : ∀ d, w'.state d = .error →
      (w.state d = .error ∧ w'.streams.get d = w.streams.get d)
        ∨ w'.StopRefused d ∨ w'.line.link.pending ≠ []) : Watched w' := by
  intro d hd
  rcases hfailed d hd with ⟨hwas, hhandle⟩ | hknown
  · rcases h d hwas with ⟨s, hs, hdeed⟩ | hwaits
    · exact Or.inl ⟨s, hhandle.trans hs, hdeeds.subset hdeed⟩
    · exact Or.inr (hpending hwaits)
  · exact hknown

/-- What is watched are the states, the handles, the events that wait and the deeds of the host. A
change of anything else leaves an engine watched. -/
theorem Watched.frame (h : Watched w) (hhost : w'.host = w.host)
    (hstreams : w'.streams = w.streams) (hstates : w'.line.states = w.line.states)
    (hpending : w'.line.link.pending = w.line.link.pending) : Watched w' := by
  have hdeeds : w.host.deeds <+: w'.host.deeds := hhost ▸ List.prefix_refl _
  refine h.mono hdeeds (fun hne => by rwa [hpending]) fun d hd => Or.inl ⟨?_, by rw [hstreams]⟩
  unfold Engine.state Line.state at hd ⊢
  rwa [← hstates]

/-- Work of the host that no side shows. What it did before stays on record, so a refusal that
excuses a failed side excuses it still. -/
theorem Watched.rehost (h : Watched w) {host : JournaledHost}
    (hdeeds : w.host.deeds <+: host.deeds) : Watched { w with host } :=
  h.mono hdeeds (fun hne => hne) fun _ hd => Or.inl ⟨hd, rfl⟩

/-- A side moves on; if it fails, the stop of its stream has been refused. For the other side
nothing has changed, and what excuses it is on record as before. -/
theorem Watched.restate (h : Watched w) {host : JournaledHost}
    {streams : Duplex (Option StreamHandle)} {state : StreamState}
    (hdeeds : w.host.deeds <+: host.deeds)
    (hother : ∀ d', d' ≠ d → streams.get d' = w.streams.get d')
    (hfailed : state = .error →
      StopRefused { w with host, streams, line := w.line.setState d state } d) :
    Watched { w with host, streams, line := w.line.setState d state } := by
  refine h.mono hdeeds (fun hne => hne) fun d' hd' => ?_
  by_cases hd : d' = d
  · subst hd
    have hstate : state = .error := (Line.state_setState w.line d' state).symm.trans hd'
    exact Or.inr (Or.inl (hfailed hstate))
  · have hwas : w.state d' = .error := (Line.state_setState_ne w.line state hd).symm.trans hd'
    exact Or.inl ⟨hwas, hother d' hd⟩

/-- Whatever the host answers, what it did stays on record: the journaled host only ever adds
deeds. -/
theorem deeds_prefix_of_answer {α : Type} {r : α × JournaledHost} {a : α} {host host' : JournaledHost}
    {new : List Deed} {inner : SimulatedHost Handler} (hask : r = (a, host'))
    (henter : r.2 = host.enter new inner) : host.deeds <+: host'.deeds := by
  rw [hask] at henter
  rw [show host' = _ from henter]
  exact List.prefix_append _ _

/-- **The engine fails no side** but by a stop that was refused; all other work on a side leaves it
in a state that is not `error`. Every case but `stopped` comes down to a journal that has only grown
(`deeds_prefix_of_answer`) and a state that is not `error`. -/
theorem sideInvariant_watched : SideInvariant Watched where
  frame h hhost hstreams hstates hpending := h.frame hhost hstreams hstates hpending
  stopped := by
    intro w d s host answer h hs _ hask
    refine h.restate (deeds_prefix_of_answer hask rfl) (fun _ _ => rfl) fun hfailed => ?_
    cases answer with
    | ok _ => cases hfailed
    | error source =>
      have hanswer : (SimulatedHost.stopStream s w.host.inner).1 = .error source :=
        congrArg Prod.fst hask
      -- the refusal is in the journal, under the number of the stream
      have hdeeds : host.deeds = w.host.deeds ++ [.stopRefused s.id] := by
        rw [show host = _ from (congrArg Prod.snd hask).symm, JournaledHost.stopStream_eq, hanswer]
        rfl
      refine ⟨s, hs, ?_⟩
      rw [hdeeds]
      exact List.mem_append_right _ (List.mem_singleton_self _)
  started h _ _ hask := h.restate (deeds_prefix_of_answer hask rfl) (fun _ _ => rfl) (by simp)
  notStarted h _ hask := h.rehost (deeds_prefix_of_answer hask rfl)
  settled h _ := h.restate (List.prefix_refl _) (fun _ _ => rfl) (by simp)
  closed h _ hask hdiscard :=
    h.restate ((deeds_prefix_of_answer hask rfl).trans (deeds_prefix_of_answer hdiscard rfl))
      (fun _ hd => Duplex.get_set_ne _ _ hd) (by simp)
  refused h _ hask := h.rehost (deeds_prefix_of_answer hask rfl)
  unfit h _ _ hask hclose hdiscard :=
    h.rehost (((deeds_prefix_of_answer hask rfl).trans (deeds_prefix_of_answer hclose rfl)).trans
      (deeds_prefix_of_answer hdiscard rfl))
  opened h _ _ hask hsize :=
    h.restate ((deeds_prefix_of_answer hask rfl).trans (deeds_prefix_of_answer hsize rfl))
      (fun _ hd => Duplex.get_set_ne _ _ hd) (by simp)

/-! ## Attending to events -/

/-- **Attending to events** leaves no side that has failed: the session ends, or it is repaired, or
nothing had failed. The cases are those of `attend`: a closed engine, a batch with a fault in it, a
loss with a side that has failed, and a batch that finds nothing wrong. -/
theorem attend_mends {e : SimulatedEngine} (h : Sound e) {batch : List Event} (hbatch : batch ≠ []) :
    Ends (attend batch) e fun _ e' => ∀ d, e'.state d ≠ .error := by
  have hended : ∀ {e' : SimulatedEngine}, Closed e' → ∀ d, e'.state d ≠ .error := by
    intro e' hclosed d
    rw [(hclosed.vacant d).state]
    simp
  rcases h.shape with hc | ho
  · obtain ⟨board, hattend⟩ := attend_of_closed batch hc
    exact ends_of_ok hattend (hended (hc.board board))
  · cases hfault : batch.any Event.isFault with
    | true => exact (attend_fault_ends ho hfault).mono fun _ _ ⟨_, _, hend⟩ => hended hend.isClosed
    | false =>
      by_cases hlost : ∃ d, e.state d = .error
      · -- an event that is not of a fault is of a loss
        have hloss : batch.any Event.isDisconnect = true := by
          obtain ⟨event, rest, rfl⟩ := List.exists_cons_of_ne_nil hbatch
          cases event with
          | disconnected _ _ => rfl
          | fault _ _ _ => cases hfault
        refine (attend_loss_ends ho h.numbered hfault hloss hlost).mono
          fun _ _ ⟨_, _, hcases⟩ => ?_
        rcases hcases with hrepaired | hend
        · exact hrepaired.sound
        · exact hended hend.isClosed
      · have hnone : ∀ d, e.state d ≠ .error := fun d hd => hlost ⟨d, hd⟩
        obtain ⟨board, hattend⟩ := attend_of_sound hfault fun _ _ => hnone
        exact ends_of_ok hattend hnone

/-- Agreement with the engine beneath takes no invariant. It is used where a journaled run has to be
known for what it is, before anything else is said of it. -/
theorem sideInvariant_true : SideInvariant fun _ => True where
  frame _ _ _ _ _ := trivial
  stopped _ _ _ _ := trivial
  started _ _ _ _ := trivial
  notStarted _ _ _ := trivial
  settled _ _ := trivial
  closed _ _ _ _ := trivial
  refused _ _ _ := trivial
  unfit _ _ _ _ _ _ := trivial
  opened _ _ _ _ _ := trivial

/-- **An engine that has attended to what waits** has no failed side but of a refused stop: a batch
with a fault closes both sides, one with a loss has them repaired, and one without either was not
due. -/
theorem attendPending_watched (h : Sound w.beneath) (hrecovery : w.recovery = .manual)
    (hw : Watched w) :
    w.attendPending.2.beneath = w.beneath.attendPending.2
      ∧ ∀ d, w.attendPending.2.state d = .error → w.attendPending.2.StopRefused d := by
  have hbeneath := (attendPending_stands sideInvariant_true h trivial trivial).1
  refine ⟨hbeneath, fun d hd => ?_⟩
  by_cases hempty : w.line.link.pending = []
  · rw [attendPending_of_empty hrecovery hempty] at hd ⊢
    exact (hw d hd).resolve_right fun hne => hne hempty
  · obtain ⟨e', hattend, _⟩ := attend_taken h w.line.link.pending
    obtain ⟨_, _, hmended⟩ := (attend_mends h.taken hempty).runAnyway
    rw [hattend] at hmended
    have hplain := attendPending_of_attended (g := w.beneath) hrecovery hempty hattend
    rw [hplain] at hbeneath
    have hstate : w.attendPending.2.state d = e'.state d :=
      congrArg (fun e : SimulatedEngine => e.state d) hbeneath
    exact absurd (hstate.symm.trans hd) (hmended d)

/-! ## Every step -/

/-- A step that the host is not asked for, if it alerts, leaves an engine watched. -/
theorem resume_watched (hw : Watched w) {e : SimulatedEngine} (hstreams : e.streams = w.streams)
    (halerts : w.line.Alerts e.line) : Watched (resume w e) := by
  refine hw.mono (List.prefix_append _ _) halerts.pending fun d hd => ?_
  rcases halerts.failed d hd with hwas | hwaits
  · exact Or.inl ⟨hwas, congrArg (Duplex.get · d) hstreams⟩
  · exact Or.inr (Or.inr hwaits)

/-- **One step** that is written down, of an engine that is attended to by hand. Calls are settled
by `sideInvariant_watched`, the hardware by the `_alerts` lemmas. -/
theorem advance_watched (w : JournaledEngine) (a : Action) (h : Sound w.beneath)
    (hw : w.recovery = .manual ∧ Watched w) :
    (advance a w).beneath = w.beneath.perform a
      ∧ (advance a w).recovery = .manual ∧ Watched (advance a w) := by
  obtain ⟨hrecovery, hw⟩ := hw
  have hstep : (advance a w).beneath = w.beneath.perform a ∧ Watched (advance a w) := by
    cases a with
    | call c =>
      -- attending mends, and the worker of such an engine does nothing, so neither is a common call
      by_cases hattend : c = .attendPending
      · subst hattend
        obtain ⟨hbeneath, hrefused⟩ := attendPending_watched h hrecovery hw
        exact ⟨hbeneath, fun d hd => Or.inl (hrefused d hd)⟩
      by_cases hworker : c = .runWorker
      · subst hworker
        show w.runWorker.beneath = w.beneath.runWorker ∧ Watched w.runWorker
        rw [runWorker_of_manual hrecovery, runWorker_of_manual (g := w.beneath) hrecovery]
        exact ⟨rfl, hw⟩
      exact call_stands sideInvariant_watched h hw hattend hworker
    | feed frames => exact ⟨rfl, resume_watched hw rfl (feed_alerts h frames)⟩
    | draw dest => exact ⟨rfl, resume_watched hw rfl (draw_alerts h dest)⟩
    | unplug d error => exact ⟨rfl, resume_watched hw rfl (unplug_alerts h d error)⟩
    | script s => exact ⟨rfl, resume_watched hw rfl (Line.alerts_of_same rfl rfl)⟩
    | collect => exact ⟨rfl, resume_watched hw rfl (Line.alerts_of_same rfl rfl)⟩
  refine ⟨hstep.1, ?_, hstep.2⟩
  have hkept : (w.beneath.perform a).recovery = w.recovery := (perform_sound h a).2
  rw [← hstep.1] at hkept
  exact hkept.trans hrecovery

/-- **No alarm is lost.** Take any run of an engine that is attended to by hand. If a side of it has
failed, and the host has not refused to stop the stream that it has in hand, then an event waits.
And once what waits has been attended to, no side has failed for any reason but such a refusal. -/
theorem alarms_wait (config : Config) (noticeCapacity : Nat) (as : List Action) :
    let new : SimulatedEngine := create {} config .manual noticeCapacity
    let e := new.after as
    let w := new.journaled as
    let attended := w.call .attendPending
    w.beneath = e ∧ attended.beneath = e.call .attendPending
      ∧ (∀ d, e.state d = .error → ¬ w.StopRefused d → e.line.link.pending ≠ [])
      ∧ ∀ d, (e.call .attendPending).state d = .error → attended.StopRefused d := by
  intro new e w attended
  have hnew : Sound new := sound_create config .manual noticeCapacity
  have hwatched : Watched (create { inner := {} } config .manual noticeCapacity) := by
    intro d hd
    cases d <;> cases hd
  have hall : ∀ a ∈ as, True := fun _ _ => trivial
  -- the journal is carried along the run, over an engine that is the plain one
  obtain ⟨hbeneath, hrecovery, hw⟩ : w.beneath = e ∧ w.recovery = .manual ∧ Watched w :=
    advance_stands (I := fun w => w.recovery = .manual ∧ Watched w)
      (w := create { inner := {} } config .manual noticeCapacity)
      (fun w a h _ hw => advance_watched w a h hw) hnew ⟨rfl, hwatched⟩ hall
  have h : Sound w.beneath := by
    rw [hbeneath]
    exact (after_sound hnew as).1
  obtain ⟨hplain, hmended⟩ := attendPending_watched h hrecovery hw
  rw [hbeneath] at hplain
  refine ⟨hbeneath, hplain, fun d hd hrefused => ?_, fun d hd => hmended d ?_⟩
  · rw [← hbeneath] at hd ⊢
    exact (hw d hd).resolve_left hrefused
  · rw [← show attended.beneath = e.call .attendPending from hplain] at hd
    exact hd

/-- The effect is turned on and its output is lost. -/
def outputLost : List Action := [.call (.switch true), .unplug .output .disconnected]

/-- Nothing was refused there, so the loss waits to be attended to: the side has failed, no stop of
its stream is on record as refused, and the queue is not empty. -/
theorem alarms_wait_outputLost :
    let new : SimulatedEngine := create {} { sampleRate := 8000, periodMs := 1 }
    let e := new.after outputLost
    e.state .output = .error ∧ ¬ (new.journaled outputLost).StopRefused .output
      ∧ e.line.link.pending ≠ [] := by
  have hdeeds : ((create {} { sampleRate := 8000, periodMs := 1 } :
      SimulatedEngine).journaled outputLost).host.deeds
        = [.opened .input 1, .opened .output 2] := rfl
  have hfailed : ((create {} { sampleRate := 8000, periodMs := 1 } :
      SimulatedEngine).after outputLost).state .output = .error := rfl
  have hrefused : ¬ ((create {} { sampleRate := 8000, periodMs := 1 } :
      SimulatedEngine).journaled outputLost).StopRefused .output := by
    rintro ⟨s, _, hdeed⟩
    rw [hdeeds] at hdeed
    simp at hdeed
  obtain ⟨_, _, hwaits, _⟩ := alarms_wait { sampleRate := 8000, periodMs := 1 } 64 outputLost
  exact ⟨hfailed, hrefused, hwaits .output hfailed hrefused⟩

-- a side that fails because its stop is refused leaves nothing waiting
example :
    let new : SimulatedEngine := create {} { sampleRate := 8000, periodMs := 1 }
    let e := new.after
      [.call (.switch true), .script (.stopFault .output .unavailable), .call .stop]
    e.state .output = .error ∧ e.line.link.pending = [] := ⟨rfl, rfl⟩

end Engine

end Passthrough
