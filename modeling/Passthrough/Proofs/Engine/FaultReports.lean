import Passthrough.Proofs.Engine.InForce
import Passthrough.Proofs.Engine.Telling
/-!
# Faults and what is told of them

A callback that is given a buffer of the wrong length queues an event, and attending to the queue
publishes a notice for it. Between the two the pair may be stopped, closed, opened again, switched
or repaired, and the queue may be attended to together with the loss of a device.

What has been told of faults already, followed by what the queue will tell of them, is one list
(`faultNotices`). The engine moves notices from the second part to the first and does nothing else
to it; only a buffer that a running stream rejects makes it longer.

* **`call_faultNotices`** — no call changes that list.
* **`perform_faultNotices`** — a step adds the buffer that it rejects, if it rejects one.
* **`faults_told_once`** — so a subscriber hears of the rejected buffers one by one, in their order.
-/

namespace Passthrough

open EngineM SimulatedHost

/-! ## Rejected buffers -/

def Occurrence.isFault : Occurrence → Bool
  | .callbackFault _ => true
  | _ => false

/-- What will be told of an event, which is nothing unless it is a fault. -/
def Event.notice? : Event → Option Notice
  | .disconnected .. => none
  | .fault d expected actual =>
    some ⟨.callbackFault d, some s!"expected {expected} bytes per period, got {actual}"⟩

/-- Whatever is told of an event that waits is told of a fault, so that a filter for faults keeps
all of it. The loss of a device has no notice here at all; it is told of by the repair that it leads
to. -/
theorem Event.isFault_of_notice? {event : Event} {n : Notice} (h : event.notice? = some n) :
    n.kind.isFault = true := by
  cases event with
  | disconnected _ _ => cases h
  | fault d expected actual =>
    have hn := Option.some.inj h
    rw [← hn]
    rfl

/-- A loss is not told of as a fault: it joins the queue, and the list of what is to be told of
faults stays. That holds whether or not the link listens, as an event that is not queued is not told
of either. -/
theorem Handler.afterClose_notices (h : Handler) (p : StreamInfo) (error : HostError)
    (l : Line) :
    (h.afterClose p error l).link.pending.filterMap Event.notice?
      = l.link.pending.filterMap Event.notice? := by
  unfold Handler.afterClose Line.report Link.report
  split
  · simp [Event.notice?, Line.markFaulted, Line.setState]
  · rfl

/-- A buffer that a running stream has rejected for its length. -/
structure Rejection where
  direction : Direction
  /-- What the period in force had at that time. -/
  periodBytes : Nat
  samples : Nat
  deriving DecidableEq, Repr

/-- What is to be told of it. -/
def Rejection.notice (r : Rejection) : Notice where
  kind := .callbackFault r.direction
  detail := s!"expected {r.periodBytes} bytes per period, got {2 * r.samples}"

namespace Engine

variable {e e' : SimulatedEngine} {d : Direction}

/-- The buffer that a step rejects: the side runs, the buffer is not one period long, and the
callback answers that its stream has to stop. -/
def rejection? (e : SimulatedEngine) : Action → Option Rejection
  | .feed frames =>
    if e.state .input = .running ∧ frames.length ≠ e.config.period.samples
        ∧ (e.feed frames).1 = some .stop then
      some ⟨.input, e.config.period.bytes, frames.length⟩
    else none
  | .draw dest =>
    if e.state .output = .running ∧ dest.length ≠ e.config.period.samples
        ∧ (e.draw dest).1 = some .stop then
      some ⟨.output, e.config.period.bytes, dest.length⟩
    else none
  | _ => none

/-- The buffers that a run rejects, oldest first. -/
def rejections (e : SimulatedEngine) : List Action → List Rejection
  | [] => []
  | a :: as => (e.rejection? a).toList ++ (e.perform a).rejections as

/-- **What is told of faults**: what has been published of them, and then what still waits. -/
def faultNotices (e : SimulatedEngine) : List Notice :=
  e.board.published.toList.filter (·.kind.isFault) ++ e.line.link.pending.filterMap Event.notice?

/-! ## Nothing about faults -/

/-- **A change that is not about faults.** No notice of one is published, and what waits stays. -/
structure Unfaulted (e e' : SimulatedEngine) : Prop where
  published : ∃ news, e'.board = e.board.publishAll news ∧ ∀ n ∈ news, n.kind.isFault = false
  pending : e'.line.link.pending.filterMap Event.notice?
    = e.line.link.pending.filterMap Event.notice?

theorem Unfaulted.of_same (hboard : e'.board = e.board)
    (hpending : e'.line.link.pending = e.line.link.pending) : Unfaulted e e' where
  published := ⟨[], by rw [hboard, NoticeBoard.publishAll_nil], by simp⟩
  pending := by rw [hpending]

theorem Unfaulted.of_configures {c : Call} (hc : c.configures = true) :
    Unfaulted e (e.call c) := by
  obtain ⟨_, _, heq, _⟩ := e.call_of_configures hc
  rw [heq]
  exact .of_same rfl rfl

/-- Nothing of what has been published besides is kept by the filter for faults. -/
theorem filter_isFault_eq_nil {news : List Notice} (h : ∀ n ∈ news, n.kind.isFault = false) :
    news.filter (·.kind.isFault) = [] := by
  apply List.filter_eq_nil_iff.mpr
  intro n hn
  simp [h n hn]

/-- A step that is not about faults leaves what was told of them, and what is still to be told, in
one list as it was. -/
theorem Unfaulted.faultNotices (h : Unfaulted e e') : e'.faultNotices = e.faultNotices := by
  obtain ⟨news, hboard, hnews⟩ := h.published
  unfold Engine.faultNotices
  rw [hboard, h.pending, NoticeBoard.published_publishAll, List.filter_append,
    filter_isFault_eq_nil hnews, List.append_nil]

/-! ## Programs that tell of no fault -/

section Programs

variable {α : Type}

/-- A program that publishes no notice of a fault. -/
abbrev TellsNoFault (x : EngineM (SimulatedHost Handler) α) : Prop :=
  Publishes (fun n => n.kind.isFault = false) x

/-- A program that leaves the queue alone, as all programs of the streams do (`Keeps.pending`), is
not about faults, if it publishes nothing about them. -/
theorem unfaulted_ends {x : EngineM (SimulatedHost Handler) α}
    (hkeeps : Ends x e fun _ e' => Keeps e e') (htells : TellsNoFault x) :
    Ends x e fun _ e' => Unfaulted e e' := by
  refine (hkeeps.publishing htells).mono fun r e' ⟨hkeep, hnews⟩ => ?_
  exact ⟨hnews, by rw [hkeep.pending]⟩

theorem isFault_of_warning {n : Notice} (h : n.kind = .warning) : n.kind.isFault = false := by
  rw [h]
  rfl

/-- A notice that is not about a fault may be published. Each of the lemmas after this one says so
of the notices that one program publishes. -/
theorem tellsNoFault_publish {kind : Occurrence} {detail : Option String}
    (h : kind.isFault = false) : TellsNoFault (publish kind detail) :=
  publishes_publish h

theorem tellsNoFault_bringUp : TellsNoFault EngineM.bringUp := by
  have hopen : TellsNoFault openSides := publishes_openSides fun _ => isFault_of_warning
  refine hopen.bind fun _ => publishes_inputRate.bind fun rate => publishes_get.bind fun e => ?_
  exact tellsNoFault_publish rfl

theorem tellsNoFault_start : TellsNoFault EngineM.start :=
  publishes_startSides.bind fun _ => tellsNoFault_publish rfl

theorem tellsNoFault_stop : TellsNoFault EngineM.stop := by
  refine publishes_get.bind fun e => publishes_stopSides.attempt.bind fun r => ?_
  exact publishes_ite ((tellsNoFault_publish rfl).bind fun _ => publishes_ofExcept r)
    (publishes_ofExcept r)

theorem tellsNoFault_bringDown : TellsNoFault EngineM.bringDown := by
  refine publishes_get.bind fun e => publishes_shutDown.attempt.bind fun r => ?_
  exact publishes_ite ((tellsNoFault_publish rfl).bind fun _ => publishes_ofExcept r)
    (publishes_ofExcept r)

/-- Switching the effect tells of openings, starts, stops and closings, and of no fault. The
programs that it is made of are known to tell of none, and the effect itself is set without a
notice. -/
theorem tellsNoFault_switch (on : Bool) : TellsNoFault (EngineM.switch on) := by
  have heffect : ∀ on : Bool, TellsNoFault (modify fun e => { e with effectOn := on }) :=
    fun _ => publishes_modify fun _ => rfl
  refine publishes_get.bind fun e => publishes_ite (publishes_pure ()) (publishes_ite ?_ ?_)
  · refine tellsNoFault_bringUp.bind fun _ => tellsNoFault_start.attempt.bind fun r => ?_
    cases r with
    | ok _ => exact heffect true
    | error err => exact tellsNoFault_bringDown.attempt.bind fun _ => publishes_fail err
  · refine tellsNoFault_stop.attempt.bind fun stopped => ?_
    refine tellsNoFault_bringDown.attempt.bind fun closed => ?_
    exact (heffect false).bind fun _ => publishes_ofExcept _

/-- A repair tells of itself and of slow streams, and of no fault. The fault of a stream that it
replaces has an event of its own. The notices at its end are of the two kinds that tell of a repair,
and the warnings are those of `publishes_replaceBoth` and `publishes_replaceOutput`. -/
theorem tellsNoFault_repair : TellsNoFault EngineM.repair := by
  refine publishes_get.bind fun e => publishes_ite ?_ (publishes_pure ())
  have hreplace : TellsNoFault (if e.state .input = .error then replaceBoth e.started
      else replaceOutput e.started) :=
    publishes_ite (publishes_replaceBoth (fun _ => isFault_of_warning) _)
      (publishes_replaceOutput (fun _ => isFault_of_warning) _)
  refine hreplace.attempt.bind fun r => ?_
  cases r with
  | ok _ => exact tellsNoFault_publish rfl
  | error err =>
    refine publishes_shutDown.attempt.bind fun _ => Publishes.bind ?_ fun _ => ?_
    · exact publishes_modify fun _ => rfl
    · exact (tellsNoFault_publish rfl).bind fun _ => publishes_fail err

theorem tellsNoFault_endSession : TellsNoFault endSession := by
  refine publishes_get.bind fun e => publishes_ite ?_ (publishes_pure ())
  refine tellsNoFault_stop.attempt.bind fun _ => tellsNoFault_bringDown.attempt.bind fun _ => ?_
  exact publishes_modify fun _ => rfl

end Programs

/-! ## Attending to the queue -/

/-- The notices of a batch, all of them of faults and in the order of the batch: the program that
publishes them, as an equation. The induction is on the batch; a loss in it is passed over. -/
theorem publishFaults_eq (batch : List Event) (e : SimulatedEngine) :
    publishFaults batch e
      = .ok () { e with board := e.board.publishAll (batch.filterMap Event.notice?) } := by
  induction batch generalizing e with
  | nil =>
    rw [List.filterMap_nil, NoticeBoard.publishAll_nil]
    rfl
  | cons event rest ih =>
    cases event with
    | disconnected _ _ => exact ih e
    | fault d expected actual =>
      -- the first event tells of its fault, and the rest is by induction
      let oldest : Notice :=
        ⟨.callbackFault d, some s!"expected {expected} bytes per period, got {actual}"⟩
      have htold : publishFaults (.fault d expected actual :: rest) e
          = publishFaults rest { e with board := e.board.publishAll [oldest] } := by
        rw [← NoticeBoard.publish_eq_publishAll]
        rfl
      have hnotices : (Event.fault d expected actual :: rest).filterMap Event.notice?
          = [oldest] ++ rest.filterMap Event.notice? := rfl
      rw [htold, ih, hnotices, NoticeBoard.publishAll_append]

/-- Attending to a batch tells of every fault in it once, and of no other; what else is published
comes after that. It is two facts, `publishFaults_eq` for the first program and `TellsNoFault` for
all that follows it. -/
theorem attend_board (batch : List Event) (e : SimulatedEngine) :
    ∃ news, (final (attend batch) e).board
        = (e.board.publishAll (batch.filterMap Event.notice?)).publishAll news
      ∧ ∀ n ∈ news, n.kind.isFault = false := by
  have hrest : TellsNoFault (if batch.any Event.isFault then endSession
      else if batch.any Event.isDisconnect then
        attempt EngineM.repair >>= fun _ => pure () else pure ()) := by
    refine publishes_ite tellsNoFault_endSession (publishes_ite ?_ (publishes_pure ()))
    exact tellsNoFault_repair.attempt.bind fun _ => publishes_pure ()
  obtain ⟨news, hboard, hnews⟩ :=
    hrest { e with board := e.board.publishAll (batch.filterMap Event.notice?) }
  refine ⟨news, ?_, hnews⟩
  rw [← hboard]
  unfold final attend
  rw [bind_apply, publishFaults_eq]

/-- What is attended to has been taken off the queue, and nothing new waits afterwards, because no
program of the streams reports an event. A recovery keeps what waits (`Keeps.pending`), and that was
nothing, because the events have been taken. -/
theorem attend_taken_ok (h : Sound e) (batch : List Event) :
    ∃ e', attend batch e.taken = .ok () e' ∧ e'.line.link.pending = [] := by
  rcases (attend_recovers h.taken batch).cases with
    ⟨_, e', hrun, _, hcases⟩ | ⟨err, _, _, hr, _⟩
  · refine ⟨e', hrun, ?_⟩
    rcases hcases with ⟨board, rfl⟩ | hrecovers
    · rfl
    · exact hrecovers.keeps.pending
  · cases hr

/-- **Attending to all that waits** tells of it, and leaves nothing of it to tell: what was in the
second part of the list is in the first. The list `faultNotices` has what was published and then
what waits; attending moves the border between the two. -/
theorem attend_taken_faultNotices (h : Sound e) :
    ∃ e', e.taken.runAnyway (attend e.line.link.pending) = (.ok (), e')
      ∧ e'.faultNotices = e.faultNotices := by
  let batch := e.line.link.pending
  obtain ⟨e', hrun, hpending⟩ := attend_taken_ok h batch
  obtain ⟨news, hboard, hnews⟩ := attend_board batch e.taken
  rw [final_of_ok hrun] at hboard
  refine ⟨e', runAnyway_of_ok hrun, ?_⟩
  -- what is published of a batch are faults, and nothing else that attending tells of is one
  have hall : (batch.filterMap Event.notice?).filter (·.kind.isFault)
      = batch.filterMap Event.notice? := by
    apply List.filter_eq_self.mpr
    intro n hn
    obtain ⟨event, _, hevent⟩ := List.mem_filterMap.mp hn
    exact Event.isFault_of_notice? hevent
  have hfaults : (e'.board.published.toList).filter (·.kind.isFault)
      = e.board.published.toList.filter (·.kind.isFault) ++ batch.filterMap Event.notice? := by
    have htaken : e.taken.board = e.board := rfl
    rw [hboard, htaken, NoticeBoard.published_publishAll, NoticeBoard.published_publishAll,
      List.filter_append, List.filter_append, hall, filter_isFault_eq_nil hnews, List.append_nil]
  unfold faultNotices
  rw [hfaults, hpending]
  exact List.append_nil _

theorem taken_faultNotices (hempty : e.line.link.pending = []) :
    e.taken.faultNotices = e.faultNotices := by
  have htaken : e.taken.line.link.pending = [] := rfl
  unfold faultNotices
  rw [htaken, hempty]
  rfl

/-! ## Every call -/

/-- A program that keeps the engine together and tells of no fault leaves the faults as they are. -/
theorem run_faultNotices {α : Type} {x : EngineM (SimulatedHost Handler) α} (h : Sound e)
    (hkeeps : Ends x e fun _ e' => Keeps e e') (hquiet : TellsNoFault x) :
    (e.run x).2.faultNotices = e.faultNotices := by
  obtain ⟨_, _, hsame⟩ := (unfaulted_ends hkeeps hquiet).run h.poisoned
  exact hsame.faultNotices

/-- **No call adds a fault, loses one, tells of one twice or out of order.** It is an equation,
between the whole lists before and after the call. -/
theorem call_faultNotices (h : Sound e) (c : Call) : (e.call c).faultNotices = e.faultNotices := by
  cases c with
  | configure | selectApi | selectDevice | selectObserver =>
    exact (Unfaulted.of_configures rfl).faultNotices
  | bringUp =>
    exact run_faultNotices h (bringUp_keeps h) tellsNoFault_bringUp
  | start =>
    exact run_faultNotices h (start_keeps h) tellsNoFault_start
  | stop =>
    have hkeeps : Ends EngineM.stop e fun _ e' => Keeps e e' :=
      (stop_ends h.settled).mono fun _ _ hhalt => hhalt.toKeeps
    exact run_faultNotices h hkeeps tellsNoFault_stop
  | bringDown =>
    have hkeeps : Ends EngineM.bringDown e fun _ e' => Keeps e e' :=
      (bringDown_ends h.settled).mono fun _ _ ⟨_, hkeep, _⟩ => hkeep
    exact run_faultNotices h hkeeps tellsNoFault_bringDown
  | switch on =>
    exact run_faultNotices h (switch_keeps h on) (tellsNoFault_switch on)
  | trySwitch on =>
    rw [call_trySwitch h on]
    exact run_faultNotices h (switch_keeps h on) (tellsNoFault_switch on)
  | repair =>
    have hkeeps : Ends EngineM.repair e fun _ e' => Keeps e e' := by
      refine (repair_recovers h).mono fun _ e' hcases => ?_
      rcases hcases with rfl | hrecovers
      · exact .refl e'
      · exact hrecovers.keeps
    exact run_faultNotices h hkeeps tellsNoFault_repair
  -- only here, and in the worker, is anything taken from what waits
  | attendPending =>
    cases hrecovery : e.recovery with
    | worker => exact congrArg (fun p => p.2.faultNotices) (attendPending_of_worker hrecovery)
    | manual =>
      by_cases hempty : e.line.link.pending = []
      · have hcall : e.call .attendPending = e.taken :=
          congrArg Prod.snd (attendPending_of_empty hrecovery hempty)
        rw [hcall, taken_faultNotices hempty]
      · obtain ⟨e', hattend, hsame⟩ := attend_taken_faultNotices h
        have hcall : e.call .attendPending = e' :=
          congrArg Prod.snd (attendPending_of_attended hrecovery hempty hattend)
        rw [hcall, hsame]
  | runWorker =>
    cases hrecovery : e.recovery with
    | manual => exact congrArg faultNotices (runWorker_of_manual hrecovery)
    | worker =>
      by_cases hempty : e.line.link.pending = []
      · have hcall : e.call .runWorker = e.taken := runWorker_of_empty hrecovery hempty
        rw [hcall, taken_faultNotices hempty]
      · obtain ⟨e', hattend, hsame⟩ := attend_taken_faultNotices h
        have hcall : e.call .runWorker = e' := runWorker_of_attended hrecovery hempty hattend
        rw [hcall, hsame]

/-! ## What the hardware does -/

/-- The callback of an input that does not run puts nothing on the queue: it refuses, or is not
called. It is not called if its stream rests, and refuses if its side has failed
(`Handler.capture_of_refuses`). -/
theorem feed_link_of_not_running (h : Sound e) (hrun : e.state .input ≠ .running)
    (frames : List Int16) : (e.feed frames).2.line.link = e.line.link := by
  rcases h.shape with hc | ho
  · rw [feed_of_closed hc]
  · obtain ⟨s, hs⟩ := ho.occupied .input
    rcases hs.newestRunning? with hnone | ⟨x, hnewest, hb, hrunning | herror⟩
    · rw [feed_of_idle hnone]
    · exact absurd hrunning hrun
    · have hrefuses : (e.line.state x.callback.direction).refusesAudio = true := by
        have hline : e.line.state .input = .error := herror
        rw [hb.handler, hline]
        rfl
      rw [feed_of_running hnewest hb (Handler.capture_of_refuses hrefuses frames)]

/-- The callback of an output that does not run puts nothing on the queue either. The cases are
those of the input, with `Handler.render_of_refuses`. -/
theorem draw_link_of_not_running (h : Sound e) (hrun : e.state .output ≠ .running)
    (dest : List Int16) : (e.draw dest).2.2.line.link = e.line.link := by
  rcases h.shape with hc | ho
  · rw [draw_of_closed hc]
  · obtain ⟨s, hs⟩ := ho.occupied .output
    rcases hs.newestRunning? with hnone | ⟨x, hnewest, hb, hrunning | herror⟩
    · rw [draw_of_idle hnone]
    · exact absurd hrunning hrun
    · have hrefuses : (e.line.state x.callback.direction).refusesAudio = true := by
        have hline : e.line.state .output = .error := herror
        rw [hb.handler, hline]
        rfl
      rw [draw_of_running hnewest hb (Handler.render_of_refuses hrefuses dest.length)]

/-- A lost device is reported, but not as a fault. What waits for notices is the same before and
after (`Handler.afterClose_notices`), and the board is not touched. -/
theorem unplug_faultNotices (e : SimulatedEngine) (d : Direction) (error : HostError) :
    (e.unplug d error).2.faultNotices = e.faultNotices := by
  unfold Engine.unplug SimulatedHost.unplug
  cases (e.host.live d).getLast? with
  | none => rfl
  | some x =>
    have hnone := x.callback.afterClose_notices x.properties error e.line
    exact congrArg (e.board.published.toList.filter (·.kind.isFault) ++ ·) hnone

/-- A fault is on the queue with the bytes of its buffer, so what is told of it is what is to be
told. -/
theorem Faults.faultNotices {n : Nat} (h : Faults d (n * sampleBytes) e e')
    (hboard : e'.board = e.board) :
    e'.faultNotices = e.faultNotices ++ [Rejection.notice ⟨d, e.config.period.bytes, n⟩] := by
  have hbytes : n * sampleBytes = 2 * n := Nat.mul_comm _ _
  unfold Engine.faultNotices
  rw [h.told, hboard, hbytes, List.filterMap_append, List.append_assoc]
  rfl

theorem faultNotices_congr (hboard : e'.board = e.board) (hlink : e'.line.link = e.line.link) :
    e'.faultNotices = e.faultNotices := by
  unfold Engine.faultNotices
  rw [hboard, hlink]

/-- A capture adds the buffer that it rejects, at the end of the list, if a running input rejects
one. By `feed_running` a period passes without an event, and any other buffer is a fault that is
queued; an input that does not run queues nothing. -/
theorem feed_faultNotices (h : Sound e) (frames : List Int16) :
    (e.feed frames).2.faultNotices
      = e.faultNotices ++ (e.rejection? (.feed frames)).toList.map Rejection.notice := by
  have hboard : (e.feed frames).2.board = e.board := rfl
  by_cases hrun : e.state .input = .running
  · have hopen : Open e := h.isOpen_of_ne_closed (d := .input) (by simp [hrun])
    -- a running input passes the period or rejects the buffer
    obtain ⟨hpass, hfault⟩ := feed_running hopen h hrun frames
    by_cases hlen : frames.length = e.config.period.samples
    · have hnone : e.rejection? (.feed frames) = none := if_neg fun hrej => hrej.2.1 hlen
      rw [hnone, faultNotices_congr hboard (hpass hlen).2.untold]
      simp
    · have hsome : e.rejection? (.feed frames) = some _ :=
        if_pos ⟨hrun, hlen, (hfault hlen).1⟩
      rw [hsome, (hfault hlen).2.faultNotices hboard]
      simp
  · have hnone : e.rejection? (.feed frames) = none := if_neg fun hrej => hrun hrej.1
    rw [hnone, faultNotices_congr hboard (feed_link_of_not_running h hrun frames)]
    simp

/-- A playback adds the buffer that it rejects likewise. The cases are those of `feed_faultNotices`,
with `draw_running` and `draw_link_of_not_running`. -/
theorem draw_faultNotices (h : Sound e) (dest : List Int16) :
    (e.draw dest).2.2.faultNotices
      = e.faultNotices ++ (e.rejection? (.draw dest)).toList.map Rejection.notice := by
  have hboard : (e.draw dest).2.2.board = e.board := rfl
  by_cases hrun : e.state .output = .running
  · have hopen : Open e := h.isOpen_of_ne_closed (d := .output) (by simp [hrun])
    -- a running output fills the buffer or rejects it
    obtain ⟨hpass, hfault⟩ := draw_running hopen h hrun dest
    by_cases hlen : dest.length = e.config.period.samples
    · have hnone : e.rejection? (.draw dest) = none := if_neg fun hrej => hrej.2.1 hlen
      rw [hnone, faultNotices_congr hboard (hpass hlen).2.untold]
      simp
    · have hsome : e.rejection? (.draw dest) = some _ :=
        if_pos ⟨hrun, hlen, (hfault hlen).1⟩
      rw [hsome, (hfault hlen).2.faultNotices hboard]
      simp
  · have hnone : e.rejection? (.draw dest) = none := if_neg fun hrej => hrun hrej.1
    rw [hnone, faultNotices_congr hboard (draw_link_of_not_running h hrun dest)]
    simp

/-- **A step adds the buffer that it rejects**, at the end, and nothing else. Calls, scripts and
losses add nothing; the two kinds of buffers are `feed_faultNotices` and `draw_faultNotices`. -/
theorem perform_faultNotices (h : Sound e) (a : Action) :
    (e.perform a).faultNotices
      = e.faultNotices ++ (e.rejection? a).toList.map Rejection.notice := by
  cases a with
  | call c => exact (call_faultNotices h c).trans (List.append_nil _).symm
  | script s => exact (List.append_nil _).symm
  | collect => exact (List.append_nil _).symm
  | unplug d error => exact (unplug_faultNotices e d error).trans (List.append_nil _).symm
  | feed frames => exact feed_faultNotices h frames
  | draw dest => exact draw_faultNotices h dest

/-- **A run adds the buffers that it rejects**, one by one and in their order, by induction with
`perform_faultNotices`. What has been published and what waits are one list here, so it makes no
difference when the events are attended to. -/
theorem after_faultNotices (h : Sound e) (as : List Action) :
    (e.after as).faultNotices = e.faultNotices ++ (e.rejections as).map Rejection.notice := by
  induction as generalizing e with
  | nil => exact (List.append_nil _).symm
  -- by induction on the run, for any engine that it may start from
  | cons a as ih =>
    have hstep := perform_faultNotices h a
    have hrest : ((e.perform a).after as).faultNotices = _ := ih (perform_sound h a).1
    rw [hstep, List.append_assoc, ← List.map_append] at hrest
    exact hrest

/-! ## Subscribers -/

/-- **Every fault is told of exactly once.** Take any run, and a subscriber that has come for its
notices at any points of it, the last time at its end, and has missed none. What it has heard of
faults, followed by what is to be told of those that still wait, are the buffers that running
streams have rejected for their length: one for one and in their order, each with its direction,
the bytes of the period and its own. -/
theorem faults_told_once (config : Config) (recovery : Recovery) (noticeCapacity : Nat)
    (parts : List (List Action))
    (hall : ∀ missed, .lagged missed ∉
      (create {} config recovery noticeCapacity : SimulatedEngine).heard
        (NoticeBoard.ofCapacity noticeCapacity).subscribe parts) :
    let new : SimulatedEngine := create {} config recovery noticeCapacity
    let e := new.after parts.flatten
    ∃ ns : List Notice, new.heard new.board.subscribe parts = ns.map .notice
      ∧ ns.filter (·.kind.isFault) ++ e.line.link.pending.filterMap Event.notice?
        = (new.rejections parts.flatten).map Rejection.notice := by
  intro new e
  have hnew : Sound new := sound_create config recovery noticeCapacity
  obtain ⟨ns, hheard, hboard⟩ := heard_published hnew parts hall
  refine ⟨ns, hheard, ?_⟩
  -- a subscriber that missed nothing has heard all that was published
  have hpublished : e.board.published.toList = ns := by
    have hempty : new.board.published.toList = [] := rfl
    rw [hboard, NoticeBoard.published_publishAll, hempty, List.nil_append]
  rw [← hpublished]
  exact after_faultNotices hnew parts.flatten

/-- Both callbacks are given too little and fault, the effect is turned off and on again before
anyone attends to that, and in the session after it the input is lost and the output faults. -/
def faultsAcrossSessions : List (List Action) :=
  [[.call (.switch true), .feed [1, 2, 3], .draw [0], .call (.switch false),
      .call (.switch true), .call .attendPending],
    [.call (.switch true), .unplug .input .disconnected, .draw (List.replicate 9 0)]]

/-- All three faults are accounted for, the last of them as one that waits, although a session ended
between the first and the last. What is heard is computed; that it agrees with what is rejected is
the theorem. -/
theorem faults_told_once_acrossSessions :
    let new : SimulatedEngine := create {} { sampleRate := 8000, periodMs := 1 }
    (∀ missed, .lagged missed ∉ new.heard new.board.subscribe faultsAcrossSessions)
      ∧ ∃ ns : List Notice, new.heard new.board.subscribe faultsAcrossSessions = ns.map .notice
        ∧ ns.filter (·.kind.isFault)
            ++ (new.after faultsAcrossSessions.flatten).line.link.pending.filterMap Event.notice?
          = [⟨.callbackFault .input, some "expected 16 bytes per period, got 6"⟩,
            ⟨.callbackFault .output, some "expected 16 bytes per period, got 2"⟩,
            ⟨.callbackFault .output, some "expected 16 bytes per period, got 18"⟩] := by
  have hheard : (create {} { sampleRate := 8000, periodMs := 1 } : SimulatedEngine).heard
      (NoticeBoard.ofCapacity 64).subscribe faultsAcrossSessions = List.map .notice
        [⟨.streamsOpened 8000 8, none⟩, ⟨.started, none⟩, ⟨.stopped, none⟩, ⟨.streamsClosed, none⟩,
          ⟨.streamsOpened 8000 8, none⟩, ⟨.started, none⟩,
          ⟨.callbackFault .input, some "expected 16 bytes per period, got 6"⟩,
          ⟨.callbackFault .output, some "expected 16 bytes per period, got 2"⟩,
          ⟨.stopped, none⟩, ⟨.streamsClosed, none⟩,
          ⟨.streamsOpened 8000 8, none⟩, ⟨.started, none⟩] := by
    decide +kernel
  -- what the three buffers are told of as, in the order in which they came
  have hrejected : ((create {} { sampleRate := 8000, periodMs := 1 } :
      SimulatedEngine).rejections faultsAcrossSessions.flatten).map Rejection.notice
      = [⟨.callbackFault .input, some "expected 16 bytes per period, got 6"⟩,
        ⟨.callbackFault .output, some "expected 16 bytes per period, got 2"⟩,
        ⟨.callbackFault .output, some "expected 16 bytes per period, got 18"⟩] := by
    decide +kernel
  have hall : ∀ missed, .lagged missed ∉
      (create {} { sampleRate := 8000, periodMs := 1 } : SimulatedEngine).heard
        (NoticeBoard.ofCapacity 64).subscribe faultsAcrossSessions := by
    intro missed
    rw [hheard]
    simp
  obtain ⟨ns, hns, hfaults⟩ :=
    faults_told_once { sampleRate := 8000, periodMs := 1 } .manual 64 faultsAcrossSessions hall
  exact ⟨hall, ns, hns, hfaults.trans hrejected⟩

end Engine

end Passthrough
