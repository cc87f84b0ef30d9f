import Passthrough.Proofs.Engine.FaultReports
import Passthrough.Proofs.Engine.Issued
/-!
# Sessions that end over a fault

A fault that waits ends the session when it is attended to, whatever else waits with it: losses of a
device before, between and after the faults of the same batch do not count. The engine stops what
still runs and closes both sides. It opens nothing and starts nothing, and it tells of no repair.

Ending a session stops the pair and then closes it, and closing would stop it as well. By then
nothing runs any more, so each side is asked to stop at most once (`callsToStop_of_halts`).

* **`endSession_issues`** — what the end of a session asks for, and what is told of it.
* **`fault_ends_session`** — so it is after any run, for the owner of an engine and for its worker.
-/

namespace Passthrough

open EngineM SimulatedHost

namespace Engine

variable {e e' : SimulatedEngine} {d : Direction}

/-- What is told when a pair is stopped. -/
def stopNotices (e : SimulatedEngine) : List Notice :=
  if e.started then [⟨.stopped, none⟩] else []

/-- **What ending a session takes**: the sides that run are stopped, output first, and then both are
closed, output first. -/
def callsToEnd (e : SimulatedEngine) : List CallRecord :=
  e.callsToStop .output ++ e.callsToStop .input ++ [⟨.output, .close⟩, ⟨.input, .close⟩]

/-- **What is told of the end of a session** over a batch of events: each fault, then that the pair
has been stopped, if it was started, and closed. -/
def endNotices (batch : List Event) (e : SimulatedEngine) : List Notice :=
  batch.filterMap Event.notice? ++ (e.stopNotices ++ [⟨.streamsClosed, none⟩])

/-! ## Stopping and closing -/

/-- Stopping asks the sides that run to stop, output first, and tells of it if the session counted
as started. Nothing of this depends on the answers. -/
theorem stop_issues (h : ∀ d, Settled e d) :
    Ends EngineM.stop e fun _ e' =>
      Issues (e.callsToStop .output ++ e.callsToStop .input) e e'
        ∧ e'.board = e.board.publishAll e.stopNotices := by
  unfold EngineM.stop stopNotices
  refine ends_get_bind (((stopSides_issues h).silent publishes_stopSides).attempt_bind
    fun r e₁ ⟨hissues, hsame⟩ => ?_)
  cases e.started with
  | true =>
    refine ends_publish_bind (ends_ofExcept ⟨hissues, ?_⟩)
    show e₁.board.publish .stopped none = _
    rw [NoticeBoard.publish_eq_publishAll, hsame]
    rfl
  | false =>
    refine ends_ofExcept ⟨hissues, ?_⟩
    show e₁.board = e.board.publishAll []
    rw [hsame, NoticeBoard.publishAll_nil]

/-- Closing an open pair stops what runs and closes both sides, output first, and tells that it is
closed. Which calls those are is settled by the states before (`callsToEnd`), and the notice is sent
because an open pair holds streams. -/
theorem bringDown_issues (h : Open e) :
    Ends EngineM.bringDown e fun _ e' => Issues e.callsToEnd e e'
      ∧ e'.board = e.board.publishAll [⟨.streamsClosed, none⟩] := by
  unfold EngineM.bringDown
  refine ends_get_bind (((shutDown_issues h).silent publishes_shutDown).attempt_bind
    fun r e₁ ⟨hissues, hsame⟩ => ?_)
  simp only [h.holdsStreams, if_true]
  refine ends_publish_bind (ends_ofExcept ⟨hissues, ?_⟩)
  rw [NoticeBoard.publish_eq_publishAll, hsame]

/-- A pair that has been stopped is not asked to stop again, because no side of it runs, even where
the host has refused. -/
theorem callsToStop_of_halts (h : Halts e e') (d : Direction) : e'.callsToStop d = [] :=
  if_neg (h.resting d)

/-- **The end of a session** asks each running side to stop once, and closes both. The stop that is
part of closing has nothing left to ask for. -/
theorem endSession_issues (h : Open e) :
    Ends endSession e fun _ e' => Issues e.callsToEnd e e'
      ∧ e'.board = e.board.publishAll (e.stopNotices ++ [⟨.streamsClosed, none⟩]) := by
  unfold endSession
  refine ends_get_bind ?_
  simp only [h.holdsStreams, if_true]
  refine ((stop_ends h.settled).and (stop_issues h.settled)).attempt_bind
    fun r₁ e₁ ⟨hhalt, hissues₁, htold₁⟩ => ?_
  refine (bringDown_issues (hhalt.open h)).attempt_bind fun r₂ e₂ ⟨hissues₂, htold₂⟩ => ?_
  -- nothing runs any more, so that closing asks for no second stop
  have hstopped : e₁.callsToEnd = [⟨.output, .close⟩, ⟨.input, .close⟩] := by
    unfold callsToEnd
    rw [callsToStop_of_halts hhalt, callsToStop_of_halts hhalt]
    rfl
  rw [hstopped] at hissues₂
  refine ends_modify ⟨hissues₁.trans hissues₂, ?_⟩
  rw [NoticeBoard.publishAll_append, ← htold₁]
  exact htold₂

/-- A fault in a batch ends the session, and every fault of the batch is told of first. The losses
in the same batch add neither calls nor notices. -/
theorem attend_fault_issues {batch : List Event} (h : Open e)
    (hfault : batch.any Event.isFault = true) :
    Ends (attend batch) e fun _ e' => Issues e.callsToEnd e e'
      ∧ e'.board = e.board.publishAll (e.endNotices batch) := by
  -- the faults are told of before anything is done about them
  let told : SimulatedEngine := { e with
    board := e.board.publishAll (batch.filterMap Event.notice?) }
  have hattend : attend batch e = endSession told := by
    unfold attend
    rw [bind_apply, publishFaults_eq]
    simp only [hfault, if_true]
    rfl
  have htold : Open told := h.board _
  refine ((endSession_issues htold).mono fun r e' ⟨hissues, hboard⟩ => ?_).of_eq hattend
  refine ⟨hissues, ?_⟩
  unfold endNotices
  rw [NoticeBoard.publishAll_append]
  exact hboard

/-! ## What is not told -/

/-- A notice of how a repair has ended. -/
def tellsOfRepair (n : Notice) : Bool :=
  n.kind = .deviceChangeRecovered || n.kind = .deviceChangeFailed

theorem tellsOfRepair_of_isFault {n : Notice} (h : n.kind.isFault = true) :
    tellsOfRepair n = false := by
  obtain ⟨kind, detail⟩ := n
  cases kind with
  | callbackFault d => rfl
  | _ => cases h

/-- The end of a session is not told of as a repair, neither as one that succeeded nor as one that
failed. All of them are faults of callbacks, or tell that the session has stopped and its streams
are closed. -/
theorem tellsOfRepair_endNotices (batch : List Event) (e : SimulatedEngine) :
    ∀ n ∈ e.endNotices batch, tellsOfRepair n = false := by
  intro n hn
  rcases List.mem_append.mp hn with hfault | hrest
  · obtain ⟨event, _, hevent⟩ := List.mem_filterMap.mp hfault
    exact tellsOfRepair_of_isFault (Event.isFault_of_notice? hevent)
  · rcases List.mem_append.mp hrest with hstopped | hclosed
    · unfold stopNotices at hstopped
      split at hstopped
      · rw [List.mem_singleton.mp hstopped]
        rfl
      · cases hstopped
    · rw [List.mem_singleton.mp hclosed]
      rfl

/-! ## Every run -/

/-- **A fault ends the session without opening anything again.** After any run that leaves streams
open and a fault waiting, with any events before, between and after it, attending to what waits asks
the host for just this: to stop the sides that run, output first, and to close both, output first.
Whether or not the host refuses to stop them, the engine is closed, off and linked to nothing
afterwards, and nothing waits any more. It tells of the faults, of the stop and of the closing, and
of no repair. The owner of the engine is answered how many events there were; where a worker
attends to them, the same comes of it. -/
theorem fault_ends_session (config : Config) (recovery : Recovery) (noticeCapacity : Nat)
    (as : List Action) :
    let e := (create {} config recovery noticeCapacity : SimulatedEngine).after as
    e.holdsStreams = true → e.line.link.pending.any Event.isFault = true →
    ∃ e', (recovery = .manual → e.attendPending = (.ok e.line.link.pending.length, e'))
      ∧ (recovery = .worker → e.runWorker = e')
      ∧ Issues e.callsToEnd e e'
      ∧ Ended e' ∧ e'.line.link.pending = []
      ∧ e'.board = e.board.publishAll (e.endNotices e.line.link.pending)
      ∧ ∀ n ∈ e.endNotices e.line.link.pending, tellsOfRepair n = false := by
  intro e hheld hfault
  obtain ⟨h, hrecovery⟩ := after_sound (sound_create config recovery noticeCapacity) as
  have hopen : Open e.taken :=
    (h.isOpen hheld).frame (fun _ => ⟨rfl, rfl, rfl, rfl⟩) rfl (.refl _) rfl rfl rfl
  have hne : e.line.link.pending ≠ [] := by
    intro hempty
    rw [hempty] at hfault
    cases hfault
  -- what attending comes to, and what it asks of the host, are two facts about one run
  obtain ⟨r, hreply, ⟨hr, hkeep, hended⟩, hissues, hboard⟩ :=
    ((attend_fault_ends hopen hfault).and (attend_fault_issues hopen hfault)).runAnyway
  rw [hr] at hreply
  have hattend : e.taken.runAnyway (attend e.line.link.pending)
      = (.ok (), (e.taken.runAnyway (attend e.line.link.pending)).2) := Prod.ext hreply rfl
  -- the owner and the worker attend to the same batch
  refine ⟨_, fun hmanual => ?_, fun hworker => ?_, hissues, hended, hkeep.pending, hboard,
    tellsOfRepair_endNotices _ e⟩
  · exact attendPending_of_attended (hrecovery.trans hmanual) hne hattend
  · exact runWorker_of_attended (hrecovery.trans hworker) hne hattend

/-- The output is given too much and faults, its device is lost after that, and the input is going
to refuse to stop. -/
def faultThenLoss : List Action :=
  [.call (.switch true), .draw (List.replicate 9 0), .unplug .output .disconnected,
    .script (.stopFault .input .timeout)]

/-- The loss does not have the output replaced, and the refusal keeps nothing open: three calls, and
both directions end closed. The run and what waits are computed; the rest is the theorem at this
run. -/
theorem fault_ends_session_faultThenLoss :
    let e := (create {} { sampleRate := 8000, periodMs := 1 } : SimulatedEngine).after faultThenLoss
    e.state .output = .error ∧ e.state .input = .running
      ∧ e.attendPending.1 = .ok 2
      ∧ e.attendPending.2.host.calls = e.host.calls
          ++ [⟨.input, .stop⟩, ⟨.output, .close⟩, ⟨.input, .close⟩]
      ∧ Ended e.attendPending.2
      ∧ e.attendPending.2.board = e.board.publishAll
          [⟨.callbackFault .output, some "expected 16 bytes per period, got 18"⟩,
            ⟨.stopped, none⟩, ⟨.streamsClosed, none⟩] := by
  refine ⟨rfl, rfl, ?_⟩
  obtain ⟨e', hmanual, _, hissues, hended, _, hboard, _⟩ :=
    fault_ends_session { sampleRate := 8000, periodMs := 1 } .manual 64 faultThenLoss rfl rfl
  rw [hmanual rfl]
  exact ⟨rfl, hissues, hended, hboard⟩

end Engine

end Passthrough
