import Passthrough.Engine.Repair
import Passthrough.Proofs.Engine.Lifecycle
/-!
# Recovery

What an engine on simulated hardware comes to when it repairs a lost stream, and when it ends a
session whose callback has faulted.

A repair that succeeds ends open with no side failed: over a new channel where the input was lost,
over the old one where only the output was. Between its steps the engine may be half open; every
failure comes back to a closed engine through `shutDown`.
-/

namespace Passthrough

open EngineM SimulatedHost

namespace Engine

variable {e e' : SimulatedEngine} {restart : Bool}

/-! ## Replacing streams -/

/-- **Replacing both sides** ends in a new session that runs if it is to restart, or in sides that
can be shut down. The calls that shut down may fail without any effect on what follows; a failure of
the opening leaves the pair closed, and one of the start leaves it open. -/
theorem replaceBoth_ends (h : Open e) (hn : Numbered e.host) :
    Ends (replaceBoth restart) e fun r e' => Keeps e e' ∧ e'.effectOn = e.effectOn
      ∧ ((r = .ok () ∧ Fresh e' ∧ e'.started = restart
            ∧ ∀ d, e'.state d = if restart then .running else .opened)
        ∨ ((∃ err, r = .error err) ∧ ∀ d, Settled e' d)) := by
  unfold replaceBoth
  refine (shutDown_ends h.settled).attempt_bind fun _ e₁ ⟨hclosed₁, hkeep₁, heffect₁⟩ => ?_
  refine (openSides_ends hclosed₁ (hn.of_follows hkeep₁.host)).bind
    (fun _ e₂ ⟨hkeep₂, heffect₂, hcases₂⟩ => ?_) fun err e₂ ⟨hkeep₂, heffect₂, hcases₂⟩ => ?_
  · rcases hcases₂ with ⟨_, hopen₂, hstate₂, hstarted₂, hchannel₂⟩ | ⟨⟨_, herr⟩, _⟩
    -- what was opened is over a channel of the period of the engine as it is now
    · rw [← hkeep₂.config] at hchannel₂
      cases restart with
      | false =>
        exact ends_pure ⟨hkeep₁.trans hkeep₂, heffect₂.trans heffect₁,
          Or.inl ⟨rfl, ⟨hopen₂, hchannel₂⟩, hstarted₂, hstate₂⟩⟩
      | true =>
        refine (startSides_ends hopen₂).mono
          fun r e₃ ⟨hkeep₃, heffect₃, hopen₃, hchannel₃, hcases₃⟩ => ?_
        refine ⟨(hkeep₁.trans hkeep₂).trans hkeep₃, (heffect₃.trans heffect₂).trans heffect₁, ?_⟩
        rcases hcases₃ with ⟨hr, hstarted₃, hrun₃⟩ | ⟨hr, _⟩
        · have hchannel := hchannel₃.trans hchannel₂
          rw [← hkeep₃.config] at hchannel
          exact Or.inl ⟨hr, ⟨hopen₃, hchannel⟩, hstarted₃, hrun₃⟩
        · exact Or.inr ⟨hr, hopen₃.settled⟩
    · cases herr
  · rcases hcases₂ with ⟨hok, _⟩ | ⟨_, hclosed₂⟩
    · cases hok
    · exact ⟨hkeep₁.trans hkeep₂, heffect₂.trans heffect₁,
        Or.inr ⟨⟨err, rfl⟩, hclosed₂.settled⟩⟩

/-- Work on one side of an open engine leaves a channel to open a stream over. It is what
`replaceOutput` relies on when it opens the new output over the channel of the old one. -/
theorem Open.channel_isSome (h : Open e) {d : Direction} (hact : ActsOn d e e') :
    e'.line.channel.isSome = true := by
  obtain ⟨c, hc, _⟩ := h.channel
  rw [hact.channel, hc]
  rfl

/-- The output is opened again at the rate of the input, which is that of the configuration, since a
stream at another rate does not pass `checkFit`. Work on the output in between changes neither. -/
theorem Occupied.rate_of_actsOn {s : StreamHandle} {d d' : Direction} (h : Occupied e d s)
    (hact : ActsOn d' e e') : s.properties.sampleRate = e'.config.period.sampleRate := by
  rw [hact.config]
  exact h.admitted.sampleRate

/-- **Replacing the output** leaves the input and the channel alone. It ends open, with the output
running if it is to restart, or in sides that can be shut down. -/
theorem replaceOutput_ends (h : Open e) (hn : Numbered e.host)
    (hin : e.state .input ≠ .error) :
    Ends (replaceOutput e.started) e fun r e' => Keeps e e' ∧ e'.effectOn = e.effectOn
      ∧ ((r = .ok () ∧ Open e' ∧ e'.line.channel = e.line.channel ∧ SameSide .input e e'
            ∧ e'.started = e.started
            ∧ e'.state .output = if e.started then .running else .opened)
        ∨ ((∃ err, r = .error err) ∧ ∀ d, Settled e' d)) := by
  obtain ⟨s, hs⟩ := h.occupied .input
  unfold replaceOutput
  refine ends_get_bind ?_
  simp only [hs.infoOf]
  refine (stopSide_settled (h.settled .output)).attempt_bind fun _ e₁ hstop => ?_
  refine (closeSide_settled (hstop.settled (h.settled .output))).attempt_bind
    fun _ e₂ ⟨_, hvacant₂, hclose⟩ => ?_
  -- from here on, all work since `e` has been work on the output
  have hact₂ : ActsOn .output e e₂ := hstop.toActsOn.trans hclose
  rw [hs.rate_of_actsOn hact₂]
  refine (openSide_ends hvacant₂ (h.channel_isSome hact₂) (hn.of_follows hact₂.host)).bind
    (fun _ e₃ ⟨hopen₃, hcases₃⟩ => ?_) fun err e₃ ⟨hopen₃, hcases₃⟩ => ?_
  · rcases hcases₃ with ⟨_, ⟨s', hout₃⟩, hstate₃⟩ | ⟨⟨_, herr⟩, _⟩
    · have hact₃ : ActsOn .output e e₃ := hact₂.trans hopen₃
      cases hrestart : e.started with
      | false =>
        have hstarted₃ : e₃.started = false := hact₃.started.trans hrestart
        have hopen : Open e₃ :=
          h.of_actsOn hact₃ ⟨s', hout₃⟩ fun hs => by rw [hstarted₃] at hs; cases hs
        exact ends_pure ⟨hact₃.toKeeps, hact₃.effectOn, Or.inl ⟨rfl, hopen, hact₃.channel,
          hact₃.other .input (by simp), hstarted₃, hstate₃⟩⟩
      | true =>
        refine (startSide_ends hout₃).mono fun r e₄ ⟨hout₄, hstart, hcases₄⟩ => ?_
        have hact₄ : ActsOn .output e e₄ := hact₃.trans hstart
        have hsame₄ : SameSide .input e e₄ := hact₄.other .input (by simp)
        refine ⟨hact₄.toKeeps, hact₄.effectOn, ?_⟩
        rcases hcases₄ with ⟨hr, _, hrun⟩ | ⟨hr, _⟩
        · -- the session counts as started, so both sides have to run
          have hinrun : e₄.state .input = .running := by
            rw [hsame₄.state]
            exact (h.started hrestart .input).resolve_right hin
          have hrunning : ∀ d, e₄.state d = .running := by
            intro d
            cases d with
            | input => exact hinrun
            | output => exact hrun
          exact Or.inl ⟨hr, h.of_actsOn hact₄ ⟨s', hout₄⟩ fun _ d => Or.inl (hrunning d),
            hact₄.channel, hsame₄, hact₄.started.trans hrestart, hrun⟩
        · refine Or.inr ⟨hr, fun d => ?_⟩
          cases d with
          | input => exact hact₄.settled (by simp) (h.settled .input)
          | output => exact Or.inr ⟨s', hout₄⟩
    · cases herr
  · rcases hcases₃ with ⟨hok, _⟩ | ⟨_, hvacant₃⟩
    · cases hok
    · have hact₃ : ActsOn .output e e₃ := hact₂.trans hopen₃
      refine ⟨hact₃.toKeeps, hact₃.effectOn, Or.inr ⟨⟨err, rfl⟩, fun d => ?_⟩⟩
      cases d with
      | input => exact hact₃.settled (by simp) (h.settled .input)
      | output => exact Or.inl hvacant₃

/-! ## Repairing -/

/-- **What a repair leaves.** The session goes on as it was: no side has failed, and the channel is
new exactly if the input was lost. -/
structure Repaired (e e' : SimulatedEngine) : Prop where
  isOpen : Open e'
  sound : ∀ d, e'.state d ≠ .error
  effectOn : e'.effectOn = e.effectOn
  started : e'.started = e.started
  fresh : e.state .input = .error → Fresh e'
  kept : e.state .input ≠ .error →
    e'.line.channel = e.line.channel ∧ SameSide .input e e'

/-- **What the end of a session leaves.** -/
structure Ended (e : SimulatedEngine) : Prop where
  isClosed : Closed e
  effectOn : e.effectOn = false

/-- What a repair looks for, in the terms of the shapes: the engine holds streams and one side has
failed. The test of the program names both directions, the theorems quantify over them. -/
theorem lost_iff : (e.holdsStreams && (decide (e.state .input = .error)
      || decide (e.state .output = .error))) = true
    ↔ e.holdsStreams = true ∧ ∃ d, e.state d = .error := by
  rw [Bool.and_eq_true, Bool.or_eq_true, decide_eq_true_eq, decide_eq_true_eq]
  refine and_congr_right fun _ => ⟨?_, ?_⟩
  · rintro (hin | hout)
    · exact ⟨.input, hin⟩
    · exact ⟨.output, hout⟩
  · rintro ⟨d, hd⟩
    cases d with
    | input => exact Or.inl hd
    | output => exact Or.inr hd

/-- Nothing is lost, or nothing is held: then a repair is no more than a look at the engine, and the
host is not asked. The test at its beginning is `lost_iff`, and it comes out false. -/
theorem repair_of_sound (h : e.holdsStreams = true → ∀ d, e.state d ≠ .error) :
    EngineM.repair e = .ok () e := by
  have hneeded : (e.holdsStreams && (decide (e.state .input = .error)
      || decide (e.state .output = .error))) = false := by
    rw [← Bool.not_eq_true, lost_iff]
    rintro ⟨hheld, d, hd⟩
    exact h hheld d hd
  unfold EngineM.repair
  rw [bind_apply, get_apply]
  simp only [hneeded, Bool.false_eq_true, if_false]
  exact pure_apply () e

/-- The replacement that a repair asks for: of both streams where the input is lost, and of the
output alone where it is not. A replacement that fails may leave one side open, which is why its
sides are only said to be `Settled`; the shutdown after it sees to the rest. -/
theorem replace_ends (h : Open e) (hn : Numbered e.host) :
    Ends (if e.state .input = .error then replaceBoth e.started else replaceOutput e.started) e
      fun r e' => Keeps e e'
        ∧ ((r = .ok () ∧ Repaired e e') ∨ ((∃ err, r = .error err) ∧ ∀ d, Settled e' d)) := by
  -- the program branches on the input alone, and the two replacements have specifications of their
  -- own
  by_cases hin : e.state .input = .error
  · rw [if_pos hin]
    refine (replaceBoth_ends h hn).mono fun r e₁ ⟨hkeep, heffect, hcases⟩ => ⟨hkeep, ?_⟩
    rcases hcases with ⟨hr, hfresh, hstarted, hstate⟩ | hfailed
    · refine Or.inl ⟨hr, hfresh.isOpen, fun d => ?_, heffect, hstarted, fun _ => hfresh,
        fun hne => absurd hin hne⟩
      rw [hstate d]
      cases e.started <;> simp
    · exact Or.inr hfailed
  · rw [if_neg hin]
    refine (replaceOutput_ends h hn hin).mono fun r e₁ ⟨hkeep, heffect, hcases⟩ => ⟨hkeep, ?_⟩
    rcases hcases with ⟨hr, hopen, hchannel, hsame, hstarted, hstate⟩ | hfailed
    · refine Or.inl ⟨hr, hopen, fun d => ?_, heffect, hstarted, fun herr => absurd herr hin,
        fun _ => ⟨hchannel, hsame⟩⟩
      cases d with
      | input =>
        rw [hsame.state]
        exact hin
      | output =>
        rw [hstate]
        cases e.started <;> simp
    · exact Or.inr hfailed

/-- **Repairing an open pair with a lost side** ends the session or carries it on. There is no third
way: whatever the host refuses, a repair that fails ends in `shutDown`. -/
theorem repair_ends (h : Open e) (hn : Numbered e.host) (hlost : ∃ d, e.state d = .error) :
    Ends EngineM.repair e fun r e' => Keeps e e'
      ∧ ((r = .ok () ∧ Repaired e e') ∨ ((∃ err, r = .error err) ∧ Ended e')) := by
  have hneeded : (e.holdsStreams && (decide (e.state .input = .error)
      || decide (e.state .output = .error))) = true := lost_iff.mpr ⟨h.holdsStreams, hlost⟩
  unfold EngineM.repair
  refine ends_get_bind ?_
  simp only [hneeded, if_true]
  refine (replace_ends h hn).attempt_bind fun r e₁ ⟨hkeep₁, hcases⟩ => ?_
  rcases hcases with ⟨rfl, hrep⟩ | ⟨⟨err, rfl⟩, hsettled⟩
  -- the replacement succeeded, and is only told of
  · refine ends_publish ⟨hkeep₁.trans (keeps_board e₁ _), Or.inl ⟨rfl, ?_⟩⟩
    refine ⟨hrep.isOpen.board _, hrep.sound, hrep.effectOn, hrep.started,
      fun hin => ⟨(hrep.fresh hin).isOpen.board _, (hrep.fresh hin).channel⟩,
      fun hin => ⟨(hrep.kept hin).1, ?_⟩⟩
    exact (hrep.kept hin).2.trans ⟨rfl, rfl, rfl, rfl⟩
  -- the replacement failed half way: the rest is shut down, and the effect goes off
  · refine (shutDown_ends hsettled).attempt_bind fun _ e₂ ⟨hclosed₂, hkeep₂, _⟩ => ?_
    refine ends_modify_bind (ends_publish_bind (ends_fail ⟨?_, Or.inr ⟨⟨err, rfl⟩, ?_, rfl⟩⟩))
    · exact ((hkeep₁.trans hkeep₂).trans (keeps_effectOn e₂ false)).trans (keeps_board _ _)
    · exact (hclosed₂.effectOn false).board _

/-! ## Ending a session over a fault -/

/-- Telling of faults only publishes, one notice for each of them, so that the programs that follow
start from the same engine with another board. -/
theorem publishFaults_apply {H : Type} [StreamHost Handler Line H] (batch : List Event)
    (e : Engine H) :
    ∃ board, publishFaults batch e = .ok () { e with board } := by
  induction batch generalizing e with
  | nil => exact ⟨e.board, rfl⟩
  | cons event rest ih =>
    cases event with
    | disconnected _ _ => exact ih e
    | fault d expected actual =>
      obtain ⟨board, hboard⟩ := ih _
      exact ⟨board, hboard⟩

/-- An engine that is closed by the time it hears of a fault has no session to end, and stays as it
is. -/
theorem endSession_of_closed (h : Closed e) : endSession e = .ok () e := by
  unfold endSession
  rw [bind_apply, get_apply]
  simp only [h.holdsStreams, Bool.false_eq_true, if_false]
  exact pure_apply () e

/-- **The end of a session** whose callback has faulted. It cannot fail as a program: what the host
refuses while the streams are stopped and closed is attempted, and dropped. -/
theorem endSession_ends (h : Open e) :
    Ends endSession e fun r e' => r = .ok () ∧ Keeps e e' ∧ Ended e' := by
  unfold endSession
  refine ends_get_bind ?_
  simp only [h.holdsStreams, if_true]
  refine (stop_ends h.settled).attempt_bind fun _ e₁ hhalt => ?_
  refine (bringDown_ends fun d => hhalt.settled (h.settled d)).attempt_bind
    fun _ e₂ ⟨hclosed, hkeep, _⟩ => ?_
  exact ends_modify ⟨rfl, (hhalt.toKeeps.trans hkeep).trans (keeps_effectOn e₂ false),
    hclosed.effectOn false, rfl⟩

/-! ## Attending to a batch of events -/

/-- A batch with a fault ends the session, and nothing else of it counts: a loss in the same batch
is not repaired, for the pair is going to be closed. -/
theorem attend_of_fault {batch : List Event} (h : batch.any Event.isFault = true) :
    ∃ board, attend batch e = endSession { e with board } := by
  obtain ⟨board, hboard⟩ := publishFaults_apply batch e
  refine ⟨board, ?_⟩
  unfold attend
  rw [bind_apply, hboard]
  simp only [h, if_true]

/-- A batch without a fault has the engine repaired if it tells of a loss. One repair serves any
number of losses, and an error of it is not passed on. -/
theorem attend_of_no_fault {batch : List Event} (h : batch.any Event.isFault = false) :
    ∃ board, attend batch e = (if batch.any Event.isDisconnect then
      attempt EngineM.repair >>= fun _ => pure () else pure ()) { e with board } := by
  obtain ⟨board, hboard⟩ := publishFaults_apply batch e
  refine ⟨board, ?_⟩
  unfold attend
  rw [bind_apply, hboard]
  simp only [h, Bool.false_eq_true, if_false]

/-- **Nothing to attend to.** Without a fault, and without a loss that a side shows, a batch is only
told of. A loss that no side shows is one that has been repaired already, by an earlier batch. -/
theorem attend_of_sound {batch : List Event} (hfault : batch.any Event.isFault = false)
    (h : batch.any Event.isDisconnect = true → e.holdsStreams = true → ∀ d, e.state d ≠ .error) :
    ∃ board, attend batch e = .ok () { e with board } := by
  obtain ⟨board, hattend⟩ := attend_of_no_fault (e := e) hfault
  refine ⟨board, hattend.trans ?_⟩
  cases hloss : batch.any Event.isDisconnect with
  | false => exact pure_apply () _
  | true =>
    simp only [if_true]
    rw [bind_apply, attempt_apply, repair_of_sound (e := { e with board }) (h hloss)]
    exact pure_apply () _

/-- A closed engine has nothing that could fail, so that attending to any batch comes to notices at
most, whatever the batch tells of. A fault would end the session, and there is none
(`endSession_of_closed`). -/
theorem attend_of_closed (batch : List Event) (h : Closed e) :
    ∃ board, attend batch e = .ok () { e with board } := by
  cases hfault : batch.any Event.isFault with
  | false =>
    refine attend_of_sound hfault fun _ hheld => ?_
    rw [h.holdsStreams] at hheld
    cases hheld
  | true =>
    obtain ⟨board, hattend⟩ := attend_of_fault (e := e) hfault
    exact ⟨board, hattend.trans (endSession_of_closed (h.board board))⟩

/-- A fault ends the session, whether a stream has been lost with it or not, and attending to it is
a success all the same. -/
theorem attend_fault_ends {batch : List Event} (h : Open e)
    (hfault : batch.any Event.isFault = true) :
    Ends (attend batch) e fun r e' => r = .ok () ∧ Keeps e e' ∧ Ended e' := by
  obtain ⟨board, hattend⟩ := attend_of_fault (e := e) hfault
  refine Ends.of_eq ?_ hattend
  exact (endSession_ends (h.board board)).mono fun _ _ ⟨hr, hkeep, hended⟩ =>
    ⟨hr, (keeps_board e board).trans hkeep, hended⟩

/-- Notices do not count for a repair: the board is not part of `Repaired`, so a notice that was
published before it makes no difference to what is said of it. -/
theorem Repaired.of_board {board : NoticeBoard} (h : Repaired { e with board } e') :
    Repaired e e' := by
  have hsame : SameSide .input e { e with board } := ⟨rfl, rfl, rfl, rfl⟩
  exact ⟨h.isOpen, h.sound, h.effectOn, h.started, h.fresh,
    fun hin => ⟨(h.kept hin).1, hsame.trans (h.kept hin).2⟩⟩

/-- A lost side is repaired, or the session ends; attending succeeds in both cases, because the
error of a repair has been told as a notice by then. -/
theorem attend_loss_ends {batch : List Event} (h : Open e) (hn : Numbered e.host)
    (hfault : batch.any Event.isFault = false) (hloss : batch.any Event.isDisconnect = true)
    (hlost : ∃ d, e.state d = .error) :
    Ends (attend batch) e fun r e' => r = .ok () ∧ Keeps e e' ∧ (Repaired e e' ∨ Ended e') := by
  obtain ⟨board, hattend⟩ := attend_of_no_fault (e := e) hfault
  rw [hloss, if_pos rfl] at hattend
  refine Ends.of_eq ?_ hattend
  refine (repair_ends (h.board board) hn hlost).attempt_bind fun _ e₁ ⟨hkeep, hcases⟩ => ?_
  refine ends_pure ⟨rfl, (keeps_board e board).trans hkeep, ?_⟩
  rcases hcases with ⟨_, hrep⟩ | ⟨_, hended⟩
  · exact Or.inl hrep.of_board
  · exact Or.inr hended

end Engine

end Passthrough
