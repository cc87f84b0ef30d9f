import Passthrough.Proofs.Engine.AudioPath
import Passthrough.Proofs.Engine.DeviceChange
import Passthrough.Proofs.Engine.Issued
import Passthrough.Proofs.Engine.Playback
/-!
# An output that is replaced

A lost output is replaced alone, as long as the input has not failed as well. The host is asked to
do nothing to the input, whose stream goes on as it was, and the channel between the two stays: the
same period with the same numbers and counts.

Whoever listens can therefore not tell. The new output gets the period that was captured last, and
it counts as fresh, repeated or silent as it would have for the output that is gone. From then on
the engine plays as the same path (`AudioPath`) as any engine does that has this channel and these
states.

* **`replaceOutput_issues`**, **`repair_issues`** — what the host is asked for.
* **`after_startsAndStops`** — starting and stopping leave the channel alone.
* **`output_replaced_alone`** — the repair of a lost output, after any run.
-/

namespace Passthrough

open EngineM SimulatedHost

namespace Engine

variable {e e' : SimulatedEngine} {d : Direction} {s : StreamHandle}

/-! ## What is asked for -/

/-- **What replacing a lost output takes.** It is not asked to stop, for it has failed. -/
def callsToReplaceOutput (e : SimulatedEngine) : List CallRecord :=
  [⟨.output, .close⟩, ⟨.output, .openStream⟩] ++ if e.started then [⟨.output, .start⟩] else []

/-- Every call that replacing the output takes concerns the output, so nothing is asked of the
input. -/
theorem callsToReplaceOutput_direction (e : SimulatedEngine) :
    ∀ call ∈ e.callsToReplaceOutput, call.direction = .output := by
  unfold callsToReplaceOutput
  cases e.started <;> simp

/-- **Replacing the output** that has failed: the stop that comes first finds nothing that runs, and
so the calls are a close, an opening and, in a started session, a start. -/
theorem replaceOutput_issues (h : Open e) (hn : Numbered e.host) (hout : e.state .output = .error) :
    Ends (replaceOutput e.started) e fun r e' =>
      r = .ok () → Issues e.callsToReplaceOutput e e' := by
  obtain ⟨sᵢ, hin⟩ := h.occupied .input
  obtain ⟨sₒ, hlost⟩ := h.occupied .output
  have hfailed : e.state .output ≠ .running := by
    rw [hout]
    simp
  unfold replaceOutput
  refine ends_get_bind ?_
  simp only [hin.infoOf]
  -- the stop that comes first finds nothing that runs
  have hidle : Ends (stopSide .output) e fun _ e₁ => e₁ = e :=
    ends_of_ok (stopSide_of_not_running hfailed) rfl
  refine hidle.attempt_bind fun _ e₁ hsame => ?_
  subst hsame
  refine ((closeSide_ends hlost).and (closeSide_issues hlost)).attempt_bind
    fun _ e₂ ⟨⟨_, hvacant, hact₂⟩, hclosed⟩ => ?_
  rw [hin.rate_of_actsOn hact₂]
  have hchannel := h.channel_isSome hact₂
  refine ((openSide_ends hvacant hchannel (hn.of_follows hact₂.host)).and
    (openSide_issues hvacant hchannel _)).bind (fun _ e₃ ⟨⟨_, hcases⟩, hasked⟩ => ?_)
    fun err e₃ _ hr => by cases hr
  -- what is opened fits, for otherwise the program would have ended here
  -- an opening that succeeds has not been followed by a close
  have hopened : Issues [⟨.output, .openStream⟩] e₂ e₃ := by
    rcases hasked with hopened | ⟨⟨_, herr⟩, _⟩
    · exact hopened
    · cases herr
  unfold callsToReplaceOutput
  cases e₁.started with
  | false => exact ends_pure fun _ => hclosed.trans hopened
  | true =>
    rcases hcases with ⟨_, ⟨s, hocc⟩, hstate⟩ | ⟨⟨_, herr⟩, _⟩
    · refine (startSide_issues hocc).mono fun r e₄ hstarted _ => ?_
      unfold callsToStart at hstarted
      rw [if_pos hstate] at hstarted
      exact (Issues.trans hclosed hopened).trans hstarted
    · cases herr

/-- **A repair of the output alone** asks for its replacement and for nothing else, if it succeeds;
one that fails asks for a shutdown as well. Which replacement is made is decided by the state of the
input, and `replaceOutput_issues` says what it asks for. -/
theorem repair_issues (h : Open e) (hn : Numbered e.host) (hout : e.state .output = .error)
    (hin : e.state .input ≠ .error) :
    Ends EngineM.repair e fun r e' => r = .ok () → Issues e.callsToReplaceOutput e e' := by
  have hneeded := lost_iff.mpr ⟨h.holdsStreams, ⟨.output, hout⟩⟩
  have hreplace : Ends (if e.state .input = .error then replaceBoth e.started
      else replaceOutput e.started) e fun r e' =>
        r = .ok () → Issues e.callsToReplaceOutput e e' := by
    rw [if_neg hin]
    exact replaceOutput_issues h hn hout
  unfold EngineM.repair
  refine ends_get_bind ?_
  simp only [hneeded, if_true]
  refine ((replace_ends h hn).and hreplace).attempt_bind fun r e₁ ⟨⟨_, hcases⟩, hissues⟩ => ?_
  cases r with
  | ok _ => exact ends_publish fun _ => hissues rfl
  | error err =>
    -- a repair that fails shuts down and answers an error, so that nothing is left to show
    have hsettled : ∀ d, Settled e₁ d := by
      rcases hcases with ⟨hok, _⟩ | ⟨_, hsettled⟩
      · cases hok
      · exact hsettled
    refine (shutDown_ends hsettled).attempt_bind fun _ e₂ _ => ?_
    exact ends_modify_bind (ends_publish_bind (ends_fail fun hok => by cases hok))

/-! ## What is left alone -/

/-- **An output replaced alone.** The input and the channel are as they were, and the output stands
as it did before it was lost. -/
structure OutputReplaced (e e' : SimulatedEngine) : Prop where
  calls : Issues e.callsToReplaceOutput e e'
  /-- The input has its state, its handle and its stream on the host, which runs if it ran. -/
  input : SameSide .input e e'
  properties : e'.infoOf .input = e.infoOf .input
  channel : e'.line.channel = e.line.channel
  /-- No other channel has been made, and the new output is set up over the one from before. -/
  channelId : e'.line.channelId = e.line.channelId
  shared : SharesChannel e'
  started : e'.started = e.started
  output : e'.state .output = if e.started then .running else .opened

/-- What a repair of the output leaves, put together from what it asks for, what it keeps
(`Repaired.kept`) and where it leaves the new output. Three statements about one run of the repair
are joined with `Ends.and`, and the answer tells which of their cases has come about. -/
theorem outputReplaced_of_repair (h : Sound e) (hout : e.state .output = .error)
    (hin : e.state .input ≠ .error) (hok : e.repair.1 = .ok ()) :
    OutputReplaced e e.repair.2 ∧ Open e.repair.2 := by
  have ho : Open e := h.isOpen_of_ne_closed (d := .output) (by simp [hout])
  obtain ⟨r, hreply, ⟨⟨_, hcases⟩, _, hstate⟩, hissues⟩ :=
    (((repair_ends ho h.numbered ⟨.output, hout⟩).and
      (repair_tells ho h.numbered ⟨.output, hout⟩)).and
      (repair_issues ho h.numbered hout hin)).run h.poisoned
  have hr : r = .ok () := by
    have hreply' : e.repair.1 = r.mapError .error := hreply
    rw [hok] at hreply'
    cases r with
    | ok _ => rfl
    | error err => cases hreply'
  rcases hcases with ⟨_, hrep⟩ | ⟨⟨err, herr⟩, _⟩
  · -- the input is kept with its handle, and its properties are those of the handle
    obtain ⟨hchannel, hsame⟩ := hrep.kept hin
    refine ⟨⟨hissues hr, hsame, ?_, hchannel, hsame.channelId, hrep.isOpen.sharesChannel,
      hrep.started, hstate hr .output (Or.inl rfl)⟩, hrep.isOpen⟩
    obtain ⟨s, hs⟩ := ho.occupied .input
    obtain ⟨s', hs'⟩ := hrep.isOpen.occupied .input
    have hhandle : some s' = some s := (hs'.handle.symm.trans hsame.handle).trans hs.handle
    exact hs'.infoOf.trans ((congrArg (Option.map StreamHandle.properties) hhandle).trans
      hs.infoOf.symm)
  · rw [hr] at herr
    cases herr

/-! ## Starting and stopping

An output that is replaced in a stopped session plays only once the session is started again. The
channel comes through any number of starts and stops. -/

/-- Starting or stopping an open pair leaves it open over the channel that it has, whether it
succeeds or not. A start may fail half way and leave the input running; that is still an open
pair. -/
theorem startOrStop_keeps (h : Sound e) (ho : Open e) {c : Call} (hc : c = .start ∨ c = .stop) :
    Sound (e.call c) ∧ Open (e.call c) ∧ (e.call c).line.channel = e.line.channel := by
  refine ⟨(call_leaves h c).sound h, ?_⟩
  rcases hc with rfl | rfl
  · obtain ⟨_, _, _, _, hopen, hchannel, _⟩ := (start_ends ho).run h.poisoned
    exact ⟨hopen, hchannel⟩
  · obtain ⟨_, _, hhalt⟩ := (stop_ends h.settled).run h.poisoned
    exact ⟨hhalt.open ho, hhalt.channel⟩

/-- **Starts and stops**, any number of them, leave an open pair open over the channel it has. The
induction is on the calls, over `startOrStop_keeps`; what it is for is to bring two engines into the
same states. -/
theorem after_startsAndStops (h : Sound e) (ho : Open e) {cs : List Call}
    (hcs : ∀ c ∈ cs, c = .start ∨ c = .stop) :
    Sound (e.after (cs.map .call)) ∧ Open (e.after (cs.map .call))
      ∧ (e.after (cs.map .call)).line.channel = e.line.channel := by
  induction cs generalizing e with
  | nil => exact ⟨h, ho, rfl⟩
  | cons c cs ih =>
    obtain ⟨hsound, hopen, hchannel⟩ := startOrStop_keeps h ho (hcs c (by simp))
    obtain ⟨hsound', hopen', hchannel'⟩ := ih hsound hopen fun c' hc' => hcs c' (by simp [hc'])
    exact ⟨hsound', hopen', hchannel'.trans hchannel⟩

/-! ## Who listens cannot tell -/

/-- **A running output plays what the channel holds**, and the channel counts that as its next
answer. Which answer it is, fresh or repeated, is `nextFreshness` and does not depend on the
length. -/
theorem draw_of_running_output (h : Open e) (hrun : e.state .output = .running) {c : Channel}
    (hc : e.line.channel = some c) {dest : List Int16} (hdest : dest.length = c.length) :
    ∃ c', c.consume dest.length = .ok (c.nextFreshness, c.samples, c')
      ∧ (e.draw dest).1 = some .proceed ∧ (e.draw dest).2.1 = c.samples
      ∧ (e.draw dest).2.2.line.channel = some c' := by
  obtain ⟨c₀, hc₀, hlen⟩ := h.channel
  rw [hc] at hc₀
  rw [← Option.some.inj hc₀] at hlen
  obtain ⟨c', hconsume, _⟩ := Channel.consume_of_length hdest
  obtain ⟨x, _, hdraw⟩ := draw_of_consume h hrun (hdest.trans hlen) hc hconsume
  refine ⟨c', hconsume, ?_⟩
  rw [hdraw]
  exact ⟨rfl, rfl, Line.channel_notify _ _ _ _⟩

/-- Two sound engines with the same channel and the same states, none of them failed, make the same
of every buffer. Both of them play as the same path then (`playsAs_of_sound`), and `exchanges_alike`
does the rest. -/
theorem exchanges_of_states {g : SimulatedEngine} (h : Open e) (hg : Sound g) {c : Channel}
    (hc : e.line.channel = some c) (hgc : g.line.channel = some c)
    (hstates : ∀ d, g.state d = e.state d) (hsound : ∀ d, e.state d ≠ .error)
    (bs : List DeviceBuffer) :
    (e.exchanges bs).1 = (g.exchanges bs).1
      ∧ (e.exchanges bs).2.line.channel = (g.exchanges bs).2.line.channel := by
  -- an occupied side is never closed, and a sound engine with one such side is open
  have hgo : Open g := by
    obtain ⟨s, hs⟩ := h.occupied .output
    refine hg.isOpen_of_ne_closed (d := .output) fun hclosed => ?_
    have hstate := hs.state
    rw [← hstates, hclosed] at hstate
    simp at hstate
  have hlines : g.line.states = e.line.states := by
    have hin : g.line.states.input = e.line.states.input := hstates .input
    have hout : g.line.states.output = e.line.states.output := hstates .output
    cases hgs : g.line.states
    cases hes : e.line.states
    simp_all
  have hgp := playsAs_of_sound hgo hgc fun d => by
    rw [hstates]
    exact hsound d
  rw [hlines] at hgp
  exact exchanges_alike hgp (playsAs_of_sound h hc hsound) bs

/-! ## Every run -/

/-- **The repair of a lost output**, after any run that leaves the output failed and the input not.
Where it succeeds, every call that it has made concerns the output; the input has its state, its
stream and its properties as before; and the channel is the one from before, with what it holds and
what it has counted: the callbacks of the new output are set up over it, as those of the input are.

So it is however often the pair is started and stopped afterwards. Whenever the output runs, it
plays the period that was captured last, and the channel counts that as it would have counted it
next in any case. And if no side has failed, the engine makes of any buffers, captured or wanted,
what any other sound engine makes of them that has this channel and these states, such as one whose
output was never lost. -/
theorem output_replaced_alone (config : Config) (recovery : Recovery) (noticeCapacity : Nat)
    (as : List Action) :
    let new : SimulatedEngine := create {} config recovery noticeCapacity
    let e := new.after as
    e.state .output = .error → e.state .input ≠ .error → e.repair.1 = .ok () →
    OutputReplaced e e.repair.2
      ∧ (∀ call ∈ e.callsToReplaceOutput, call.direction = .output)
      ∧ ∃ c, e.line.channel = some c
        ∧ c.samples = latestAfter (Handler.silence config.period.samples) new as
        ∧ ∀ cs : List Call, (∀ c ∈ cs, c = .start ∨ c = .stop) →
          let x := e.repair.2.after (cs.map .call)
          x.line.channel = some c
            ∧ (x.state .output = .running → ∀ dest : List Int16, dest.length = c.length →
                ∃ c', c.consume dest.length = .ok (c.nextFreshness, c.samples, c')
                  ∧ (x.draw dest).1 = some .proceed ∧ (x.draw dest).2.1 = c.samples
                  ∧ (x.draw dest).2.2.line.channel = some c')
            ∧ ∀ g : SimulatedEngine, Sound g → g.line.channel = some c →
                (∀ d, g.state d = x.state d) → (∀ d, x.state d ≠ .error) →
                ∀ bs : List DeviceBuffer,
                  (x.exchanges bs).1 = (g.exchanges bs).1
                    ∧ (x.exchanges bs).2.line.channel = (g.exchanges bs).2.line.channel := by
  intro new e hout hin hok
  have hnew : Sound new := sound_create config recovery noticeCapacity
  have h : Sound e := (after_sound hnew as).1
  have ho : Open e := h.isOpen_of_ne_closed (d := .output) (by simp [hout])
  obtain ⟨hreplaced, hopen⟩ := outputReplaced_of_repair h hout hin hok
  have hsound : Sound e.repair.2 := (call_leaves h .repair).sound h
  obtain ⟨c, hc, _⟩ := ho.channel
  -- along the run the channel holds what was captured last
  have hholds : Holds (latestAfter (Handler.silence config.period.samples) new as) e := by
    refine after_holds hnew ?_ as
    intro c hc
    cases hc
  refine ⟨hreplaced, callsToReplaceOutput_direction e, c, hc, hholds c hc, fun cs hcs => ?_⟩
  -- starts and stops leave the channel alone
  obtain ⟨_, hxo, hchannel⟩ := after_startsAndStops hsound hopen hcs
  have hxc := hchannel.trans (hreplaced.channel.trans hc)
  exact ⟨hxc, fun hrun dest hdest => draw_of_running_output hxo hrun hxc hdest,
    fun g hg hgc hstates hne bs => exchanges_of_states hxo hg hxc hgc hstates hne bs⟩

/-- A session in which one period has been played and another one waits to be. -/
def unreadPeriod : List Action :=
  [.call (.switch true), .feed (List.replicate 8 3), .draw (List.replicate 8 0),
    .feed (List.replicate 8 5)]

/-- The output is lost and replaced. The period that waits is played, and from then on this session
and one that went on without the loss are alike. -/
theorem output_replaced_alone_unreadPeriod :
    let new : SimulatedEngine := create {} { sampleRate := 8000, periodMs := 1 }
    let e := new.after (unreadPeriod ++ [.unplug .output .disconnected])
    OutputReplaced e e.repair.2
      ∧ (e.repair.2.draw (List.replicate 8 0)).2.1 = List.replicate 8 5
      ∧ ∀ bs, (e.repair.2.exchanges bs).1 = ((new.after unreadPeriod).exchanges bs).1 := by
  obtain ⟨hreplaced, _, c, hc, hlatest, hgoes⟩ :=
    output_replaced_alone { sampleRate := 8000, periodMs := 1 } .manual 64
      (unreadPeriod ++ [.unplug .output .disconnected]) rfl nofun rfl
  obtain ⟨_, hplays, halike⟩ := hgoes [] nofun
  refine ⟨hreplaced, ?_, fun bs => ?_⟩
  · have hperiod : c.samples = List.replicate 8 5 := hlatest
    have hlen : (List.replicate 8 (0 : Int16)).length = c.length :=
      (congrArg List.length hperiod).symm
    obtain ⟨_, _, _, hplayed, _⟩ := hplays rfl (List.replicate 8 0) hlen
    exact hplayed.trans hperiod
  · -- the session without the loss is sound, and has the same channel and the same states
    refine (halike _ (after_sound (sound_create _ _ _) unreadPeriod).1 ?_ ?_ ?_ bs).1
    · exact hc
    · intro d
      cases d <;> rfl
    · intro d
      cases d <;> exact nofun

end Engine

end Passthrough
