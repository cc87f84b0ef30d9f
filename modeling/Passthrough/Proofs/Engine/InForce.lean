import Mathlib.Data.List.Induction
import Passthrough.Proofs.Engine.Switching
/-!
# The layout in force

The period of a pair is taken from the configuration three times: when the channel is made, when a
stream is checked, and when its callbacks are set up. The output can be opened again much later than
the channel was made, by a recovery, and the configuration is read again then. It all agrees because
no call changes what an open pair was opened with.

* **`perform_agrees`** — a step that leaves the pair open leaves the terms of its opening in force.
* **`after_openSince`** — so they are in force since the pair was opened, in any run.
* **`OneLayout`** — channel, handles and callbacks of an open pair have the period in force.
* **`feed_running`**, **`draw_running`** — a running side faults over the length of a buffer, and
  over nothing else.
-/

namespace Passthrough

open EngineM SimulatedHost

/-- The terms on which streams are opened are the same in two configurations. -/
structure Config.Agrees (c c' : Config) : Prop where
  sampleRate : c'.sampleRate = c.sampleRate
  channelCount : c'.channelCount = c.channelCount
  periodMs : c'.periodMs = c.periodMs
  audioApi : c'.audioApi = c.audioApi

namespace Config

variable {c c' c'' : Config}

theorem Agrees.refl (c : Config) : c.Agrees c := ⟨rfl, rfl, rfl, rfl⟩

/-- Configurations that are the same agree. Most steps leave the configuration alone, so that this
is how they leave the terms in force. -/
theorem Agrees.of_eq (h : c' = c) : c.Agrees c' := h ▸ .refl c

theorem Agrees.trans (h : c.Agrees c') (h' : c'.Agrees c'') : c.Agrees c'' where
  sampleRate := h'.sampleRate.trans h.sampleRate
  channelCount := h'.channelCount.trans h.channelCount
  periodMs := h'.periodMs.trans h.periodMs
  audioApi := h'.audioApi.trans h.audioApi

end Config

namespace Engine

variable {e e' : SimulatedEngine} {d : Direction} {s : StreamHandle}

/-! ## The configuration along a run -/

/-- Devices are not part of the terms, and nothing else changes while streams are held: the other
calls that configure are refused then. -/
theorem configures_agrees {c : Call} (hc : c.configures = true)
    (hheld : (e.call c).holdsStreams = true) : e.config.Agrees (e.call c).config := by
  obtain ⟨config, observer, heq, hdevices⟩ := e.call_of_configures hc
  rw [heq] at hheld ⊢
  obtain ⟨_, _, rfl⟩ := hdevices hheld
  exact ⟨rfl, rfl, rfl, rfl⟩

theorem bringUp_keeps (h : Sound e) : Ends EngineM.bringUp e fun _ e' => Keeps e e' := by
  rcases h.shape with hc | ho
  · exact (bringUp_closed_ends hc h.numbered).mono fun _ _ ⟨hkeep, _⟩ => hkeep
  · exact ends_of_error (bringUp_of_open ho) (.refl e)

theorem start_keeps (h : Sound e) : Ends EngineM.start e fun _ e' => Keeps e e' := by
  rcases h.shape with hc | ho
  · exact ends_of_error (start_of_closed hc) (.refl e)
  · exact (start_ends ho).mono fun _ _ ⟨hkeep, _⟩ => hkeep

/-- Switching the effect changes no setting, in any of its cases. A pair that is open with the
effect off is refused before anything happens (`switch_on_of_open`). -/
theorem switch_keeps (h : Sound e) (on : Bool) :
    Ends (EngineM.switch on) e fun _ e' => Keeps e e' := by
  by_cases hsame : e.effectOn = on
  · exact ends_of_ok (switch_of_eq hsame) (.refl e)
  · cases on with
    | true =>
      have hoff : e.effectOn = false := by simpa using hsame
      rcases h.shape with hc | ho
      · exact (switch_on_ends hoff hc h.numbered).mono fun _ _ ⟨hkeep, _⟩ => hkeep
      · exact ends_of_error (switch_on_of_open hoff ho) (.refl e)
    | false =>
      have hon : e.effectOn = true := by simpa using hsame
      exact (switch_off_ends hon h.settled).mono fun _ _ ⟨_, hkeep, _⟩ => hkeep

/-- A repair changes no setting, so that what it opens again is opened as the configuration says
now. -/
theorem repair_config (h : Sound e) :
    Ends EngineM.repair e fun _ e' => e'.config = e.config := by
  refine (repair_recovers h).mono fun _ e' hcases => ?_
  rcases hcases with rfl | hrecovers
  · rfl
  · exact hrecovers.keeps.config

/-- Attending to a batch of events changes no setting, whatever it comes to. It comes to notices, or
to a recovery, which `Keeps` the configuration that it opens streams with. -/
theorem attend_taken_config (h : Sound e) (batch : List Event) :
    ∃ e', e.taken.runAnyway (attend batch) = (.ok (), e') ∧ e'.config = e.config := by
  obtain ⟨r, hreply, hr, hcases⟩ := (attend_recovers h.taken batch).runAnyway
  rw [hr] at hreply
  refine ⟨(e.taken.runAnyway (attend batch)).2, Prod.ext hreply rfl, ?_⟩
  rcases hcases with ⟨board, heq⟩ | hrecovers
  · rw [heq]
    rfl
  · exact hrecovers.keeps.config

/-- **The other calls** leave the configuration as it is. With `configures_agrees` this covers every
call. Each call is looked up in the lemma that says how it ends, and of that only the configuration
is used. -/
theorem call_config (h : Sound e) {c : Call} (hc : c.configures = false) :
    (e.call c).config = e.config := by
  cases c with
  | configure | selectApi | selectDevice | selectObserver => cases hc
  | bringUp =>
    obtain ⟨_, _, hkeep⟩ := (bringUp_keeps h).run h.poisoned
    exact hkeep.config
  | start =>
    obtain ⟨_, _, hkeep⟩ := (start_keeps h).run h.poisoned
    exact hkeep.config
  | stop =>
    obtain ⟨_, _, hhalt⟩ := (stop_ends h.settled).run h.poisoned
    exact hhalt.config
  | bringDown =>
    obtain ⟨_, _, _, hkeep, _⟩ := (bringDown_ends h.settled).run h.poisoned
    exact hkeep.config
  | switch on =>
    obtain ⟨_, _, hkeep⟩ := (switch_keeps h on).run h.poisoned
    exact hkeep.config
  | trySwitch on =>
    obtain ⟨_, _, hkeep⟩ := (switch_keeps h on).run h.poisoned
    rw [call_trySwitch h on]
    exact hkeep.config
  | repair =>
    obtain ⟨_, _, hconfig⟩ := (repair_config h).run h.poisoned
    exact hconfig
  -- attending may repair, and a repair keeps the configuration too
  | attendPending =>
    exact attendPending_cases (P := fun e' => e'.config = e.config) rfl rfl
      (attend_taken_config h _)
  | runWorker =>
    exact runWorker_cases (P := fun e' => e'.config = e.config) rfl rfl
      (attend_taken_config h _)

/-- **A call that leaves streams open** leaves the terms of their opening as they are. The
hypothesis is about the engine after the call: what is open then was open before, or has just been
opened. -/
theorem call_agrees (h : Sound e) (c : Call) (hheld : (e.call c).holdsStreams = true) :
    e.config.Agrees (e.call c).config := by
  cases hc : c.configures with
  | false => exact .of_eq (call_config h hc)
  | true => exact configures_agrees hc hheld

theorem Endures.config (h : Endures e e') : e'.config = e.config := by
  rcases h with rfl | ⟨d, _, hdisturbs, _⟩
  · rfl
  · exact hdisturbs.config

/-- **One step** that leaves the pair open leaves the terms of its opening in force. The hypothesis
is about the engine after the step, for a step that closes the pair may change any term. -/
theorem perform_agrees (h : Sound e) (a : Action) (hheld : (e.perform a).holdsStreams = true) :
    e.config.Agrees (e.perform a).config := by
  cases a with
  | call c => exact call_agrees h c hheld
  | script s => exact .refl _
  | collect => exact .refl _
  | feed frames => exact .of_eq (feed_endures h frames).config
  | draw dest => exact .of_eq (draw_endures h dest).config
  | unplug d error => exact .of_eq (unplug_endures h d error).config

/-- **Since when the pair is open.** It was closed before the step, and has been open after it and
after every step since. -/
structure OpenSince (new : SimulatedEngine) (before : List Action) (a : Action)
    (later : List Action) : Prop where
  closed : (new.after before).holdsStreams = false
  held : ∀ mid, mid <+: later → (new.after (before ++ a :: mid)).holdsStreams = true

/-- The pair has been opened by some step, and what was in force before that step has been in force
ever since. The induction is from the end of the run: the last step has opened the pair, or it was
open before, and then `perform_agrees` carries the terms over. -/
theorem after_openSince {new : SimulatedEngine} (hnew : Sound new)
    (hclosed : new.holdsStreams = false) (as : List Action)
    (hheld : (new.after as).holdsStreams = true) :
    ∃ before a later, as = before ++ a :: later ∧ OpenSince new before a later
      ∧ ∀ mid, mid <+: later →
          (new.after before).config.Agrees (new.after (before ++ a :: mid)).config := by
  induction as using List.reverseRecOn with
  | nil =>
    have hempty : new.after [] = new := rfl
    rw [hempty, hclosed] at hheld
    cases hheld
  | append_singleton as a ih =>
    have hlast : new.after (as ++ [a]) = (new.after as).perform a := after_append new as [a]
    have hsound : Sound (new.after as) := (after_sound hnew as).1
    have hagrees := perform_agrees hsound a (hlast ▸ hheld)
    rw [← hlast] at hagrees
    cases hwas : (new.after as).holdsStreams with
    -- the last step has opened the pair
    | false =>
      have honly : ∀ mid : List Action, mid <+: [] → mid = [] := fun _ => List.prefix_nil.mp
      refine ⟨as, a, [], rfl, ⟨hwas, fun mid hmid => ?_⟩, fun mid hmid => ?_⟩
      · rw [honly mid hmid]
        exact hheld
      · rw [honly mid hmid]
        exact hagrees
    -- the pair was open before the last step, and is still
    | true =>
      obtain ⟨before, b, later, rfl, hsince, hforce⟩ := ih hwas
      have hsplit : before ++ b :: later ++ [a] = before ++ b :: (later ++ [a]) := by simp
      rw [hsplit] at hheld hagrees
      refine ⟨before, b, later ++ [a], hsplit, ⟨hsince.closed, fun mid hmid => ?_⟩,
        fun mid hmid => ?_⟩
      · rcases List.prefix_concat_iff.mp hmid with rfl | hmid
        · exact hheld
        · exact hsince.held mid hmid
      · rcases List.prefix_concat_iff.mp hmid with rfl | hmid
        · exact (hforce later (List.prefix_refl _)).trans hagrees
        · exact hforce mid hmid

/-! ## One layout -/

/-- **Channel, handles and callbacks** of an open pair have one layout, that of the
configuration, and the callbacks of both sides were set up over that one channel. -/
structure OneLayout (e : SimulatedEngine) : Prop where
  channel : ∃ c, e.line.channel = some c ∧ c.length = e.config.period.samples
  held : ∀ d, ∃ s, e.streams.get d = some s ∧ e.config.period.Admits s.properties
  live : ∀ d, ∀ x ∈ e.host.live d, x.callback.direction = d
    ∧ x.callback.period = e.config.period ∧ e.config.period.Admits x.properties
  shared : SharesChannel e

/-- An open engine has one layout, because the shapes of its sides say so of handles and streams,
and `Open.channel` and `Open.sharesChannel` of the channel. -/
theorem Open.oneLayout (h : Open e) : OneLayout e where
  channel := h.channel
  held d := by
    obtain ⟨s, hs⟩ := h.occupied d
    exact ⟨s, hs.handle, hs.admitted⟩
  live d x hx := by
    obtain ⟨s, hs, hb⟩ := h.backs hx
    exact ⟨hb.handler, hb.period, hb.properties ▸ hs.admitted⟩
  shared := h.sharesChannel

/-! ## Callbacks on a running side -/

/-- A callback that faulted: its side has failed, and the engine is told of the bytes. -/
structure Faults (d : Direction) (actualBytes : Nat) (e e' : SimulatedEngine) : Prop where
  state : e'.state d = .error
  told : e'.line.link.pending
    = e.line.link.pending ++ [.fault d e.config.period.bytes actualBytes]

/-- A callback that did not: the states of both sides stay, and there is nothing to tell. -/
structure Passes (e e' : SimulatedEngine) : Prop where
  states : e'.line.states = e.line.states
  untold : e'.line.link = e.line.link

/-- **A fault of a callback** on an open pair, which hears of it: the side has failed, and an event
with the bytes of a period and those that came waits behind the others. -/
theorem Open.faults (h : Open e) (hsound : Sound e)
    {x : SimulatedStream Handler} (hb : Backs e d s x) (hrun : e.state d = .running)
    (host : SimulatedHost Handler) (actualBytes : Nat) :
    Faults d actualBytes e { e with host, line := x.callback.fault actualBytes e.line } := by
  have hline : e.line.state x.callback.direction = .running := by
    rw [hb.handler]
    exact hrun
  rw [Handler.fault_eq (Or.inr (Or.inl hline)), hb.handler, hb.period]
  exact ⟨Duplex.get_set _ _ _, Link.pending_report (h.accepts hsound) _⟩

/-- **Capturing on a running input.** A buffer of one period passes, and any other is a fault. Both
halves are about the callback of the newest stream, which is the one of the side, with the period of
the configuration. -/
theorem feed_running (h : Open e) (hsound : Sound e)
    (hrun : e.state .input = .running) (frames : List Int16) :
    (frames.length = e.config.period.samples →
        (e.feed frames).1 = some .proceed ∧ Passes e (e.feed frames).2)
      ∧ (frames.length ≠ e.config.period.samples →
        (e.feed frames).1 = some .stop
          ∧ Faults .input (frames.length * sampleBytes) e (e.feed frames).2) := by
  obtain ⟨s, hs⟩ := h.occupied .input
  obtain ⟨c, hc, hlen⟩ := h.channel
  -- the stream that the device feeds is the one of this side
  obtain ⟨x, hnewest, hb⟩ := hs.newestRunning_of_running hrun
  have hline : e.line.state x.callback.direction = .running := by
    rw [hb.handler]
    exact hrun
  rw [← hb.period] at hlen ⊢
  constructor
  · intro hframes
    obtain ⟨c', heard, _, hcapture⟩ :=
      Handler.capture_of_length hline (hs.admits hb) hc hlen hframes
    rw [feed_of_running hnewest hb hcapture]
    exact ⟨rfl, rfl, rfl⟩
  · intro hframes
    rw [feed_of_running hnewest hb
      (Handler.capture_of_length_ne hline (hs.admits hb) hc hframes)]
    exact ⟨rfl, h.faults hsound hb hrun _ _⟩

/-- **Playing on a running output.** A destination of one period passes, and any other is a fault.
The callback is asked for as many samples as the destination has places, and the channel has one
period of them. -/
theorem draw_running (h : Open e) (hsound : Sound e)
    (hrun : e.state .output = .running) (dest : List Int16) :
    (dest.length = e.config.period.samples →
        (e.draw dest).1 = some .proceed ∧ Passes e (e.draw dest).2.2)
      ∧ (dest.length ≠ e.config.period.samples →
        (e.draw dest).1 = some .stop
          ∧ Faults .output (dest.length * sampleBytes) e (e.draw dest).2.2) := by
  obtain ⟨s, hs⟩ := h.occupied .output
  obtain ⟨c, hc, hlen⟩ := h.channel
  -- the stream that the device draws from is the one of this side
  obtain ⟨x, hnewest, hb⟩ := hs.newestRunning_of_running hrun
  have hline : e.line.state x.callback.direction = .running := by
    rw [hb.handler]
    exact hrun
  rw [← hb.period] at hlen ⊢
  constructor
  · intro hdest
    obtain ⟨c', heard, _, hrender⟩ :=
      Handler.render_of_length hline (hs.admits hb) hc hlen hdest
    rw [draw_of_running hnewest hb hrender]
    exact ⟨rfl, rfl, rfl⟩
  · intro hdest
    rw [draw_of_running hnewest hb
      (Handler.render_of_length_ne hline (hs.admits hb) hc hdest)]
    exact ⟨rfl, h.faults hsound hb hrun _ _⟩

/-- A callback passes or faults; the state of its side tells which, for it was running before. -/
theorem Passes.not_faults {n : Nat} (h : Passes e e') (hrun : e.state d = .running) :
    ¬ Faults d n e e' := by
  intro hfaults
  have hsame : e'.state d = e.state d := congrArg (fun states => states.get d) h.states
  rw [hfaults.state, hrun] at hsame
  cases hsame

theorem faults_iff {n : Nat} {fits : Prop} (hrun : e.state d = .running)
    (hpasses : fits → Passes e e') (hfaults : ¬ fits → Faults d n e e') :
    Faults d n e e' ↔ ¬ fits :=
  ⟨fun hfault hfits => (hpasses hfits).not_faults hrun hfault, hfaults⟩

/-! ## Branches that no callback takes -/

/-- **What the callbacks of a stream rule out.** The bytes of a period do not depend on whether the
rate and the channels of the stream or those of the configuration are taken, and the channel takes
and gives whatever has passed the check. -/
structure Redundant (x : SimulatedStream Handler) (channel : Option Channel) : Prop where
  bytes : x.callback.period.bytesAt x.properties.sampleRate x.properties.channelCount
    = x.callback.period.bytes
  publish : ∀ c, channel = some c → ∀ frames : List Int16,
    x.callback.period.check x.properties frames.length = .ok () →
      ∃ n c', c.publish frames = .ok (n, c')
  consume : ∀ c, channel = some c → ∀ length,
    x.callback.period.check x.properties length = .ok () →
      ∃ freshness frames c', c.consume length = .ok (freshness, frames, c')

/-- Under one layout the checks that a callback makes besides the length of its buffer cannot fail:
the bytes of a period are the same by either formula, and what passes the check fits the channel. -/
theorem OneLayout.redundant (h : OneLayout e) {x : SimulatedStream Handler}
    (hx : x ∈ e.host.live d) : Redundant x e.line.channel := by
  obtain ⟨_, hperiod, hadmits⟩ := h.live d x hx
  rw [← hperiod] at hadmits
  -- what passes the check has the length of the channel
  have hfits : ∀ c, e.line.channel = some c → ∀ length,
      x.callback.period.check x.properties length = .ok () → length = c.length := by
    intro c hc length hcheck
    obtain ⟨c₀, hc₀, hlen⟩ := h.channel
    rw [hc₀] at hc
    rw [← Option.some.inj hc, hlen, ← hperiod]
    rw [PeriodFormat.check_of_admits hadmits] at hcheck
    by_cases hlength : length = x.callback.period.samples
    · exact hlength
    · rw [if_neg hlength] at hcheck
      cases hcheck
  refine ⟨PeriodFormat.inStep_of_admits hadmits, ?_, ?_⟩
  · intro c hc frames hcheck
    obtain ⟨c', hpublish, _⟩ := Channel.publish_of_length (hfits c hc _ hcheck)
    exact ⟨_, c', hpublish⟩
  · intro c hc length hcheck
    obtain ⟨c', hconsume, _⟩ := Channel.consume_of_length (hfits c hc length hcheck)
    exact ⟨_, _, c', hconsume⟩

/-- **One layout everywhere.** In any run, while the pair is open, also after any recovery:

* rate, channels, period and interface are those that were in force when it was opened;
* the channel, the handles and the callbacks of the live streams agree with them, and the callbacks
  of both sides were set up over that channel, whichever recovery has opened them;
* a callback on a running side faults over a buffer that is not one period long, and over nothing
  else;
* what a callback checks besides the length of its buffer cannot fail. -/
theorem layout_in_force (config : Config) (recovery : Recovery) (noticeCapacity : Nat)
    (as : List Action)
    (hheld : ((create {} config recovery noticeCapacity : SimulatedEngine).after as).holdsStreams
      = true) :
    let new : SimulatedEngine := create {} config recovery noticeCapacity
    let e := new.after as
    (∃ before a later, as = before ++ a :: later ∧ OpenSince new before a later
        ∧ ∀ mid, mid <+: later →
            (new.after before).config.Agrees (new.after (before ++ a :: mid)).config)
      ∧ OneLayout e
      ∧ (e.state .input = .running → ∀ frames : List Int16,
          (Faults .input (frames.length * sampleBytes) e (e.feed frames).2
              ↔ frames.length ≠ e.config.period.samples)
            ∧ (frames.length = e.config.period.samples →
                (e.feed frames).1 = some .proceed ∧ Passes e (e.feed frames).2))
      ∧ (e.state .output = .running → ∀ dest : List Int16,
          (Faults .output (dest.length * sampleBytes) e (e.draw dest).2.2
              ↔ dest.length ≠ e.config.period.samples)
            ∧ (dest.length = e.config.period.samples →
                (e.draw dest).1 = some .proceed ∧ Passes e (e.draw dest).2.2))
      ∧ (∀ d, ∀ x ∈ e.host.live d, Redundant x e.line.channel) := by
  intro new e
  have hnew : Sound new := sound_create config recovery noticeCapacity
  have h : Sound e := (after_sound hnew as).1
  -- all but the first part is about an open pair, whichever run it comes from
  have hopen : Open e := h.isOpen hheld
  refine ⟨after_openSince hnew rfl as hheld, hopen.oneLayout, fun hrun frames => ?_,
    fun hrun dest => ?_, fun d x hx => hopen.oneLayout.redundant hx⟩
  · obtain ⟨hpass, hfault⟩ := feed_running hopen h hrun frames
    exact ⟨faults_iff hrun (fun hlen => (hpass hlen).2) fun hlen => (hfault hlen).2, hpass⟩
  · obtain ⟨hpass, hfault⟩ := draw_running hopen h hrun dest
    exact ⟨faults_iff hrun (fun hlen => (hpass hlen).2) fun hlen => (hfault hlen).2, hpass⟩

/-- A run that configures an engine, opens its pair, loses the output after a period has been
captured and has it replaced, and asks for other options and another interface at the end. -/
def outputReplaced : List Action :=
  [.call (.configure { sampleRate := 8000, periodLenMs := 1, channelCount := 2 }),
    .call (.switch true), .feed (List.replicate 16 3), .unplug .output .disconnected,
    .call .repair, .call (.configure { sampleRate := 48000 }), .call (.selectApi .openSLES)]

/-- The replaced output runs over the channel of the first pair, and faults over two samples. -/
theorem layout_in_force_outputReplaced :
    let new : SimulatedEngine := create {} {}
    let e := new.after outputReplaced
    e.holdsStreams = true ∧ e.config.period = ⟨8000, 2, 1⟩
      ∧ e.line.channel.map (fun c => (c.length, c.sequence)) = some (16, 1)
      ∧ e.line.channelId = 1
      ∧ (∀ x ∈ e.host.live .output, x.callback.channelId = 1)
      ∧ e.state .output = .running ∧ Faults .output 4 e (e.draw [0, 0]).2.2 := by
  have hheld : ((create {} {} : SimulatedEngine).after outputReplaced).holdsStreams = true := rfl
  have hrun : ((create {} {} : SimulatedEngine).after outputReplaced).state .output = .running :=
    rfl
  have hsamples : ((create {} {} : SimulatedEngine).after outputReplaced).config.period.samples
    = 16 := rfl
  obtain ⟨_, hlayout, _, hdraw, _⟩ := layout_in_force {} .manual 64 outputReplaced hheld
  refine ⟨hheld, rfl, rfl, rfl, hlayout.shared .output, hrun, (hdraw hrun [0, 0]).1.mpr ?_⟩
  rw [hsamples]
  decide

end Engine

end Passthrough
