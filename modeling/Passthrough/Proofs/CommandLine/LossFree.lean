import Passthrough.CommandLine.Execution
import Passthrough.Proofs.Config.Accepted
import Passthrough.Proofs.Engine.Obliged
/-!
# The simulation loses nothing

A simulation passes every captured period through the whole stack: the engine is configured and
switched on, the input publishes into the channel, the output consumes from it, and what is played
is compared with what was captured. Where the input is unplugged on the way, the engine attends to
that and goes on over a new channel.

Between two periods the engine is `Streaming`: both sides run, nothing waits on the queue, the host
obliges, and every period of the channel has been read exactly once. A period keeps it so
(`Streaming.exchange`), and so does the loss of the input (`Steady.recovers`), so that the
loop can be followed to its end (`loop_uneventful`).

* **`loss_free`** — the report of a simulation, for any options that are accepted.
-/

namespace Passthrough

open SimulatedHost

/-- Periods have passed through a channel, each of them read once. -/
structure Channel.Relayed (c : Channel) (n : Nat) : Prop where
  sequence : c.sequence = n
  lastConsumed : c.lastConsumed = n
  counts : c.counts = { written := n, fresh := n, repeated := 0, silent := 0 }

theorem Channel.relayed_ofLength (length : Nat) : (ofLength length).Relayed 0 := ⟨rfl, rfl, rfl⟩

/-- **One more period** that is published and then read. It is the newest one and has not been
read, so that the reader gets it fresh and whole, and each of the two counts of the channel grows
by one. -/
theorem Channel.Relayed.next {c : Channel} {n : Nat} (h : c.Relayed n) {frames : List Int16}
    (hlen : frames.length = c.length) :
    ∃ c₁ c₂, c.publish frames = .ok (n + 1, c₁)
      ∧ c₁.consume frames.length = .ok (.fresh (n + 1), frames, c₂) ∧ c₂.Relayed (n + 1) := by
  let c₁ : Channel := { c with
    samples := frames
    sequence := n + 1
    counts := { c.counts with written := c.counts.written + 1 } }
  have hpublish : c.publish frames = .ok (n + 1, c₁) := by
    simp [publish, hlen, h.sequence, c₁]
  -- the number read last is `n`, so the new one differs from it
  have hfresh : c₁.nextFreshness = .fresh (n + 1) := by
    have hread : c.lastConsumed = n := h.lastConsumed
    simp [nextFreshness, c₁, hread]
  have hconsume : c₁.consume frames.length = .ok (.fresh (n + 1), frames, { c₁ with
      lastConsumed := n + 1
      counts := c₁.counts.count (.fresh (n + 1)) }) := by
    have hlength : frames.length = c₁.length := rfl
    unfold consume
    rw [if_neg (fun hne => hne hlength), hfresh]
  refine ⟨c₁, _, hpublish, hconsume, rfl, rfl, ?_⟩
  simp [c₁, h.counts, ChannelCounts.count]

namespace Engine

variable {e e' : SimulatedEngine} {config : Config} {n : Nat}

/-- **A session at rest between two callbacks**: it runs, and nothing has happened that the engine
would have to attend to. -/
structure Steady (config : Config) (e : SimulatedEngine) : Prop where
  sound : Sound e
  manual : e.recovery = .manual
  modest : config.period.Modest
  config : e.config = config
  effectOn : e.effectOn = true
  runs : Runs e
  quiet : e.line.link.pending = []
  obliging : Obliging e.host

theorem Steady.isOpen (h : Steady config e) : Open e :=
  h.sound.isOpen_of_ne_closed (d := .input) (by simp [h.runs.running])

/-- A period that passes changes the channel and what observers were given, and nothing else.
Neither is what makes a session `Steady`. So `Streaming.exchange` has only the channel to follow. -/
theorem Steady.notified (h : Steady config e) (hsound : Sound e') {channel : Option Channel}
    {observer : Option ObserverId} {d : Direction} {frames : List Int16}
    (he' : e' = { e with line := { e.line with channel }.notify observer d frames }) :
    Steady config e' := by
  obtain ⟨heard, hnotify⟩ := Line.notify_eq { e.line with channel } observer d frames
  rw [hnotify] at he'
  subst he'
  exact ⟨hsound, h.manual, h.modest, h.config, h.effectOn, ⟨h.runs.started, h.runs.running⟩,
    h.quiet, h.obliging⟩

/-- **Between two periods of a simulation**, so many periods after the pair was last opened. -/
structure Streaming (config : Config) (n : Nat) (e : SimulatedEngine) : Prop
    extends Steady config e where
  relayed : ∃ c, e.line.channel = some c ∧ c.Relayed n

/-- A pair that has just been opened has passed nothing yet, and its channel is a new one. -/
theorem Steady.streaming (h : Steady config e) (hfresh : Fresh e) : Streaming config 0 e :=
  { h with relayed := ⟨_, hfresh.channel, Channel.relayed_ofLength _⟩ }

/-- **A period passes**: it is captured and played as it is. Both callbacks are told to proceed, and
the channel has passed one period more (`Channel.Relayed.next`). -/
theorem Streaming.exchange (h : Streaming config n e) {captured : List Int16}
    (hlen : captured.length = config.period.samples) :
    let fed := e.feed captured
    let drawn := fed.2.draw (List.replicate captured.length 0)
    fed.1 = some .proceed ∧ drawn.2.1 = captured ∧ Streaming config (n + 1) drawn.2.2 := by
  obtain ⟨c, hc, hrelayed⟩ := h.relayed
  have hchannel : captured.length = c.length := by
    obtain ⟨c', hc', hlength⟩ := h.isOpen.channel
    rw [hc] at hc'
    rw [Option.some.inj hc', hlength, h.config, hlen]
  -- both halves of the exchange are known from the channel, before the engine is looked at
  obtain ⟨c₁, c₂, hpublish, hconsume, hnext⟩ := hrelayed.next hchannel
  obtain ⟨x, _, hfeed⟩ :=
    feed_of_publish h.isOpen (h.runs.running .input) (h.config ▸ hlen) hc hpublish
  have hfed : (e.feed captured).2 = _ := congrArg Prod.snd hfeed
  have h₁ : Steady config (e.feed captured).2 :=
    h.toSteady.notified (perform_sound h.sound (.feed captured)).1 hfed
  have hc₁ : (e.feed captured).2.line.channel = some c₁ := by rw [hfed, Line.channel_notify]
  let dest : List Int16 := List.replicate captured.length 0
  have hdest : dest.length = captured.length := List.length_replicate
  -- the playback finds the session as the capture has left it
  obtain ⟨y, _, hdraw⟩ := draw_of_consume h₁.isOpen (h₁.runs.running .output)
    (hdest.trans (h₁.config ▸ hlen)) hc₁ (hdest ▸ hconsume)
  have hdrawn : ((e.feed captured).2.draw dest).2.2 = _ := congrArg (fun r => r.2.2) hdraw
  have h₂ : Steady config ((e.feed captured).2.draw dest).2.2 :=
    h₁.notified (perform_sound h₁.sound (.draw dest)).1 hdrawn
  have hplayed : ((e.feed captured).2.draw dest).2.1 = captured :=
    congrArg (fun r => r.2.1) hdraw
  refine ⟨congrArg Prod.fst hfeed, hplayed, h₂, c₂, ?_, hnext⟩
  rw [hdrawn, Line.channel_notify]

/-! ## The loss of the input -/

/-- **The input is lost** under a session that streams: its side fails, and the loss is all that
waits. The stream of the input is the one that the device loses (`unplug_of_backed`), and the link
is listening, so that the report gets through. -/
theorem Steady.unplugged (h : Steady config e) :
    let e' := (e.unplug .input .disconnected).2
    Sound e' ∧ e'.state .input = .error
      ∧ e'.line.link.pending = [.disconnected .input .disconnected] ∧ Obliging e'.host := by
  intro e'
  -- the stream that the device loses is the one that the session holds
  obtain ⟨s, hs⟩ := h.isOpen.occupied .input
  obtain ⟨x, hx, hb⟩ := hs.backed (by simp [h.runs.running])
  have hunplug : e' = _ := congrArg Prod.snd (unplug_of_backed hs hx hb .disconnected)
  have hdirection : x.properties.direction = .input := by rw [hb.properties, hs.direction]
  refine ⟨(perform_sound h.sound (.unplug .input .disconnected)).1, ?_, ?_, ?_⟩
  · rw [hunplug]
    rfl
  · rw [hunplug, hdirection]
    have hreport := Link.pending_report (h.isOpen.accepts h.sound)
      (.disconnected .input .disconnected)
    rw [h.quiet] at hreport
    exact hreport
  · rw [hunplug]
    exact ⟨h.obliging.faults, h.obliging.substitutes⟩

/-- **The engine attends to it**, and streams again. The loss of the input is the one event that
waits, the host obliges, and the pair is opened anew over a channel that has passed nothing. -/
theorem Steady.recovers (h : Steady config e) :
    Streaming config 0 (e.unplug .input .disconnected).2.attendPending.2 := by
  obtain ⟨hsound, hlost, hpending, hobliging⟩ := h.unplugged
  let e₁ : SimulatedEngine := (e.unplug .input .disconnected).2
  have hstarted : e₁.started = true := h.runs.started
  have hmanual : e₁.recovery = .manual := h.manual
  have hmodest : e₁.config.period.Modest := h.config.symm ▸ h.modest
  obtain ⟨hkeep, hfresh, hruns, heffect, hobliging'⟩ :=
    attendPending_resumes hsound hmanual hmodest hobliging hstarted hlost (by rw [hpending]; rfl)
      (by rw [hpending]; rfl)
  have hsteady : Steady config e₁.attendPending.2 :=
    ⟨(call_leaves hsound .attendPending).sound hsound, hkeep.recovery.trans hmanual,
      h.modest, hkeep.config.trans h.config, heffect.trans h.effectOn, hruns, hkeep.pending, hobliging'⟩
  exact hsteady.streaming hfresh

end Engine

namespace CommandLine

open Engine

namespace Simulation

variable {config : Config} {n period : Nat} {p : Progress} {disconnectAfter : Option Nat}

/-! ## The loop -/

/-- When the input has been unplugged, if it has been in the course of so many periods. -/
def unpluggedBefore (disconnectAfter : Option Nat) (period : Nat) : Option Nat :=
  disconnectAfter.filter (· < period)

/-- **A simulation so far**: every period has been played as it was captured, and the channel has
passed all since the input was unplugged. -/
structure Uneventful (config : Config) (disconnectAfter : Option Nat) (period : Nat)
    (p : Progress) : Prop where
  streaming : Streaming config (period - (unpluggedBefore disconnectAfter period).getD 0)
    p.session.engine
  matched : p.matched = period
  mismatched : p.mismatched = 0
  disconnectedAt : p.disconnectedAt = unpluggedBefore disconnectAfter period

theorem unpluggedBefore_succ_self : unpluggedBefore (some period) (period + 1) = some period := by
  simp [unpluggedBefore]

/-- A period before which the input is not unplugged leaves the time of that as it is. This is the
case of `Uneventful.step` in which nothing is unplugged. -/
theorem unpluggedBefore_succ (h : disconnectAfter ≠ some period) :
    unpluggedBefore disconnectAfter (period + 1) = unpluggedBefore disconnectAfter period := by
  cases disconnectAfter with
  | none => rfl
  | some k =>
    have hne : k ≠ period := fun heq => h (congrArg some heq)
    have hsame : k < period + 1 ↔ k < period := by omega
    simp [unpluggedBefore, Option.filter, hsame]

/-- The input has not been unplugged later than now, so that the periods since then can be counted.
The channel of an uneventful simulation has passed just those, as it is a new one from the recovery
on. -/
theorem unpluggedBefore_le (disconnectAfter : Option Nat) (period : Nat) :
    (unpluggedBefore disconnectAfter period).getD 0 ≤ period := by
  cases disconnectAfter with
  | none => exact Nat.zero_le _
  | some k =>
    by_cases hbefore : k < period
    · simp [unpluggedBefore, Option.filter, hbefore]
      omega
    · simp [unpluggedBefore, Option.filter, hbefore]

/-- A period that passes is counted as matched. What is played is compared with what was captured,
and `Streaming.exchange` has shown them equal. -/
theorem passThrough_of_streaming (h : Streaming config n p.session.engine) {captured : List Int16}
    (hlen : captured.length = config.period.samples) :
    Streaming config (n + 1) (passThrough captured p).session.engine
      ∧ (passThrough captured p).matched = p.matched + 1
      ∧ (passThrough captured p).mismatched = p.mismatched
      ∧ (passThrough captured p).disconnectedAt = p.disconnectedAt := by
  obtain ⟨hproceed, hplayed, hnext⟩ := h.exchange hlen
  have hpassed : passThrough captured p = { p with
      session := { p.session with engine := ((p.session.engine.feed captured).2.draw
        (List.replicate captured.length 0)).2.2 }
      matched := p.matched + 1 } := by
    unfold passThrough
    simp only [hproceed, hplayed, ne_eq, not_true, if_false, if_true]
  rw [hpassed]
  exact ⟨hnext, rfl, rfl, rfl⟩

/-- **One period of the loop**, with the input unplugged before it or not. Where it is, the engine
attends to that first (`Steady.recovers`) and the channel counts from nothing again. -/
theorem Uneventful.step (h : Uneventful config disconnectAfter period p) {captured : List Int16}
    (hlen : captured.length = config.period.samples) :
    Uneventful config disconnectAfter (period + 1)
      (passThrough captured
        (if disconnectAfter = some period then unplugInput period p else p)) := by
  by_cases hunplug : disconnectAfter = some period
  · -- the channel is a new one, and counts from this period on
    rw [if_pos hunplug]
    have hstreaming : Streaming config 0 (unplugInput period p).session.engine :=
      h.streaming.toSteady.recovers
    obtain ⟨hnext, hmatched, hmismatched, hat⟩ := passThrough_of_streaming hstreaming hlen
    subst hunplug
    refine ⟨?_, hmatched.trans (congrArg (· + 1) h.matched), hmismatched.trans h.mismatched, ?_⟩
    · have hpassed : period + 1 - period = 0 + 1 := by omega
      rw [unpluggedBefore_succ_self, Option.getD_some, hpassed]
      exact hnext
    · rw [hat, unpluggedBefore_succ_self]
      rfl
  · -- nothing is lost, and the channel has passed one more since it was opened
    rw [if_neg hunplug]
    obtain ⟨hnext, hmatched, hmismatched, hat⟩ := passThrough_of_streaming h.streaming hlen
    refine ⟨?_, hmatched.trans (congrArg (· + 1) h.matched), hmismatched.trans h.mismatched, ?_⟩
    · have hle := unpluggedBefore_le disconnectAfter period
      have hpassed : period + 1 - (unpluggedBefore disconnectAfter period).getD 0
          = period - (unpluggedBefore disconnectAfter period).getD 0 + 1 := by omega
      rw [unpluggedBefore_succ hunplug, hpassed]
      exact hnext
    · rw [hat, unpluggedBefore_succ hunplug]
      exact h.disconnectedAt

/-- **The whole loop** loses nothing. The induction is on the captures, with `Uneventful.step` for
each. The periods that the loop has run are counted along, as the moment of the loss is one of
them. -/
theorem loop_uneventful {captures : List (List Int16)}
    (hlen : ∀ captured ∈ captures, captured.length = config.period.samples)
    (h : Uneventful config disconnectAfter period p) :
    Uneventful config disconnectAfter (period + captures.length)
      (loop disconnectAfter period captures p) := by
  induction captures generalizing period p with
  | nil => exact h
  | cons captured rest ih =>
    have hstep := h.step (hlen captured List.mem_cons_self)
    have hrest := ih (fun c hc => hlen c (List.mem_cons_of_mem _ hc)) hstep
    have hcount : period + (captured :: rest).length = period + 1 + rest.length := by
      rw [List.length_cons]
      omega
    rw [hcount]
    exact hrest

/-! ## The whole simulation -/

/-- **The beginning**: the options are taken over, and the effect is switched on. A new engine has
no streams and its host no faults, so that both are answered with success. -/
theorem begins {options : Options} (hoptions : Config.ofOptions options = .ok config) :
    ∃ configured session : SimulatedSession,
      Session.configure options { engine := Engine.create {} } = (.ok, configured)
        ∧ configured.switchOn = (.ok .ok, session) ∧ Streaming config 0 session.engine := by
  have hnew : Sound (Engine.create {} : SimulatedEngine) := sound_create {} .manual 64
  have hclosed : Closed (Engine.create {} : SimulatedEngine) := hnew.isClosed rfl
  have hconfigure := configure_of_closed hoptions hclosed
  let e : SimulatedEngine := { (Engine.create {} : SimulatedEngine) with config }
  have hc : Closed e := hclosed.frame (fun _ => ⟨rfl, rfl, rfl, rfl⟩) rfl rfl rfl
  have h : Sound e := ⟨Or.inl hc, hnew.poisoned, hnew.listening, hnew.numbered⟩
  have hobliging : Obliging e.host := ⟨rfl, rfl⟩
  have hmodest : config.period.Modest := (Config.accepted_of_ofOptions hoptions).modest
  -- what a switch comes to, and what it asks of the host, are two facts about one run
  obtain ⟨r, hreply, ⟨hkeep, hcases⟩, hr, hasked⟩ :=
    ((switch_on_ends rfl hc h.numbered).and
      (switch_on_obliged rfl hc h.numbered hmodest hobliging)).run h.poisoned
  subst hr
  have hswitch : e.switch true = (.ok (), (e.switch true).2) := Prod.ext hreply rfl
  refine ⟨_, _, Session.configure_of_ok hconfigure, Session.switchOn_of_ok hswitch, ?_⟩
  -- an obliging host refuses nothing, so the second end cannot be
  rcases hcases with ⟨_, hfresh, hon, hstarted, hrunning⟩ | ⟨⟨_, herr⟩, _⟩
  · have hsteady : Steady config (e.switch true).2 :=
      ⟨(call_leaves h (.switch true)).sound h, hkeep.recovery, hmodest, hkeep.config, hon,
        ⟨hstarted, hrunning⟩, hkeep.pending, hasked.obliging hobliging⟩
    exact hsteady.streaming hfresh
  · cases herr

/-- **The end**: the effect is turned off, which does not fail, since both sides run and the host
has no faults. It is the last answer of `run_lossFree`; what `switch_off_obliged` says of any
obliging host is all that is used. -/
theorem ends_well {s : SimulatedSession} (h : Steady config s.engine) :
    s.release.1 = .ok .ok := by
  obtain ⟨r, hreply, hr, _⟩ :=
    (switch_off_obliged h.effectOn h.sound.settled h.obliging).run h.sound.poisoned
  subst hr
  have hoff : s.engine.switch false = (.ok (), (s.engine.switch false).2) :=
    Prod.ext hreply rfl
  unfold Session.release Session.switchOff
  rw [hoff]
  rfl

/-- The report of a simulation that has lost nothing. -/
def lossFree (period : PeriodFormat) (periods : Nat) (disconnectAfter : Option Nat) :
    SimulationSummary :=
  let disconnectedAt := disconnectAfter.filter (· < periods)
  let passed := periods - disconnectedAt.getD 0
  { period, periods
    matched := periods
    mismatched := 0
    disconnectedAt
    inputState := .running
    outputState := .running
    channel := some { written := passed, fresh := passed, repeated := 0, silent := 0 } }

theorem length_noisePeriod (n : Nat) (state : UInt64) : (noisePeriod n state).1.length = n := by
  induction n generalizing state with
  | zero => rfl
  | succ n ih => exact congrArg (· + 1) (ih _)

theorem length_noise (samples periods : Nat) (state : UInt64) :
    (noise samples periods state).length = periods := by
  induction periods generalizing state with
  | zero => rfl
  | succ periods ih => exact congrArg (· + 1) (ih _)

/-- Each period of noise has the length that was asked for, by induction on the number of periods.
With `length_noise` it is what `loss_free` asks of the captures, so that the program with its own
noise is a case of it. -/
theorem length_of_mem_noise {samples periods : Nat} {state : UInt64} {captured : List Int16}
    (h : captured ∈ noise samples periods state) : captured.length = samples := by
  induction periods generalizing state with
  | zero => cases h
  | succ periods ih =>
    rcases List.mem_cons.mp h with rfl | hrest
    · exact length_noisePeriod samples state
    · exact ih hrest

/-- **A simulation comes to its loss-free report**: it begins (`begins`), the loop keeps it
uneventful (`loop_uneventful`), and it ends (`ends_well`). What the input captures may be anything
that comes in whole periods. -/
theorem run_lossFree {options : Options} (hoptions : Config.ofOptions options = .ok config)
    (captures : PeriodFormat → List (List Int16))
    (hlen : ∀ captured ∈ captures config.period, captured.length = config.period.samples)
    (disconnectAfter : Option Nat) :
    run options captures disconnectAfter = .ok
      (lossFree config.period (captures config.period).length disconnectAfter, .ok ()) := by
  obtain ⟨configured, session, hconfigure, hstart, hstreaming⟩ := begins hoptions
  let p := loop disconnectAfter 0 (captures config.period) { session }
  -- before the first period nothing can have been unplugged
  have hend : Uneventful config disconnectAfter (captures config.period).length p := by
    have hbegin : Uneventful config disconnectAfter 0 { session } := by
      have hnone : unpluggedBefore disconnectAfter 0 = none := by
        cases disconnectAfter <;> simp [unpluggedBefore]
      refine ⟨?_, rfl, rfl, hnone.symm⟩
      rw [hnone]
      exact hstreaming
    have hloop := loop_uneventful hlen hbegin
    rwa [Nat.zero_add] at hloop
  -- each number of the report is read off the last state of the loop
  have hsummary : summary config.period (captures config.period).length p
      = lossFree config.period (captures config.period).length disconnectAfter := by
    obtain ⟨c, hc, hrelayed⟩ := hend.streaming.relayed
    unfold summary lossFree
    rw [hend.matched, hend.mismatched, hend.disconnectedAt, hend.streaming.runs.running .input,
      hend.streaming.runs.running .output, channelCounts, hc, Option.map_some, hrelayed.counts]
    rfl
  have hconfig : session.engine.config = config := hstreaming.config
  have hrun : run options captures disconnectAfter = .ok
      (summary config.period (captures config.period).length p,
        check "release" p.session.release.1) := by
    unfold run
    simp only [hconfigure, hstart, hconfig]
    rfl
  rw [hrun, hsummary, ends_well hend.streaming.toSteady]
  rfl

end Simulation

/-- **The simulation is loss-free** for all options that are accepted: whatever is captured in whole
periods, in any number of them, and whenever the input is unplugged. Every period is matched, both
sides run at the end, and since the pair was last opened each period has been written and read once;
the command ends with 0 and prints that. So does the command that makes up what is captured from a
seed. -/
theorem loss_free {options : Options} {config : Config}
    (hoptions : Config.ofOptions options = .ok config)
    (captures : PeriodFormat → List (List Int16))
    (hlen : ∀ captured ∈ captures config.period, captured.length = config.period.samples)
    (disconnectAfter : Option Nat) :
    let reported (periods : Nat) := Simulation.lossFree config.period periods disconnectAfter
    let simulated := Simulation.run options captures disconnectAfter
    let periods := (captures config.period).length
    simulated = .ok (reported periods, .ok ())
      ∧ Outcome.ofSimulation simulated
        = { exitCode := 0, lines := [(reported periods).toJson.indented] }
      ∧ ∀ periods seed, simulate options periods seed disconnectAfter
        = { exitCode := 0, lines := [(reported periods).toJson.indented] } := by
  intro reported simulated periods
  have hsimulated : simulated = .ok (reported periods, .ok ()) :=
    Simulation.run_lossFree hoptions captures hlen disconnectAfter
  refine ⟨hsimulated, ?_, fun periods seed => ?_⟩
  · rw [hsimulated]
    rfl
  · have hnoise := Simulation.run_lossFree hoptions
      (fun period => Simulation.noise period.samples periods (UInt64.ofNat seed))
      (fun _ => Simulation.length_of_mem_noise) disconnectAfter
    rw [Simulation.length_noise] at hnoise
    exact congrArg Outcome.ofSimulation hnoise

/-- Three periods of a millisecond, the input unplugged before the last of them. -/
theorem loss_free_unplugged :
    let options : Options := { sampleRate := 8000, periodLenMs := 1 }
    let captured (sample : Int16) : List Int16 := List.replicate 8 sample
    Config.ofOptions options = .ok { sampleRate := 8000, periodMs := 1 }
      ∧ (Simulation.run options (fun _ => [captured 1, captured 2, captured 3]) (some 2)).map
          (fun r => (r.1.matched, r.1.disconnectedAt, r.1.channel.map (·.written)))
        = .ok (3, some 2, some 1) := by
  have hoptions : Config.ofOptions { sampleRate := 8000, periodLenMs := 1 }
      = .ok { sampleRate := 8000, periodMs := 1 } := rfl
  intro options captured
  have hlen : ∀ c ∈ [captured 1, captured 2, captured 3], c.length = 8 := by decide
  obtain ⟨hrun, _⟩ :=
    loss_free hoptions (fun _ => [captured 1, captured 2, captured 3]) hlen (some 2)
  refine ⟨hoptions, ?_⟩
  rw [hrun]
  rfl

end CommandLine

end Passthrough
