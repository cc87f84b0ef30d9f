import Passthrough.Proofs.Engine.Pair
/-!
# What the hardware does to an engine

The data callbacks of an engine on simulated hardware, and the loss of a device. The hardware works
on an open engine behind its back: it can fill and empty the channel, fail a side and take its
stream, and it can queue events. It cannot close the engine, open it, or touch a closed one.

* **`feed_of_open`**, **`draw_of_open`** — every outcome of a capture and of a playback.
* **`Disturbs`** — what all of them leave alone; an open engine that is disturbed is open.
-/

namespace Passthrough

open SimulatedHost

namespace SimulatedHost

variable {κ : Type} {h : SimulatedHost κ} {d : Direction}

/-- A direction without a live stream has none that runs, so that its callback is not called. -/
theorem newestRunning?_of_nil (hl : h.live d = []) : h.newestRunning? d = none := by
  unfold newestRunning?
  rw [hl]
  rfl

/-- The only live stream is the newest that runs, if it runs. An open engine has at most one live
stream in each direction, so the search of the host comes down to this. -/
theorem newestRunning?_of_single {x : SimulatedStream κ} (hl : h.live d = [x]) :
    h.newestRunning? d = if x.running = true then some x else none := by
  unfold newestRunning?
  rw [hl]
  cases hr : x.running <;> simp [hr]

/-- The stream that a callback is called for is live, and so it is the one that `Backs` speaks
of. -/
theorem mem_of_newestRunning? {x : SimulatedStream κ} (hx : h.newestRunning? d = some x) :
    x ∈ h.live d :=
  List.mem_reverse.mp (List.mem_of_find?_eq_some hx)

end SimulatedHost

namespace Engine

variable {e e' : SimulatedEngine} {d : Direction} {s : StreamHandle}
  {x : SimulatedStream Handler}

/-! ## What is left alone -/

/-- **What the hardware does to one side.** The engine keeps its handles and its manner, and the
channel its length. -/
structure Disturbs (d : Direction) (e e' : SimulatedEngine) : Prop where
  config : e'.config = e.config
  recovery : e'.recovery = e.recovery
  poisoned : e'.poisoned = e.poisoned
  listening : e'.line.link.listening = e.line.link.listening
  attached : e'.line.link.attached = e.line.link.attached
  started : e'.started = e.started
  effectOn : e'.effectOn = e.effectOn
  host : Follows e.host e'.host
  state : e'.state d = e.state d ∨ e'.state d = .error
  other : ∀ d', d' ≠ d → SameSide d' e e'
  channel : ∀ c, e.line.channel = some c →
    ∃ c', e'.line.channel = some c' ∧ c'.length = c.length

theorem Disturbs.refl (d : Direction) (e : SimulatedEngine) : Disturbs d e e :=
  ⟨rfl, rfl, rfl, rfl, rfl, rfl, rfl, .refl _, Or.inl rfl, fun _ _ => .refl _ e,
    fun c hc => ⟨c, hc, rfl⟩⟩

/-- **A disturbed engine is open** if its side is still occupied. The other side, the mark of the
session and the length of the channel are kept by `Disturbs` itself. -/
theorem Open.of_disturbs (h : Open e) (hd : Disturbs d e e')
    (ho : ∀ s, Occupied e d s → Occupied e' d s) : Open e' where
  occupied := by
    intro d'
    obtain ⟨s, hs⟩ := h.occupied d'
    by_cases hne : d' = d
    · subst hne
      exact ⟨s, ho s hs⟩
    · exact ⟨s, hs.frame (hd.other d' hne) (by rw [hd.config]) hd.host⟩
  channel := by
    obtain ⟨c, hc, hlen⟩ := h.channel
    obtain ⟨c', hc', hlen'⟩ := hd.channel c hc
    refine ⟨c', hc', ?_⟩
    rw [hd.config]
    exact hlen'.trans hlen
  attached := hd.attached.trans h.attached
  started := by
    -- a pair that was started has run or failed on either side, and this side has failed at most
    intro hs d'
    have hwas := h.started (hd.started.symm.trans hs) d'
    by_cases hne : d' = d
    · subst hne
      rcases hd.state with hsame | herr
      · rw [hsame]
        exact hwas
      · exact Or.inr herr
    · rw [(hd.other d' hne).state]
      exact hwas

/-! ## A side that fails -/

/-- A failed side whose stream, if the host still has it, rests. This is what a callback leaves that
answers `stop`. Both for a stream that the host has and for one that it has lost, `restate` asks no
more than that it does not run. -/
theorem Occupied.struck (h : Occupied e d s) :
    Occupied { e with host := e.host.setRunning s.id false, line := e.line.setState d .error }
      d s := by
  refine h.restate (Or.inr (Or.inr rfl)) (follows_setRunning _ _ _) ?_
  rcases h.live with ⟨x, hx, hb⟩ | ⟨hnil, _⟩
  · refine Or.inl ⟨{ x with running := false }, ?_, hb.restate false (by simp) (by simp)⟩
    rw [SimulatedHost.live_setRunning, hx]
    simp [hb.id]
  · refine Or.inr ⟨?_, rfl⟩
    rw [SimulatedHost.live_setRunning, hnil]
    rfl

/-- A failed side whose stream is gone. The handle stays with the engine, and it is what a repair
closes before it opens another stream. In both cases the device has no live stream afterwards: the
one that it had is removed, and there was no other. -/
theorem Occupied.lost (h : Occupied e d s) :
    Occupied { e with host := e.host.remove s.id, line := e.line.setState d .error } d s := by
  refine h.restate (Or.inr (Or.inr rfl)) (follows_remove _ _) (Or.inr ⟨?_, rfl⟩)
  rw [live_remove]
  rcases h.live with ⟨x, hx, hb⟩ | ⟨hnil, _⟩
  · rw [hx]
    simp [hb.id]
  · rw [hnil]
    rfl

/-! ## Callbacks of a side -/

/-- The stream that a side's callback is called for. It runs or has failed; it does not rest,
because a stream that rests is not found. So a buffer of the device finds no callback, or the one of
this stream, and the side says how that will answer. -/
theorem Occupied.newestRunning? (h : Occupied e d s) :
    e.host.newestRunning? d = none
      ∨ ∃ x, e.host.newestRunning? d = some x ∧ Backs e d s x
          ∧ (e.state d = .running ∨ e.state d = .error) := by
  rcases h.live with ⟨x, hx, hb⟩ | ⟨hnil, _⟩
  · have hnewest := newestRunning?_of_single hx
    cases hr : x.running with
    | false =>
      rw [hr] at hnewest
      exact Or.inl hnewest
    | true =>
      rw [hr] at hnewest
      refine Or.inr ⟨x, hnewest, hb, h.state.resolve_left fun hopened => ?_⟩
      rw [hb.resting hopened] at hr
      cases hr
  · exact Or.inl (newestRunning?_of_nil hnil)

/-- The stream of a running side runs, so that every buffer of that side reaches its callback. -/
theorem Occupied.newestRunning_of_running (h : Occupied e d s) (hrun : e.state d = .running) :
    ∃ x, e.host.newestRunning? d = some x ∧ Backs e d s x := by
  obtain ⟨x, hx, hb⟩ := h.backed (by simp [hrun])
  refine ⟨x, ?_, hb⟩
  rw [newestRunning?_of_single hx, if_pos (hb.running hrun)]

/-- The stream of a side fits the period that its callback was set up with, since both agree with
the configuration; what `PeriodFormat.check` looks at besides the length is thereby settled. -/
theorem Occupied.admits (h : Occupied e d s) (hb : Backs e d s x) :
    x.callback.period.Admits x.properties := by
  rw [hb.period, hb.properties]
  exact h.admitted

/-- A period passed: only the channel and what observers were given have changed. The channel is
another value of the same length, so the engine is open over it as before. -/
theorem Open.passed (h : Open e) (d : Direction) {c c' : Channel} (hc : e.line.channel = some c)
    (hlen : c'.length = c.length) (heard : List Heard) :
    Disturbs d e { e with line := { e.line with channel := some c', heard } }
      ∧ Open { e with line := { e.line with channel := some c', heard } } := by
  have hd : Disturbs d e { e with line := { e.line with channel := some c', heard } } := by
    refine ⟨rfl, rfl, rfl, rfl, rfl, rfl, rfl, .refl _, Or.inl rfl, fun _ _ => ⟨rfl, rfl, rfl, rfl⟩,
      fun c₀ hc₀ => ⟨c', rfl, ?_⟩⟩
    rw [hc] at hc₀
    rw [← Option.some.inj hc₀]
    exact hlen
  exact ⟨hd, h.of_disturbs hd fun s hs => hs.frame ⟨rfl, rfl, rfl, rfl⟩ rfl (.refl _)⟩

/-- A callback stopped: the side has failed, and its stream rests. The event that tells of it may
have been queued, and the channel may have been emptied. -/
theorem Open.stopped (h : Open e) (hs : Occupied e d s) {channel : Option Channel} {link : Link}
    (hlistening : link.listening = e.line.link.listening)
    (hattached : link.attached = e.line.link.attached)
    (hchannel : ∀ c, e.line.channel = some c → ∃ c', channel = some c' ∧ c'.length = c.length) :
    Disturbs d e { e with
        host := e.host.setRunning s.id false
        line := { e.line with states := e.line.states.set d .error, channel, link } }
      ∧ Open { e with
        host := e.host.setRunning s.id false
        line := { e.line with states := e.line.states.set d .error, channel, link } } := by
  -- one side is touched: its state, its stream and its report
  have hd : Disturbs d e { e with
      host := e.host.setRunning s.id false
      line := { e.line with states := e.line.states.set d .error, channel, link } } :=
    ⟨rfl, rfl, rfl, hlistening, hattached, rfl, rfl, follows_setRunning _ _ _,
      Or.inr (Duplex.get_set _ _ _),
      fun d' hne => ⟨Duplex.get_set_ne _ _ hne, rfl, live_setRunning_of_ne (hs.id_ne hne), rfl⟩,
      hchannel⟩
  refine ⟨hd, h.of_disturbs hd fun s' hs' => ?_⟩
  rw [hs'.handle_eq hs]
  exact hs.struck.frame ⟨rfl, rfl, rfl, rfl⟩ rfl (.refl _)

/-- A callback refused: the side had failed before, and its stream rests from now on. No second
event is queued for the same failure. Stating the states again with `.error` changes nothing, since
that is what the side has been in. -/
theorem Open.refused (h : Open e) (hs : Occupied e d s) (herr : e.state d = .error) :
    Disturbs d e { e with host := e.host.setRunning s.id false }
      ∧ Open { e with host := e.host.setRunning s.id false } := by
  have hstates : e.line.states.set d .error = e.line.states := by
    have hline : e.line.states.get d = .error := herr
    rw [← hline]
    exact Duplex.set_get _ _
  have hkept : ∀ c, e.line.channel = some c →
      ∃ c', e.line.channel = some c' ∧ c'.length = c.length := fun c hc => ⟨c, hc, rfl⟩
  have hstop := h.stopped hs (rfl : e.line.link.listening = _) rfl hkept
  rwa [hstates] at hstop

/-- Emptied or not, the channel keeps its length, so that a faulted capture does not disturb the
shape of the engine. -/
theorem channel_reset {channel : Option Channel} {c : Channel} (hc : channel = some c) :
    ∃ c', channel.map Channel.reset = some c' ∧ c'.length = c.length := by
  rw [hc]
  exact ⟨c.reset, rfl, Channel.length_reset c⟩

/-! ## Capturing -/

/-- A device that captures while no input runs calls nobody. The engine is exactly as it was, the
host and its records included. -/
theorem feed_of_idle (h : e.host.newestRunning? .input = none) (frames : List Int16) :
    e.feed frames = (none, e) := by
  unfold Engine.feed SimulatedHost.feed
  rw [h]

theorem feed_of_closed (h : Closed e) (frames : List Int16) : e.feed frames = (none, e) :=
  feed_of_idle (newestRunning?_of_nil (h.vacant .input).live) frames

/-- A buffer for a running input goes to the callback of its stream; the host then keeps the stream
running or lets it rest, as the verdict says. -/
theorem feed_of_running (hrun : e.host.newestRunning? .input = some x) (hb : Backs e .input s x)
    {frames : List Int16} {v : Verdict} {line : Line}
    (hcapture : x.callback.capture x.properties frames e.line = (v, line)) :
    e.feed frames = (some v, { e with host := e.host.answered s.id v, line }) := by
  have howner : StreamOwner.capture x.callback x.properties frames e.line = (v, line) := hcapture
  unfold Engine.feed SimulatedHost.feed
  rw [hrun]
  simp only [hb.side, hb.id, howner]

/-- **A period that a running input captures** goes into the channel and to the observer of its
stream. The observer is that of the handler that was left with the stream, and not that of the
engine now. -/
theorem feed_of_publish (h : Open e) (hrun : e.state .input = .running) {frames : List Int16}
    (hframes : frames.length = e.config.period.samples) {c c' : Channel}
    (hc : e.line.channel = some c) {n : Nat} (hpublish : c.publish frames = .ok (n, c')) :
    ∃ x ∈ e.host.live .input, e.feed frames = (some .proceed, { e with
      line := { e.line with channel := some c' }.notify x.callback.observer .input frames }) := by
  obtain ⟨s, hs⟩ := h.occupied .input
  obtain ⟨x, hnewest, hb⟩ := hs.newestRunning_of_running hrun
  have hline : e.line.state x.callback.direction = .running := by
    rw [hb.handler]
    exact hrun
  have hcapture := Handler.capture_of_publish hline (hs.admits hb) hc (hb.period ▸ hframes) hpublish
  exact ⟨x, mem_of_newestRunning? hnewest, feed_of_running hnewest hb hcapture⟩

/-- **A buffer of the wrong length** fails a running input and empties the channel. The event that
is queued carries the bytes of a period and those that came. -/
theorem feed_of_misfit (h : Open e) (hrun : e.state .input = .running)
    (hnewest : e.host.newestRunning? .input = some x) (hb : Backs e .input s x)
    (hs : Occupied e .input s) {frames : List Int16}
    (hframes : frames.length ≠ e.config.period.samples) :
    e.feed frames = (some .stop, { e with
      host := e.host.setRunning s.id false
      line := { e.line with
        states := e.line.states.set .input .error
        channel := e.line.channel.map Channel.reset
        link := e.line.link.report
          (.fault .input e.config.period.bytes (frames.length * sampleBytes)) } }) := by
  obtain ⟨c, hc, _⟩ := h.channel
  -- the callback sees the state of its own side, which runs
  have hline : e.line.state x.callback.direction = .running := by
    rw [hb.handler]
    exact hrun
  have hcapture := Handler.capture_of_length_ne hline (hs.admits hb) hc (hb.period ▸ hframes)
  rw [Handler.fault_eq (Or.inr (Or.inl hline)), hb.handler, if_pos rfl, hb.period] at hcapture
  exact feed_of_running hnewest hb hcapture

/-- A failed input whose stream still runs refuses before it looks at anything: the channel, the
observers and the events are left alone. The device is told to stop, which turns the stream off and
so keeps it from being called again. -/
theorem feed_of_failed (herr : e.state .input = .error)
    (hnewest : e.host.newestRunning? .input = some x) (hb : Backs e .input s x)
    (frames : List Int16) :
    e.feed frames = (some .stop, { e with host := e.host.setRunning s.id false }) := by
  have hrefuses : (e.line.state x.callback.direction).refusesAudio = true := by
    have hline : e.line.state .input = .error := herr
    rw [hb.handler, hline]
    rfl
  exact feed_of_running hnewest hb (Handler.capture_of_refuses hrefuses frames)

/-- **Capturing on an open engine.** Nothing runs, or the input has failed and refuses, or it takes
the period over into the channel, or it faults over the length of the buffer and empties it. -/
theorem feed_of_open (h : Open e) (frames : List Int16) :
    ∃ r e', e.feed frames = (r, e') ∧ Disturbs .input e e' ∧ Open e'
      ∧ ((r = none ∧ e' = e)
        ∨ (r = some .stop ∧ e.state .input = .error ∧ e'.line = e.line)
        ∨ (r = some .proceed ∧ e.state .input = .running
            ∧ frames.length = e.config.period.samples
            ∧ ∃ c, e'.line.channel = some c ∧ c.samples = frames)
        ∨ (r = some .stop ∧ e.state .input = .running
            ∧ frames.length ≠ e.config.period.samples
            ∧ e'.line.channel = e.line.channel.map Channel.reset)) := by
  obtain ⟨s, hs⟩ := h.occupied .input
  obtain ⟨c, hc, hlen⟩ := h.channel
  rcases hs.newestRunning? with hnone | ⟨x, hrun, hb, hrunning | herror⟩
  · exact ⟨none, e, feed_of_idle hnone frames, .refl _ e, h, Or.inl ⟨rfl, rfl⟩⟩
  · have hline : e.line.state x.callback.direction = .running := by
      rw [hb.handler]
      exact hrunning
    rw [← hb.period] at hlen
    -- the input runs: the buffer is one period and proceeds, or it faults
    by_cases hframes : frames.length = e.config.period.samples
    · obtain ⟨c', heard, hsamples, hcapture⟩ :=
        Handler.capture_of_length hline (hs.admits hb) hc hlen (hb.period ▸ hframes)
      have hlen' : c'.length = c.length := by
        rw [hlen, hb.period, ← hframes, ← hsamples]
        rfl
      obtain ⟨hd, hopen⟩ := h.passed .input hc hlen' heard
      exact ⟨_, _, feed_of_running hrun hb hcapture, hd, hopen,
        Or.inr (Or.inr (Or.inl ⟨rfl, hrunning, hframes, c', rfl, hsamples⟩))⟩
    · obtain ⟨hd, hopen⟩ := h.stopped hs (Link.report_listening _ _) (Link.report_attached _ _)
        fun c hc => channel_reset hc
      exact ⟨_, _, feed_of_misfit h hrunning hrun hb hs hframes, hd, hopen,
        Or.inr (Or.inr (Or.inr ⟨rfl, hrunning, hframes, rfl⟩))⟩
  · obtain ⟨hd, hopen⟩ := h.refused hs herror
    exact ⟨_, _, feed_of_failed herror hrun hb frames, hd, hopen,
      Or.inr (Or.inl ⟨rfl, herror, rfl⟩)⟩

/-! ## Playing -/

/-- A device that asks while no output runs calls nobody, and its buffer keeps its content. -/
theorem draw_of_idle (h : e.host.newestRunning? .output = none) (dest : List Int16) :
    e.draw dest = (none, dest, e) := by
  unfold Engine.draw SimulatedHost.draw
  rw [h]

theorem draw_of_closed (h : Closed e) (dest : List Int16) : e.draw dest = (none, dest, e) :=
  draw_of_idle (newestRunning?_of_nil (h.vacant .output).live) dest

/-- A buffer for a running output is filled by the callback of its stream, from the channel of the
line. Whether the stream goes on running is up to the verdict of the callback (`answered`). -/
theorem draw_of_running (hrun : e.host.newestRunning? .output = some x)
    (hb : Backs e .output s x) {dest dest' : List Int16} {v : Verdict} {line : Line}
    (hrender : x.callback.render x.properties dest.length e.line = (v, dest', line)) :
    e.draw dest = (some v, dest', { e with host := e.host.answered s.id v, line }) := by
  have howner : StreamOwner.render x.callback x.properties dest.length e.line = (v, dest', line) :=
    hrender
  unfold Engine.draw SimulatedHost.draw
  rw [hrun]
  simp only [hb.side, hb.id, howner]

/-- **A period that a running output plays** is what the channel holds, and the observer of its
stream is given it as well. As for a capture, the observer is that of the handler which was left
with the stream. -/
theorem draw_of_consume (h : Open e) (hrun : e.state .output = .running) {dest : List Int16}
    (hdest : dest.length = e.config.period.samples) {c c' : Channel}
    (hc : e.line.channel = some c) {freshness : Freshness} {frames : List Int16}
    (hconsume : c.consume dest.length = .ok (freshness, frames, c')) :
    ∃ x ∈ e.host.live .output, e.draw dest = (some .proceed, frames, { e with
      line := { e.line with channel := some c' }.notify x.callback.observer .output frames }) := by
  obtain ⟨s, hs⟩ := h.occupied .output
  obtain ⟨x, hnewest, hb⟩ := hs.newestRunning_of_running hrun
  have hline : e.line.state x.callback.direction = .running := by
    rw [hb.handler]
    exact hrun
  have hrender := Handler.render_of_consume hline (hs.admits hb) hc (hb.period ▸ hdest) hconsume
  exact ⟨x, mem_of_newestRunning? hnewest, draw_of_running hnewest hb hrender⟩

/-- **A destination of the wrong length** fails a running output and gets silence. The channel is
not emptied, as it is when an input fails. The event tells how many bytes a period has and how many
were asked for. -/
theorem draw_of_misfit (h : Open e) (hrun : e.state .output = .running)
    (hnewest : e.host.newestRunning? .output = some x) (hb : Backs e .output s x)
    (hs : Occupied e .output s) {dest : List Int16}
    (hdest : dest.length ≠ e.config.period.samples) :
    e.draw dest = (some .stop, Handler.silence dest.length, { e with
      host := e.host.setRunning s.id false
      line := { e.line with
        states := e.line.states.set .output .error
        link := e.line.link.report
          (.fault .output e.config.period.bytes (dest.length * sampleBytes)) } }) := by
  obtain ⟨c, hc, _⟩ := h.channel
  have hline : e.line.state x.callback.direction = .running := by
    rw [hb.handler]
    exact hrun
  have hrender := Handler.render_of_length_ne hline (hs.admits hb) hc (hb.period ▸ hdest)
  rw [Handler.fault_eq (Or.inr (Or.inl hline)), hb.handler, if_neg (by simp), hb.period] at hrender
  exact draw_of_running hnewest hb hrender

/-- A failed output whose stream still runs plays silence, and the stream rests from then on. No
event is queued for it: the failure was reported when it happened. -/
theorem draw_of_failed (herr : e.state .output = .error)
    (hnewest : e.host.newestRunning? .output = some x) (hb : Backs e .output s x)
    (dest : List Int16) :
    e.draw dest = (some .stop, Handler.silence dest.length,
      { e with host := e.host.setRunning s.id false }) := by
  have hrefuses : (e.line.state x.callback.direction).refusesAudio = true := by
    have hline : e.line.state .output = .error := herr
    rw [hb.handler, hline]
    rfl
  exact draw_of_running hnewest hb (Handler.render_of_refuses hrefuses dest.length)

/-- **Playing on an open engine.** Nothing runs, and the destination stays; or the output proceeds
and plays what the channel holds; or it stops, refusing or faulting, and plays silence. The channel
holds afterwards what it held before. -/
theorem draw_of_open (h : Open e) (dest : List Int16) :
    ∃ r dest' e', e.draw dest = (r, dest', e') ∧ Disturbs .output e e' ∧ Open e'
      ∧ e'.line.channel.map Channel.samples = e.line.channel.map Channel.samples
      ∧ ((r = none ∧ dest' = dest)
        ∨ (r = some .proceed ∧ dest.length = e.config.period.samples
            ∧ e.line.channel.map Channel.samples = some dest')
        ∨ (r = some .stop ∧ dest' = Handler.silence dest.length)) := by
  obtain ⟨s, hs⟩ := h.occupied .output
  obtain ⟨c, hc, hlen⟩ := h.channel
  rcases hs.newestRunning? with hnone | ⟨x, hrun, hb, hrunning | herror⟩
  · exact ⟨none, dest, e, draw_of_idle hnone dest, .refl _ e, h, rfl, Or.inl ⟨rfl, rfl⟩⟩
  · have hline : e.line.state x.callback.direction = .running := by
      rw [hb.handler]
      exact hrunning
    rw [← hb.period] at hlen
    by_cases hdest : dest.length = e.config.period.samples
    · obtain ⟨c', heard, hsamples, hrender⟩ :=
        Handler.render_of_length hline (hs.admits hb) hc hlen (hb.period ▸ hdest)
      -- what was consumed stays readable, so the channel has its length from its samples
      have hlen' : c'.length = c.length := by
        unfold Channel.length
        rw [hsamples]
      obtain ⟨hd, hopen⟩ := h.passed .output hc hlen' heard
      refine ⟨_, _, _, draw_of_running hrun hb hrender, hd, hopen, ?_,
        Or.inr (Or.inl ⟨rfl, hdest, ?_⟩)⟩
      · rw [hc]
        exact congrArg some hsamples
      · rw [hc]
        rfl
    · have hkept : ∀ c, e.line.channel = some c →
          ∃ c', e.line.channel = some c' ∧ c'.length = c.length := fun c hc => ⟨c, hc, rfl⟩
      obtain ⟨hd, hopen⟩ :=
        h.stopped hs (Link.report_listening _ _) (Link.report_attached _ _) hkept
      exact ⟨_, _, _, draw_of_misfit h hrunning hrun hb hs hdest, hd, hopen, rfl,
        Or.inr (Or.inr ⟨rfl, rfl⟩)⟩
  · obtain ⟨hd, hopen⟩ := h.refused hs herror
    exact ⟨_, _, _, draw_of_failed herror hrun hb dest, hd, hopen, rfl, Or.inr (Or.inr ⟨rfl, rfl⟩)⟩

/-! ## Losing a device -/

/-- Without a live stream there is no device to lose: nothing is reported, and the engine is as it
was. -/
theorem unplug_of_idle (h : e.host.live d = []) (error : HostError) :
    e.unplug d error = (false, e) := by
  unfold Engine.unplug SimulatedHost.unplug
  rw [h]
  rfl

/-- A lost device takes the stream of its side, which fails; the engine is told by an event. What
the channel holds stays, so that a replaced output can go on with it. -/
theorem unplug_of_backed (hs : Occupied e d s) (hx : e.host.live d = [x]) (hb : Backs e d s x)
    (error : HostError) :
    e.unplug d error = (true, { e with
      host := e.host.remove s.id
      line := { e.line with
        states := e.line.states.set d .error
        link := e.line.link.report (.disconnected x.properties.direction error) } }) := by
  have hline : e.line.state x.callback.direction = .opened
      ∨ e.line.state x.callback.direction = .running
      ∨ e.line.state x.callback.direction = .error := by
    rw [hb.handler]
    exact hs.state
  -- the callback hears of the loss on behalf of its own side, whatever the stream was opened as
  have hclose := Handler.afterClose_eq (p := x.properties) hline error
  rw [hb.handler] at hclose
  have howner : StreamOwner.afterClose x.callback x.properties error e.line = _ := hclose
  unfold Engine.unplug SimulatedHost.unplug
  rw [hx]
  simp only [List.getLast?_singleton, hb.id]
  rw [← howner]
  rfl

/-- **Losing a device of an open engine** disturbs one side; what has been captured stays. Where the
stream is gone already, nothing happens at all. -/
theorem unplug_of_open (h : Open e) (d : Direction) (error : HostError) :
    ∃ e', (e.unplug d error).2 = e' ∧ Disturbs d e e' ∧ Open e'
      ∧ e'.line.channel = e.line.channel := by
  obtain ⟨s, hs⟩ := h.occupied d
  -- a stream that is gone cannot be lost again
  rcases hs.live with ⟨x, hx, hb⟩ | ⟨hnil, _⟩
  · refine ⟨_, congrArg Prod.snd (unplug_of_backed hs hx hb error), ?_⟩
    have hd : Disturbs d e { e with
        host := e.host.remove s.id
        line := { e.line with
          states := e.line.states.set d .error
          link := e.line.link.report (.disconnected x.properties.direction error) } } :=
      ⟨rfl, rfl, rfl, Link.report_listening _ _, Link.report_attached _ _, rfl, rfl,
        follows_remove _ _, Or.inr (Duplex.get_set _ _ _),
        fun d' hne => ⟨Duplex.get_set_ne _ _ hne, rfl, live_remove_of_ne (hs.id_ne hne), rfl⟩,
        fun c hc => ⟨c, hc, rfl⟩⟩
    refine ⟨hd, h.of_disturbs hd fun s' hs' => ?_, rfl⟩
    rw [hs'.handle_eq hs]
    exact hs.lost.frame ⟨rfl, rfl, rfl, rfl⟩ rfl (.refl _)
  · exact ⟨e, congrArg Prod.snd (unplug_of_idle hnil error), .refl d e, h, rfl⟩

end Engine

end Passthrough
