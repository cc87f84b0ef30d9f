import Passthrough.Proofs.Engine.Fitted
/-!
# Whole periods, whatever the device

Runs of an engine on a desktop machine. The devices exchange buffers of any size in either format,
report errors, come and go, and the owner makes its calls; nothing restricts the order.

What the framers hand to the callbacks is written down beside the line (`noting`), by an owner of
streams that answers as the line does. So what is written down in an exchange is what is handed over
when the engine makes the same exchange.

* **`notedCapture_exchanging`**, **`notedRender_exchanging`** — an exchange hands over whole periods
  only, and leaves nothing to report.
* **`after_fitted`** — the streams fit after every run.
* **`whole_periods`** — so nothing faults in any run.
-/

namespace Passthrough

open EngineM Desktop DesktopHost

/-! ## Runs -/

/-- One step of a run on a desktop machine. -/
inductive DesktopAction
  | call (c : Call)
  /-- The device captures a buffer. -/
  | capture (buffer : Buffer)
  /-- The device asks for a buffer of this many samples. -/
  | render (length : Nat)
  | reportError (d : Direction) (error : DeviceError)
  /-- The machine has other devices from now on. -/
  | rewire (world : World)
  /-- The observers collect what they were given. -/
  | collect

/-- What a framer hands to the callbacks of a stream. -/
structure Handed where
  handler : Handler
  stream : StreamInfo
  /-- How many samples the slice has. -/
  length : Nat
  deriving DecidableEq

/-- The line, with a note of everything that is handed to a callback. -/
@[reducible]
def noting : StreamOwner Handler (Line × List Handed) where
  capture h p frames s :=
    let (verdict, line) := h.capture p frames s.1
    (verdict, line, s.2 ++ [⟨h, p, frames.length⟩])
  render h p length s :=
    let (verdict, frames, line) := h.render p length s.1
    (verdict, frames, line, s.2 ++ [⟨h, p, length⟩])
  beforeClose h p error s := (h.beforeClose p error s.1, s.2)
  afterClose h p error s := (h.afterClose p error s.1, s.2)

/-- **A whole period**, for the callbacks of a direction: as many samples as the period of the
configuration has, on a stream at the rate and with the channels that were asked for. -/
structure Handed.Whole (c : Config) (d : Direction) (n : Handed) : Prop where
  direction : n.handler.direction = d
  sampleRate : n.stream.sampleRate = c.sampleRate
  channelCount : n.stream.channelCount = c.channelCount
  length : n.length = c.period.samples

namespace DesktopEngine

/-- The engine after one step. -/
def perform (a : DesktopAction) (e : DesktopEngine) : DesktopEngine :=
  match a with
  | .call c => e.call c
  | .capture buffer => (e.capture buffer).2
  | .render length => (e.render length).2
  | .reportError d error => (e.reportError d error).2
  | .rewire world => { e with host := { e.host with world } }
  | .collect => { e with line := e.line.takeHeard.2 }

/-- The engine after a run. -/
def after (e : DesktopEngine) (as : List DesktopAction) : DesktopEngine :=
  as.foldl (fun e a => perform a e) e

/-- What capturing a buffer comes to, and what is handed over meanwhile. -/
def notedCapture (buffer : Buffer) (e : DesktopEngine) :
    Exchange Unit × DesktopHost Handler × Line × List Handed :=
  @DesktopHost.capture _ _ noting buffer e.host (e.line, [])

/-- What playing a buffer comes to, and what is handed over meanwhile. -/
def notedRender (length : Nat) (e : DesktopEngine) :
    Exchange Buffer × DesktopHost Handler × Line × List Handed :=
  @DesktopHost.render _ _ noting length e.host (e.line, [])

variable {e : DesktopEngine}

/-- An engine makes the exchange that is noted. The owner who notes what is handed over answers as
the line does, so that `capture_through` applies with the notes left out. -/
theorem capture_eq_noted (buffer : Buffer) (e : DesktopEngine) :
    e.capture buffer = ((notedCapture buffer e).1, { e with
      host := (notedCapture buffer e).2.1, line := (notedCapture buffer e).2.2.1 }) := by
  have hnoted := capture_through noting inferInstance (π := Prod.fst) (fun _ _ _ _ => rfl) buffer
    e.host (e.line, [])
  unfold Engine.capture
  rw [hnoted]
  rfl

theorem render_eq_noted (length : Nat) (e : DesktopEngine) :
    e.render length = ((notedRender length e).1, { e with
      host := (notedRender length e).2.1, line := (notedRender length e).2.2.1 }) := by
  have hnoted := render_through noting inferInstance (π := Prod.fst) (fun _ _ _ _ => rfl) length
    e.host (e.line, [])
  unfold Engine.render
  rw [hnoted]
  rfl

/-! ## Exchanges -/

/-- While a device exchanges a buffer: nothing is to be reported, and whole periods have been handed
over. -/
structure Exchanging (e : DesktopEngine) (d : Direction) (s : Line × List Handed) : Prop where
  undisturbed : e.line.Undisturbed s.1
  whole : ∀ n ∈ s.2, n.Whole e.config d

theorem exchanging_start (e : DesktopEngine) (d : Direction) : Exchanging e d (e.line, []) :=
  ⟨.refl e.line, by simp⟩

/-- One slice more, which is a period long. What is said of it is read off the stream, which fits
the configuration: its direction, its rate and its channels. -/
theorem Exchanging.hand {d : Direction} {s : Line × List Handed} (hs : Exchanging e d s)
    {x : DeviceStream Handler} (hfits : x.Fits e.config.period) (hside : x.side = d) {length : Nat}
    (hlength : length = e.config.period.samples) {line : Line} (hline : s.1.Undisturbed line) :
    Exchanging e d (line, s.2 ++ [⟨x.callback, x.properties, length⟩]) where
  undisturbed := hs.undisturbed.trans hline
  whole n hn := by
    rcases List.mem_append.mp hn with hold | hnew
    · exact hs.whole n hold
    · rw [List.mem_singleton.mp hnew]
      exact ⟨hfits.direction.trans hside, hfits.admitted.sampleRate, hfits.admitted.channelCount,
        hlength⟩

/-- The channel takes the periods of a live stream, during an exchange too. -/
theorem channel_fits (h : e.Fitted) {d : Direction} {s : Line × List Handed}
    (hs : Exchanging e d s) {x : DeviceStream Handler} (hx : x ∈ e.host.streams) :
    x.callback.period.TakenBy s.1.channel := by
  obtain ⟨held, hheld, _⟩ := h.held x hx
  rw [(h.streams x hx).period]
  exact hs.undisturbed.takes (h.handles x.side held hheld).channel

/-- **Capturing a buffer** of any size. By `capture_keeps` it is enough to look at one slice of one
period, which is `Exchanging.hand`. -/
theorem notedCapture_exchanging (h : e.Fitted) (buffer : Buffer) :
    Retunes e.host (notedCapture buffer e).2.1
      ∧ Exchanging e .input (notedCapture buffer e).2.2 := by
  refine @capture_keeps _ _ noting (Exchanging e .input) buffer e.host _
    (exchanging_start e .input) fun x hx hside frames s hframes hs => ?_
  have hfits := h.streams x hx
  have hlength : frames.length = e.config.period.samples := hframes.trans hfits.input
  refine hs.hand hfits hside hlength ?_
  exact Handler.capture_undisturbed (hfits.period ▸ hfits.admitted) (channel_fits h hs hx)
    (hfits.period ▸ hlength)

/-- **Playing a buffer** of any size. By `render_keeps` the callback is asked for one period at a
time. -/
theorem notedRender_exchanging (h : e.Fitted) (length : Nat) :
    Retunes e.host (notedRender length e).2.1
      ∧ Exchanging e .output (notedRender length e).2.2 := by
  refine @render_keeps _ _ noting (Exchanging e .output) length e.host _
    (exchanging_start e .output) fun x hx hside s hs => ?_
  have hfits := h.streams x hx
  refine hs.hand hfits hside hfits.output ?_
  exact Handler.render_undisturbed (hfits.period ▸ hfits.admitted) (channel_fits h hs hx)
    (hfits.period ▸ hfits.output)

/-! ## Every step -/

theorem fitted_of_exchanging (h : e.Fitted) {d : Direction} {host : DesktopHost Handler}
    (hhost : Retunes e.host host) {s : Line × List Handed} (hs : Exchanging e d s) :
    Engine.Fitted { e with host, line := s.1 } := by
  refine h.of_retunes hhost rfl rfl (fun d hd => ?_) hs.undisturbed.takes fun event hevent => ?_
  · show s.1.states.get d ≠ .closed
    rwa [hs.undisturbed.states]
  · rw [hs.undisturbed.link] at hevent
    exact Or.inl hevent

theorem capture_fitted (h : e.Fitted) (buffer : Buffer) : (e.capture buffer).2.Fitted := by
  obtain ⟨hhost, hs⟩ := notedCapture_exchanging h buffer
  rw [capture_eq_noted]
  exact fitted_of_exchanging h hhost hs

theorem render_fitted (h : e.Fitted) (length : Nat) : (e.render length).2.Fitted := by
  obtain ⟨hhost, hs⟩ := notedRender_exchanging h length
  rw [render_eq_noted]
  exact fitted_of_exchanging h hhost hs

theorem reportError_fitted (h : e.Fitted) (d : Direction) (error : DeviceError) :
    (e.reportError d error).2.Fitted := by
  obtain ⟨hhost, hline⟩ := reportError_keeps d error e.host (Line.Loses.refl e.line)
    fun x _ => Handler.afterClose_loses x.callback x.properties .disconnected e.line
  exact h.of_retunes hhost rfl rfl hline.state (fun hc => hline.channel ▸ hc) hline.untold

/-- **Every step** leaves streams that fit. Calls are settled by `lastingInvariant_fitted`; the rest
leaves the handles alone and the streams alike. -/
theorem perform_fitted (h : e.Fitted) (a : DesktopAction) : (perform a e).Fitted := by
  cases a with
  | call c =>
    refine lastingInvariant_fitted.call h c fun observer _ => ?_
    exact h.of_retunes (.refl e.host) rfl rfl (fun _ => id) id fun _ => Or.inl
  | capture buffer => exact capture_fitted h buffer
  | render length => exact render_fitted h length
  | reportError d error => exact reportError_fitted h d error
  | rewire world =>
    exact h.of_retunes (fun x hx => ⟨x, hx, .refl x⟩) rfl rfl (fun _ => id) id fun _ => Or.inl
  | collect => exact h.of_retunes (.refl e.host) rfl rfl (fun _ => id) id fun _ => Or.inl

/-- **Every run** does. -/
theorem after_fitted (h : e.Fitted) (as : List DesktopAction) : (after e as).Fitted := by
  induction as generalizing e with
  | nil => exact h
  | cons a as ih => exact ih (perform_fitted h a)

/-- **No fault on a desktop.** From any options that pass, on any devices, after any run:

* what the host opens passes the check of the engine;
* a device that captures or plays a buffer of any size makes its framer hand over whole periods
  only, on streams of the rate and the channels configured; nothing is reported by it, and every
  sample finds its place;
* no fault waits for the engine. -/
theorem whole_periods {options : Options} {config : Config}
    (haccepted : Config.ofOptions options = .ok config) (world : World) (recovery : Recovery)
    (noticeCapacity : Nat) (as : List DesktopAction) :
    let e : DesktopEngine := after (Engine.create { world } config recovery noticeCapacity) as
    (∀ d rate callback s host,
        DesktopHost.openStream d (e.config.spec d rate) callback e.host = (.opened s, host) →
          checkFit e.config.period rate s.properties = .ok ())
      ∧ (∀ buffer, ∃ answer host line handed,
          notedCapture buffer e = (answer, host, line, handed)
            ∧ e.capture buffer = (answer, { e with host, line })
            ∧ (∀ n ∈ handed, n.Whole e.config .input)
            ∧ e.line.Undisturbed line ∧ answer ≠ .noPlace)
      ∧ (∀ length, ∃ answer host line handed,
          notedRender length e = (answer, host, line, handed)
            ∧ e.render length = (answer, { e with host, line })
            ∧ (∀ n ∈ handed, n.Whole e.config .output)
            ∧ e.line.Undisturbed line ∧ answer ≠ .noPlace)
      ∧ ∀ event ∈ e.line.link.pending, event.isFault = false := by
  intro e
  have h : e.Fitted :=
    after_fitted (Engine.fitted_create (Config.accepted_of_ofOptions haccepted) world recovery
      noticeCapacity) as
  refine ⟨fun d rate callback s host hopened => ?_, fun buffer => ?_, fun length => ?_, h.untold⟩
  · -- what the host opens is what the plan for the request asks of it
    rcases openStream_cases d (e.config.spec d rate) callback e.host
      with ⟨source, hask⟩ | ⟨s', x, host', hask, _, hopens⟩
    · rw [hask] at hopened
      cases hopened
    · rw [hask] at hopened
      cases hopened
      exact hopens.checkFit h.modest
  · -- the framer is followed through the buffer with a note of what it hands over
    obtain ⟨_, hs⟩ := notedCapture_exchanging h buffer
    refine ⟨_, _, _, _, rfl, capture_eq_noted buffer e, hs.whole, hs.undisturbed, ?_⟩
    exact @capture_ne_noPlace _ _ noting buffer e.host _ fun x hx =>
      (h.streams x hx).input ▸ h.samples_pos
  · obtain ⟨_, hs⟩ := notedRender_exchanging h length
    refine ⟨_, _, _, _, rfl, render_eq_noted length e, hs.whole, hs.undisturbed, ?_⟩
    exact @render_ne_noPlace _ _ noting length e.host _ fun x hx =>
      (h.streams x hx).output ▸ h.samples_pos

/-- One microphone and one loudspeaker, mono at 8000 Hz. -/
def monoDevices : World where
  devices := .both [{ isDefault := true, ranges := [⟨1, 8000, 8000, .i16, none⟩] }]

/-- A run that switches the pass-through on and captures less than a period. -/
def partlyCaptured : List DesktopAction :=
  [.call (.switch true), .capture (.i16 [1, 2, 3, 4, 5])]

/-- A millisecond at 8000 Hz is eight samples. With the five captured before, a buffer of twelve
makes two periods, and one sample is kept. The lengths are computed; that the periods are whole is
the theorem at this run. -/
theorem whole_periods_partlyCaptured :
    let config : Config := { sampleRate := 8000, periodMs := 1 }
    let e : DesktopEngine := after (Engine.create { world := monoDevices } config) partlyCaptured
    let handed := (notedCapture (.i16 (List.replicate 12 6)) e).2.2.2
    Config.ofOptions { sampleRate := 8000, periodLenMs := 1 } = .ok config
      ∧ handed.map Handed.length = [8, 8] ∧ ∀ n ∈ handed, n.Whole e.config .input := by
  have haccepted : Config.ofOptions { sampleRate := 8000, periodLenMs := 1 }
    = .ok { sampleRate := 8000, periodMs := 1 } := rfl
  refine ⟨haccepted, by decide +kernel, ?_⟩
  obtain ⟨_, hcapture, _⟩ := whole_periods haccepted monoDevices .manual 64 partlyCaptured
  obtain ⟨_, _, _, _, hnoted, _, hwhole, _⟩ := hcapture (.i16 (List.replicate 12 6))
  rw [hnoted]
  exact hwhole

end DesktopEngine

end Passthrough
