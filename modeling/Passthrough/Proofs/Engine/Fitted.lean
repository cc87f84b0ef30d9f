import Passthrough.Engine.Desktop
import Passthrough.Proofs.Config.Accepted
import Passthrough.Proofs.Engine.Lasting
import Passthrough.Proofs.Host.Desktop.Framing
/-!
# Streams that fit, on a desktop

On a desktop machine the size of a period is computed in four places: from the options, where a
device configuration is chosen for a stream, for the framers of the stream, and by its callbacks.
`Fitted` says that the four agree on every live stream, and that the channel between the streams
takes such periods.

* **`Opens.checkFit`** — the engine accepts every stream that this host opens.
* **`openSide_fitted`** — what it accepts fits, if it was asked for at the configured rate.
* **`lastingInvariant_fitted`** — so `Fitted` lasts through every call.
-/

namespace Passthrough

open EngineM Desktop

/-! ## Streams -/

/-- **A stream that fits**: its properties, its framers and its callbacks have one period. -/
structure Desktop.DeviceStream.Fits (f : PeriodFormat) (x : DeviceStream Handler) : Prop where
  direction : x.callback.direction = x.side
  period : x.callback.period = f
  admitted : f.Admits x.properties
  input : x.input.period = f.samples
  output : x.output.period = f.samples

namespace DesktopHost

variable {c : Config} {d : Direction} {rate : Nat} {s : StreamHandle}

/-- Streams that differ only in what their framers hold fit alike. -/
theorem Alike.fits {f : PeriodFormat} {x y : DeviceStream Handler} (h : Alike x y)
    (hx : x.Fits f) : y.Fits f where
  direction := by rw [h.callback, h.side, hx.direction]
  period := by rw [h.callback, hx.period]
  admitted := h.properties ▸ hx.admitted
  input := h.input.trans hx.input
  output := h.output.trans hx.output

/-- **What opens is accepted**, whatever the device offers and whichever rate was asked for: rate
and channels are those of the request, and there is room for two periods. -/
theorem Opens.checkFit {κ : Type} {callback : κ} {x : DeviceStream κ}
    (h : Opens d (c.spec d rate) callback s x) (hmodest : c.period.Modest) :
    EngineM.checkFit c.period rate s.properties = .ok () := by
  have hrate : x.properties.sampleRate = rate := h.sampleRate
  have hchannels : x.properties.channelCount = c.period.channelCount := h.channelCount
  have hroom : c.period.bytes ≤ c.period.bufferBytes x.properties.bufferCapacityFrames := by
    rw [h.capacity, Config.periodFrames_spec hmodest d rate (by decide)]
    exact c.period.bytes_le_bufferBytes (by decide)
  rw [h.properties]
  unfold EngineM.checkFit
  simp [hrate, hchannels, Nat.not_lt.mpr hroom]

/-- A stream that opens at the configured rate fits: the plan that was made for it has the rate and
the channels of the request, and room for whole periods. -/
theorem Opens.fits {callback : Handler} {x : DeviceStream Handler}
    (h : Opens d (c.spec d c.period.sampleRate) callback s x) (hmodest : c.period.Modest)
    (hdirection : callback.direction = d) (hperiod : callback.period = c.period) :
    x.Fits c.period where
  direction := by rw [h.callback, h.side, hdirection]
  period := by rw [h.callback, hperiod]
  admitted := h.properties ▸ (checkFit_eq_ok_iff c.period s.properties).mp (h.checkFit hmodest)
  input := h.input
  output := h.output

end DesktopHost

namespace Engine

open DesktopHost

variable {e e' : DesktopEngine} {d : Direction} {s : StreamHandle}

/-! ## The invariant -/

/-- **A handle that fits**: it is not closed and neither is its side, and its stream and the channel
have the period of the configuration. -/
structure HandleFits (e : DesktopEngine) (d : Direction) (s : StreamHandle) : Prop where
  unclosed : s.closed = false
  state : e.state d ≠ .closed
  admitted : e.config.period.Admits s.properties
  channel : e.config.period.TakenBy e.line.channel

/-- **An engine whose streams fit.** -/
structure Fitted (e : DesktopEngine) : Prop where
  streams : ∀ x ∈ e.host.streams, x.Fits e.config.period
  /-- The host has no stream that the engine does not hold. -/
  held : ∀ x ∈ e.host.streams, ∃ s, e.streams.get x.side = some s ∧ s.id = x.number
  handles : ∀ d s, e.streams.get d = some s → HandleFits e d s
  samples_pos : 0 < e.config.period.samples
  modest : e.config.period.Modest
  untold : ∀ event ∈ e.line.link.pending, event.isFault = false

/-- An engine that is new, with an accepted configuration, has no streams that could fail to fit.
Its periods have samples, and not too many for a word (`Accepted.samples_pos`, `Accepted.modest`),
which is all that `Fitted` asks of it. -/
theorem fitted_create {config : Config} (hconfig : config.Accepted) (world : World)
    (recovery : Recovery) (noticeCapacity : Nat) :
    Fitted (create { world } config recovery noticeCapacity) where
  streams _ hx := by cases hx
  held _ hx := by cases hx
  handles d s hs := by cases d <;> cases hs
  samples_pos := hconfig.samples_pos
  modest := hconfig.modest
  untold _ hevent := by cases hevent

/-! ## What is left alone -/

/-- A handle that fits goes on to fit while its side is not closed, the period stays, and the
channel takes what it took. The hypotheses are about the side of the handle alone, so that it
applies to both sides of any change. -/
theorem HandleFits.frame (h : HandleFits e d s) (hstate : e'.state d ≠ .closed)
    (hperiod : e'.config.period = e.config.period)
    (hchannel : e.config.period.TakenBy e.line.channel →
      e.config.period.TakenBy e'.line.channel) : HandleFits e' d s where
  unclosed := h.unclosed
  state := hstate
  admitted := hperiod ▸ h.admitted
  channel := hperiod ▸ hchannel h.channel

/-- **A change that fits**: the handles and the period stay, the streams are alike, no side that
holds a handle closes, and the channel goes on taking the same periods. -/
theorem Fitted.of_retunes (h : Fitted e) (hhost : Retunes e.host e'.host)
    (hstreams : e'.streams = e.streams) (hperiod : e'.config.period = e.config.period)
    (hstate : ∀ d, e.state d ≠ .closed → e'.state d ≠ .closed)
    (hchannel : e.config.period.TakenBy e.line.channel →
      e.config.period.TakenBy e'.line.channel)
    (huntold : ∀ event ∈ e'.line.link.pending,
      event ∈ e.line.link.pending ∨ event.isFault = false) : Fitted e' where
  streams y hy := by
    obtain ⟨x, hx, halike⟩ := hhost y hy
    rw [hperiod]
    exact halike.fits (h.streams x hx)
  held y hy := by
    obtain ⟨x, hx, halike⟩ := hhost y hy
    rw [hstreams, halike.side, halike.number]
    exact h.held x hx
  handles d s hs := by
    rw [hstreams] at hs
    have hfits := h.handles d s hs
    exact hfits.frame (hstate d hfits.state) hperiod hchannel
  samples_pos := hperiod ▸ h.samples_pos
  modest := hperiod ▸ h.modest
  untold event hevent := (huntold event hevent).elim (h.untold event) id

/-- Where nothing is held the host has no stream, because every stream of a fitted engine is
held. -/
theorem Fitted.no_streams (h : Fitted e) (hnone : ∀ d, e.streams.get d = none) :
    e.host.streams = [] := by
  refine List.eq_nil_iff_forall_not_mem.mpr fun x hx => ?_
  obtain ⟨s, hs, _⟩ := h.held x hx
  rw [hnone] at hs
  cases hs

/-- While nothing is held, the configuration and the channel are free to change, as long as periods
have a positive and modest size. The host has no stream either then (`no_streams`), so that nothing
is left that could fail to fit. -/
theorem Fitted.of_unheld (h : Fitted e) (hunheld : e.holdsStreams = false) {config : Config}
    (hpos : 0 < config.period.samples) (hmodest : config.period.Modest) {line : Line}
    (hpending : line.link.pending = e.line.link.pending) : Fitted { e with config, line } := by
  have hnone := get_eq_none_of_unheld hunheld
  have hempty := h.no_streams hnone
  exact {
    streams := by simp [hempty]
    held := h.held
    handles := fun d s hs => by
      rw [hnone] at hs
      cases hs
    samples_pos := hpos
    modest := hmodest
    untold := hpending ▸ h.untold }

/-! ## The sides -/

/-- A side that goes on in another state keeps its stream, and that fits as before. The new state
must not be `closed`, as a side that is closed holds nothing. -/
theorem Fitted.restate (h : Fitted e) {host : DesktopHost Handler} (hhost : Retunes e.host host)
    {t : StreamState} (ht : t ≠ .closed) :
    Fitted { e with host, line := e.line.setState d t } := by
  refine h.of_retunes hhost rfl rfl (fun d' hd' => ?_) id fun _ => Or.inl
  show (e.line.setState d t).state d' ≠ .closed
  by_cases hd : d' = d
  · rw [hd, Line.state_setState]
    exact ht
  · rw [Line.state_setState_ne _ _ hd]
    exact hd'

/-- A handle of the other side is not touched by a side that opens or closes. The host may have
changed as it likes, because `HandleFits` does not speak of it. -/
theorem Fitted.handle_of_ne (h : Fitted e) {d' : Direction} (hd : d' ≠ d)
    (hs : e.streams.get d' = some s) {host : DesktopHost Handler} {held : Option StreamHandle}
    {t : StreamState} {board : NoticeBoard} : HandleFits { e with
      host, streams := e.streams.set d held, line := e.line.setState d t, board } d' s := by
  refine (h.handles d' s hs).frame ?_ rfl id
  show (e.line.setState d t).state d' ≠ .closed
  rw [Line.state_setState_ne _ _ hd]
  exact (h.handles d' s hs).state

/-- **A side closes**, and what it held goes, from the host as well: no stream is left that nobody
holds. A stream that stays is of the other side, whose handle is as it was
(`Fitted.handle_of_ne`). -/
theorem Fitted.closed (h : Fitted e) {host : DesktopHost Handler}
    (hhost : ∀ x ∈ host.streams, x ∈ e.host.streams ∧ ∀ s, e.streams.get d = some s →
      x.number ≠ s.id) : Fitted { e with
        host, streams := e.streams.set d none, line := e.line.setState d .closed } where
  streams x hx := h.streams x (hhost x hx).1
  held x hx := by
    obtain ⟨hmem, hnumber⟩ := hhost x hx
    obtain ⟨s, hs, hid⟩ := h.held x hmem
    -- a stream of this side would have the number that is gone
    have hne : x.side ≠ d := by
      intro hd
      rw [hd] at hs
      exact hnumber s hs hid.symm
    exact ⟨s, (Duplex.get_set_ne _ _ hne).trans hs, hid⟩
  handles d' s hs := by
    by_cases hd : d' = d
    · rw [hd, Duplex.get_set] at hs
      cases hs
    · rw [Duplex.get_set_ne _ _ hd] at hs
      exact h.handle_of_ne hd hs
  samples_pos := h.samples_pos
  modest := h.modest
  untold := h.untold

/-- **A side opens** at the configured rate, over a channel that takes its periods; the stream that
has been opened is the one new thing to look at. -/
theorem Fitted.opened (h : Fitted e) (hs : e.streams.get d = none) {x : DeviceStream Handler}
    (hopens : Opens d (e.config.spec d e.config.period.sampleRate) (handlerFor d e) s x)
    {host : DesktopHost Handler} (hhost : host.streams = e.host.streams ++ [x])
    (hchannel : e.config.period.TakenBy e.line.channel) (board : NoticeBoard) :
    Fitted { e with
      host, streams := e.streams.set d (some s), line := e.line.setState d .opened, board } where
  streams y hy := by
    rw [hhost, List.mem_append, List.mem_singleton] at hy
    rcases hy with hold | rfl
    · exact h.streams y hold
    · exact hopens.fits h.modest rfl rfl
  held y hy := by
    rw [hhost, List.mem_append, List.mem_singleton] at hy
    rcases hy with hold | rfl
    · obtain ⟨s', hs', hid⟩ := h.held y hold
      -- nothing was held on this side, so an older stream is of the other one
      have hne : y.side ≠ d := by
        intro hd
        rw [hd, hs] at hs'
        cases hs'
      exact ⟨s', (Duplex.get_set_ne _ _ hne).trans hs', hid⟩
    · exact ⟨s, hopens.side ▸ Duplex.get_set _ _ _, hopens.number⟩
  handles d' s' hs' := by
    by_cases hd : d' = d
    · rw [hd, Duplex.get_set] at hs'
      rw [hd, ← Option.some.inj hs']
      exact {
        unclosed := hopens.unclosed
        state := by simp [Engine.state]
        admitted := (checkFit_eq_ok_iff _ _).mp (hopens.checkFit h.modest)
        channel := hchannel }
    · rw [Duplex.get_set_ne _ _ hd] at hs'
      exact h.handle_of_ne hd hs'
  samples_pos := h.samples_pos
  modest := h.modest
  untold := h.untold

end Engine

/-! ## The programs of one side -/

namespace EngineM

open Engine DesktopHost

variable {c : Config} {channel : Option Channel} {e : DesktopEngine} {d : Direction}

/-- A fitted engine under a configuration, over a channel. No program of one side changes either of
them. -/
structure FittedUnder (c : Config) (channel : Option Channel) (e : DesktopEngine) : Prop
    extends Fitted e where
  config_eq : e.config = c
  channel_eq : e.line.channel = channel

/-- What lasts under every configuration and channel lasts; the two are fixed while one side is
worked on. -/
theorem lasts_of_under {α : Type} {x : EngineM (DesktopHost Handler) α}
    (h : ∀ c channel, Lasts (FittedUnder c channel) x) : Lasts Fitted x := fun e he =>
  (h e.config e.line.channel e ⟨he, rfl, rfl⟩).mono fun _ _ h' => h'.toFitted

/-- Stopping a side leaves an engine fitted: the framers of its stream may have moved on, and
`Alike.fits` covers that. The outcomes are those of `stopSide_of_ok` and `stopSide_of_error`, with
`Fitted.restate` for both. -/
theorem stopSide_fitted (d : Direction) : Lasts (FittedUnder c channel) (stopSide d) := by
  intro e h
  cases hs : e.streams.get d with
  | none => exact ends_of_ok (stopSide_of_none hs) h
  | some s =>
    by_cases hrun : e.state d = .running
    · rcases hask : DesktopHost.stopStream s e.host with ⟨answer, host⟩
      have hhost : Retunes e.host host := by
        have hretunes := retunes_stopStream s e.host
        rwa [hask] at hretunes
      -- stopped or failed, the side is not closed
      cases answer with
      | ok _ =>
        exact ends_of_ok (stopSide_of_ok hs hrun (quiet_of_eq hask _))
          ⟨h.restate hhost (by decide), h.config_eq, h.channel_eq⟩
      | error source =>
        exact ends_of_error (stopSide_of_error hs hrun (quiet_of_eq hask _))
          ⟨h.restate hhost (by decide), h.config_eq, h.channel_eq⟩
    · exact ends_of_ok (stopSide_of_not_running hrun) h

/-- Starting a side leaves an engine fitted. A start that the device refuses has turned the framer
on all the same, and `Retunes` allows for that. -/
theorem startSide_fitted (d : Direction) : Lasts (FittedUnder c channel) (startSide d) := by
  intro e h
  cases hs : e.streams.get d with
  | none => exact ends_of_error (startSide_of_none hs) h
  | some s =>
    cases hrun : (e.state d).canMoveTo .running with
    | false => exact ends_of_error (startSide_of_not_startable hs hrun) h
    | true =>
      rcases hask : DesktopHost.startStream s e.host with ⟨answer, host⟩
      have hhost : Retunes e.host host := by
        have hretunes := retunes_startStream s e.host
        rwa [hask] at hretunes
      cases answer with
      | ok _ =>
        exact ends_of_ok (startSide_of_ok hs hrun (quiet_of_eq hask _))
          ⟨h.restate hhost (by decide), h.config_eq, h.channel_eq⟩
      -- no state has changed yet, only the framer may have been turned on
      | error source =>
        refine ends_of_error (startSide_of_error hs hrun (quiet_of_eq hask _))
          ⟨?_, h.config_eq, h.channel_eq⟩
        exact h.of_retunes hhost rfl rfl (fun _ => id) id fun _ => Or.inl

/-- Closing a side leaves an engine fitted, by `Fitted.closed` where it held a stream. The host lets
go of the stream also where the device has an error to report, so that both answers end alike. -/
theorem closeSide_fitted (d : Direction) : Lasts (FittedUnder c channel) (closeSide d) := by
  intro e h
  cases hs : e.streams.get d with
  | none =>
    refine ends_of_ok (closeSide_of_none hs) ⟨?_, h.config_eq, h.channel_eq⟩
    have hclosed : Fitted { e with
        streams := e.streams.set d none, line := e.line.setState d .closed } :=
      h.closed fun x hx => ⟨hx, by simp [hs]⟩
    rw [← hs, Duplex.set_get] at hclosed
    unfold Line.settle
    rwa [StreamState.settled_eq_closed]
  | some s =>
    rcases hask : DesktopHost.closeStream s e.host with ⟨⟨answer, s'⟩, host⟩
    have hclosed : s'.closed = true := by
      have hhandle := closeStream_closed s e.host
      rw [hask] at hhandle
      exact congrArg StreamHandle.closed hhandle
    -- with the stream of the handle gone, the others are those from before
    have hrest : host.streams = e.host.streams.filter (·.number ≠ s.id) := by
      have hstreams := closeStream_streams (h.handles d s hs).unclosed e.host
      rwa [hask] at hstreams
    have hclose := closeSide_of_some hs (quiet_of_eq hask e.line)
      (quiet_of_eq (discard_of_closed hclosed host) e.line)
    have hfitted : FittedUnder c channel { e with
        host, streams := e.streams.set d none, line := e.line.setState d .closed } := by
      refine ⟨h.closed fun x hx => ?_, h.config_eq, h.channel_eq⟩
      rw [hrest, List.mem_filter] at hx
      refine ⟨hx.1, fun t ht => ?_⟩
      rw [hs] at ht
      cases ht
      simpa using hx.2
    cases answer with
    | ok _ => exact ends_of_ok hclose hfitted
    | error source => exact ends_of_error hclose hfitted

/-- **Opening a side** at the configured rate, over a channel that takes its periods, leaves an
engine fitted whether the machine has a device for it or not. -/
theorem openSide_fitted (hchannel : c.period.TakenBy channel) (d : Direction) {rate : Nat}
    (hrate : rate = c.period.sampleRate) : Lasts (FittedUnder c channel) (openSide d rate) := by
  rintro e ⟨h, rfl, rfl⟩
  subst hrate
  cases hc : e.line.channel with
  | none => exact ends_of_error (openSide_of_no_channel hc _) ⟨h, rfl, hc⟩
  | some ch =>
    have hsome : e.line.channel.isSome = true := by simp [hc]
    by_cases hstate : e.state d = .closed
    -- a closed side holds nothing, so the new stream will be its only one
    · have hs : e.streams.get d = none := by
        cases hs : e.streams.get d with
        | none => rfl
        | some s => exact absurd hstate (h.handles d s hs).state
      rcases openStream_cases d (e.config.spec d e.config.period.sampleRate) (handlerFor d e) e.host
        with ⟨source, hask⟩ | ⟨s, x, host, hask, hhost, hopens⟩
      · exact ends_of_error (openSide_of_refused hsome hstate (quiet_of_eq hask _)) ⟨h, rfl, hc⟩
      · exact ends_of_ok
          (openSide_of_fit hsome hstate (quiet_of_eq hask _) (hopens.checkFit h.modest) rfl)
          ⟨h.opened hs hopens hhost hchannel _, rfl, hc⟩
    · exact ends_of_error (openSide_of_not_closed hsome hstate _) ⟨h, rfl, hc⟩

/-! ## The pair -/

/-- The output is opened at the rate of the input, which is the configured one. By the time that it
is asked for the input holds a stream, or the rate is taken from the configuration itself. -/
theorem inputRate_fitted (h : FittedUnder c channel e) :
    inputRate e = .ok c.period.sampleRate e := by
  obtain ⟨h, rfl, rfl⟩ := h
  unfold inputRate
  rw [bind_apply, get_apply]
  unfold infoOf
  cases hs : e.streams.get .input with
  | none =>
    simp only [hs, Option.map_none]
    exact pure_apply _ e
  | some s =>
    have hrate : s.properties.sampleRate = e.config.period.sampleRate :=
      (h.handles .input s hs).admitted.sampleRate
    simp only [hs, Option.map_some, ← hrate]
    exact pure_apply _ e

/-- Changes that the sides do not see leave an engine fitted, the giving up of the channel included.
A line without a channel takes no periods, and nothing that `Fitted` says is about the channel once
no handle is held. -/
theorem fitted_mark {e' : DesktopEngine} (h : Fitted e) (marks : Marks e e') : Fitted e' := by
  refine h.of_retunes ?_ marks.streams (by rw [marks.config]) (fun d hd => ?_) (fun hc => ?_)
    fun event hevent => Or.inl (marks.pending event hevent)
  · rw [marks.host]
    exact .refl e.host
  · unfold Engine.state Line.state
    rwa [marks.states]
  · rcases marks.channel with hsame | hnone
    · rwa [hsame]
    · intro c' hc'
      rw [hnone] at hc'
      cases hc'

/-- The channel is given up, and the caller is told why; by then no stream is left that needs it. -/
theorem abandonPair_fitted (err : AudioError) :
    Lasts Fitted (abandonPair >>= fun _ => fail err : EngineM (DesktopHost Handler) Unit) :=
  (lasts_modify fun _ h => fitted_mark h { channel := Or.inr rfl }).bind fun _ => lasts_fail err

theorem detach_fitted :
    Lasts Fitted (modifyLine Line.detach : EngineM (DesktopHost Handler) Unit) :=
  lasts_modify fun _ h => fitted_mark h {}

/-- **Opening the pair.** The channel is made before anything is open, so it takes the periods that
both sides are opened with. Between the two sides the engine is `FittedUnder` one configuration and
one channel, which is forgotten at the end. -/
theorem openSides_fitted : Lasts Fitted (openSides : EngineM (DesktopHost Handler) Unit) := by
  intro e h
  cases hheld : e.holdsStreams with
  | true => exact ends_of_error (openSides_of_holdsStreams hheld) h
  | false =>
    unfold openSides
    refine ends_get_bind ?_
    simp only [hheld, Bool.false_eq_true, if_false]
    refine ends_modify_bind ?_
    -- the new channel takes the periods of the configuration
    have hchannel : e.config.period.TakenBy (some (.ofLength e.config.period.samples)) := by
      intro c hc
      rw [← Option.some.inj hc, Channel.length_ofLength]
    let line : Line := e.line.renew e.config.period.samples
    have hnew : FittedUnder e.config line.channel { e with line } :=
      ⟨h.of_unheld hheld h.samples_pos h.modest rfl, rfl, rfl⟩
    refine (openSide_fitted hchannel .input rfl _ hnew).attempt_bind fun r₁ e₁ h₁ => ?_
    cases r₁ with
    | error err => exact detach_fitted.bind (fun _ => abandonPair_fitted err) e₁ h₁.toFitted
    | ok _ =>
      refine ends_bind_of_ok (inputRate_fitted h₁) ?_
      refine (openSide_fitted hchannel .output rfl _ h₁).attempt_bind fun r₂ e₂ h₂ => ?_
      cases r₂ with
      | ok _ => exact ends_pure h₂.toFitted
      | error err =>
        refine detach_fitted.bind (fun _ => ?_) e₂ h₂.toFitted
        exact (lasts_of_under fun _ _ => closeSide_fitted .input).attempt_bind fun _ =>
          abandonPair_fitted err

/-- **Replacing the output.** The input has kept its stream, so the channel still takes the periods
of the configuration. The output is closed before it is opened, and all of its programs keep
`FittedUnder`. -/
theorem replaceOutput_fitted (restart : Bool) :
    Lasts Fitted (replaceOutput restart : EngineM (DesktopHost Handler) Unit) := by
  intro e h
  unfold replaceOutput
  refine ends_get_bind ?_
  cases hs : e.streams.get .input with
  | none =>
    simp only [infoOf, hs]
    exact ends_fail h
  | some s =>
    have hin : HandleFits e .input s := h.handles .input s hs
    -- from here on, the period and the channel are those that the input was opened with
    have hopen : Lasts (FittedUnder e.config e.line.channel) (do
        let _ ← attempt (stopSide .output)
        let _ ← attempt (closeSide .output)
        openSide .output s.properties.sampleRate
        if restart then startSide .output : EngineM (DesktopHost Handler) Unit) := by
      refine (stopSide_fitted .output).attempt_bind fun _ => ?_
      refine (closeSide_fitted .output).attempt_bind fun _ => ?_
      refine (openSide_fitted hin.channel .output hin.admitted.sampleRate).bind fun _ => ?_
      exact lasts_ite (startSide_fitted .output) (lasts_pure ())
    simp only [infoOf, hs]
    exact (hopen e ⟨h, rfl, rfl⟩).mono fun _ _ h' => h'.toFitted

/-- **Fitting lasts** through every call, whatever the machine has for devices and in whatever order
the calls come. The programs of the sides are `stopSide_fitted` and its like; what configures does
so only while nothing is held (`Fitted.of_unheld`). -/
theorem lastingInvariant_fitted : LastingInvariant Fitted where
  mark := fitted_mark
  stopSide d := lasts_of_under fun _ _ => stopSide_fitted d
  startSide d := lasts_of_under fun _ _ => startSide_fitted d
  closeSide d := lasts_of_under fun _ _ => closeSide_fitted d
  openSides := openSides_fitted
  replaceOutput := replaceOutput_fitted
  configured h unheld checked :=
    let accepted := Config.accepted_of_ofOptions checked
    h.of_unheld unheld accepted.samples_pos accepted.modest rfl
  chosen {e _} h period :=
    h.of_retunes (.refl e.host) rfl period (fun _ => id) id fun _ => Or.inl

end EngineM

end Passthrough
