import Passthrough.Proofs.Host.Mobile.Frames
/-!
# From the microphone to the loudspeaker

Between two mobile streams that run at what they were asked for, a captured period arrives at the
loudspeaker frame by frame as it came from the microphone: the adapter of the capture takes its
frames apart, the channel holds the samples, and the adapter of the playback puts them together.

A buffer of any other size is no period. One that is longer than the scratch is cut off at two
periods, which is still not one, so that the callback sees what it is.

* **`FrameLayout.fits_iff`** — what is left of a buffer makes a period if and only if the buffer
  does.
* **`Loop`** — two streams that exchange the periods of one format; opening makes them, and every
  exchange keeps them (**`loop_of_openStream`**, **`Loop.exchange`**).
* **`MobileHost.loopback`** — the microphone, the channel and the loudspeaker make the identity.
-/

namespace Passthrough

open Mobile

namespace Mobile

/-- **What is cut off matters not.** Of a buffer that is cut off at two periods, as much as one
period is left if and only if there was no more than that. -/
theorem FrameLayout.fits_iff (layout : FrameLayout) {period : Nat} (hperiod : 0 < period)
    (buffer : List layout.Frame) :
    (layout.samples (buffer.take (2 * period))).length = period * layout.width
      ↔ buffer.length = period := by
  rw [length_samples, Nat.mul_left_inj (Nat.ne_of_gt layout.width_pos), List.length_take]
  omega

/-- **A stream that exchanges the periods of a format**, in one direction. -/
structure MobileStream.Carries (x : MobileStream Handler) (f : PeriodFormat) (d : Direction) :
    Prop where
  side : x.side = d
  direction : x.callback.direction = d
  period : x.callback.period = f
  sampleRate : x.properties.sampleRate = f.sampleRate
  channelCount : x.properties.channelCount = f.channelCount
  adapter : x.adapter.Serves f.frames f.channelCount

/-- Its callbacks answer as those of a stream that has room for a period. -/
theorem MobileStream.Carries.exists_admits {x : MobileStream Handler} {f : PeriodFormat}
    {d : Direction} (hx : x.Carries f d) :
    ∃ p, x.callback.period.Admits p ∧ x.callback.capture x.properties = x.callback.capture p
      ∧ x.callback.render x.properties = x.callback.render p := by
  refine ⟨{ x.properties with bufferCapacityFrames := f.frames }, ?_,
    Handler.capture_congr rfl rfl _, Handler.render_congr rfl rfl _⟩
  rw [hx.period]
  exact ⟨hx.sampleRate, hx.channelCount, Nat.le_refl _⟩

end Mobile

namespace MobileHost

/-- **Two streams that exchange the periods of one format**, and no younger ones. -/
structure Loop (h : MobileHost Handler) (f : PeriodFormat) (xs : Duplex (MobileStream Handler)) :
    Prop where
  newest : ∀ d, h.newest? d = some (xs.get d)
  carries : ∀ d, (xs.get d).Carries f d
  number : (xs.get .input).number ≠ (xs.get .output).number

variable {f : PeriodFormat} {h : MobileHost Handler} {xs : Duplex (MobileStream Handler)}

namespace Loop

/-- The two streams have different numbers, as they were opened one after the other. -/
theorem number_ne (hloop : h.Loop f xs) {d d' : Direction} (hd : d' ≠ d) :
    (xs.get d').number ≠ (xs.get d).number := by
  cases d <;> cases d'
  · exact absurd rfl hd
  · exact hloop.number.symm
  · exact hloop.number
  · exact absurd rfl hd

/-- One of the streams is put in its own place, with another scratch. The one replaced is found by
`newest?_update`, and the other by `newest?_update_ne`, as the two have different numbers. -/
theorem update (hloop : h.Loop f xs) {d : Direction} {y : MobileStream Handler}
    (hy : y.Carries f d) (hnumber : y.number = (xs.get d).number) :
    (h.update y).Loop f (xs.set d y) where
  newest d' := by
    by_cases hd : d' = d
    · subst hd
      rw [Duplex.get_set]
      exact newest?_update (hloop.newest d') hnumber hy.side
    · rw [Duplex.get_set_ne _ _ hd]
      exact newest?_update_ne (hloop.newest d') (hnumber ▸ hloop.number_ne hd)
        (hy.side ▸ Ne.symm hd)
  carries d' := by
    by_cases hd : d' = d
    · subst hd
      rwa [Duplex.get_set]
    · rw [Duplex.get_set_ne _ _ hd]
      exact hloop.carries d'
  -- the stream that comes in has the number of the one that goes
  number := by
    cases d
    · rw [Duplex.get_set, Duplex.get_set_ne _ _ (by decide), hnumber]
      exact hloop.number
    · rw [Duplex.get_set, Duplex.get_set_ne _ _ (by decide), hnumber]
      exact hloop.number

/-- **An exchange** keeps both streams, whatever the buffer and the line: only the scratch of one of
them is written over (`update`). -/
theorem exchange (hloop : h.Loop f xs) (d : Direction) (data : List Int16) (l : Line) :
    ∃ xs', (h.exchange d data l).2.1.Loop f xs' := by
  have hx := hloop.carries d
  -- only the scratch of the stream is written to
  have hkept : ∀ a, a.Serves f.frames f.channelCount →
      (h.update { xs.get d with adapter := a }).Loop f (xs.set d { xs.get d with adapter := a }) :=
    fun a ha => hloop.update ⟨hx.side, hx.direction, hx.period, hx.sampleRate, hx.channelCount, ha⟩
      rfl
  unfold MobileHost.exchange
  simp only [hloop.newest d]
  cases d
  · exact ⟨_, hkept _ ⟨hx.adapter.layout, hx.adapter.room⟩⟩
  · exact ⟨_, hkept _ ⟨hx.adapter.layout, hx.adapter.room⟩⟩

end Loop

/-- The devices have exchanged these buffers, each with the line as it was at the time. -/
def afterExchanges (h : MobileHost Handler) (earlier : List (Direction × List Int16 × Line)) :
    MobileHost Handler :=
  earlier.foldl (fun h (d, data, l) => (h.exchange d data l).2.1) h

/-- So does any number of exchanges, in either direction. -/
theorem Loop.afterExchanges (hloop : h.Loop f xs)
    (earlier : List (Direction × List Int16 × Line)) :
    ∃ xs', (h.afterExchanges earlier).Loop f xs' := by
  induction earlier generalizing h xs with
  | nil => exact ⟨xs, hloop⟩
  | cons exchange earlier ih =>
    obtain ⟨xs', hloop'⟩ := hloop.exchange exchange.1 exchange.2.1 exchange.2.2
    exact ih hloop'

/-- **A request for the periods of a format**, and a stream that runs at what was asked for. -/
structure Granted (f : PeriodFormat) (r : StreamSpec) (s : StreamHandle) : Prop where
  frames : r.framesPerCallback = f.frames
  channels : r.channelCount = f.channelCount
  sampleRate : s.properties.sampleRate = f.sampleRate
  channelCount : s.properties.channelCount = f.channelCount

/-- A stream that opens for a request and runs at what was asked for carries the periods of the
format. `streams_of_openStream` says so of the request, and `Granted` is what makes the properties
of the handle those of the request. -/
theorem carries_of_openStream {d : Direction} {r : StreamSpec} {observer : Option ObserverId}
    {n : Nat} {h' : MobileHost Handler} {l l' : Line} {s : StreamHandle}
    (hopen : openStream d r ⟨d, f, observer, n⟩ h l = (.opened s, h', l')) (hs : Granted f r s) :
    ∃ x, h'.streams = h.streams ++ [x] ∧ x.number = h.opened + 1 ∧ h'.opened = h.opened + 1
      ∧ x.Carries f d := by
  obtain ⟨x, hstreams, hnumber, hopened, hside, hcallback, hproperties, hserves⟩ :=
    streams_of_openStream hopen
  rw [hs.frames, hs.channels] at hserves
  exact ⟨x, hstreams, hnumber, hopened, hside, by rw [hcallback], by rw [hcallback],
    by rw [hproperties, hs.sampleRate], by rw [hproperties, hs.channelCount], hserves⟩

/-- **Opening** an input and an output one after the other makes the two streams of a `Loop`, both
of which have been given the same channel. -/
theorem loop_of_openStream {ri ro : StreamSpec} {oi oo : Option ObserverId} {n : Nat}
    {h₀ h₁ h₂ : MobileHost Handler} {l₀ l₁ l₁' l₂ : Line} {si so : StreamHandle}
    (hinput : openStream .input ri ⟨.input, f, oi, n⟩ h₀ l₀ = (.opened si, h₁, l₁))
    (houtput : openStream .output ro ⟨.output, f, oo, n⟩ h₁ l₁' = (.opened so, h₂, l₂))
    (hsi : Granted f ri si) (hso : Granted f ro so) : ∃ xs, h₂.Loop f xs := by
  obtain ⟨x, hxs, hnumber, hopened, hx⟩ := carries_of_openStream hinput hsi
  obtain ⟨y, hys, hnumber', _, hy⟩ := carries_of_openStream houtput hso
  have hne : x.number ≠ y.number := by omega
  refine ⟨⟨x, y⟩, fun d => ?_, fun d => ?_, hne⟩
  · cases d
    · rw [newest?_of_appended_ne hys (by rw [hy.side]; decide)]
      exact newest?_of_appended hxs hx.side
    · exact newest?_of_appended hys hy.side
  · cases d
    · exact hx
    · exact hy

/-! ## The loop -/

variable {layout : FrameLayout} {l : Line} {c : Channel}

/-- A captured buffer: what fits into the scratch is handed on. That is two periods at most
(`Adapter.capture_eq`), so a longer buffer is handed on cut, and the callback decides about what is
left of it. -/
theorem Loop.exchange_input (hloop : h.Loop f xs)
    (hlayout : FrameLayout.ofChannels? f.channelCount = some layout) (captured : List layout.Frame)
    (l : Line) :
    let x := xs.get .input
    let samples := layout.samples (captured.take (2 * f.frames))
    ∃ h' xs', h'.Loop f xs'
      ∧ h.exchange .input (layout.samples captured) l
        = (some ((x.callback.capture x.properties samples l).1, layout.samples captured), h',
            (x.callback.capture x.properties samples l).2) := by
  have hx := hloop.carries .input
  -- the layout of the adapter is the one of the channel count
  obtain rfl : (xs.get .input).adapter.layout = layout :=
    Option.some.inj (hx.adapter.layout.symm.trans hlayout)
  obtain ⟨xs', hloop'⟩ :=
    hloop.exchange .input ((xs.get .input).adapter.layout.samples captured) l
  refine ⟨_, xs', hloop', ?_⟩
  unfold MobileHost.exchange
  simp only [hloop.newest .input, FrameLayout.frames_samples, Adapter.capture_eq hx.adapter]
  rfl

/-- A period to be played: the callback is asked for one period. It gives as many frames as the
destination has, so that the reach of the adapter is all of the destination and nothing of its old
content is left. -/
theorem Loop.exchange_output (hloop : h.Loop f xs)
    (hlayout : FrameLayout.ofChannels? f.channelCount = some layout)
    {destination : List layout.Frame} (hlength : destination.length = f.frames)
    {verdict : Verdict} {frames : List layout.Frame} {l l' : Line}
    (hframes : frames.length = f.frames)
    (hrender : StreamOwner.render (xs.get .output).callback (xs.get .output).properties f.samples l
      = (verdict, layout.samples frames, l')) :
    (h.exchange .output (layout.samples destination) l).1
      = some (verdict, layout.samples frames) := by
  have hx := hloop.carries .output
  obtain rfl : (xs.get .output).adapter.layout = layout :=
    Option.some.inj (hx.adapter.layout.symm.trans hlayout)
  have hpos := hx.adapter.width_pos
  have hwanted : (xs.get .output).adapter.wantedSamples (xs.get .output).properties.channelCount
      destination.length = f.samples := by
    have hroom : f.frames * f.channelCount ≤ 2 * f.frames * f.channelCount :=
      Nat.mul_le_mul_right _ (by omega)
    rw [Adapter.wantedSamples, hx.channelCount, hlength, hx.adapter.size_eq,
      Nat.max_eq_left hpos, Nat.min_eq_left hroom]
    rfl
  have hsamples : ((xs.get .output).adapter.layout.samples frames).length = f.samples := by
    rw [FrameLayout.length_samples, hframes, hx.adapter.width_eq]
    rfl
  -- two periods of room are more than the one that is wanted, so nothing is cut off
  have hreach : (xs.get .output).adapter.reach (xs.get .output).properties.channelCount
      destination.length = destination.length := by
    rw [Adapter.reach_eq_iff hx.adapter, hx.channelCount, hlength]
    omega
  rw [← hwanted] at hrender hsamples
  unfold MobileHost.exchange
  simp only [hloop.newest .output, FrameLayout.frames_samples]
  rw [Adapter.render_eq destination hrender hsamples, hreach, FrameLayout.frames_samples,
    List.drop_length, List.append_nil, List.take_of_length_le (by omega)]

/-- While the output runs, what the channel holds is what a destination of one period gets. The
handler finds its direction running, the period in the agreed format, and a destination as long as
the channel (`Handler.render_of_length`). -/
theorem Loop.plays (hloop : h.Loop f xs)
    (hlayout : FrameLayout.ofChannels? f.channelCount = some layout)
    (hrunning : l.state .output = .running) (hchannel : l.channel = some c)
    {frames destination : List layout.Frame} (hframes : frames.length = f.frames)
    (hsamples : c.samples = layout.samples frames) (hlength : destination.length = f.frames) :
    (h.exchange .output (layout.samples destination) l).1
      = some (.proceed, layout.samples frames) := by
  have hx := hloop.carries .output
  obtain ⟨p, hadmits, _, hcall⟩ := hx.exists_admits
  -- what the channel holds is a whole period, interleaved
  have hperiod : c.length = (xs.get .output).callback.period.samples := by
    rw [Channel.length, hsamples, FrameLayout.length_samples, hframes, hx.period,
      FrameLayout.width_of_ofChannels? hlayout]
    rfl
  have hstate : l.state (xs.get .output).callback.direction = .running := by
    rw [hx.direction]
    exact hrunning
  obtain ⟨c', heard, _, hrender⟩ :=
    Handler.render_of_length hstate hadmits hchannel hperiod rfl
  rw [← hcall, hsamples, hx.period] at hrender
  exact hloop.exchange_output hlayout hlength hframes hrender

/-- **The loop.** Two streams are opened for the periods of a format, mono or stereo, with callbacks
over one channel, and run at what was asked for. Their devices have exchanged any buffers since,
with the line in any state. Now both streams run, over a channel of one period.

A captured buffer is accepted if and only if it is one period long. One that is not publishes
nothing and faults the capture. The frames of one that is, interleaved, are what the channel holds
afterwards, and they are what the next destination of one period gets to play. -/
theorem loopback {ri ro : StreamSpec} {oi oo : Option ObserverId} {n : Nat}
    {h₀ h₁ h₂ : MobileHost Handler} {l₀ l₁ l₁' l₂ : Line} {si so : StreamHandle}
    (hlayout : FrameLayout.ofChannels? f.channelCount = some layout) (hperiod : 0 < f.frames)
    (hinput : openStream .input ri ⟨.input, f, oi, n⟩ h₀ l₀ = (.opened si, h₁, l₁))
    (houtput : openStream .output ro ⟨.output, f, oo, n⟩ h₁ l₁' = (.opened so, h₂, l₂))
    (hsi : Granted f ri si) (hso : Granted f ro so)
    (earlier : List (Direction × List Int16 × Line))
    (hrunning : ∀ d, l.state d = .running) (hchannel : l.channel = some c)
    (hlength : c.length = f.samples) (captured : List layout.Frame) :
    ∃ verdict h l',
      (h₂.afterExchanges earlier).exchange .input (layout.samples captured) l
          = (some (verdict, layout.samples captured), h, l')
        ∧ (verdict = .proceed ↔ captured.length = f.frames)
        ∧ (captured.length ≠ f.frames →
          l'.state .input = .error ∧ l'.channel = some c.reset)
        ∧ (captured.length = f.frames →
          (∃ c', l'.channel = some c' ∧ c'.samples = layout.samples captured)
            ∧ ∀ destination : List layout.Frame, destination.length = f.frames →
              (h.exchange .output (layout.samples destination) l').1
                = some (.proceed, layout.samples captured)) := by
  obtain ⟨xs₂, hloop₂⟩ := loop_of_openStream hinput houtput hsi hso
  obtain ⟨xs, hloop⟩ := hloop₂.afterExchanges earlier
  obtain ⟨h, ys, hloop', hexchange⟩ := hloop.exchange_input hlayout captured l
  have hx := hloop.carries .input
  obtain ⟨p, hadmits, hcall, _⟩ := hx.exists_admits
  -- cut to two periods or not, a capture is one period long just if it was
  have hfits : (layout.samples (captured.take (2 * f.frames))).length
      = (xs.get .input).callback.period.samples ↔ captured.length = f.frames := by
    rw [hx.period, PeriodFormat.samples, ← FrameLayout.width_of_ofChannels? hlayout]
    exact layout.fits_iff hperiod captured
  have hlength' : c.length = (xs.get .input).callback.period.samples := by rw [hx.period, hlength]
  rw [hcall] at hexchange
  refine ⟨_, h, _, hexchange, ?_⟩
  by_cases hwhole : captured.length = f.frames
  · obtain ⟨c', heard, hsamples, hcapture⟩ := Handler.capture_of_length
      (hrunning (xs.get .input).callback.direction) hadmits hchannel hlength' (hfits.mpr hwhole)
    have hall : captured.take (2 * f.frames) = captured := List.take_of_length_le (by omega)
    rw [hall] at hsamples hcapture
    rw [hall, hcapture]
    refine ⟨by simp [hwhole], fun hne => absurd hwhole hne, fun _ => ⟨⟨c', rfl, hsamples⟩, ?_⟩⟩
    intro destination hdestination
    exact hloop'.plays (l := { l with channel := some c', heard }) hlayout (hrunning .output) rfl
      hwhole hsamples hdestination
  · have hcapture := Handler.capture_of_length_ne
      (hrunning (xs.get .input).callback.direction) hadmits hchannel (mt hfits.mp hwhole)
    -- it is handed on all the same, and the callback faults over its length
    rw [hcapture, Handler.fault_eq (Or.inr (Or.inl (hrunning _))), hx.direction]
    refine ⟨by simp [hwhole], fun _ => ⟨?_, ?_⟩, fun h => absurd h hwhole⟩
    · show (l.states.set .input .error).get .input = .error
      rw [Duplex.get_set]
    · simp [hchannel]

/-- A line that runs in both directions, over a channel of four samples. -/
def runningLine : Line := { states := .both .running, channel := some (.ofLength 4) }

/-- Periods of two stereo frames. Before, five frames have been captured, which left four in the
scratch. The same five are still no period now, and of two the right and the left samples stay what
they were. -/
theorem loopback_stereo :
    let f : PeriodFormat := ⟨2000, 2, 1⟩
    let config : Config := { sampleRate := 2000, channelCount := 2, periodMs := 1 }
    let five : List Int16 := [1, -1, 2, -2, 3, -3, 4, -4, 5, -5]
    ∃ si h₁ l₁ so h₂ l₂,
      openStream .input config.inputSpec ⟨.input, f, none, 1⟩ ({} : MobileHost Handler) {}
          = (.opened si, h₁, l₁)
        ∧ openStream .output (config.outputSpec 2000) ⟨.output, f, none, 1⟩ h₁ l₁
          = (.opened so, h₂, l₂)
        ∧ (∃ h l,
          (h₂.afterExchanges [(.input, five, {})]).exchange .input [6, -6, 7, -7] runningLine
            = (some (.proceed, [6, -6, 7, -7]), h, l)
          ∧ (h.exchange .output [9, 9, 9, 9] l).1 = some (.proceed, [6, -6, 7, -7]))
        ∧ ∃ h l, (h₂.afterExchanges [(.input, five, {})]).exchange .input five runningLine
            = (some (.stop, five), h, l) := by
  intro f config five
  have hinput : openStream .input config.inputSpec ⟨.input, f, none, 1⟩ ({} : MobileHost Handler) {}
      = (.opened _, _, _) := rfl
  have houtput : openStream .output (config.outputSpec 2000) ⟨.output, f, none, 1⟩
      (openStream .input config.inputSpec ⟨.input, f, none, 1⟩ ({} : MobileHost Handler) {}).2.1
      (openStream .input config.inputSpec ⟨.input, f, none, 1⟩ ({} : MobileHost Handler) {}).2.2
      = (.opened _, _, _) := rfl
  have hstereo : FrameLayout.ofChannels? f.channelCount = some .stereo := rfl
  have hrunning : ∀ d, runningLine.state d = .running := fun d => by cases d <;> rfl
  have hloop := loopback hstereo (by decide) hinput houtput ⟨rfl, rfl, by decide, rfl⟩
    ⟨rfl, rfl, by decide, rfl⟩ [(.input, five, {})] hrunning rfl (by decide)
  refine ⟨_, _, _, _, _, _, hinput, houtput, ?_, ?_⟩
  · obtain ⟨verdict, h, l, hcapture, haccepted, _, hpublished⟩ := hloop [(6, -6), (7, -7)]
    obtain rfl := haccepted.mpr (by decide)
    exact ⟨h, l, hcapture, (hpublished (by decide)).2 [(9, 9), (9, 9)] (by decide)⟩
  · obtain ⟨verdict, h, l, hcapture, haccepted, _⟩ :=
      hloop [(1, -1), (2, -2), (3, -3), (4, -4), (5, -5)]
    have hstop : verdict = .stop := by
      cases verdict with
      | proceed => exact absurd (haccepted.mp rfl) (by decide)
      | stop => rfl
    exact ⟨h, l, hstop ▸ hcapture⟩

end MobileHost

end Passthrough
