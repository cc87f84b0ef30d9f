import Passthrough.Proofs.Config.Accepted
import Passthrough.Proofs.Line.Handler
/-!
# Streams that have drifted

A stream can come to run at another rate, or with other channels, than it was opened for. Every data
callback looks for that: it computes the bytes of a period at the rate and the channel count that
the stream reports, and compares them with those of the configured period. A stream for which the
two agree is *in step* (`PeriodFormat.InStep`).

What is compared is an amount, and a fraction of a frame is left out of it. So the comparison finds
a stream out of step exactly if its period has another number of samples. At the configured rate
that is every other channel count. At the configured channel count it is every slower stream, and
every stream that is faster by a whole frame in each period; one that is faster by less is still in
step (`drift_missed`).

* **`Handler.misfit?_of_not_fits`** — what a callback meets instead of a period of the right size.
* **`Config.Accepted.inStep_of_channels`**, **`Config.Accepted.inStep_of_rate`** — which streams are
  in step.
* **`Handler.drift_detected`** — a callback of a running stream goes on just if the stream is in
  step and the slice is one period long.
-/

namespace Passthrough

/-! ## Fitting -/

namespace PeriodFormat

/-- What a callback fits: a stream that is in step, a slice of one period, and a channel for it. -/
structure Fits (f : PeriodFormat) (p : StreamInfo) (n : Nat) (c : Channel) : Prop where
  inStep : f.InStep p
  slice : n = f.samples
  channel : n = c.length

/-- The bytes that a callback meets: those of the stream, where it is out of step, and those of its
slice otherwise. -/
def bytesMet (f : PeriodFormat) (p : StreamInfo) (n : Nat) : Nat :=
  if f.InStep p then n * sampleBytes else f.bytesAt p.sampleRate p.channelCount

variable {f : PeriodFormat} {p : StreamInfo}

/-- A stream is in step if its period has as many samples: bytes are two for each sample on both
sides, so the width of a sample drops out. -/
theorem inStep_iff_samples :
    f.InStep p ↔ p.sampleRate * f.milliseconds / 1000 * p.channelCount = f.samples := by
  unfold InStep bytesAt bytes
  rw [Nat.mul_right_comm]
  exact Nat.mul_left_inj (by decide)

/-- On a stream that is out of step the check fails on every slice, with the bytes that a period of
that stream would have. -/
theorem check_of_not_inStep (h : ¬ f.InStep p) (n : Nat) :
    f.check p n = .error (f.bytesAt p.sampleRate p.channelCount) := by
  unfold check
  exact if_pos h

end PeriodFormat

/-! ## Callbacks -/

namespace Handler

variable {h : Handler} {p : StreamInfo} {l l' : Line} {c : Channel}

theorem misfit?_of_fits {n : Nat} (hc : l.channel = some c) (hfits : h.period.Fits p n c) :
    h.misfit? p n l = none := by
  refine (misfit?_eq_none_iff hc n).mpr ⟨?_, hfits.channel⟩
  rw [PeriodFormat.check_of_inStep hfits.inStep, if_pos hfits.slice]

/-- **What does not fit**, in bytes: those of the stream where it is out of step, and those of the
slice where only that is wrong. -/
theorem misfit?_of_not_fits {n : Nat} (hc : l.channel = some c) (hfits : ¬ h.period.Fits p n c) :
    h.misfit? p n l = some (h.period.bytesMet p n) := by
  unfold PeriodFormat.bytesMet
  by_cases hstep : h.period.InStep p
  · rw [if_pos hstep]
    by_cases hslice : n = h.period.samples
    -- only the channel is left, which has another length
    · have hchannel : n ≠ c.length := fun hlen => hfits ⟨hstep, hslice, hlen⟩
      unfold misfit?
      rw [hc, Option.bind_some, PeriodFormat.check_of_inStep hstep, if_pos hslice]
      exact if_neg hchannel
    · refine misfit?_of_error hc ?_
      rw [PeriodFormat.check_of_inStep hstep, if_neg hslice]
  · rw [if_neg hstep]
    exact misfit?_of_error hc (PeriodFormat.check_of_not_inStep hstep n)

/-- **Broken off**: over a period of this many bytes a stream has failed, and the engine is told.
Nothing has gone into the channel or come out of it, and no observer has heard anything; after a
capture the channel is empty. -/
structure BrokenOff (h : Handler) (actualBytes : Nat) (l l' : Line) : Prop where
  failed : l'.state h.direction = .error
  others : ∀ d, d ≠ h.direction → l'.state d = l.state d
  told : l'.link = l.link.report (.fault h.direction h.period.bytes actualBytes)
  channel : l'.channel
    = if h.direction = .input then l.channel.map Channel.reset else l.channel
  unheard : l'.heard = l.heard

/-- A fault of a running stream breaks it off. `BrokenOff` is what the engine and the observers can
see of it. -/
theorem brokenOff_fault (hrunning : l.state h.direction = .running) (actualBytes : Nat) :
    h.BrokenOff actualBytes l (h.fault actualBytes l) := by
  rw [fault_eq (.inr (.inl hrunning))]
  exact ⟨Duplex.get_set _ _ _, fun _ hd => Duplex.get_set_ne _ _ hd, rfl, rfl, rfl⟩

/-- **Capturing on a running stream** goes on just if everything fits, and is broken off otherwise;
there is no third case, whatever the stream reports. -/
theorem capture_running (hrunning : l.state h.direction = .running) (hc : l.channel = some c)
    (p : StreamInfo) (frames : List Int16) :
    (h.period.Fits p frames.length c →
        ∃ c' heard, c'.samples = frames
          ∧ h.capture p frames l = (.proceed, { l with channel := some c', heard }))
      ∧ (¬ h.period.Fits p frames.length c →
        ∃ l', h.capture p frames l = (.stop, l')
          ∧ h.BrokenOff (h.period.bytesMet p frames.length) l l') := by
  have hs : (l.state h.direction).refusesAudio = false := by rw [hrunning]; rfl
  constructor
  · intro hfits
    exact capture_of_fit hs hc (misfit?_of_fits hc hfits)
  · intro hfits
    exact ⟨_, capture_of_misfit hs (misfit?_of_not_fits hc hfits), brokenOff_fault hrunning _⟩

/-- **Playing on a running stream** goes on or is broken off under the same condition, and a
destination that does not fit gets silence. -/
theorem render_running (hrunning : l.state h.direction = .running) (hc : l.channel = some c)
    (p : StreamInfo) (n : Nat) :
    (h.period.Fits p n c →
        ∃ c' heard, c'.samples = c.samples
          ∧ h.render p n l = (.proceed, c.samples, { l with channel := some c', heard }))
      ∧ (¬ h.period.Fits p n c →
        ∃ l', h.render p n l = (.stop, silence n, l')
          ∧ h.BrokenOff (h.period.bytesMet p n) l l') := by
  have hs : (l.state h.direction).refusesAudio = false := by rw [hrunning]; rfl
  constructor
  · intro hfits
    exact render_of_fit hs hc (misfit?_of_fits hc hfits)
  · intro hfits
    exact ⟨_, render_of_misfit hs (misfit?_of_not_fits hc hfits), brokenOff_fault hrunning _⟩

end Handler

/-! ## Which streams are in step -/

namespace Config

variable {c : Config} {p : StreamInfo}

/-- **At the configured channel count** a stream is in step if it is no slower than configured, and
faster by less than a frame in a period. -/
theorem Accepted.inStep_of_channels (h : c.Accepted) (hchannels : p.channelCount = c.channelCount) :
    c.period.InStep p ↔ c.sampleRate * c.periodMs ≤ p.sampleRate * c.periodMs
      ∧ p.sampleRate * c.periodMs < c.sampleRate * c.periodMs + 1000 := by
  have hpos : 0 < c.channelCount := h.channelCount.1
  have hintegral := h.integral
  rw [PeriodFormat.inStep_iff_samples, hchannels]
  show p.sampleRate * c.periodMs / 1000 * c.channelCount
    = c.sampleRate * c.periodMs / 1000 * c.channelCount ↔ _
  rw [Nat.mul_left_inj (Nat.ne_of_gt hpos)]
  omega

/-- **At the configured rate** a stream is in step if it has the configured channels, for the
samples of a period are its frames times these. -/
theorem Accepted.inStep_of_rate (h : c.Accepted) (hrate : p.sampleRate = c.sampleRate) :
    c.period.InStep p ↔ p.channelCount = c.channelCount := by
  have hframes := h.frames_pos
  rw [PeriodFormat.inStep_iff_samples, hrate]
  show c.period.frames * p.channelCount = c.period.frames * c.channelCount ↔ _
  exact Nat.mul_right_inj (Nat.ne_of_gt hframes)

end Config

/-! ## Drift -/

namespace Handler

/-- **Drift is detected**, as far as it shows in a period. A data callback of a running stream goes
on just if the stream is in step, the slice is one period long and the channel takes it; any other
breaks the stream off, and a playback plays silence. The streams in step are those with as many
samples in a period: of the streams with the configured channels, those that are faster by less than
a frame in a period, and of the streams at the configured rate, those with the configured
channels. -/
theorem drift_detected {o : Options} {config : Config} (haccepted : Config.ofOptions o = .ok config)
    {h : Handler} (hperiod : h.period = config.period) {l : Line}
    (hrunning : l.state h.direction = .running) {c : Channel} (hc : l.channel = some c)
    (p : StreamInfo) :
    (∀ frames : List Int16,
        (config.period.Fits p frames.length c →
            ∃ c' heard, c'.samples = frames
              ∧ h.capture p frames l = (.proceed, { l with channel := some c', heard }))
          ∧ (¬ config.period.Fits p frames.length c →
            ∃ l', h.capture p frames l = (.stop, l')
              ∧ h.BrokenOff (config.period.bytesMet p frames.length) l l'))
      ∧ (∀ n : Nat,
        (config.period.Fits p n c →
            ∃ c' heard, c'.samples = c.samples
              ∧ h.render p n l = (.proceed, c.samples, { l with channel := some c', heard }))
          ∧ (¬ config.period.Fits p n c →
            ∃ l', h.render p n l = (.stop, silence n, l')
              ∧ h.BrokenOff (config.period.bytesMet p n) l l'))
      ∧ (config.period.InStep p
          ↔ p.sampleRate * config.periodMs / 1000 * p.channelCount = config.period.samples)
      ∧ (p.channelCount = config.channelCount →
          (config.period.InStep p
            ↔ config.sampleRate * config.periodMs ≤ p.sampleRate * config.periodMs
              ∧ p.sampleRate * config.periodMs < config.sampleRate * config.periodMs + 1000))
      ∧ (p.sampleRate = config.sampleRate →
          (config.period.InStep p ↔ p.channelCount = config.channelCount)) := by
  -- the last three parts are about the period alone, and need its numbers to be accepted ones
  have hnumbers := Config.accepted_of_ofOptions haccepted
  rw [← hperiod]
  refine ⟨capture_running hrunning hc p, render_running hrunning hc p, ?_, ?_, ?_⟩
  · rw [hperiod]
    exact PeriodFormat.inStep_iff_samples
  · rw [hperiod]
    exact hnumbers.inStep_of_channels
  · rw [hperiod]
    exact hnumbers.inStep_of_rate

/-- A playback of periods of eight samples, on a stream that has come to run at 9000 Hz, where a
period has nine: it is broken off over the right number of samples. -/
theorem drift_detected_wholeFrame :
    let config : Config := { periodMs := 1, sampleRate := 8000 }
    let h : Handler := ⟨.output, config.period, none, 1⟩
    let p : StreamInfo := ⟨.output, 9000, 1, 8, 8, .none⟩
    let l : Line := { states := .both .running, channel := some (.ofLength 8) }
    Config.ofOptions { periodLenMs := 1, sampleRate := 8000 } = .ok config
      ∧ h.period = config.period ∧ l.state h.direction = .running
      ∧ l.channel = some (.ofLength 8)
      ∧ ∃ l', h.render p 8 l = (.stop, silence 8, l') ∧ h.BrokenOff 18 l l' := by
  have haccepted : Config.ofOptions { periodLenMs := 1, sampleRate := 8000 }
    = .ok { periodMs := 1, sampleRate := 8000 } := rfl
  intro config h p l
  have hstep : ¬ config.period.InStep p := by decide
  -- nine frames of two bytes
  have hmet : config.period.bytesMet p 8 = 18 := by decide
  have hplayed := (drift_detected haccepted (h := h) rfl (l := l) rfl rfl p).2.1 8
  refine ⟨haccepted, rfl, rfl, rfl, ?_⟩
  rw [← hmet]
  exact hplayed.2 fun hfits => hstep hfits.inStep

/-- **A drift that is missed.** An input of periods of eight samples has come to run at 8001 Hz;
the callback takes the next period, and the stream goes on. -/
theorem drift_missed :
    let config : Config := { periodMs := 1, sampleRate := 8000 }
    let h : Handler := ⟨.input, config.period, none, 1⟩
    let p : StreamInfo := ⟨.input, 8001, 1, 8, 8, .none⟩
    let l : Line := { states := .both .running, channel := some (.ofLength 8) }
    Config.ofOptions { periodLenMs := 1, sampleRate := 8000 } = .ok config
      ∧ p.sampleRate ≠ config.sampleRate ∧ l.state h.direction = .running
      ∧ (h.capture p [1, 2, 3, 4, 5, 6, 7, 8] l).1 = .proceed
      ∧ (h.capture p [1, 2, 3, 4, 5, 6, 7, 8] l).2.state h.direction = .running :=
  ⟨rfl, by decide, rfl, rfl, rfl⟩

end Handler

end Passthrough
