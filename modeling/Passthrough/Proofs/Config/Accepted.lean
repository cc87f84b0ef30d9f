import Passthrough.Config.Basic
import Passthrough.Proofs.Period.Words
/-!
# Accepted configurations

What holds of a configuration that the options have led to: its numbers are between their bounds,
and a period is a whole number of frames. Nothing that is computed with it later needs more.

* **`Config.accepted_of_ofOptions`** — the options that pass lead to an accepted configuration.
* **`Config.Accepted.samples_pos`** — its period has samples.
* **`Config.Accepted.modest`** — and few enough for the words that they are counted in.
-/

namespace Passthrough

namespace Config

variable {α β : Type} {c : Config}

/-- **An accepted configuration**, as far as its numbers go. -/
structure Accepted (c : Config) : Prop where
  periodMs : 1 ≤ c.periodMs ∧ c.periodMs ≤ 1000
  sampleRate : 8000 ≤ c.sampleRate ∧ c.sampleRate ≤ 192000
  channelCount : 1 ≤ c.channelCount ∧ c.channelCount ≤ 256
  integral : c.sampleRate * c.periodMs % 1000 = 0

/-! ## The checks -/

/-- A check that comes first has passed where the whole has. The checks of options are taken apart
with this, one by one. -/
theorem passes_of_bind {x : Except ConfigError α} {f : α → Except ConfigError β} {b : β}
    (h : (x >>= f) = .ok b) : ∃ a, x = .ok a ∧ f a = .ok b := by
  cases x with
  | error err => cases h
  | ok a => exact ⟨a, rfl, h⟩

/-- A number that passes is between its bounds, if its default is. The default is not checked when
it is used, so this is a condition on each field. -/
theorem bounds_of_bounded {field : String} {value : Int} {low high : Nat} {zero : Option Nat}
    {n : Nat} (hzero : ∀ default, zero = some default → low ≤ default ∧ default ≤ high)
    (h : bounded field value low high zero = .ok n) : low ≤ n ∧ n ≤ high := by
  -- the two bounds are tested in one place, whether there is a default or not
  have hchecked : ∀ {m : Nat},
      (if (low : Int) ≤ value ∧ value ≤ high then .ok value.toNat
        else .error (.outOfRange field value) : Except ConfigError Nat) = .ok m →
          low ≤ m ∧ m ≤ high := by
    intro m hm
    split at hm
    · next hrange =>
      cases hm
      omega
    · cases hm
  unfold bounded at h
  split at h
  · next default =>
    split at h
    · cases h
      exact hzero _ rfl
    · exact hchecked h
  · exact hchecked h

/-- A rate and a period that pass the check make a whole number of frames. -/
theorem integral_of_checkIntegral {sampleRate periodMs : Nat}
    (h : checkIntegral sampleRate periodMs = .ok ()) : sampleRate * periodMs % 1000 = 0 := by
  unfold checkIntegral at h
  split at h
  · next hintegral => exact hintegral
  · cases h

/-- **Options that pass** lead to an accepted configuration, so that everything computed with one
may assume its bounds. The checks are gone through in their order with `passes_of_bind`; only those
of the period, the rate and the channels leave something for `Config.Accepted`. -/
theorem accepted_of_ofOptions {o : Options} (h : ofOptions o = .ok c) : c.Accepted := by
  unfold ofOptions at h
  obtain ⟨periodMs, hperiod, h⟩ := passes_of_bind h
  obtain ⟨sampleRate, hrate, h⟩ := passes_of_bind h
  obtain ⟨channelCount, hchannels, h⟩ := passes_of_bind h
  obtain ⟨_, hintegral, h⟩ := passes_of_bind h
  -- what the other options choose does not touch the numbers
  obtain ⟨audioApi, _, h⟩ := passes_of_bind h
  obtain ⟨sessionId, _, h⟩ := passes_of_bind h
  obtain ⟨rateConversionQuality, _, h⟩ := passes_of_bind h
  obtain ⟨recordDeviceId, _, h⟩ := passes_of_bind h
  obtain ⟨playbackDeviceId, _, h⟩ := passes_of_bind h
  obtain ⟨format, _, h⟩ := passes_of_bind h
  obtain ⟨sharingMode, _, h⟩ := passes_of_bind h
  obtain ⟨performanceMode, _, h⟩ := passes_of_bind h
  obtain ⟨inputPreset, _, h⟩ := passes_of_bind h
  obtain ⟨usage, _, h⟩ := passes_of_bind h
  cases h
  exact {
    periodMs := bounds_of_bounded (by simp) hperiod
    sampleRate := bounds_of_bounded (by simp) hrate
    channelCount := bounds_of_bounded (by simp) hchannels
    integral := integral_of_checkIntegral hintegral }

/-! ## The period -/

/-- The smallest period is a millisecond at the lowest rate: eight frames. So no accepted period is
empty. -/
theorem Accepted.frames_pos (h : c.Accepted) : 0 < c.period.frames := by
  have hproduct : 8000 * 1 ≤ c.sampleRate * c.periodMs :=
    Nat.mul_le_mul h.sampleRate.1 h.periodMs.1
  show 0 < c.sampleRate * c.periodMs / 1000
  omega

/-- A period has samples, whatever the number of channels, since that is not zero either. -/
theorem Accepted.samples_pos (h : c.Accepted) : 0 < c.period.samples :=
  Nat.mul_pos h.frames_pos h.channelCount.1

/-- An accepted configuration is modest: at most a second at 192 kHz with at most 256 channels. -/
theorem Accepted.modest (h : c.Accepted) : c.period.Modest where
  sampleRate := h.sampleRate.2
  milliseconds := h.periodMs.2
  channelCount := h.channelCount.2

/-- A host that is asked for a stream of a modest period counts the frames of up to four periods as
they are, although it counts them in 32 bits. -/
theorem periodFrames_spec (h : c.period.Modest) (d : Direction) (sampleRate : Nat) {periods : Nat}
    (hperiods : periods ≤ 4) :
    (c.spec d sampleRate).periodFrames periods = c.period.frames * periods :=
  h.wrapped_frames hperiods

end Config

end Passthrough
