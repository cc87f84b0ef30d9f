import Passthrough.Period.Format
/-!
# Periods in machine words

The numbers of a period are natural numbers here, and machine words wherever a device is spoken to.
A product of words that outgrows its word is no product (`mul?`). So each formula of a period is
written down once more, with every product in it made of words and in the order in which it is made;
a formula that has a value in words has the value that it has here.

Rates, lengths and frames are words of 32 bits. Samples and bytes are counted in words of the size
of an address, which is a parameter: they have to fit both small and large ones.

* **`PeriodFormat.Modest`** — a format with as much room as any accepted configuration leaves.
* **`Modest.bytes?_eq`**, **`Modest.bytesAt?_eq`** — its bytes fit words, in addresses of any size.
* **`Modest.bytesAt?_wide`**, **`Modest.bufferBytes?_wide`** — in large addresses, so do the bytes
  that are counted on any stream.
-/

namespace Passthrough

namespace Word

/-- The first number that no word of 32 bits holds. -/
def limit : Nat := 4294967296

/-- The first number that no word of 64 bits holds. -/
def wideLimit : Nat := 18446744073709551616

/-- The product of two words, if it is a word below this limit. -/
def mul? (limit a b : Nat) : Option Nat := if a * b < limit then some (a * b) else none

/-- A product that is below the limit is made as it is. Each formula below is a chain of these. -/
theorem mul?_of_lt {limit a b : Nat} (h : a * b < limit) : mul? limit a b = some (a * b) := by
  unfold mul?
  rw [if_pos h]

end Word

open Word

namespace PeriodFormat

variable (f : PeriodFormat) (size : Nat)

/-! ## The formulas in words -/

def frames? : Option Nat := do
  let product ← mul? limit f.sampleRate f.milliseconds
  return product / 1000

def doubleFrames? : Option Nat := do
  mul? limit (← f.frames?) 2

def samples? : Option Nat := do
  mul? size (← f.frames?) f.channelCount

def bytes? : Option Nat := do
  mul? size (← f.samples? size) sampleBytes

def bytesAt? (sampleRate channelCount : Nat) : Option Nat := do
  let product ← mul? size sampleRate f.milliseconds
  mul? size (← mul? size (product / 1000) sampleBytes) channelCount

def bufferBytes? (frames : Nat) : Option Nat := do
  mul? size (← mul? size frames f.channelCount) sampleBytes

/-! ## Formats with room -/

/-- **A modest format**: at most a second at the highest rate, with at most 256 channels. -/
structure Modest : Prop where
  sampleRate : f.sampleRate ≤ 192000
  milliseconds : f.milliseconds ≤ 1000
  channelCount : f.channelCount ≤ 256

variable {f size}

/-- At the highest rate, a second has as many frames as the rate says, so a modest period has no
more. -/
theorem Modest.frames_le (h : f.Modest) : f.frames ≤ 192000 := by
  have hproduct : f.sampleRate * f.milliseconds ≤ 192000 * 1000 :=
    Nat.mul_le_mul h.sampleRate h.milliseconds
  show f.sampleRate * f.milliseconds / 1000 ≤ 192000
  omega

/-- The frames of a modest period are made in words of 32 bits, the product of rate and milliseconds
included, which is divided only after it is made. -/
theorem Modest.frames?_eq (h : f.Modest) : f.frames? = some f.frames := by
  have hproduct : f.sampleRate * f.milliseconds ≤ 192000 * 1000 :=
    Nat.mul_le_mul h.sampleRate h.milliseconds
  have hword : mul? limit f.sampleRate f.milliseconds = some (f.sampleRate * f.milliseconds) :=
    mul?_of_lt (by unfold limit; omega)
  unfold frames?
  rw [hword]
  rfl

/-- Frames are counted into buffers of up to four periods, which is the most that any host asks
for. -/
theorem Modest.mul?_frames (h : f.Modest) {periods : Nat} (hperiods : periods ≤ 4) :
    mul? limit f.frames periods = some (f.frames * periods) := by
  have hproduct : f.frames * periods ≤ 192000 * 4 := Nat.mul_le_mul h.frames_le hperiods
  exact mul?_of_lt (by unfold limit; omega)

/-- So no buffer of up to four periods wraps around. It turns the product modulo 2³² that a host
makes (`StreamSpec.periodFrames`) into the plain one. -/
theorem Modest.wrapped_frames (h : f.Modest) {periods : Nat} (hperiods : periods ≤ 4) :
    f.frames * periods % 4294967296 = f.frames * periods := by
  have hproduct : f.frames * periods ≤ 192000 * 4 := Nat.mul_le_mul h.frames_le hperiods
  exact Nat.mod_eq_of_lt (by omega)

/-- Two periods of frames, as the buffer of a stream is sized with, are made in words. -/
theorem Modest.doubleFrames?_eq (h : f.Modest) : f.doubleFrames? = some f.doubleFrames := by
  unfold doubleFrames?
  rw [h.frames?_eq]
  exact h.mul?_frames (by omega)

theorem Modest.samples_le (h : f.Modest) : f.samples ≤ 192000 * 256 :=
  Nat.mul_le_mul h.frames_le h.channelCount

/-- The samples of a modest period fit addresses of 32 bits or more. -/
theorem Modest.samples?_eq (h : f.Modest) (hsize : limit ≤ size) :
    f.samples? size = some f.samples := by
  have hsamples := h.samples_le
  unfold limit at hsize
  unfold samples?
  rw [h.frames?_eq]
  exact mul?_of_lt (show f.samples < size by omega)

/-- So do its bytes. -/
theorem Modest.bytes?_eq (h : f.Modest) (hsize : limit ≤ size) :
    f.bytes? size = some f.bytes := by
  have hsamples := h.samples_le
  unfold limit at hsize
  unfold bytes?
  rw [h.samples?_eq hsize]
  exact mul?_of_lt (show f.samples * 2 < size by omega)

/-! ## Streams -/

/-- The bytes of a period at any rate and with any channels, where each of the three products on the
way is below the limit. -/
theorem bytesAt?_of_lt {rate channels : Nat} (hproduct : rate * f.milliseconds < size)
    (hframes : rate * f.milliseconds / 1000 * sampleBytes < size)
    (hbytes : rate * f.milliseconds / 1000 * sampleBytes * channels < size) :
    f.bytesAt? size rate channels = some (f.bytesAt rate channels) := by
  unfold bytesAt?
  rw [mul?_of_lt hproduct]
  show (mul? size (rate * f.milliseconds / 1000) sampleBytes).bind _ = _
  rw [mul?_of_lt hframes]
  exact mul?_of_lt hbytes

/-- The bytes of a buffer of any number of frames, where both products are below the limit. -/
theorem bufferBytes?_of_lt {frames : Nat} (hsamples : frames * f.channelCount < size)
    (hbytes : frames * f.channelCount * sampleBytes < size) :
    f.bufferBytes? size frames = some (f.bufferBytes frames) := by
  unfold bufferBytes?
  rw [mul?_of_lt hsamples]
  exact mul?_of_lt hbytes

/-- The bytes of a period on a stream of its own rate and channels, which is what is compared with
the configured ones on a stream in step. -/
theorem Modest.bytesAt?_eq (h : f.Modest) (hsize : limit ≤ size) :
    f.bytesAt? size f.sampleRate f.channelCount
      = some (f.bytesAt f.sampleRate f.channelCount) := by
  unfold limit at hsize
  have hproduct : f.sampleRate * f.milliseconds ≤ 192000 * 1000 :=
    Nat.mul_le_mul h.sampleRate h.milliseconds
  have hframes : f.sampleRate * f.milliseconds / 1000 * sampleBytes ≤ 192000 * 2 :=
    Nat.mul_le_mul h.frames_le (Nat.le_refl 2)
  have hbytes : f.sampleRate * f.milliseconds / 1000 * sampleBytes * f.channelCount
      ≤ 192000 * 2 * 256 := Nat.mul_le_mul hframes h.channelCount
  exact bytesAt?_of_lt (by omega) (by omega) (by omega)

/-- The bytes of a buffer of up to four periods, against which a granted stream is checked. -/
theorem Modest.bufferBytes?_eq (h : f.Modest) (hsize : limit ≤ size) {periods : Nat}
    (hperiods : periods ≤ 4) :
    f.bufferBytes? size (f.frames * periods) = some (f.bufferBytes (f.frames * periods)) := by
  unfold limit at hsize
  have hframes : f.frames * periods ≤ 192000 * 4 := Nat.mul_le_mul h.frames_le hperiods
  have hsamples : f.frames * periods * f.channelCount ≤ 192000 * 4 * 256 :=
    Nat.mul_le_mul hframes h.channelCount
  exact bufferBytes?_of_lt (by omega) (show f.frames * periods * f.channelCount * 2 < size by omega)

/-- In large addresses there is room for the bytes of a period on any stream, whatever words it
reports as its rate and its channels. -/
theorem Modest.bytesAt?_wide (h : f.Modest) {rate channels : Nat} (hrate : rate < limit)
    (hchannels : channels < 65536) :
    f.bytesAt? wideLimit rate channels = some (f.bytesAt rate channels) := by
  unfold limit at hrate
  have hproduct : rate * f.milliseconds ≤ 4294967296 * 1000 :=
    Nat.mul_le_mul (by omega) h.milliseconds
  have hframes : rate * f.milliseconds / 1000 * sampleBytes ≤ 4294967296 * 2 :=
    Nat.mul_le_mul (by omega) (Nat.le_refl 2)
  have hbytes : rate * f.milliseconds / 1000 * sampleBytes * channels ≤ 4294967296 * 2 * 65536 :=
    Nat.mul_le_mul hframes (by omega)
  refine bytesAt?_of_lt ?_ ?_ ?_
  · unfold wideLimit; omega
  · unfold wideLimit; omega
  · unfold wideLimit; omega

/-- And for those of any buffer, whatever word is reported as its capacity. -/
theorem Modest.bufferBytes?_wide (h : f.Modest) {frames : Nat} (hframes : frames < limit) :
    f.bufferBytes? wideLimit frames = some (f.bufferBytes frames) := by
  unfold limit at hframes
  have hsamples : frames * f.channelCount ≤ 4294967296 * 256 :=
    Nat.mul_le_mul (by omega) h.channelCount
  refine bufferBytes?_of_lt ?_ (show frames * f.channelCount * 2 < wideLimit from ?_)
  · unfold wideLimit; omega
  · unfold wideLimit; omega

end PeriodFormat

end Passthrough
