import Passthrough.Stream.Request
/-!
# The format of periods

A period is the amount of audio that one callback exchanges; its format fixes how many frames,
samples and bytes that is.
-/

namespace Passthrough

/-- A sample is a signed 16-bit number, two bytes. -/
def sampleBytes : Nat := 2

structure PeriodFormat where
  sampleRate : Nat
  channelCount : Nat
  milliseconds : Nat
  deriving DecidableEq, Repr, Inhabited

namespace PeriodFormat

/-- Whole frames in a period; a fraction of a frame is left out. -/
def frames (f : PeriodFormat) : Nat := f.sampleRate * f.milliseconds / 1000

def samples (f : PeriodFormat) : Nat := f.frames * f.channelCount

def bytes (f : PeriodFormat) : Nat := f.samples * sampleBytes

/-- The bytes of a period on a stream that runs at this rate with this many channels. -/
def bytesAt (f : PeriodFormat) (sampleRate channelCount : Nat) : Nat :=
  sampleRate * f.milliseconds / 1000 * sampleBytes * channelCount

def bufferBytes (f : PeriodFormat) (frames : Nat) : Nat := frames * f.channelCount * sampleBytes

/-- The frames of two periods: the smallest buffer in which one can be filled while the other
drains. -/
def doubleFrames (f : PeriodFormat) : Nat := f.frames * 2

/-- Checks what a callback was given: the stream has to run at a rate and channel count that make
the configured number of bytes, and the callback has to exchange exactly that many. The error is the
number of bytes met instead. -/
def check (f : PeriodFormat) (stream : StreamInfo) (samples : Nat) : Except Nat Unit :=
  let expected := f.bytesAt stream.sampleRate stream.channelCount
  let actual := samples * sampleBytes
  if expected ≠ f.bytes then .error expected
  else if actual ≠ f.bytes then .error actual
  else .ok ()

end PeriodFormat

end Passthrough
