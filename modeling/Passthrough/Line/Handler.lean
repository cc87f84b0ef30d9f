import Passthrough.Line.Basic
import Passthrough.Period.Format
import Passthrough.Stream.Callback
/-!
# The callbacks of a stream

The callbacks that the hardware calls: one hands a captured period to the channel, one takes the
latest period from it, and one hears of a stream that the hardware closes.

A period of the wrong size is a fault. It stops the stream, is reported to the engine, and never
reaches the other direction: a faulted capture empties the channel, a faulted playback plays
silence.
-/

namespace Passthrough

/-- What the callbacks of one stream were set up with when it was opened. The channel is that of the
line, which keeps the channel that a stream was opened over for as long as the stream is live; the
number says which one that is. -/
structure Handler where
  direction : Direction
  period : PeriodFormat
  observer : Option ObserverId
  /-- The number of the channel that the stream was opened over. -/
  channelId : Nat
  deriving DecidableEq, Repr

namespace Handler

def silence (length : Nat) : List Int16 := List.replicate length 0

/-- Stops the stream over a period of this many bytes. -/
def fault (h : Handler) (actualBytes : Nat) (l : Line) : Line :=
  let l := l.markFaulted h.direction
  -- the output must not go on playing what was captured before the fault
  let l := if h.direction = .input then { l with channel := l.channel.map Channel.reset } else l
  l.report (.fault h.direction h.period.bytes actualBytes)

/-- Takes a captured period over into the channel. -/
def capture (h : Handler) (stream : StreamInfo) (frames : List Int16) (l : Line) :
    Verdict × Line :=
  if (l.state h.direction).refusesAudio then (.stop, l)
  else
    match l.channel with
    | none => (.stop, l)
    | some channel =>
      match h.period.check stream frames.length with
      | .error actual => (.stop, h.fault actual l)
      | .ok () =>
        match channel.publish frames with
        | .error mismatch => (.stop, h.fault (mismatch.actual * sampleBytes) l)
        | .ok (_, channel) =>
          (.proceed, { l with channel := some channel }.notify h.observer .input frames)

/-- Fills a destination of this many samples with the period to play. -/
def render (h : Handler) (stream : StreamInfo) (length : Nat) (l : Line) :
    Verdict × List Int16 × Line :=
  if (l.state h.direction).refusesAudio then (.stop, silence length, l)
  else
    match l.channel with
    | none => (.stop, silence length, l)
    | some channel =>
      match h.period.check stream length with
      | .error actual => (.stop, silence length, h.fault actual l)
      | .ok () =>
        match channel.consume length with
        | .error mismatch => (.stop, silence length, h.fault (mismatch.actual * sampleBytes) l)
        | .ok (_, frames, channel) =>
          (.proceed, frames, { l with channel := some channel }.notify h.observer .output frames)

/-- The hardware is about to close the stream: nothing to do yet. -/
def beforeClose (_ : Handler) (_ : StreamInfo) (_ : HostError) (l : Line) : Line := l

/-- The hardware has closed the stream: it is faulted, and the engine is told. -/
def afterClose (h : Handler) (stream : StreamInfo) (error : HostError) (l : Line) : Line :=
  (l.markFaulted h.direction).report (.disconnected stream.direction error)

end Handler

instance : StreamOwner Handler Line where
  capture := Handler.capture
  render := Handler.render
  beforeClose := Handler.beforeClose
  afterClose := Handler.afterClose

end Passthrough
