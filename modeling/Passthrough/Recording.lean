import Passthrough.Sample
import Passthrough.Session
/-!
# Recordings

Recordings of what a session captures, as WAV files with 16-bit samples.

A file takes so many samples and no more: the medium that it is written to has an end, and the bytes
of its samples are counted in 32 bits. A sample that is not taken fails the writing, and what has
been taken by then stays in the file.
-/

namespace Passthrough

/-- A number in this many bytes, the low one first. -/
def littleEndian : Nat → Nat → List UInt8
  | 0, _ => []
  | bytes + 1, n => UInt8.ofNat (n % 256) :: littleEndian bytes (n / 256)

/-- A WAV file in the making: its format and the samples written so far. -/
structure Recording where
  sampleRate : Nat
  channelCount : Nat
  /-- How many samples the medium has room for. -/
  room : Nat
  samples : Array Int16 := #[]
  deriving DecidableEq, Repr, Inhabited

/-- What goes wrong with a recording. -/
inductive RecordingFailure
  /-- A sample was not taken. -/
  | write
  /-- The header could not be completed. -/
  | finalize
  deriving DecidableEq, Repr

namespace RecordingFailure

def message : RecordingFailure → String
  | .write => "writing WAV samples"
  | .finalize => "finalizing WAV file"

end RecordingFailure

namespace Recording

def dataLength (r : Recording) : Nat := r.samples.size * 2

/-- How many samples can be counted, two bytes each, where bytes are counted in 32 bits. -/
def mostSamples : Nat := 2147483647

/-- How many samples the file takes in all. -/
def capacity (r : Recording) : Nat := min r.room mostSamples

def ascii (s : String) : List UInt8 := s.toList.map fun c => UInt8.ofNat c.toNat

/-- How many speaker positions have a name. -/
def speakerPositions : Nat := 18

/-- The positions of the channels, a bit each: the first channel takes the first position and so on.
Channels that the named positions do not suffice for have none. -/
def speakerMask (channelCount : Nat) : Nat := 1 <<< min channelCount speakerPositions - 1

/-- What says that samples are integers, where a format is named by 16 bytes. -/
def integerSubformat : List UInt8 :=
  littleEndian 4 1 ++ littleEndian 2 0 ++ littleEndian 2 16 ++
    [0x80, 0, 0, 0xaa, 0, 0x38, 0x9b, 0x71]

/-- Whether a file is of the extensible form: more than two channels need speaker positions. -/
def isExtensible (r : Recording) : Bool := 2 < r.channelCount

/-- The number that names the form of the file. -/
def formatTag (r : Recording) : Nat := if r.isExtensible then 0xfffe else 1

/-- What the extensible form says beyond the plain one: its own length, the bits of a sample that
count, the speaker positions and the kind of samples. -/
def formatExtension (r : Recording) : List UInt8 :=
  if r.isExtensible then
    littleEndian 2 22 ++ littleEndian 2 16 ++ littleEndian 4 (speakerMask r.channelCount) ++
      integerSubformat
  else []

def format (r : Recording) : List UInt8 :=
  littleEndian 2 r.formatTag ++ littleEndian 2 r.channelCount ++ littleEndian 4 r.sampleRate ++
    littleEndian 4 (r.sampleRate * r.channelCount * 2) ++ littleEndian 2 (r.channelCount * 2) ++
    littleEndian 2 16 ++ r.formatExtension

/-- The size of the file behind the number that tells it. -/
def size (r : Recording) : Nat := 20 + r.format.length + r.dataLength

/-- What stands in front of the samples: the size of all that follows, the format and the size of
the samples. -/
def header (r : Recording) : List UInt8 :=
  ascii "RIFF" ++ littleEndian 4 r.size ++ ascii "WAVE" ++
    ascii "fmt " ++ littleEndian 4 r.format.length ++ r.format ++
    ascii "data" ++ littleEndian 4 r.dataLength

def file (r : Recording) : List UInt8 := r.header ++ r.samples.toList.flatMap Sample.bytes

/-- Writes samples up to the first that the file does not take; says whether it has taken all. -/
def write (r : Recording) (samples : List Int16) : Bool × Recording :=
  let free := r.capacity - r.samples.size
  (samples.length ≤ free, { r with samples := r.samples ++ samples.take free })

/-- Writes periods; nothing more is tried once a sample has not been taken. -/
def writeAll (r : Recording) : List TappedPeriod → Bool × Recording
  | [] => (true, r)
  | period :: periods =>
    let (complete, r) := r.write period.samples
    if complete then r.writeAll periods else (false, r)

/-- Completes the header. It cannot tell the size of a file that is too large for 32 bits, and it
does not pass a last frame that lacks samples. -/
def finalize (r : Recording) : Except RecordingFailure Unit :=
  if r.size < 4294967296 ∧ r.samples.size % r.channelCount = 0 then .ok () else .error .finalize

def ofConfig (room : Nat) (c : Config) : Recording where
  sampleRate := c.sampleRate
  channelCount := c.channelCount
  room

variable {H : Type}

/-- Writes the captured periods that wait in the tap of a session; answers how many there were. What
waits is taken from the tap also where the file does not take it. -/
def catchUp (r : Recording) (s : Session H) :
    Except RecordingFailure Nat × Recording × Session H :=
  let (periods, s) := s.readTap .input
  let periods := periods.getD []
  let (complete, r) := r.writeAll periods
  (if complete then .ok periods.length else .error .write, r, s)

/-- Writes what is left and finishes the file, which is there also where that fails. -/
def finish (r : Recording) (s : Session H) :
    Except RecordingFailure Unit × List UInt8 × Session H :=
  let (caughtUp, r, s) := r.catchUp s
  (caughtUp.bind fun _ => r.finalize, r.file, s)

end Recording

end Passthrough
