import Passthrough.Recording
/-!
# Reading a recording back

What stands in the file of a recording, as a reader of WAV files finds it. The reader takes the file
apart chunk by chunk and relies on nothing that a recording happens to do: it skips whatever a
format says beyond the common fields, and takes every length from the file.

* **`Reads`** — a reader that is given these bytes, and more behind them, answers this and leaves
  what is behind them.
* **`read?_file`** — the file of a recording reads as the format of the recording and its samples.
-/

namespace Passthrough

/-! ## Numbers and samples in bytes -/

/-- The number in these bytes, the low one first. -/
def ofLittleEndian : List UInt8 → Nat
  | [] => 0
  | byte :: rest => byte.toNat + 256 * ofLittleEndian rest

@[simp] theorem length_littleEndian (bytes n : Nat) : (littleEndian bytes n).length = bytes := by
  induction bytes generalizing n with
  | zero => rfl
  | succ bytes ih => simp [littleEndian, ih]

/-- A number is read back as far as its bytes reach. The induction is on the bytes, from the low one
on, and what does not fit is lost at the top. -/
theorem ofLittleEndian_littleEndian (bytes n : Nat) :
    ofLittleEndian (littleEndian bytes n) = n % Nat.pow 256 bytes := by
  induction bytes generalizing n with
  | zero => exact (Nat.mod_one n).symm
  | succ bytes ih =>
    have hlow : (UInt8.ofNat (n % 256)).toNat = n % 256 := by
      rw [UInt8.toNat_ofNat']
      omega
    have hpow : Nat.pow 256 (bytes + 1) = 256 * Nat.pow 256 bytes := Nat.mul_comm _ _
    rw [littleEndian, ofLittleEndian, ih, hlow, hpow, Nat.mod_mul]

namespace Sample

/-- The samples in these bytes, two for each. -/
def ofBytes? : List UInt8 → Option (List Int16)
  | [] => some []
  | [_] => none
  | low :: high :: rest =>
    (ofBytes? rest).map ((UInt16.ofNat (ofLittleEndian [low, high])).toInt16 :: ·)

/-- A sample is read back from its two bytes, the sign included: reading them as a number without a
sign and then with one changes none of the bits. -/
theorem ofLittleEndian_bytes (s : Int16) :
    (UInt16.ofNat (ofLittleEndian (bytes s))).toInt16 = s := by
  have hlow : s.toUInt16.toUInt8.toNat = s.toUInt16.toNat % 256 := by simp
  have hhigh : (s.toUInt16 >>> 8).toUInt8.toNat = s.toUInt16.toNat / 256 := by
    have hlt := s.toUInt16.toNat_lt
    have hshift : (s.toUInt16 >>> 8).toNat = s.toUInt16.toNat / 256 := by
      simp [Nat.shiftRight_eq_div_pow]
    rw [UInt16.toNat_toUInt8, hshift]
    omega
  have hvalue : ofLittleEndian (bytes s) = s.toUInt16.toNat := by
    simp only [bytes, ofLittleEndian, hlow, hhigh]
    omega
  rw [hvalue, UInt16.ofNat_toNat]
  rfl

/-- Samples are read back from their bytes, two bytes at a time. The lower byte comes first, as in
every number of the file. -/
theorem ofBytes?_bytes (samples : List Int16) :
    ofBytes? (samples.flatMap bytes) = some samples := by
  induction samples with
  | nil => rfl
  | cons s rest ih =>
    have hbytes : (s :: rest).flatMap bytes
        = s.toUInt16.toUInt8 :: (s.toUInt16 >>> 8).toUInt8 :: rest.flatMap bytes := rfl
    have hsample : (UInt16.ofNat (ofLittleEndian [s.toUInt16.toUInt8,
        (s.toUInt16 >>> 8).toUInt8])).toInt16 = s := ofLittleEndian_bytes s
    rw [hbytes, ofBytes?, ih, hsample]
    rfl

end Sample

/-! ## The reader -/

/-- A reader of bytes. It takes what it reads off the front, or it fails. -/
abbrev ByteReader := StateT (List UInt8) Option

namespace ByteReader

/-- So many bytes. -/
def take (n : Nat) : ByteReader (List UInt8) := fun bytes =>
  if bytes.length < n then none else some (bytes.take n, bytes.drop n)

/-- A number of so many bytes. -/
def number (n : Nat) : ByteReader Nat := do return ofLittleEndian (← take n)

/-- The letters that name a chunk. -/
def expect (name : String) : ByteReader Unit := do
  if (← take name.length) ≠ Recording.ascii name then failure

/-- A chunk of so many bytes, read by a reader of its own; what that does not read is skipped. -/
def chunk {α : Type} (length : Nat) (x : ByteReader α) : ByteReader α := do
  x.run' (← take length)

/-- **What a reader reads.** Given these bytes and more behind them, it answers this, and what is
behind them is left. -/
def Reads {α : Type} (x : ByteReader α) (bytes : List UInt8) (a : α) : Prop :=
  ∀ rest, x (bytes ++ rest) = some (a, rest)

variable {α β : Type} {x : ByteReader α} {f : α → ByteReader β} {bytes more : List UInt8} {a : α}
  {b : β}

theorem reads_pure (a : α) : Reads (pure a) [] a := fun _ => rfl

/-- Two readers, one after the other, read what the first reads and then what the second reads. -/
theorem Reads.bind (h : Reads x bytes a) (hf : Reads (f a) more b) :
    Reads (x >>= f) (bytes ++ more) b := by
  intro rest
  have hrun : (x >>= f) (bytes ++ more ++ rest)
      = (x (bytes ++ more ++ rest)).bind fun r => f r.1 r.2 := rfl
  rw [hrun, List.append_assoc, h, Option.bind_some, hf]

/-- What follows reads nothing more, as when the fields of a record have all been read and are put
together. -/
theorem Reads.map (h : Reads x bytes a) (hf : Reads (f a) [] b) : Reads (x >>= f) bytes b := by
  have hboth := h.bind hf
  rwa [List.append_nil] at hboth

theorem reads_take (bytes : List UInt8) : Reads (take bytes.length) bytes bytes := by
  intro rest
  have henough : ¬ (bytes ++ rest).length < bytes.length := by simp
  unfold take
  rw [if_neg henough, List.take_left, List.drop_left]

/-- A number is read from as many bytes as it was written with, up to what they can tell. -/
theorem reads_number (n k : Nat) : Reads (number n) (littleEndian n k) (k % Nat.pow 256 n) := by
  have htake := reads_take (littleEndian n k)
  rw [length_littleEndian] at htake
  rw [← ofLittleEndian_littleEndian]
  exact htake.map (reads_pure _)

/-- A number that its bytes suffice for is read as it is. All of the numbers in a header are of this
kind, once the recording `Fits`. -/
theorem reads_number_of_lt {n k : Nat} (h : k < Nat.pow 256 n) :
    Reads (number n) (littleEndian n k) k := by
  have hreads := reads_number n k
  rwa [Nat.mod_eq_of_lt h] at hreads

/-- The letters that name a chunk are met where they were written. -/
theorem reads_expect (name : String) : Reads (expect name) (Recording.ascii name) () := by
  have hlength : (Recording.ascii name).length = name.length := by
    unfold Recording.ascii
    rw [List.length_map, String.length_toList]
  have htake := reads_take (Recording.ascii name)
  rw [hlength] at htake
  refine htake.map ?_
  rw [if_neg (not_not_intro rfl)]
  exact reads_pure ()

/-- A chunk is left as a whole, whatever is skipped in it. So a reader of the common fields of a
format reads the plain form as well as the extended one. -/
theorem reads_chunk (h : Reads x bytes a) (skipped : List UInt8) :
    Reads (chunk (bytes ++ skipped).length x) (bytes ++ skipped) a := by
  refine (reads_take (bytes ++ skipped)).map ?_
  intro rest
  have hx := h skipped
  have hrun : x.run' (bytes ++ skipped) = some a := by
    unfold StateT.run'
    rw [hx]
    rfl
  rw [hrun]
  rfl

end ByteReader

/-! ## The file -/

/-- The common fields of a format. -/
structure WaveFormat where
  tag : Nat
  channelCount : Nat
  sampleRate : Nat
  bytesPerSecond : Nat
  frameBytes : Nat
  sampleBits : Nat
  deriving DecidableEq, Repr

/-- What is found in a WAV file. -/
structure WaveFile where
  /-- How many bytes follow this number. -/
  size : Nat
  format : WaveFormat
  /-- How many bytes of samples there are. -/
  dataLength : Nat
  samples : List Int16
  deriving DecidableEq, Repr

namespace WaveFile

open ByteReader

def readFormat : ByteReader WaveFormat := do
  let tag ← number 2
  let channelCount ← number 2
  let sampleRate ← number 4
  let bytesPerSecond ← number 4
  let frameBytes ← number 2
  let sampleBits ← number 2
  return { tag, channelCount, sampleRate, bytesPerSecond, frameBytes, sampleBits }

/-- Everything in front of the samples. -/
def readHeader : ByteReader (Nat × WaveFormat × Nat) := do
  expect "RIFF"
  let size ← number 4
  expect "WAVE"
  expect "fmt "
  let formatLength ← number 4
  let format ← chunk formatLength readFormat
  expect "data"
  let dataLength ← number 4
  return (size, format, dataLength)

/-- The file in these bytes; all that stands behind the header is taken for samples. -/
def read? (bytes : List UInt8) : Option WaveFile := do
  let ((size, format, dataLength), rest) ← readHeader bytes
  return { size, format, dataLength, samples := ← Sample.ofBytes? rest }

/-- The format of a recording, as a reader finds it. -/
def formatOf (r : Recording) : WaveFormat where
  tag := r.formatTag
  channelCount := r.channelCount
  sampleRate := r.sampleRate
  bytesPerSecond := r.sampleRate * r.channelCount * 2
  frameBytes := r.channelCount * 2
  sampleBits := 16

/-- The numbers of a format and the length of the samples fit the bytes that they are given. -/
structure Fits (r : Recording) : Prop where
  channelCount : r.channelCount * 2 < 65536
  bytesPerSecond : r.sampleRate * r.channelCount * 2 < 4294967296
  sampleRate : r.sampleRate < 4294967296
  dataLength : r.dataLength < 4294967296

/-- The common fields of a format stand at its front, and what a format for many channels says
beyond them is its extension. -/
theorem reads_format {r : Recording} (h : Fits r) :
    ∃ common, r.format = common ++ r.formatExtension ∧ Reads readFormat common (formatOf r) := by
  have htag : r.formatTag < 65536 := by
    unfold Recording.formatTag
    split <;> decide
  have hchannels := h.channelCount
  refine ⟨littleEndian 2 r.formatTag ++ (littleEndian 2 r.channelCount ++
    (littleEndian 4 r.sampleRate ++ (littleEndian 4 (r.sampleRate * r.channelCount * 2) ++
      (littleEndian 2 (r.channelCount * 2) ++ littleEndian 2 16)))), ?_, ?_⟩
  · simp only [Recording.format, List.append_assoc]
  · refine (reads_number_of_lt htag).bind ?_
    refine (reads_number_of_lt (show r.channelCount < 65536 by omega)).bind ?_
    refine (reads_number_of_lt h.sampleRate).bind ?_
    refine (reads_number_of_lt h.bytesPerSecond).bind ?_
    refine (reads_number_of_lt h.channelCount).bind ?_
    exact (reads_number_of_lt (by decide)).map (reads_pure (formatOf r))

/-- **The header is read** as the format of the recording and the length of its samples, and the
size of the file as far as four bytes reach. -/
theorem reads_header {r : Recording} (h : Fits r) :
    Reads readHeader r.header (r.size % 4294967296, formatOf r, r.dataLength) := by
  obtain ⟨common, hformat, hreads⟩ := reads_format h
  have hlength : r.format.length < 4294967296 := by
    unfold Recording.format Recording.formatExtension Recording.integerSubformat
    split <;> simp
  have hchunk := reads_chunk hreads r.formatExtension
  rw [← hformat] at hchunk
  have hheader : r.header = Recording.ascii "RIFF" ++
      (littleEndian 4 r.size ++ (Recording.ascii "WAVE" ++
        (Recording.ascii "fmt " ++ (littleEndian 4 r.format.length ++ (r.format ++
          (Recording.ascii "data" ++ littleEndian 4 r.dataLength)))))) := by
    simp only [Recording.header, List.append_assoc]
  rw [hheader]
  refine (reads_expect _).bind ((reads_number _ _).bind ?_)
  refine (reads_expect _).bind ((reads_expect _).bind ?_)
  refine (reads_number_of_lt hlength).bind (hchunk.bind ?_)
  exact (reads_expect _).bind ((reads_number_of_lt h.dataLength).map (reads_pure _))

/-- **The file of a recording reads back**: its format, the length of its samples in bytes and the
samples themselves, and its size as far as four bytes can say it. -/
theorem read?_file {r : Recording} (h : Fits r) :
    read? r.file = some {
      size := r.size % 4294967296
      format := formatOf r
      dataLength := r.dataLength
      samples := r.samples.toList } := by
  unfold read? Recording.file
  rw [reads_header h]
  simp only [Option.bind_eq_bind, Option.bind_some, Sample.ofBytes?_bytes]
  rfl

/-- The plain form of a format has sixteen bytes, the extensible one forty. So the length of a
header does not depend on what is recorded behind it. -/
theorem length_format (r : Recording) :
    r.format.length = if r.channelCount ≤ 2 then 16 else 40 := by
  have hlength : r.format.length = 16 + r.formatExtension.length := by
    simp only [Recording.format, List.length_append, length_littleEndian]
  rw [hlength]
  unfold Recording.formatExtension Recording.isExtensible
  by_cases hplain : r.channelCount ≤ 2
  · simp [hplain, Nat.not_lt.mpr hplain]
  · simp [hplain, Nat.lt_of_not_le hplain, Recording.integerSubformat]

/-- The file has as many bytes as its size says, behind the eight in front of and in that number. -/
theorem length_file (r : Recording) : r.file.length = r.size + 8 := by
  have hbytes : ∀ samples : List Int16,
      (samples.flatMap Sample.bytes).length = samples.length * 2 := by
    intro samples
    induction samples with
    | nil => rfl
    | cons s rest ih =>
      rw [List.flatMap_cons, List.length_append, ih, List.length_cons, Nat.succ_mul,
        Nat.add_comm]
      rfl
  have hascii : ∀ name, (Recording.ascii name).length = name.toList.length := fun name =>
    List.length_map _
  simp only [Recording.file, Recording.header, List.length_append, length_littleEndian, hbytes,
    hascii, Recording.size, Recording.dataLength, Array.length_toList]
  show 4 + 4 + 4 + 4 + 4 + _ + 4 + 4 + _ = _
  omega

end WaveFile

end Passthrough
