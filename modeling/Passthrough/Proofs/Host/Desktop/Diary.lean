import Passthrough.Proofs.Host.Desktop.Framing
/-!
# The diary of a stream

One stream of a desktop machine, from its opening on. Its owner starts, stops and closes it as it
likes, and the device may refuse each time, since it may be gone by then. Meanwhile the device
captures or plays buffers of any size, whether or not the stream has been started.

What happens is written into a diary, in the order in which it happens: what the owner was answered,
what the device exchanged, and each call of the callback with its verdict. The owner that keeps the
diary (`keeping`) answers as the one it stands for (**`capture_of_keeping`**,
**`render_of_keeping`**), so that the diary tells of that one.
-/

namespace Passthrough

open DesktopHost

namespace Desktop

/-- How many samples there are in a buffer. -/
def bufferSize (buffer : Buffer) : Nat := buffer.samples.length

/-- A buffer has as many samples as were converted for it, in either format. -/
@[simp] theorem bufferSize_ofSamples (format : DeviceFormat) (samples : List Int16) :
    bufferSize (.ofSamples format samples) = samples.length := by
  unfold bufferSize Buffer.ofSamples
  split
  · rfl
  · simp [Buffer.samples]

instance decEqAnswer {ε α : Type} [DecidableEq ε] [DecidableEq α] : DecidableEq (Except ε α)
  | .ok a, .ok b => decidable_of_iff (a = b) ⟨congrArg Except.ok, Except.ok.inj⟩
  | .error e, .error e' => decidable_of_iff (e = e') ⟨congrArg Except.error, Except.error.inj⟩
  | .ok _, .error _ => isFalse nofun
  | .error _, .ok _ => isFalse nofun

/-- An entry of the diary. -/
inductive Entry
  /-- The owner has asked for a start, and got this answer. -/
  | started (answer : Except HostError Unit)
  | stopped (answer : Except HostError Unit)
  | closed (answer : Except HostError Unit)
  /-- The device has captured samples. -/
  | arrived (samples : List Int16)
  /-- The callback was given a captured period. -/
  | handed (frames : List Int16) (verdict : Verdict)
  /-- The callback has given a period to play. -/
  | obtained (frames : List Int16) (verdict : Verdict)
  /-- The device has got a buffer to play. -/
  | played (buffer : Buffer)
  deriving DecidableEq

/-- Whether the callback was called. -/
def Entry.isCall : Entry → Bool
  | .handed _ _ => true
  | .obtained _ _ => true
  | _ => false

/-- Whether it tells what the owner was answered. -/
def Entry.isAnswer : Entry → Bool
  | .started _ => true
  | .stopped _ => true
  | .closed _ => true
  | _ => false

/-- The state of an owner, and the diary, oldest entry first. -/
structure Diary (σ : Type) where
  state : σ
  entries : List Entry := []

namespace Diary

variable {κ σ : Type}

def write (d : Diary σ) (e : Entry) : Diary σ := { d with entries := d.entries ++ [e] }

/-- The owner that writes down what its callbacks are called for. -/
@[reducible]
def keeping (owner : StreamOwner κ σ) : StreamOwner κ (Diary σ) where
  capture callback properties frames d :=
    let (verdict, state) := owner.capture callback properties frames d.state
    (verdict, { d with state }.write (.handed frames verdict))
  render callback properties length d :=
    let (verdict, frames, state) := owner.render callback properties length d.state
    (verdict, frames, { d with state }.write (.obtained frames verdict))
  beforeClose callback properties error d :=
    { d with state := owner.beforeClose callback properties error d.state }
  afterClose callback properties error d :=
    { d with state := owner.afterClose callback properties error d.state }

/-- The owner writes down what its callback is given, with the verdict, behind everything else. -/
theorem entries_capture (owner : StreamOwner κ σ) (callback : κ) (properties : StreamInfo)
    (frames : List Int16) (d : Diary σ) :
    ((keeping owner).capture callback properties frames d).2.entries
      = d.entries ++ [.handed frames ((keeping owner).capture callback properties frames d).1] :=
  rfl

/-- It writes down what its callback gives, with the verdict, behind everything else. -/
theorem entries_render (owner : StreamOwner κ σ) (callback : κ) (properties : StreamInfo)
    (n : Nat) (d : Diary σ) :
    ((keeping owner).render callback properties n d).2.2.entries
      = d.entries ++ [.obtained ((keeping owner).render callback properties n d).2.1
        ((keeping owner).render callback properties n d).1] :=
  rfl

/-- A device exchanges a buffer as if no diary were kept: by `capture_through`, with the diary left
out. -/
theorem capture_of_keeping [owner : StreamOwner κ σ] (buffer : Buffer) (h : DesktopHost κ)
    (d : Diary σ) :
    h.capture buffer d.state
      = ((@DesktopHost.capture κ _ (keeping owner) buffer h d).1,
          (@DesktopHost.capture κ _ (keeping owner) buffer h d).2.1,
          (@DesktopHost.capture κ _ (keeping owner) buffer h d).2.2.state) :=
  capture_through (keeping owner) owner (π := Diary.state) (fun _ _ _ _ => rfl) buffer h d

/-- So it does when it plays one. -/
theorem render_of_keeping [owner : StreamOwner κ σ] (length : Nat) (h : DesktopHost κ)
    (d : Diary σ) :
    h.render length d.state
      = ((@DesktopHost.render κ _ (keeping owner) length h d).1,
          (@DesktopHost.render κ _ (keeping owner) length h d).2.1,
          (@DesktopHost.render κ _ (keeping owner) length h d).2.2.state) :=
  render_through (keeping owner) owner (π := Diary.state) (fun _ _ _ _ => rfl) length h d

end Diary

/-! ## Runs -/

/-- What happens to a stream. The device may refuse a start or a stop, with these words. -/
inductive Move
  | start (refusal : Option String)
  | stop (refusal : Option String)
  | close
  | capture (buffer : Buffer)
  | render (length : Nat)
  deriving DecidableEq

/-- A stream with its handle, alone on its host, and the diary of its owner. -/
structure Bench (κ σ : Type) where
  handle : StreamHandle
  host : DesktopHost κ
  diary : Diary σ

namespace Bench

variable {κ σ : Type}

/-- The stream that has just been opened. -/
def ofOpened (handle : StreamHandle) (host : DesktopHost κ) (state : σ) : Bench κ σ :=
  { handle, host, diary := { state } }

def entries (b : Bench κ σ) : List Entry := b.diary.entries

/-- The devices of the streams answer a start in this way from now on. -/
def scriptPlay (refusal : Option String) (h : DesktopHost κ) : DesktopHost κ :=
  { h with streams := h.streams.map fun x => { x with playError := refusal } }

/-- And a stop. -/
def scriptPause (refusal : Option String) (h : DesktopHost κ) : DesktopHost κ :=
  { h with streams := h.streams.map fun x => { x with pauseError := refusal } }

/-- The bench after a move. A device that cannot exchange a buffer leaves it as it was. -/
def perform [owner : StreamOwner κ σ] (b : Bench κ σ) : Move → Bench κ σ
  | .start refusal =>
    let (answer, host) := startStream b.handle (scriptPlay refusal b.host)
    { b with host, diary := b.diary.write (.started answer) }
  | .stop refusal =>
    let (answer, host) := stopStream b.handle (scriptPause refusal b.host)
    { b with host, diary := b.diary.write (.stopped answer) }
  | .close =>
    let ((answer, handle), host) := closeStream b.handle b.host
    { handle, host, diary := b.diary.write (.closed answer) }
  | .capture buffer =>
    let diary := b.diary.write (.arrived buffer.samples)
    match @DesktopHost.capture κ _ (Diary.keeping owner) buffer b.host diary with
    | (.done _, host, diary) => { b with host, diary }
    | _ => b
  | .render length =>
    match @DesktopHost.render κ _ (Diary.keeping owner) length b.host b.diary with
    | (.done buffer, host, diary) => { b with host, diary := diary.write (.played buffer) }
    | (_, host, diary) => { b with host, diary }

def after [StreamOwner κ σ] (b : Bench κ σ) (ms : List Move) : Bench κ σ := ms.foldl perform b

end Bench

/-! ## One stream -/

namespace DeviceStream

variable {κ : Type}

/-- The period of the framer of its side. -/
def period (x : DeviceStream κ) : Nat :=
  match x.side with
  | .input => x.input.period
  | .output => x.output.period

/-- Whether the framer of its side keeps to itself. -/
def stopped (x : DeviceStream κ) : Bool :=
  match x.side with
  | .input => x.input.stopped
  | .output => x.output.stopped

/-- What the framer of its side holds. -/
def held (x : DeviceStream κ) : List Int16 :=
  match x.side with
  | .input => x.input.filled.toList
  | .output => x.output.pending

variable (x : DeviceStream κ) (stopped : Bool)

@[simp] theorem stopped_setStopped : (setStopped x stopped).stopped = stopped := by
  rcases x with ⟨_, _ | _⟩ <;> rfl

@[simp] theorem held_setStopped : (setStopped x stopped).held = x.held := by
  rcases x with ⟨_, _ | _⟩ <;> rfl

end DeviceStream

end Desktop

open Desktop

namespace DesktopHost

variable {κ σ : Type} {h : DesktopHost κ} {x y : DeviceStream κ} {s : StreamHandle}

/-- The only stream of its host, open as its handle says. -/
structure Alone (h : DesktopHost κ) (s : StreamHandle) (x : DeviceStream κ) : Prop where
  streams : h.streams = [x]
  number : s.id = x.number
  unclosed : s.closed = false

namespace Alone

/-- The only stream of a host is the one that its handle stands for. -/
theorem stream? (hx : h.Alone s x) : h.stream? s.id = some x := by
  simp [DesktopHost.stream?, hx.streams, hx.number]

/-- It is the newest of its direction, and there is none of the other. -/
theorem newest? (hx : h.Alone s x) (d : Direction) :
    h.newest? d = if x.side = d then some x else none := by
  unfold DesktopHost.newest? live
  rw [hx.streams]
  by_cases hside : x.side = d <;> simp [hside]

theorem update (hx : h.Alone s x) (hnumber : y.number = x.number) : (h.update y).Alone s y := by
  refine ⟨?_, hx.number.trans hnumber.symm, hx.unclosed⟩
  simp [DesktopHost.update, hx.streams, hnumber]

/-- What its handle stands for is turned on or off. Starts and stops differ only in the word for the
device, and in which way the stream is turned. -/
theorem turned (hx : h.Alone s x) (stopped : Bool) (op : DeviceOp)
    (answer : DeviceStream κ → Except HostError Unit) :
    ∃ h', h.withStream s (fun x => (answer x, (h.update (setStopped x stopped)).record x op))
        = (answer x, h')
      ∧ h'.Alone s (setStopped x stopped) := by
  obtain ⟨hstreams, hnumber, hunclosed⟩ := hx.update (y := setStopped x stopped) rfl
  refine ⟨(h.update (setStopped x stopped)).record x op, ?_, hstreams, hnumber, hunclosed⟩
  unfold withStream
  rw [hx.unclosed, hx.stream?]
  rfl

/-- **Starting** turns the stream on, whatever the device says, and leaves what it holds. What the
device says is fixed before (`scriptPlay`), and is what the owner is answered. -/
theorem start (hx : h.Alone s x) (refusal : Option String) :
    ∃ h' y, startStream s (Bench.scriptPlay refusal h) = (ofDevice refusal, h') ∧ h'.Alone s y
      ∧ Alike x y ∧ y.stopped = false ∧ y.held = x.held := by
  let scripted : DeviceStream κ := { x with playError := refusal }
  have hscripted : (Bench.scriptPlay refusal h).Alone s scripted :=
    ⟨by simp [Bench.scriptPlay, hx.streams, scripted], hx.number, hx.unclosed⟩
  obtain ⟨h', hstart, halone⟩ := hscripted.turned false .play fun x => ofDevice x.playError
  exact ⟨h', _, hstart, halone, ⟨rfl, rfl, rfl, rfl, rfl, rfl, rfl⟩,
    DeviceStream.stopped_setStopped scripted false, DeviceStream.held_setStopped scripted false⟩

/-- **Stopping** turns it off, whatever the device says, and leaves what it holds. What the device
says is fixed before (`scriptPause`), and is what the owner is answered. -/
theorem stop (hx : h.Alone s x) (refusal : Option String) :
    ∃ h' y, stopStream s (Bench.scriptPause refusal h) = (ofDevice refusal, h') ∧ h'.Alone s y
      ∧ Alike x y ∧ y.stopped = true ∧ y.held = x.held := by
  let scripted : DeviceStream κ := { x with pauseError := refusal }
  have hscripted : (Bench.scriptPause refusal h).Alone s scripted :=
    ⟨by simp [Bench.scriptPause, hx.streams, scripted], hx.number, hx.unclosed⟩
  obtain ⟨h', hstop, halone⟩ := hscripted.turned true .pause fun x => ofDevice x.pauseError
  exact ⟨h', _, hstop, halone, ⟨rfl, rfl, rfl, rfl, rfl, rfl, rfl⟩,
    DeviceStream.stopped_setStopped scripted true, DeviceStream.held_setStopped scripted true⟩

/-- **Capturing** pushes a buffer into the framer, if it is one that the stream can exchange.
Otherwise nothing happens: the device answers with the reason, and the stream is as it was. -/
theorem capture [owner : StreamOwner κ σ] (hx : h.Alone s x) (hside : x.side = .input)
    (buffer : Buffer) (line : σ) :
    (∃ answer, h.capture buffer line = (answer, h, line) ∧ answer ≠ .done ()
        ∧ (buffer.format = x.format → x.input.period = 0))
      ∨ ∃ h' y input line',
          x.input.push (owner.capture x.callback x.properties) buffer.samples line = (input, line')
            ∧ h.capture buffer line = (.done (), h', line')
            ∧ h'.Alone s y ∧ Alike x y ∧ y.input = input := by
  have hperiod : (x.input.push (owner.capture x.callback x.properties) buffer.samples line).1.period
      = x.input.period := x.input.period_push buffer.samples line
  rcases hpush : x.input.push (owner.capture x.callback x.properties) buffer.samples line
    with ⟨input, line'⟩
  rw [hpush] at hperiod
  -- the buffer is refused for its format, or for a period of no samples, or it is pushed
  unfold DesktopHost.capture
  simp only [hx.newest?, if_pos hside, hpush]
  split
  · next hformat => exact Or.inl ⟨_, rfl, nofun, fun heq => absurd heq.symm hformat⟩
  · split
    · next hnone => exact Or.inl ⟨_, rfl, nofun, fun _ => hnone.1⟩
    · exact Or.inr ⟨_, _, input, line', rfl, rfl, hx.update rfl,
        ⟨rfl, rfl, rfl, rfl, rfl, hperiod, rfl⟩, rfl⟩

theorem closeStream (hx : h.Alone s x) :
    (DesktopHost.closeStream s h).1.2.closed = true
      ∧ (DesktopHost.closeStream s h).2.streams = [] := by
  refine ⟨rfl, ?_⟩
  rw [closeStream_streams hx.unclosed, hx.streams]
  simp [hx.number]

end Alone

theorem ofDevice_ne_closed (refusal : Option String) : ofDevice refusal ≠ .error .closed := by
  cases refusal <;> simp [ofDevice]

end DesktopHost

end Passthrough
