import Passthrough.Host.Desktop.Basic
/-!
# Framers and the streams behind them

What a callback of the desktop host gets to see: slices of exactly one period, whatever the device
exchanges. A framer has the period that its stream was built with, and nothing that is asked of the
host or done by the hardware changes that.

* **`CaptureFramer.push_keeps`**, **`PlaybackFramer.pull_keeps`** — what survives a callback on
  slices of one period survives a buffer of any size.
* **`CaptureFramer.push_through`**, **`PlaybackFramer.pull_through`** — an owner who keeps more in
  its state, and answers alike, is served alike.
* **`DesktopHost.answers_of_find`** — a request has the answer of the device that is found for it.
* **`DesktopHost.openStream_cases`** — a stream that opens is at the rate and with the channels of
  its request, and its framers have the period of the request.
* **`DesktopHost.Retunes`** — what every other call and the hardware do to the streams.
-/

namespace Passthrough

namespace Desktop

variable {σ σ' : Type}

/-! ## Capture framers -/

namespace CaptureFramer

variable {call : List Int16 → σ → Verdict × σ} {call' : List Int16 → σ' → Verdict × σ'}
  {P : σ → Prop} {π : σ' → σ}

/-- The callback is called for whole periods only, and the framer keeps its period. The induction is
on the samples, along the recursion of `take`. -/
theorem take_keeps (f : CaptureFramer) (data : List Int16) {s : σ} (hs : P s)
    (hcall : ∀ frames s, frames.length = f.period → P s → P (call frames s).2) :
    (f.take call data s).1.period = f.period ∧ P (f.take call data s).2 := by
  induction data generalizing f s with
  | nil => exact ⟨rfl, hs⟩
  | cons x rest ih =>
    unfold take
    simp only
    split
    · next hfull =>
      have hs' := hcall (f.filled.push x).toList s hfull hs
      rcases hrun : call (f.filled.push x).toList s with ⟨verdict, s'⟩
      rw [hrun] at hs'
      cases verdict with
      | proceed => exact ih { f with filled := #[] } hs' hcall
      | stop => exact ⟨rfl, hs'⟩
    · exact ih { f with filled := f.filled.push x } hs hcall

/-- So it is for a buffer that the device has captured, which is taken over if the framer is on. -/
theorem push_keeps (f : CaptureFramer) (data : List Int16) {s : σ} (hs : P s)
    (hcall : ∀ frames s, frames.length = f.period → P s → P (call frames s).2) :
    (f.push call data s).1.period = f.period ∧ P (f.push call data s).2 := by
  unfold push
  split
  · exact ⟨rfl, hs⟩
  · exact take_keeps f data hs hcall

@[simp] theorem period_push (f : CaptureFramer) (data : List Int16) (s : σ) :
    (f.push call data s).1.period = f.period :=
  (push_keeps (P := fun _ => True) f data trivial fun _ _ _ _ => trivial).1

/-- Of two owners, one of whom keeps more in its state (`π` leaves that out) and answers alike, a
framer makes the same. This lets one write down what passes, beside the line, without changing what
passes. -/
theorem take_through
    (hcall : ∀ frames s, call frames (π s) = ((call' frames s).1, π (call' frames s).2))
    (f : CaptureFramer) (data : List Int16) (s : σ') :
    f.take call data (π s) = ((f.take call' data s).1, π (f.take call' data s).2) := by
  induction data generalizing f s with
  | nil => rfl
  | cons x rest ih =>
    unfold take
    simp only
    split
    · rw [hcall]
      rcases call' (f.filled.push x).toList s with ⟨verdict, s'⟩
      cases verdict with
      | proceed => exact ih _ s'
      | stop => rfl
    · exact ih _ s

/-- So it does of a whole buffer, which is taken over sample by sample if the framer is on and left
out if it is off. -/
theorem push_through
    (hcall : ∀ frames s, call frames (π s) = ((call' frames s).1, π (call' frames s).2))
    (f : CaptureFramer) (data : List Int16) (s : σ') :
    f.push call data (π s) = ((f.push call' data s).1, π (f.push call' data s).2) := by
  unfold push
  split
  · rfl
  · exact take_through hcall f data s

end CaptureFramer

/-! ## Playback framers -/

namespace PlaybackFramer

variable {call : Nat → σ → Verdict × List Int16 × σ}
  {call' : Nat → σ' → Verdict × List Int16 × σ'} {P : σ → Prop} {π : σ' → σ}

/-- A framer that needs a period asks its callback for one, of its own length, and keeps that
length. A framer that is off takes a period of silence and does not ask. -/
theorem refill_keeps (f : PlaybackFramer) {s : σ} (hs : P s)
    (hcall : ∀ s, P s → P (call f.period s).2.2) :
    (f.refill call s).1.period = f.period ∧ P (f.refill call s).2 := by
  have hs' := hcall s hs
  unfold refill
  split
  · exact ⟨rfl, hs⟩
  · rcases hrun : call f.period s with ⟨verdict, frames, s'⟩
    rw [hrun] at hs'
    cases verdict <;> exact ⟨rfl, hs'⟩

/-- The framer from which the next sample is served. -/
def ready (call : Nat → σ → Verdict × List Int16 × σ) (f : PlaybackFramer) (s : σ) :
    PlaybackFramer × σ :=
  if f.pending = [] then f.refill call s else (f, s)

/-- One sample more: it is the first of what the framer that is ready for it has. It takes the loop
of the framer apart, so that an induction on the samples has nothing to do with arrays. -/
theorem serve_succ (n : Nat) (served : Array Int16) (f : PlaybackFramer) (s : σ) :
    serve call (n + 1) served f s
      = serve call n (served.push ((f.ready call s).1.pending.headD 0))
          { (f.ready call s).1 with pending := (f.ready call s).1.pending.tail }
          (f.ready call s).2 := by
  have hready : (if f.pending = [] then f.refill call s else (f, s)) = f.ready call s := rfl
  rw [serve, hready]
  rcases f.ready call s with ⟨⟨period, pending, stopped⟩, s'⟩
  cases pending <;> rfl

/-- A framer that is made ready for a sample has asked for a period, or has one begun. -/
theorem ready_keeps (f : PlaybackFramer) {s : σ} (hs : P s)
    (hcall : ∀ s, P s → P (call f.period s).2.2) :
    (f.ready call s).1.period = f.period ∧ P (f.ready call s).2 := by
  unfold ready
  split
  · exact refill_keeps f hs hcall
  · exact ⟨rfl, hs⟩

/-- The callback is asked for whole periods only, and the framer keeps its period. The induction is
on the samples that are still to be served. The callback may turn the framer off on the way, which
changes neither. -/
theorem serve_keeps (n : Nat) (served : Array Int16) (f : PlaybackFramer) {s : σ} (hs : P s)
    (hcall : ∀ s, P s → P (call f.period s).2.2) :
    (serve call n served f s).2.1.period = f.period ∧ P (serve call n served f s).2.2 := by
  induction n generalizing served f s with
  | zero => exact ⟨rfl, hs⟩
  | succ n ih =>
    obtain ⟨hperiod, hs'⟩ := ready_keeps f hs hcall
    rw [serve_succ]
    obtain ⟨hperiod', hs''⟩ := ih (served.push ((f.ready call s).1.pending.headD 0))
      { (f.ready call s).1 with pending := (f.ready call s).1.pending.tail } hs'
      (by rwa [← hperiod] at hcall)
    exact ⟨hperiod'.trans hperiod, hs''⟩

theorem pull_keeps (f : PlaybackFramer) (length : Nat) {s : σ} (hs : P s)
    (hcall : ∀ s, P s → P (call f.period s).2.2) :
    (f.pull call length s).2.1.period = f.period ∧ P (f.pull call length s).2.2 :=
  serve_keeps length #[] f hs hcall

/-- An owner who keeps more in its state, and answers alike, is asked for the same period. The
samples and the verdict are those that the callback has given to either. -/
theorem refill_through
    (hcall : ∀ n s, call n (π s) = ((call' n s).1, (call' n s).2.1, π (call' n s).2.2))
    (f : PlaybackFramer) (s : σ') :
    f.refill call (π s) = ((f.refill call' s).1, π (f.refill call' s).2) := by
  unfold refill
  split
  · rfl
  · rw [hcall]
    rcases call' f.period s with ⟨verdict, frames, s'⟩
    cases verdict <;> rfl

/-- A framer becomes ready in the same way for both of two owners that answer alike. It is the step
of `serve_through`. -/
theorem ready_through
    (hcall : ∀ n s, call n (π s) = ((call' n s).1, (call' n s).2.1, π (call' n s).2.2))
    (f : PlaybackFramer) (s : σ') :
    f.ready call (π s) = ((f.ready call' s).1, π (f.ready call' s).2) := by
  unfold ready
  split
  · exact refill_through hcall f s
  · rfl

/-- Of two owners that answer alike, one of whom keeps more, the same samples are served. The
induction is on the samples, over `serve_succ`. -/
theorem serve_through
    (hcall : ∀ n s, call n (π s) = ((call' n s).1, (call' n s).2.1, π (call' n s).2.2))
    (n : Nat) (served : Array Int16) (f : PlaybackFramer) (s : σ') :
    serve call n served f (π s)
      = ((serve call' n served f s).1, (serve call' n served f s).2.1,
          π (serve call' n served f s).2.2) := by
  induction n generalizing served f s with
  | zero => rfl
  | succ n ih =>
    rw [serve_succ, serve_succ, ready_through hcall]
    exact ih _ _ _

/-- So the same buffer is played, and the framer is left in the same state. -/
theorem pull_through
    (hcall : ∀ n s, call n (π s) = ((call' n s).1, (call' n s).2.1, π (call' n s).2.2))
    (f : PlaybackFramer) (length : Nat) (s : σ') :
    f.pull call length (π s)
      = ((f.pull call' length s).1, (f.pull call' length s).2.1,
          π (f.pull call' length s).2.2) := by
  unfold pull
  rw [serve_through hcall]

end PlaybackFramer

/-! ## Plans -/

/-- **What a device answers to a request.** It tells what it supports, a configuration is chosen
from that, and it builds a stream with it. Each of the three can fail. -/
inductive Device.Answers (device : Device) (r : StreamSpec) : Except HostError BuildPlan → Prop
  | silent {text : String} (hranges : device.rangesError = some text) :
      Answers device r (.error (.backend (backendText text)))
  | unfit {e : HostError} (hranges : device.rangesError = none)
      (hplan : planFor device.ranges r = .error e) : Answers device r (.error e)
  | unbuilt {n : BuildPlan} {e : BuildError} (hranges : device.rangesError = none)
      (hplan : planFor device.ranges r = .ok n) (hbuild : device.buildError = some e) :
      Answers device r (.error e.toHostError)
  | built {n : BuildPlan} (hranges : device.rangesError = none)
      (hplan : planFor device.ranges r = .ok n) (hbuild : device.buildError = none) :
      Answers device r (.ok n)

theorem Device.Answers.planFor_eq {device : Device} {r : StreamSpec} {n : BuildPlan}
    (h : device.Answers r (.ok n)) : planFor device.ranges r = .ok n := by
  cases h with
  | built _ hplan _ => exact hplan

/-- A plan has the rate and the channels of the request it was made for: a configuration is only
chosen if it serves both. So a stream that has been built runs at what was asked for, and nothing is
converted on the way. -/
theorem plan_of_planFor {ranges : List ConfigRange} {r : StreamSpec} {n : BuildPlan}
    (h : planFor ranges r = .ok n) : n.sampleRate = r.sampleRate ∧ n.channels = r.channelCount := by
  unfold planFor at h
  simp only at h
  split at h
  · cases h
  · split at h
    · cases h
    · cases h
      exact ⟨rfl, rfl⟩

end Desktop

open Desktop

namespace DesktopHost

variable {κ σ σ' : Type} {h h' h'' : DesktopHost κ} {s : StreamHandle} {d : Direction}

/-- Once a device is found, the answer to a request is its own. It can fail in three ways, and
`choose` fails with it in each of them. The device has no ranges to tell, none of them will do, or
the stream cannot be built. -/
theorem answers_of_find {r : StreamSpec} {w : World} {device : Device}
    (hfind : w.find d r.deviceId = .ok device) :
    (∃ e, device.Answers r (.error e) ∧ choose d r w = .error e)
      ∨ ∃ n, device.Answers r (.ok n) ∧ choose d r w = .ok (device, n) := by
  unfold choose
  rw [hfind]
  -- the device is asked for its ranges, then for a plan, then for the stream
  cases hranges : device.rangesError with
  | some text =>
    refine .inl ⟨_, .silent hranges, ?_⟩
    simp only [bind, Except.bind, hranges]
    rfl
  | none =>
    cases hplan : planFor device.ranges r with
    | error e =>
      refine .inl ⟨e, .unfit hranges hplan, ?_⟩
      simp only [bind, Except.bind, hranges, hplan]
    | ok n =>
      cases hbuild : device.buildError with
      | some e =>
        refine .inl ⟨_, .unbuilt hranges hplan hbuild, ?_⟩
        simp only [bind, Except.bind, hranges, hplan, hbuild]
        rfl
      | none =>
        refine .inr ⟨n, .built hranges hplan hbuild, ?_⟩
        simp only [bind, Except.bind, hranges, hplan, hbuild]
        rfl

/-- What is chosen for a request is a plan that the device has for it. The rest of the choice, which
device it is, does not enter. With `plan_of_planFor` it gives the rate and the channels of the
stream. -/
theorem planFor_of_choose {r : StreamSpec} {w : World} {device : Device} {n : BuildPlan}
    (h : choose d r w = .ok (device, n)) : planFor device.ranges r = .ok n := by
  cases hfind : w.find d r.deviceId with
  | error _ =>
    unfold choose at h
    rw [hfind] at h
    cases h
  | ok found =>
    rcases answers_of_find hfind with ⟨_, _, hchoose⟩ | ⟨plan, hplan, hchoose⟩
    · rw [hchoose] at h
      cases h
    · rw [hchoose] at h
      cases h
      exact hplan.planFor_eq

/-! ## Opening -/

/-- **A stream that has opened** for a request, and the handle of it. -/
structure Opens (side : Direction) (r : StreamSpec) (callback : κ) (s : StreamHandle)
    (x : DeviceStream κ) : Prop where
  number : s.id = x.number
  unclosed : s.closed = false
  properties : s.properties = x.properties
  side : x.side = side
  callback : x.callback = callback
  sampleRate : x.properties.sampleRate = r.sampleRate
  channelCount : x.properties.channelCount = r.channelCount
  capacity : x.properties.bufferCapacityFrames = r.periodFrames 2
  input : x.input.period = r.framesPerCallback * r.channelCount
  output : x.output.period = r.framesPerCallback * r.channelCount
  /-- The framers hold nothing, and nobody is asked. -/
  unused : x.input = { period := x.input.period } ∧ x.output = { period := x.output.period }

/-- **Opening.** A request is refused, or a stream opens at the rate and with the channels asked
for, behind framers of its period. This host does not crash. -/
theorem openStream_cases (side : Direction) (r : StreamSpec) (callback : κ) (h : DesktopHost κ) :
    (∃ source, openStream side r callback h = (.refused source, h))
      ∨ ∃ s x h', openStream side r callback h = (.opened s, h')
          ∧ h'.streams = h.streams ++ [x] ∧ Opens side r callback s x := by
  unfold openStream
  cases hchoose : choose side r h.world with
  | error source => exact Or.inl ⟨source, rfl⟩
  | ok chosen =>
    obtain ⟨device, n⟩ := chosen
    obtain ⟨hrate, hchannels⟩ := plan_of_planFor (planFor_of_choose hchoose)
    have hperiod : r.framesPerCallback * n.channels = r.framesPerCallback * r.channelCount := by
      rw [hchannels]
    exact Or.inr ⟨_, _, _, rfl, rfl, rfl, rfl, rfl, rfl, rfl, hrate, hchannels, rfl, hperiod,
      hperiod, rfl, rfl⟩

/-! ## What becomes of a stream -/

/-- A stream before and after: it may be stopped or not, and hold other samples. -/
structure Alike (x y : DeviceStream κ) : Prop where
  number : y.number = x.number
  side : y.side = x.side
  format : y.format = x.format
  properties : y.properties = x.properties
  callback : y.callback = x.callback
  input : y.input.period = x.input.period
  output : y.output.period = x.output.period

theorem Alike.refl (x : DeviceStream κ) : Alike x x := ⟨rfl, rfl, rfl, rfl, rfl, rfl, rfl⟩

/-- What happens to a stream in two steps leaves it alike if each of them does. Only whether it is
on and what its framers hold may change on the way. -/
theorem Alike.trans {x y z : DeviceStream κ} (h : Alike x y) (h' : Alike y z) : Alike x z where
  number := h'.number.trans h.number
  side := h'.side.trans h.side
  format := h'.format.trans h.format
  properties := h'.properties.trans h.properties
  callback := h'.callback.trans h.callback
  input := h'.input.trans h.input
  output := h'.output.trans h.output

theorem alike_setStopped (x : DeviceStream κ) (stopped : Bool) : Alike x (setStopped x stopped) :=
  ⟨rfl, rfl, rfl, rfl, rfl, rfl, rfl⟩

/-- **The streams before and after**: every one of them was there, and alike. -/
def Retunes (h h' : DesktopHost κ) : Prop := ∀ y ∈ h'.streams, ∃ x ∈ h.streams, Alike x y

theorem Retunes.refl (h : DesktopHost κ) : Retunes h h := fun x hx => ⟨x, hx, .refl x⟩

/-- A host has the same streams when one of them has been put back alike. -/
theorem retunes_update {x y : DeviceStream κ} (hx : x ∈ h.streams) (halike : Alike x y) :
    Retunes h (h.update y) := by
  intro z hz
  obtain ⟨t, ht, rfl⟩ := List.mem_map.mp hz
  split
  · exact ⟨x, hx, halike⟩
  · exact ⟨t, ht, .refl t⟩

theorem mem_of_stream? {number : Nat} {x : DeviceStream κ} (hx : h.stream? number = some x) :
    x ∈ h.streams ∧ x.number = number :=
  ⟨List.mem_of_find?_eq_some hx, by simpa using List.find?_some hx⟩

theorem mem_of_newest? {x : DeviceStream κ} (hx : h.newest? d = some x) :
    x ∈ h.streams ∧ x.side = d := by
  have hmem : x ∈ h.live d := List.mem_of_getLast? hx
  simpa [live] using hmem

/-- What a handle stands for, if it still does, is turned on or off; a handle that stands for
nothing changes nothing. Both `startStream` and `stopStream` are of this form. -/
theorem retunes_withStream {stopped : Bool} {op : DeviceOp}
    {answer : DeviceStream κ → Except HostError Unit} :
    Retunes h (h.withStream s fun x =>
      (answer x, (h.update (setStopped x stopped)).record x op)).2 := by
  unfold withStream
  split
  · exact .refl h
  · split
    · exact .refl h
    · next x hx => exact retunes_update (mem_of_stream? hx).1 (alike_setStopped x stopped)

theorem retunes_startStream (s : StreamHandle) (h : DesktopHost κ) :
    Retunes h (startStream s h).2 :=
  retunes_withStream

theorem retunes_stopStream (s : StreamHandle) (h : DesktopHost κ) :
    Retunes h (stopStream s h).2 :=
  retunes_withStream

/-! ## Closing -/

/-- **Closing** takes the stream of the handle away, if it is still there. If it is not there the
filter leaves everything, as no stream has the number. -/
theorem closeStream_streams (hs : s.closed = false) (h : DesktopHost κ) :
    (closeStream s h).2.streams = h.streams.filter (·.number ≠ s.id) := by
  unfold closeStream withStream
  rw [hs]
  simp only [Bool.false_eq_true, if_false]
  cases hx : h.stream? s.id with
  | none =>
    symm
    apply List.filter_eq_self.mpr
    intro x hmem
    simpa using List.find?_eq_none.mp hx x hmem
  | some x =>
    have hnumber := (mem_of_stream? hx).2
    simp only [remove, record, hnumber]

theorem closeStream_closed (s : StreamHandle) (h : DesktopHost κ) :
    (closeStream s h).1.2 = { s with closed := true } := rfl

theorem discard_of_closed (hs : s.closed = true) (h : DesktopHost κ) : discard s h = ((), h) := by
  unfold discard withStream
  rw [hs]
  rfl

/-! ## The hardware -/

/-- **Capturing.** What survives the callback on slices of one period survives a buffer. Only the
newest stream of the input is asked, and its framer hands over slices of its own period
(`push_keeps`). -/
theorem capture_keeps [StreamOwner κ σ] {P : σ → Prop} (buffer : Buffer) (h : DesktopHost κ)
    {line : σ} (hline : P line)
    (hcall : ∀ x ∈ h.streams, x.side = .input → ∀ frames line, frames.length = x.input.period →
      P line → P (StreamOwner.capture x.callback x.properties frames line).2) :
    Retunes h (h.capture buffer line).2.1 ∧ P (h.capture buffer line).2.2 := by
  unfold capture
  cases hx : h.newest? .input with
  | none => exact ⟨.refl h, hline⟩
  | some x =>
    obtain ⟨hmem, hside⟩ := mem_of_newest? hx
    obtain ⟨hperiod, hline'⟩ := x.input.push_keeps buffer.samples hline (hcall x hmem hside)
    simp only
    split
    · exact ⟨.refl h, hline⟩
    · split
      · exact ⟨.refl h, hline⟩
      · exact ⟨retunes_update hmem ⟨rfl, rfl, rfl, rfl, rfl, hperiod, rfl⟩, hline'⟩

/-- **Playing.** What survives a callback that is asked for one period survives a buffer of any
length. That is so also where a period has no samples and nothing can be served. -/
theorem render_keeps [StreamOwner κ σ] {P : σ → Prop} (length : Nat) (h : DesktopHost κ)
    {line : σ} (hline : P line)
    (hcall : ∀ x ∈ h.streams, x.side = .output → ∀ line, P line →
      P (StreamOwner.render x.callback x.properties x.output.period line).2.2) :
    Retunes h (h.render length line).2.1 ∧ P (h.render length line).2.2 := by
  unfold render
  cases hx : h.newest? .output with
  | none => exact ⟨.refl h, hline⟩
  | some x =>
    obtain ⟨hmem, hside⟩ := mem_of_newest? hx
    simp only
    split
    · obtain ⟨hperiod, hline'⟩ := x.output.refill_keeps hline (hcall x hmem hside)
      exact ⟨retunes_update hmem ⟨rfl, rfl, rfl, rfl, rfl, rfl, hperiod⟩, hline'⟩
    · obtain ⟨hperiod, hline'⟩ := x.output.pull_keeps length hline (hcall x hmem hside)
      exact ⟨retunes_update hmem ⟨rfl, rfl, rfl, rfl, rfl, rfl, hperiod⟩, hline'⟩

/-- A device finds a place for every sample where periods have samples. A buffer in another format,
or no stream to take it, are the other ways for it to fail. -/
theorem capture_ne_noPlace [StreamOwner κ σ] (buffer : Buffer) (h : DesktopHost κ) (line : σ)
    (hpos : ∀ x ∈ h.streams, 0 < x.input.period) : (h.capture buffer line).1 ≠ .noPlace := by
  unfold capture
  cases hx : h.newest? .input with
  | none => simp
  | some x =>
    have hperiod := Nat.ne_of_gt (hpos x (mem_of_newest? hx).1)
    simp only [hperiod, false_and, if_false]
    split <;> simp

/-- So it finds a sample for every place of a buffer that it plays. Accepted configurations have
such periods, and no other device is ever asked. -/
theorem render_ne_noPlace [StreamOwner κ σ] (length : Nat) (h : DesktopHost κ) (line : σ)
    (hpos : ∀ x ∈ h.streams, 0 < x.output.period) : (h.render length line).1 ≠ .noPlace := by
  unfold render
  cases hx : h.newest? .output with
  | none => simp
  | some x =>
    have hperiod := Nat.ne_of_gt (hpos x (mem_of_newest? hx).1)
    simp [hperiod]

/-- **An error report** is heard by the owner as the loss of its stream, or not at all. An error
that is no loss changes nothing, as the owner is not told of it. -/
theorem reportError_keeps [StreamOwner κ σ] {P : σ → Prop} (d : Direction) (error : DeviceError)
    (h : DesktopHost κ) {line : σ} (hline : P line)
    (hlost : ∀ x ∈ h.streams, P (StreamOwner.afterClose x.callback x.properties .disconnected
      (StreamOwner.beforeClose x.callback x.properties .disconnected line))) :
    Retunes h (h.reportError d error line).2.1 ∧ P (h.reportError d error line).2.2 := by
  unfold reportError
  cases hx : h.newest? d with
  | none => exact ⟨.refl h, hline⟩
  | some x =>
    obtain ⟨hmem, _⟩ := mem_of_newest? hx
    simp only
    split
    · exact ⟨.refl h, hline⟩
    · exact ⟨retunes_update hmem ⟨rfl, rfl, rfl, rfl, rfl, rfl, rfl⟩, hlost x hmem⟩

/-! ## Two owners -/

variable {π : σ' → σ}

/-- Of two owners that answer alike, one of whom keeps more, the host makes the same of a captured
buffer. A diary, or a list of what is handed over, is kept in this way beside the state that is of
interest. -/
theorem capture_through (owner' : StreamOwner κ σ') (owner : StreamOwner κ σ)
    (hcall : ∀ callback properties frames s,
      owner.capture callback properties frames (π s)
        = ((owner'.capture callback properties frames s).1,
            π (owner'.capture callback properties frames s).2))
    (buffer : Buffer) (h : DesktopHost κ) (s : σ') :
    @capture κ σ owner buffer h (π s)
      = ((@capture κ σ' owner' buffer h s).1, (@capture κ σ' owner' buffer h s).2.1,
          π (@capture κ σ' owner' buffer h s).2.2) := by
  unfold capture
  cases h.newest? .input with
  | none => rfl
  | some x =>
    simp only
    split
    · rfl
    · split
      · rfl
      · rw [CaptureFramer.push_through (hcall x.callback x.properties)]

/-- So it does of a buffer to be played, whichever stream is the newest one of the output. -/
theorem render_through (owner' : StreamOwner κ σ') (owner : StreamOwner κ σ)
    (hcall : ∀ callback properties n s,
      owner.render callback properties n (π s)
        = ((owner'.render callback properties n s).1, (owner'.render callback properties n s).2.1,
            π (owner'.render callback properties n s).2.2))
    (length : Nat) (h : DesktopHost κ) (s : σ') :
    @render κ σ owner length h (π s)
      = ((@render κ σ' owner' length h s).1, (@render κ σ' owner' length h s).2.1,
          π (@render κ σ' owner' length h s).2.2) := by
  unfold render
  cases h.newest? .output with
  | none => rfl
  | some x =>
    simp only
    split
    · rw [PlaybackFramer.refill_through (hcall x.callback x.properties)]
    · rw [PlaybackFramer.pull_through (hcall x.callback x.properties)]

end DesktopHost

end Passthrough
