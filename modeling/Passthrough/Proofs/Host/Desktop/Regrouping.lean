import Passthrough.Proofs.Host.Desktop.Framing
/-!
# Whole periods of what is captured

A capture framer takes samples over one by one, from buffers of any size. What it makes of them can
be told from the samples alone, and not from how they were cut into buffers: it hands over the whole
periods in them (`wholePeriods`), one after the other, up to the call that answers stop
(`stopCall`), and keeps the samples behind the last one.

* **`CaptureFramer.take_eq_regrouped`** — what the framer makes of samples.
* **`CaptureFramer.push_append`** — two buffers are as good as one.
* **`SlotFramer.pushAll?_shows`** — a framer that writes each sample to its place in one period, and
  has no answer where there is no such place, always has one, and makes the same of its buffers.
-/

namespace Passthrough

namespace Desktop

variable {σ : Type}

/-! ## Whole periods -/

/-- The whole periods in these samples, one after the other. -/
def wholePeriods (period : Nat) (samples : List Int16) : List (List Int16) :=
  (List.range (samples.length / period)).map fun i => (samples.drop (i * period)).take period

/-- The samples behind the last whole period. -/
def remainder (period : Nat) (samples : List Int16) : List Int16 :=
  samples.drop (period * (samples.length / period))

section WholePeriods

variable {period : Nat} {samples frames rest : List Int16}

@[simp] theorem length_wholePeriods :
    (wholePeriods period samples).length = samples.length / period := by
  simp [wholePeriods]

theorem length_remainder : (remainder period samples).length = samples.length % period := by
  rw [remainder, List.length_drop, Nat.mod_eq_sub]

theorem wholePeriods_of_lt (h : samples.length < period) : wholePeriods period samples = [] := by
  simp [wholePeriods, Nat.div_eq_of_lt h]

theorem remainder_of_lt (h : samples.length < period) : remainder period samples = samples := by
  simp [remainder, Nat.div_eq_of_lt h]

theorem length_div_append (hpos : 0 < period) (hframes : frames.length = period) :
    (frames ++ rest).length / period = rest.length / period + 1 := by
  rw [List.length_append, hframes, Nat.add_div_left _ hpos]

/-- The first period, and those of the rest: the way in which a framer meets them. So an induction
over the periods of a list of samples can take them one at a time. -/
theorem wholePeriods_append (hpos : 0 < period) (hframes : frames.length = period) :
    wholePeriods period (frames ++ rest) = frames :: wholePeriods period rest := by
  unfold wholePeriods
  rw [length_div_append hpos hframes, List.range_succ_eq_map, List.map_cons, List.map_map]
  congr 1
  · rw [Nat.zero_mul, List.drop_zero, List.take_left' hframes]
  · -- the period at `i + 1` is the one at `i` of the rest
    apply List.map_congr_left
    intro i _
    have hskip : (i + 1) * period = frames.length + i * period := by
      rw [hframes, Nat.succ_mul, Nat.add_comm]
    rw [Function.comp_apply, hskip, ← List.drop_drop, List.drop_left]

theorem remainder_append (hpos : 0 < period) (hframes : frames.length = period) :
    remainder period (frames ++ rest) = remainder period rest := by
  have hskip : period * (rest.length / period + 1)
      = frames.length + period * (rest.length / period) := by
    rw [hframes, Nat.mul_succ, Nat.add_comm]
  rw [remainder, length_div_append hpos hframes, hskip, ← List.drop_drop, List.drop_left, remainder]

end WholePeriods

/-! ## What a callback answers -/

section Answers

variable (call : List Int16 → σ → Verdict × σ)

/-- What a callback answers to these periods, were it to get all of them. -/
def verdicts : List (List Int16) → σ → List Verdict
  | [], _ => []
  | frames :: rest, s => (call frames s).1 :: verdicts rest (call frames s).2

/-- The owner after its callback has got these periods. -/
def stateAfter (blocks : List (List Int16)) (s : σ) : σ :=
  blocks.foldl (fun s frames => (call frames s).2) s

/-- Which call is the first one that answers stop, counted from 1. The one behind the last one, if
none does. -/
def stopCall (blocks : List (List Int16)) (s : σ) : Nat :=
  (verdicts call blocks s).findIdx (· = .stop) + 1

variable {call} {frames : List Int16} {blocks : List (List Int16)} {s s' : σ}

/-- A callback answers once to each period. -/
@[simp] theorem length_verdicts : (verdicts call blocks s).length = blocks.length := by
  induction blocks generalizing s with
  | nil => rfl
  | cons frames rest ih => simp [verdicts, ih]

/-- It answers to the first period, and then to the others in the state that this has led to. -/
theorem verdicts_cons {verdict : Verdict} (h : call frames s = (verdict, s')) :
    verdicts call (frames :: blocks) s = verdict :: verdicts call blocks s' := by
  rw [verdicts, h]

theorem stateAfter_cons {verdict : Verdict} (h : call frames s = (verdict, s')) :
    stateAfter call (frames :: blocks) s = stateAfter call blocks s' := by
  rw [stateAfter, List.foldl_cons, h]
  rfl

/-- A callback that answers stop to the first period does so with its first call. -/
theorem stopCall_of_stop (h : call frames s = (.stop, s')) :
    stopCall call (frames :: blocks) s = 1 := by
  simp [stopCall, verdicts_cons h, List.findIdx_cons]

/-- Otherwise the call in question comes one later than it does among the other periods. -/
theorem stopCall_of_proceed (h : call frames s = (.proceed, s')) :
    stopCall call (frames :: blocks) s = stopCall call blocks s' + 1 := by
  simp [stopCall, verdicts_cons h, List.findIdx_cons]

end Answers

namespace CaptureFramer

variable {call : List Int16 → σ → Verdict × σ} {f : CaptureFramer} {s s' : σ}

/-! ## One buffer -/

/-- A framer after these samples, what it held before them included, and its owner. -/
def regrouped (call : List Int16 → σ → Verdict × σ) (f : CaptureFramer) (samples : List Int16)
    (s : σ) : CaptureFramer × σ :=
  let blocks := wholePeriods f.period samples
  (if .stop ∈ verdicts call blocks s then { f with filled := #[], stopped := true }
    else { f with filled := (remainder f.period samples).toArray },
    stateAfter call (blocks.take (stopCall call blocks s)) s)

theorem regrouped_of_lt {samples : List Int16} (h : samples.length < f.period) :
    regrouped call f samples s = ({ f with filled := samples.toArray }, s) := by
  simp [regrouped, wholePeriods_of_lt h, remainder_of_lt h, verdicts, stateAfter]

section FirstPeriod

variable {frames rest : List Int16} (hpos : 0 < f.period) (hframes : frames.length = f.period)
include hpos hframes

/-- A period that is answered with proceed is handed over, and the rest is regrouped in the state
after it. -/
theorem regrouped_of_proceed (hcall : call frames s = (.proceed, s')) :
    regrouped call f (frames ++ rest) s = regrouped call f rest s' := by
  simp only [regrouped, wholePeriods_append hpos hframes, remainder_append hpos hframes,
    verdicts_cons hcall, stopCall_of_proceed hcall, List.take_succ_cons, stateAfter_cons hcall]
  simp

/-- A period that is answered with stop is the last: the framer is off and holds nothing, whatever
comes behind. -/
theorem regrouped_of_stop (hcall : call frames s = (.stop, s')) :
    regrouped call f (frames ++ rest) s = ({ f with filled := #[], stopped := true }, s') := by
  simp only [regrouped, wholePeriods_append hpos hframes, verdicts_cons hcall,
    stopCall_of_stop hcall, List.take_succ_cons, stateAfter_cons hcall]
  simp [stateAfter]

end FirstPeriod

/-- **What a framer makes of samples** that join the ones it holds: the whole periods are handed
over, as far as the callback wants them, and the rest is kept. -/
theorem take_eq_regrouped (hroom : f.filled.size < f.period) (data : List Int16) (s : σ) :
    f.take call data s = regrouped call f (f.filled.toList ++ data) s := by
  -- sample by sample: what is held and what is to come stay the same samples, until a period leaves
  induction data generalizing f s with
  | nil => simp [take, regrouped_of_lt, hroom]
  | cons x rest ih =>
    have hheld : f.filled.toList ++ x :: rest = (f.filled.push x).toList ++ rest := by simp
    have hpos : 0 < f.period := Nat.zero_lt_of_lt hroom
    rw [hheld]
    unfold take
    simp only
    split
    · next hfull =>
      rcases hcall : call (f.filled.push x).toList s with ⟨verdict, s'⟩
      cases verdict with
      | proceed =>
        rw [regrouped_of_proceed hpos hfull hcall]
        exact ih (f := { f with filled := #[] }) hpos s'
      | stop => exact (regrouped_of_stop hpos hfull hcall).symm
    · next hpart =>
      have hroom' : (f.filled.push x).size < f.period := by
        rw [Array.size_push] at hpart ⊢
        omega
      exact ih (f := { f with filled := f.filled.push x }) hroom' s

/-- **There is room** for the next sample, always. What is left of a push is a `remainder`, or
nothing after a stop, and a period that has no samples is excluded by the room there was. -/
theorem room_push (hroom : f.filled.size < f.period) (data : List Int16) (s : σ) :
    (f.push call data s).1.filled.size < (f.push call data s).1.period := by
  have hpos : 0 < f.period := Nat.zero_lt_of_lt hroom
  unfold push
  split
  · exact hroom
  · rw [take_eq_regrouped hroom]
    simp only [regrouped]
    split
    · exact hpos
    · simpa [length_remainder] using Nat.mod_lt _ hpos

/-! ## Many buffers -/

theorem push_nil (f : CaptureFramer) (s : σ) : f.push call [] s = (f, s) := by
  unfold push
  split <;> rfl

theorem push_of_stopped (hstopped : f.stopped = true) (data : List Int16) (s : σ) :
    f.push call data s = (f, s) := by
  rw [push, if_pos hstopped]

theorem push_of_running (hrunning : f.stopped = false) (data : List Int16) (s : σ) :
    f.push call data s = f.take call data s := by
  rw [push, if_neg (by simp [hrunning])]

/-- Two buffers are taken over one after the other. A stop in the first one is felt in the second,
which is why this is a `push` and not a `take`. -/
theorem take_append (hrunning : f.stopped = false) (data data' : List Int16) (s : σ) :
    f.take call (data ++ data') s
      = (f.take call data s).1.push call data' (f.take call data s).2 := by
  induction data generalizing f s with
  | nil => exact (push_of_running hrunning data' s).symm
  | cons x rest ih =>
    rw [List.cons_append]
    unfold take
    simp only
    split
    · rcases call (f.filled.push x).toList s with ⟨verdict, s'⟩
      cases verdict with
      | proceed => exact ih (f := { f with filled := #[] }) hrunning s'
      | stop => rfl
    · exact ih (f := { f with filled := f.filled.push x }) hrunning s

/-- **Two buffers** are as good as one: the rest of a buffer is left out after a stop, and so is the
next one. -/
theorem push_append (f : CaptureFramer) (data data' : List Int16) (s : σ) :
    f.push call (data ++ data') s
      = (f.push call data s).1.push call data' (f.push call data s).2 := by
  by_cases hstopped : f.stopped = true
  · simp only [push_of_stopped hstopped]
  · have hrunning : f.stopped = false := by simpa using hstopped
    rw [push_of_running hrunning, push_of_running hrunning, take_append hrunning]

end CaptureFramer

/-! ## Places -/

/-- A framer that has the place of every sample of a period, and writes the next sample to the next
place. -/
structure SlotFramer where
  slots : Array Int16
  next : Nat
  stopped : Bool

namespace SlotFramer

/-- Takes samples over one by one. There is no answer if there is no place for one of them. -/
def take? (call : List Int16 → σ → Verdict × σ) :
    SlotFramer → List Int16 → σ → Option (SlotFramer × σ)
  | p, [], s => some (p, s)
  | p, x :: rest, s =>
    if hplace : p.next < p.slots.size then
      let slots := p.slots.set p.next x hplace
      if p.next + 1 = slots.size then
        match call slots.toList s with
        | (.proceed, s) => take? call { p with slots, next := 0 } rest s
        | (.stop, s) => some ({ slots, next := 0, stopped := true }, s)
      else take? call { p with slots, next := p.next + 1 } rest s
    else none

/-- The device has captured a buffer. -/
def push? (call : List Int16 → σ → Verdict × σ) (p : SlotFramer) (data : List Int16) (s : σ) :
    Option (SlotFramer × σ) :=
  if p.stopped then some (p, s) else p.take? call data s

/-- The device has captured these buffers. -/
def pushAll? (call : List Int16 → σ → Verdict × σ) :
    SlotFramer → List (List Int16) → σ → Option (SlotFramer × σ)
  | p, [], s => some (p, s)
  | p, data :: rest, s => do
    let (p, s) ← p.push? call data s
    pushAll? call p rest s

/-- **The same framer**: what one holds is in the first places of the other, and there is one more
place. -/
structure Shows (p : SlotFramer) (f : CaptureFramer) : Prop where
  size : p.slots.size = f.period
  next : p.next = f.filled.size
  filled : p.slots.toList.take p.next = f.filled.toList
  stopped : p.stopped = f.stopped
  room : p.next < p.slots.size

variable {call : List Int16 → σ → Verdict × σ} {p : SlotFramer} {f : CaptureFramer}

/-- A framer with room for another sample is shown by one with places. -/
theorem exists_shows (hroom : f.filled.size < f.period) : ∃ p : SlotFramer, p.Shows f := by
  refine ⟨⟨f.filled ++ Array.replicate (f.period - f.filled.size) 0, f.filled.size, f.stopped⟩,
    ?_, rfl, ?_, rfl, ?_⟩
  · simp only [Array.size_append, Array.size_replicate]
    omega
  · simp
  · simp only [Array.size_append, Array.size_replicate]
    omega

/-- The next sample goes behind those that are there, and the places beyond it stay as they were. -/
theorem Shows.write (h : p.Shows f) (x : Int16) :
    (p.slots.set p.next x h.room).toList.take (p.next + 1) = (f.filled.push x).toList := by
  have hlength : p.next < (p.slots.toList.set p.next x).length := by simpa using h.room
  rw [Array.toList_set, ← List.take_append_getElem hlength, List.getElem_set_self,
    List.take_set_of_le (Nat.le_refl _), h.filled, Array.toList_push]

/-- **Every sample finds its place.** The induction is on the samples: after each of them the
period is full, is handed over and begun again from its first place, or there is one more place
behind it. -/
theorem take?_shows (h : p.Shows f) (data : List Int16) (s : σ) :
    ∃ p', p.take? call data s = some (p', (f.take call data s).2)
      ∧ p'.Shows (f.take call data s).1 := by
  induction data generalizing p f s with
  | nil => exact ⟨p, rfl, h⟩
  | cons x rest ih =>
    have hwrite := h.write x
    unfold take? CaptureFramer.take
    rw [dif_pos h.room]
    have hnext : p.next + 1 = (f.filled.push x).size := by rw [h.next, Array.size_push]
    have hsize : (p.slots.set p.next x h.room).size = f.period := by
      rw [Array.size_set, h.size]
    simp only [hsize, hnext]
    split
    · -- no slot is left over from an earlier period, so that the callback gets what was written
      next hfull =>
      have hall : (p.slots.set p.next x h.room).toList = (f.filled.push x).toList := by
        rw [← hwrite, hnext, hfull, ← hsize, ← Array.length_toList, List.take_length]
      have hpos : 0 < f.period := by omega
      rw [hall]
      rcases call (f.filled.push x).toList s with ⟨verdict, s'⟩
      cases verdict with
      | proceed =>
        have hempty : Shows { p with slots := p.slots.set p.next x h.room, next := 0 }
            { f with filled := #[] } := ⟨hsize, rfl, rfl, h.stopped, hsize ▸ hpos⟩
        exact ih hempty s'
      | stop => exact ⟨_, rfl, hsize, rfl, rfl, rfl, hsize ▸ hpos⟩
    · next hpart =>
      have hroom : (f.filled.push x).size < f.period := by
        have hfit := h.room
        rw [h.size] at hfit
        omega
      have hmore : Shows { p with slots := p.slots.set p.next x h.room, next := p.next + 1 }
          { f with filled := f.filled.push x } :=
        ⟨hsize, hnext, hwrite, h.stopped, by rwa [← hsize, ← hnext] at hroom⟩
      rw [← hnext]
      exact ih hmore s

/-- So it is in a buffer that the device has captured, whether the framer is on or off. -/
theorem push?_shows (h : p.Shows f) (data : List Int16) (s : σ) :
    ∃ p', p.push? call data s = some (p', (f.push call data s).2)
      ∧ p'.Shows (f.push call data s).1 := by
  unfold push? CaptureFramer.push
  rw [h.stopped]
  split
  · exact ⟨p, rfl, h⟩
  · exact take?_shows h data s

/-- **In every buffer**, and so in all of them, which are as good as one (`push_append`). `Shows`
says that the slots in front of the write position hold what the framer holds, and it is carried
through each buffer by `push?_shows`. -/
theorem pushAll?_shows (h : p.Shows f) (buffers : List (List Int16)) (s : σ) :
    ∃ p', p.pushAll? call buffers s = some (p', (f.push call buffers.flatten s).2)
      ∧ p'.Shows (f.push call buffers.flatten s).1 := by
  induction buffers generalizing p f s with
  | nil =>
    rw [List.flatten_nil, CaptureFramer.push_nil]
    exact ⟨p, rfl, h⟩
  | cons data rest ih =>
    obtain ⟨p', hpush, hp'⟩ : ∃ p', p.push? call data s = some (p', (f.push call data s).2)
        ∧ p'.Shows (f.push call data s).1 := push?_shows h data s
    obtain ⟨p'', hrest, hp''⟩ := ih hp' (f.push call data s).2
    rw [List.flatten_cons, CaptureFramer.push_append]
    refine ⟨p'', ?_, hp''⟩
    rw [pushAll?, hpush]
    exact hrest

end SlotFramer

end Desktop

end Passthrough
