import Passthrough.Proofs.Host.Desktop.Serving
/-!
# A period in its place

A playback framer may have one period of places only, and hand them to the callback again and again,
to be edited in place. Such a framer (`PeriodFramer`) reads each sample from the next place, has no
answer where there is no such place, and writes down what it does in which order.

* **`PeriodFramer.serveAll?_shows`** — it always has an answer, serves the same samples as a framer
  that is given a new period each time, and asks the callback in time: only when the period before
  has been written out.
* **`PeriodFramer.serveAll?_eq`** — how the samples are cut into buffers makes no difference.
-/

namespace Passthrough

namespace Desktop

variable {σ : Type}

/-! ## In which order -/

/-- What a framer does, one thing after the other. -/
inductive Act
  /-- The callback has got the period, and has left these samples in it. -/
  | asked (frames : List Int16) (verdict : Verdict)
  /-- The next place of the buffer was filled. -/
  | wrote (sample : Int16)

def Act.sample? : Act → Option Int16
  | .wrote sample => some sample
  | .asked _ _ => none

def Act.given? : Act → Option (List Int16 × Verdict)
  | .asked frames verdict => some (frames, verdict)
  | .wrote _ => none

/-- The samples in the buffers. -/
def written (acts : List Act) : List Int16 := acts.filterMap Act.sample?

/-- The periods that the callback was asked for. -/
def askedFor (acts : List Act) : List (List Int16 × Verdict) := acts.filterMap Act.given?

section Acts

variable (acts more : List Act) (x : Int16) (frames : List Int16) (verdict : Verdict)

@[simp] theorem written_append : written (acts ++ more) = written acts ++ written more := by
  simp [written]

@[simp] theorem askedFor_append : askedFor (acts ++ more) = askedFor acts ++ askedFor more := by
  simp [askedFor]

@[simp] theorem written_nil : written [] = [] := rfl

@[simp] theorem askedFor_nil : askedFor [] = [] := rfl

@[simp] theorem written_wrote : written (.wrote x :: acts) = x :: written acts := rfl

@[simp] theorem askedFor_wrote : askedFor (.wrote x :: acts) = askedFor acts := rfl

@[simp] theorem written_asked : written (.asked frames verdict :: acts) = written acts := rfl

@[simp] theorem askedFor_asked :
    askedFor (.asked frames verdict :: acts) = (frames, verdict) :: askedFor acts := rfl

end Acts

/-- **In time**: the callback is asked only when everything has been written that waited at first,
and every period that it was asked for before. -/
def Timely (waiting : List Int16) (acts : List Act) : Prop :=
  ∀ before frames verdict since, acts = before ++ .asked frames verdict :: since →
    written before = waiting ++ givenSamples (askedFor before)

section Timely

variable {waiting frames : List Int16} {acts : List Act}

theorem timely_of_not_asked (h : askedFor acts = []) : Timely waiting acts := by
  rintro before frames verdict since rfl
  simp at h

/-- To write the first of what waits leaves the rest to be written before the callback is asked. A
proof by what stands before the asking: nothing, or this write and then what the rest of the acts
has before it. -/
theorem Timely.wrote (h : Timely waiting acts) (x : Int16) :
    Timely (x :: waiting) (.wrote x :: acts) := by
  intro before frames verdict since hsplit
  cases before with
  | nil => cases hsplit
  | cons act before =>
    obtain ⟨rfl, hacts⟩ := List.cons.inj hsplit
    rw [written_wrote, askedFor_wrote, h before frames verdict since hacts, List.cons_append]

/-- Once nothing waits the callback may be asked, and what it gives waits then. `Timely` counts from
the end of what waited, so asking is in time only once everything that waited has been written. -/
theorem Timely.asked (h : Timely frames acts) (verdict : Verdict) :
    Timely [] (.asked frames verdict :: acts) := by
  intro before frames' verdict' since hsplit
  cases before with
  | nil => rfl
  | cons act before =>
    obtain ⟨rfl, hacts⟩ := List.cons.inj hsplit
    rw [written_asked, askedFor_asked, h before frames' verdict' since hacts]
    rfl

end Timely

/-! ## Places -/

/-- A framer that has the place of every sample of a period, and reads the next sample from the next
place. The callback edits the samples in their places. -/
structure PeriodFramer where
  slots : Array Int16
  next : Nat
  stopped : Bool

namespace PeriodFramer

section Serving

variable (edit : Nat → List Int16 → σ → Verdict × List Int16 × σ)

/-- Has the period filled anew if it is used up: by the callback, or with silence once that has
answered stop. -/
def renew (p : PeriodFramer) (s : σ) : List Act × PeriodFramer × σ :=
  if p.next = p.slots.size then
    if p.stopped then ([], { p with slots := Array.replicate p.slots.size 0, next := 0 }, s)
    else
      let (verdict, frames, s) := edit p.slots.size p.slots.toList s
      ([.asked frames verdict], { slots := frames.toArray, next := 0, stopped := verdict = .stop },
        s)
  else ([], p, s)

/-- Fills this many places of a buffer. There is no answer if there is no place to read from. -/
def serve? : Nat → PeriodFramer → σ → Option (List Act × PeriodFramer × σ)
  | 0, p, s => some ([], p, s)
  | n + 1, p, s =>
    let (asked, p, s) := p.renew edit s
    if hplace : p.next < p.slots.size then do
      let (acts, p', s) ← serve? n { p with next := p.next + 1 } s
      some (asked ++ .wrote p.slots[p.next] :: acts, p', s)
    else none

/-- Fills buffers of these lengths. -/
def serveAll? : List Nat → PeriodFramer → σ → Option (List Act × PeriodFramer × σ)
  | [], p, s => some ([], p, s)
  | length :: rest, p, s => do
    let (acts, p, s) ← p.serve? edit length s
    let (more, p, s) ← serveAll? rest p s
    some (acts ++ more, p, s)

end Serving

variable {edit : Nat → List Int16 → σ → Verdict × List Int16 × σ} {p p' : PeriodFramer}
  {f : PlaybackFramer} {s s' : σ} {n m : Nat} {acts : List Act}

/-- **However it is cut** into buffers, so many places are filled alike. If one of the two halves
runs out of its slots, so does the whole. The induction is on the first number, which is the one
`serve?` descends on. -/
theorem serve?_add :
    p.serve? edit (n + m) s = (do
      let (acts, p, s) ← p.serve? edit n s
      let (more, p, s) ← p.serve? edit m s
      some (acts ++ more, p, s)) := by
  induction n generalizing p s with
  | zero =>
    rw [Nat.zero_add, serve?]
    cases hserve : serve? edit m p s <;> simp [hserve]
  | succ n ih =>
    have hcount : n + 1 + m = n + m + 1 := by omega
    rw [hcount, serve?, serve?]
    rcases p.renew edit s with ⟨asked, p, s⟩
    -- the first sample of the first half, and then by induction
    simp only
    split
    · rw [ih]
      cases serve? edit n { p with next := p.next + 1 } s with
      | none => rfl
      | some served =>
        simp only [Option.bind_eq_bind, Option.bind_some]
        cases serve? edit m served.2.1 served.2.2 <;> simp
    · rfl

/-- Buffers are filled as one buffer of their common length, by induction over `serve?_add`. -/
theorem serveAll?_eq (lengths : List Nat) (p : PeriodFramer) (s : σ) :
    p.serveAll? edit lengths s = p.serve? edit lengths.sum s := by
  induction lengths generalizing p s with
  | nil => rfl
  | cons length rest ih =>
    rw [serveAll?, List.sum_cons, serve?_add]
    simp only [ih]

/-! ### The same framer -/

/-- What a callback that edits its period in place goes by: what is left in it from the last time,
and the owner. What it has given so far is written down. -/
structure Editing (σ : Type) where
  frames : List Int16
  state : σ
  given : List (List Int16 × Verdict) := []

/-- The callback that gives what it has made of the last period. -/
def inPlace (edit : Nat → List Int16 → σ → Verdict × List Int16 × σ) (n : Nat) (e : Editing σ) :
    Verdict × List Int16 × Editing σ :=
  let (verdict, frames, state) := edit n e.frames e.state
  (verdict, frames, { frames, state, given := e.given ++ [(frames, verdict)] })

/-- **The same framer**: what is left of the period is behind the next place of the other. -/
structure Shows (p : PeriodFramer) (f : PlaybackFramer) : Prop where
  size : p.slots.size = f.period
  next : p.next ≤ p.slots.size
  pending : p.slots.toList.drop p.next = f.pending
  stopped : p.stopped = f.stopped

/-- A framer that holds no more than a period is shown by one with places. -/
theorem exists_shows (hroom : f.pending.length ≤ f.period) : ∃ p : PeriodFramer, p.Shows f := by
  refine ⟨⟨(List.replicate (f.period - f.pending.length) 0 ++ f.pending).toArray,
    f.period - f.pending.length, f.stopped⟩, ?_, ?_, ?_, rfl⟩
  · simp only [List.size_toArray, List.length_append, List.length_replicate]
    omega
  · simp
  · simp

theorem Shows.next_eq_iff (h : p.Shows f) : p.next = p.slots.size ↔ f.pending = [] := by
  have hnext := h.next
  rw [← h.pending, List.drop_eq_nil_iff, Array.length_toList]
  omega

/-- The next place is there where something is left, and holds the first of it; the place behind it
shows the framer without that sample. -/
theorem Shows.pending_eq (h : p.Shows f) (hplace : p.next < p.slots.size) :
    f.pending = p.slots[p.next] :: f.rest.pending ∧ { p with next := p.next + 1 }.Shows f.rest := by
  have hdrop : f.pending = p.slots[p.next] :: p.slots.toList.drop (p.next + 1) := by
    rw [← h.pending, List.drop_eq_getElem_cons (by simpa using hplace), Array.getElem_toList]
  have hrest : f.rest.pending = p.slots.toList.drop (p.next + 1) := by
    rw [PlaybackFramer.rest, hdrop, List.tail_cons]
  exact ⟨hrest ▸ hdrop, h.size, hplace, hrest.symm, h.stopped⟩

/-- **The next sample** is asked for: what was left is still there, or it is silence, or the
callback has been asked. -/
inductive Renews (f : PlaybackFramer) : List Act → PlaybackFramer → Prop
  | left : f.pending ≠ [] → Renews f [] f
  | silent (f' : PlaybackFramer) : f.pending = [] → f.stopped = true → f'.stopped = true →
      Renews f [] f'
  | asked (f' : PlaybackFramer) (verdict : Verdict) : f.pending = [] → f.stopped = false →
      Renews f [.asked f'.pending verdict] f'

/-- To get ready for a sample writes nothing. -/
theorem Renews.written {asked : List Act} {f' : PlaybackFramer} (h : Renews f asked f') :
    Desktop.written asked = [] := by
  cases h <;> rfl

/-- Both framers get ready for the next sample in the same way: they are ready, or they are off and
take a period of silence, or they ask the callback, which finds in the places what it has left there
the last time. -/
theorem renew_shows (hfills : ∀ n frames s, (edit n frames s).2.1.length = n) (hpos : 0 < f.period)
    (h : p.Shows f) {e : Editing σ} (hold : p.stopped = false → e.frames = p.slots.toList) :
    ∃ asked q f' e', p.renew edit e.state = (asked, q, e'.state)
      ∧ f.ready (inPlace edit) e = (f', e') ∧ Renews f asked f'
      ∧ q.Shows f' ∧ q.next < q.slots.size ∧ f'.period = f.period
      ∧ (q.stopped = false → e'.frames = q.slots.toList)
      ∧ e'.given = e.given ++ askedFor asked := by
  unfold renew
  by_cases hleft : f.pending = []
  · rw [if_pos (h.next_eq_iff.mpr hleft), h.stopped, h.size]
    cases hstopped : f.stopped with
    | true =>
      exact ⟨_, _, _, e, rfl, PlaybackFramer.ready_of_silent hstopped hleft,
        .silent _ hleft hstopped hstopped, ⟨by simp, by simp, by simp, hstopped.symm⟩,
        by simpa using hpos, rfl, nofun, by simp⟩
    -- what the callback finds in the places is what it gave the last time
    | false =>
      rw [← hold (h.stopped.trans hstopped)]
      have hlength := hfills f.period e.frames e.state
      rcases hedit : edit f.period e.frames e.state with ⟨verdict, frames, s'⟩
      rw [hedit] at hlength
      have hgiven : inPlace edit f.period e
          = (verdict, frames, ⟨frames, s', e.given ++ [(frames, verdict)]⟩) := by
        rw [inPlace, hedit]
      exact ⟨_, _, _, _, rfl, PlaybackFramer.ready_of_asking hstopped hleft hgiven,
        .asked _ verdict hleft hstopped, ⟨by simpa using hlength, by simp, by simp, rfl⟩,
        by simp [hlength, hpos], rfl, fun _ => rfl, rfl⟩
  · have hnext := h.next
    have hne : p.next ≠ p.slots.size := fun hend => hleft (h.next_eq_iff.mp hend)
    rw [if_neg hne]
    exact ⟨_, _, _, e, rfl, PlaybackFramer.ready_of_left hleft, .left hleft, h, by omega, rfl, hold,
      by simp⟩

/-- **What a framer with places has done** when `n` places of a buffer have been filled, beside one
that shows it. -/
structure Tracks (edit : Nat → List Int16 → σ → Verdict × List Int16 × σ) (f : PlaybackFramer)
    (n : Nat) (e : Editing σ) (acts : List Act) (p : PeriodFramer) : Prop where
  written : written acts = (f.pull (inPlace edit) n e).1
  shows : p.Shows (f.pull (inPlace edit) n e).2.1
  frames : p.stopped = false → (f.pull (inPlace edit) n e).2.2.frames = p.slots.toList
  given : (f.pull (inPlace edit) n e).2.2.given = e.given ++ askedFor acts
  timely : Timely f.pending acts
  /-- Nobody is asked any more where the callback has answered stop. -/
  silent : f.stopped = true → askedFor acts = []

/-- **Every place is there**: the framer with places has an answer, and serves what the other one
does. The induction is on the samples, with `renew_shows` before each of them. -/
theorem serve?_shows (hfills : ∀ n frames s, (edit n frames s).2.1.length = n)
    (hpos : 0 < f.period) (h : p.Shows f) {e : Editing σ}
    (hold : p.stopped = false → e.frames = p.slots.toList) (n : Nat) :
    ∃ acts p', p.serve? edit n e.state = some (acts, p', (f.pull (inPlace edit) n e).2.2.state)
      ∧ Tracks edit f n e acts p' := by
  induction n generalizing p f e with
  | zero =>
    exact ⟨[], p, rfl, rfl, h, hold, by simp, timely_of_not_asked rfl, fun _ => rfl⟩
  | succ n ih =>
    obtain ⟨asked, q, f', e', hrenew, hready, hrenews, hq, hplace, hperiod, hold', hgiven⟩ :=
      renew_shows hfills hpos h hold
    obtain ⟨hnext, hrest⟩ := hq.pending_eq hplace
    obtain ⟨acts, p', hserve, htracks⟩ := ih (f := f'.rest) (hperiod ▸ hpos) hrest hold'
    refine ⟨asked ++ .wrote q.slots[q.next] :: acts, p', ?_, ?_⟩
    · rw [serve?, hrenew]
      simp only
      rw [dif_pos hplace, hserve, PlaybackFramer.pull_succ, hready]
      rfl
    · have hpull : f.pull (inPlace edit) (n + 1) e
          = (q.slots[q.next] :: (f'.rest.pull (inPlace edit) n e').1,
              (f'.rest.pull (inPlace edit) n e').2) := by
        rw [PlaybackFramer.pull_succ, hready]
        simp only [hnext, List.headD_cons]
      have hlater := htracks.timely.wrote q.slots[q.next]
      rw [← hnext] at hlater
      refine ⟨?_, hpull ▸ htracks.shows, hpull ▸ htracks.frames, ?_, ?_, ?_⟩
      · rw [hpull, written_append, hrenews.written, List.nil_append, written_wrote, htracks.written]
      · rw [hpull, askedFor_append, askedFor_wrote, ← List.append_assoc, ← hgiven]
        exact htracks.given
      · -- a callback is asked in time if the period before it has been written
        cases hrenews with
        | left _ => exact hlater
        | silent f' _ _ hstopped => exact timely_of_not_asked (htracks.silent hstopped)
        | asked f' verdict hnone _ => exact hnone ▸ hlater.asked verdict
      · intro hstopped
        cases hrenews with
        | left _ => exact htracks.silent hstopped
        | silent f' _ _ hstopped' => exact htracks.silent hstopped'
        | asked f' verdict _ hrunning => exact absurd (hstopped.symm.trans hrunning) (by decide)

/-- **In buffers of any length**, which are as good as one (`serveAll?_eq`). The acts are followed
by `Tracks`, which ties them to what `PlaybackFramer.pull` answers for all the lengths together. -/
theorem serveAll?_shows (hfills : ∀ n frames s, (edit n frames s).2.1.length = n)
    (hpos : 0 < f.period) (h : p.Shows f) (lengths : List Nat) (s : σ) :
    let e : Editing σ := { frames := p.slots.toList, state := s }
    ∃ acts p', p.serveAll? edit lengths s
        = some (acts, p', (f.pull (inPlace edit) lengths.sum e).2.2.state)
      ∧ Tracks edit f lengths.sum e acts p' := by
  intro e
  rw [serveAll?_eq]
  exact serve?_shows (e := e) hfills hpos h (fun _ => rfl) lengths.sum

end PeriodFramer

end Desktop

end Passthrough
