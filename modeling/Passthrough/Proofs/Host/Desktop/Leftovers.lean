import Mathlib.Data.List.Induction
import Passthrough.Proofs.Host.Desktop.Gate
/-!
# What is left over from before a stop

A framer that is stopped in the middle of a period keeps what it holds, and neither the stop nor the
next start empties it. So the first period that is handed to a callback after that start begins with
what had arrived before the stop, and what a device gets to play after it begins with the rest of a
period from before.

A diary tells where each sample comes from. What is passed on in an entry are the samples that wait
first (**`passed`**), and those that were there before a stop and a start are marked as `carried`.

* **`halted_of_crosses`** — audio crosses a stop and a start only if some was waiting when the
  stream was started again.
* **`crosses_of_halted`** — and if the first sample that waits then is one from before the stop, it
  goes on its way next.
* **`Bench.passed_on`** — what callbacks and devices get, in every run.
-/

namespace Passthrough

open DesktopHost

namespace Desktop

variable {period : Nat} {es : List Entry}

/-- What goes on its way in an entry: to the callback that is handed a period, or to the device that
gets a buffer. -/
def passed (period : Nat) (before : List Entry) : Entry → List Waiting
  | .handed frames _ => (read period before).waiting.take frames.length
  | .played buffer => served ⟨0, .silence⟩ (read period before).waiting (bufferSize buffer)
  | _ => []

/-- Whether samples go on their way in an entry. -/
def Entry.isPassing : Entry → Bool
  | .handed _ _ => true
  | .played _ => true
  | _ => false

/-- **Audio crosses** a stop and the start after it. -/
def Crosses (period : Nat) (es : List Entry) : Prop :=
  ∃ before e since, es = before ++ e :: since ∧ ∃ w ∈ passed period before e, w.origin = .carried

/-! ## What has to be there to cross -/

/-- A start carries over only what has been halted, or was carried before. -/
theorem Origin.eq_carried_of_resume {o : Origin} (h : o.resume = .carried) (hhalted : o ≠ .halted) :
    o = .carried := by
  cases o with
  | halted => exact absurd rfl hhalted
  | _ => exact h

theorem Origin.eq_carried_of_halt {o : Origin} (h : o.halt = .carried) : o = .carried := by
  cases o with
  | audio => cases h
  | _ => exact h

/-- What waits among new samples has waited before, or is new. What arrives is `audio` and not
`carried`, so a buffer that is captured brings nothing of an earlier start with it. -/
theorem Waiting.not_carried_append {ws : List Waiting} (hws : ∀ w ∈ ws, w.origin ≠ .carried)
    (samples : List Int16) :
    ∀ w ∈ ws ++ samples.map (Waiting.mk · .audio), w.origin ≠ .carried := by
  intro w hw
  rcases List.mem_append.mp hw with hold | hnew
  · exact hws w hold
  · obtain ⟨x, _, rfl⟩ := List.mem_map.mp hnew
    simp

/-- Nor is silence carried. A buffer that is filled to its end with `silence` leaves as little from
before a stop as it found. -/
theorem Waiting.not_carried_silence {ws vs : List Waiting} (hws : ∀ w ∈ ws, w.origin ≠ .carried)
    (hvs : vs ⊆ ws) (n : Nat) :
    ∀ w ∈ vs ++ List.replicate n ⟨0, .silence⟩, w.origin ≠ .carried := by
  intro w hw
  rcases List.mem_append.mp hw with hold | hsilent
  · exact hws w (hvs hold)
  · rw [List.eq_of_mem_replicate hsilent]
    decide

/-- **One entry** carries nothing but what it starts with halted. New samples and silence are not
carried, and what is taken away makes nothing carried; the only entry that does is a start. -/
theorem Reading.not_carried_enter {r : Reading} {e : Entry}
    (hr : ∀ w ∈ r.waiting, w.origin ≠ .carried)
    (hstart : ∀ answer, e = .started answer → ∀ w ∈ r.waiting, w.origin ≠ .halted) :
    ∀ w ∈ (r.enter period e).waiting, w.origin ≠ .carried := by
  cases e with
  | started answer =>
    intro w hw hcarried
    -- only what was halted can come back as carried
    obtain ⟨v, hv, rfl⟩ := List.mem_map.mp hw
    exact hr v hv (Origin.eq_carried_of_resume hcarried (hstart answer rfl v hv))
  | stopped answer =>
    intro w hw hcarried
    obtain ⟨v, hv, rfl⟩ := List.mem_map.mp hw
    exact hr v hv (Origin.eq_carried_of_halt hcarried)
  | closed answer => exact hr
  | arrived samples =>
    simp only [enter, waitingAfter]
    split
    · exact Waiting.not_carried_append hr samples
    · exact hr
  | handed frames verdict =>
    cases verdict with
    | proceed => exact fun w hw => hr w (List.mem_of_mem_drop hw)
    | stop => simp [enter, waitingAfter]
  | obtained frames verdict => exact Waiting.not_carried_append hr frames
  | played buffer => exact Waiting.not_carried_silence hr (List.drop_subset _ _) _

/-- What goes on its way is among what waits, or silence. -/
theorem not_carried_passed {before : List Entry}
    (hbefore : ∀ w ∈ (read period before).waiting, w.origin ≠ .carried) (e : Entry) :
    ∀ w ∈ passed period before e, w.origin ≠ .carried := by
  cases e with
  | handed frames verdict => exact fun w hw => hbefore w (List.mem_of_mem_take hw)
  | played buffer => exact Waiting.not_carried_silence hbefore (List.take_subset _ _) _
  | _ => simp [passed]

/-- **Nothing crosses** unless something was waiting from before a stop when the stream was started
again. Only `Waiting.resume` makes a sample `carried`, and it does so to one that is `halted`, so
without such a start no prefix of the diary has a carried sample waiting. The induction is on that
prefix, read from its last entry. -/
theorem halted_of_crosses (h : Crosses period es) :
    ∃ before answer since, es = before ++ .started answer :: since
      ∧ ∃ w ∈ (read period before).waiting, w.origin = .halted := by
  apply Classical.byContradiction
  intro hnone
  have hstart : ∀ before answer since, es = before ++ .started answer :: since →
      ∀ w ∈ (read period before).waiting, w.origin ≠ .halted :=
    fun before answer since hsplit w hw hhalted =>
      hnone ⟨before, answer, since, hsplit, w, hw, hhalted⟩
  -- only a start resumes, and `hstart` leaves it nothing to resume
  have hread : ∀ before since, es = before ++ since →
      ∀ w ∈ (read period before).waiting, w.origin ≠ .carried := by
    intro before
    induction before using List.reverseRecOn with
    | nil => simp [read]
    | append_singleton before e ih =>
      intro since hsplit
      rw [List.append_assoc] at hsplit
      rw [read_concat]
      refine Reading.not_carried_enter (ih _ hsplit) fun answer he => ?_
      subst he
      exact hstart before answer since hsplit
  obtain ⟨before, e, since, hsplit, w, hw, hcarried⟩ := h
  exact not_carried_passed (hread before _ hsplit) e w hw hcarried

/-! ## What does cross -/

/-- The next sample was there before a stop and a start. -/
def Reading.CarriesNext (r : Reading) : Prop :=
  ∃ w rest, r.waiting = w :: rest ∧ w.origin = .carried

/-- It stays the next one until something goes on its way: what arrives comes behind it, and starts
and stops do not empty the framer. An entry that `isPassing` would take it away, so these are left out here. -/
theorem Reading.CarriesNext.enter {r : Reading} (h : r.CarriesNext) {e : Entry}
    (he : e.isPassing = false) : (r.enter period e).CarriesNext := by
  obtain ⟨w, rest, hwaiting, hcarried⟩ := h
  have happend : ∀ new, ∃ rest', r.waiting ++ new = w :: rest' :=
    fun new => ⟨rest ++ new, by rw [hwaiting]; rfl⟩
  cases e with
  | started answer =>
    exact ⟨w.resume, rest.map Waiting.resume, by simp [Reading.enter, waitingAfter, hwaiting],
      by simp [Waiting.resume, hcarried, Origin.resume]⟩
  | stopped answer =>
    exact ⟨w.halt, rest.map Waiting.halt, by simp [Reading.enter, waitingAfter, hwaiting],
      by simp [Waiting.halt, hcarried, Origin.halt]⟩
  | closed answer => exact ⟨w, rest, hwaiting, hcarried⟩
  | arrived samples =>
    by_cases hstanding : r.standing.isSome
    · obtain ⟨rest', hrest⟩ := happend (samples.map (Waiting.mk · .audio))
      exact ⟨w, rest', by simp [Reading.enter, waitingAfter, hstanding, hrest], hcarried⟩
    · exact ⟨w, rest, by simp [Reading.enter, waitingAfter, hstanding, hwaiting], hcarried⟩
  | obtained frames verdict =>
    obtain ⟨rest', hrest⟩ := happend (frames.map (Waiting.mk · .audio))
    exact ⟨w, rest', hrest, hcarried⟩
  | handed frames verdict => cases he
  | played buffer => cases he

/-- So it does through any number of such entries. The induction is on the entries in between, with
`Reading.CarriesNext.enter` for each. -/
theorem Reading.CarriesNext.foldl {r : Reading} (h : r.CarriesNext) {between : List Entry}
    (hbetween : ∀ e ∈ between, e.isPassing = false) :
    (between.foldl (Reading.enter period) r).CarriesNext := by
  induction between generalizing r with
  | nil => exact h
  | cons e between ih =>
    exact ih (h.enter (hbetween e List.mem_cons_self))
      fun e' he' => hbetween e' (List.mem_cons_of_mem _ he')

/-- It is among the first samples that do go on their way. A period that is handed over and a
buffer that is played both begin with the head of what waits, so only an empty one leaves it where
it is. -/
theorem carried_mem_passed {before : List Entry} {e : Entry}
    (h : (read period before).CarriesNext) (he : passed period before e ≠ []) :
    ∃ w ∈ passed period before e, w.origin = .carried := by
  obtain ⟨w, rest, hwaiting, hcarried⟩ := h
  refine ⟨w, ?_, hcarried⟩
  cases e with
  | handed frames verdict =>
    cases hlength : frames.length with
    | zero => simp [passed, hlength] at he
    | succ n => simp [passed, hlength, hwaiting]
  | played buffer =>
    cases hsize : bufferSize buffer with
    | zero => simp [passed, hsize] at he
    | succ n => simp [passed, hsize, served, hwaiting]
  | _ => simp [passed] at he

/-- **What was first in line when the stream was stopped**, and still is when it is started again,
crosses as soon as anything goes on its way. The start makes it `carried`,
`Reading.CarriesNext.foldl` brings it through what happens in between, and `carried_mem_passed`
finds it in what is passed on. This is the converse of `halted_of_crosses`. -/
theorem crosses_of_halted {before between since : List Entry} {answer : Except HostError Unit}
    {e : Entry} {w : Waiting} {rest : List Waiting}
    (hes : es = before ++ .started answer :: (between ++ e :: since))
    (hwaiting : (read period before).waiting = w :: rest) (hw : w.origin = .halted)
    (hbetween : ∀ e ∈ between, e.isPassing = false)
    (he : passed period (before ++ .started answer :: between) e ≠ []) : Crosses period es := by
  have hstarted : ((read period before).enter period (.started answer)).CarriesNext :=
    ⟨w.resume, rest.map Waiting.resume, by simp [Reading.enter, Reading.waitingAfter, hwaiting],
      by simp [Waiting.resume, hw, Origin.resume]⟩
  have hnext : (read period (before ++ .started answer :: between)).CarriesNext := by
    unfold read
    rw [List.foldl_append, List.foldl_cons]
    exact hstarted.foldl hbetween
  exact ⟨before ++ .started answer :: between, e, since, by simp [hes],
    carried_mem_passed hnext he⟩

/-! ## Runs -/

namespace Bench

variable {κ σ : Type} [owner : StreamOwner κ σ]

/-- **What callbacks and devices get.** A stream is opened, its owner starts, stops and closes it in
any order, and the device exchanges buffers of any size meanwhile.

A period that is handed over consists of the samples that wait first, and so does a buffer that is
played, filled up with silence. So audio crosses a stop and the start after it only if some from
before the stop was still waiting at the start. If it was first in line, it does. -/
theorem passed_on {side : Direction} {r : StreamSpec} {callback : κ} {h h' : DesktopHost κ}
    {s : StreamHandle} (hnone : h.streams = [])
    (hopen : openStream side r callback h = (.opened s, h'))
    (hfills : ∀ n state, (owner.render callback s.properties n state).2.1.length = n)
    (state : σ) (ms : List Move) :
    let period := r.framesPerCallback * r.channelCount
    let es := ((ofOpened s h' state).after ms).entries
    ∃ format,
      (∀ before frames verdict since, es = before ++ .handed frames verdict :: since →
          frames.length = period
            ∧ frames = (passed period before (.handed frames verdict)).map Waiting.sample)
        ∧ (∀ before buffer since, es = before ++ .played buffer :: since →
          buffer = .ofSamples format
            ((passed period before (.played buffer)).map Waiting.sample))
        ∧ (Crosses period es → ∃ before answer since, es = before ++ .started answer :: since
            ∧ ∃ w ∈ (read period before).waiting, w.origin = .halted)
        ∧ ∀ before answer between e since w rest,
          es = before ++ .started answer :: (between ++ e :: since) →
          (read period before).waiting = w :: rest → w.origin = .halted →
          (∀ e ∈ between, e.isPassing = false) →
          passed period (before ++ .started answer :: between) e ≠ [] → Crosses period es := by
  intro period es
  obtain ⟨opened, horder, _, hcallback, hproperties, hperiod⟩ :=
    inOrder_of_openStream hnone hopen state
  have hsound := (after_inOrder (by rwa [hcallback, hproperties]) horder ms).sound
  rw [hperiod] at hsound
  refine ⟨opened.format, fun before frames verdict since hsplit => ?_,
    fun before buffer since hsplit => ?_, halted_of_crosses,
    fun _ _ _ _ _ _ _ hes hwaiting hw hbetween he =>
      crosses_of_halted hes hwaiting hw hbetween he⟩
  · -- a sound diary hands over what waits first, and that is what is `passed`
    obtain ⟨_, hlength, hframes⟩ := hsound before _ since hsplit
    refine ⟨hlength, ?_⟩
    rw [passed, List.map_take, hlength]
    exact hframes
  · have hbuffer := hsound before _ since hsplit
    rw [passed, map_served]
    exact hbuffer

/-- A stream that is stopped with three of eight samples, and started again. -/
def restarted : List Move :=
  [.start none, .capture (.i16 [1, 2, 3]), .stop none, .start none, .capture (.i16 [4, 5, 6, 7, 8])]

/-- The period that is handed over then begins with those three. They were captured before the stop
(`restarted`), so `passed_on` says that they cross. -/
theorem passed_on_restarted :
    let r := ({ sampleRate := 8000, periodMs := 1 } : Config).inputSpec
    let callback : Handler := ⟨.input, ⟨8000, 1, 1⟩, none, 1⟩
    ∃ s h, openStream .input r callback { world := microphone } = (.opened s, h)
      ∧ (∀ n (l : Line), (StreamOwner.render callback s.properties n l).2.1.length = n)
      ∧ ((ofOpened s h openLine).after restarted).entries
        = [.started (.ok ()), .arrived [1, 2, 3], .stopped (.ok ()), .started (.ok ()),
          .arrived [4, 5, 6, 7, 8], .handed [1, 2, 3, 4, 5, 6, 7, 8] .proceed]
      ∧ Crosses (r.framesPerCallback * r.channelCount)
        ((ofOpened s h openLine).after restarted).entries := by
  intro r callback
  have hopen : openStream .input r callback { world := microphone } = (.opened _, _) := rfl
  have hfills : ∀ p n (l : Line), (StreamOwner.render callback p n l).2.1.length = n :=
    Handler.length_render callback
  refine ⟨_, _, hopen, hfills _, by decide +kernel, ?_⟩
  obtain ⟨_, _, _, _, hcrosses⟩ := passed_on rfl hopen (hfills _) openLine restarted
  -- three samples are halted when the stream is started again
  exact hcrosses [.started (.ok ()), .arrived [1, 2, 3], .stopped (.ok ())] (.ok ())
    [.arrived [4, 5, 6, 7, 8]] (.handed [1, 2, 3, 4, 5, 6, 7, 8] .proceed) []
    ⟨1, .halted⟩ [⟨2, .halted⟩, ⟨3, .halted⟩] (by decide +kernel) (by decide +kernel) rfl
    (by decide) (by decide +kernel)

end Bench

end Desktop

end Passthrough
