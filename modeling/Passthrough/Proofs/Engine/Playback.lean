import Passthrough.Proofs.Engine.Run
/-!
# What an engine plays

An engine plays the period that it captured last. The theory of this is a ghost of a run, the
*latest* period: a capture that proceeds replaces it, a capture that faults and a step that makes a
new channel silence it, and nothing else touches it. The channel holds this period whenever there is
a channel (`Holds`), so this is what a playback gets.

* **`after_holds`** — the channel and the latest period stay together through any run.
* **`latestAfter_of_clears`** — nothing from before a fault or a new channel comes back.
* **`plays_latest`** — every answer to a playback, after any run.
-/

namespace Passthrough

open EngineM SimulatedHost

namespace Engine

variable {e e' : SimulatedEngine} {latest : List Int16}

/-! ## The latest period -/

/-- Whether a step silences what was captured: it makes a channel, or it is a capture that a running
input rejects for its length. -/
def clears (a : Action) (e : SimulatedEngine) : Bool :=
  match a with
  | .call c => renews c e
  | .feed frames => (e.feed frames).1 = some .stop && e.state .input = .running
      && frames.length ≠ e.config.period.samples
  | _ => false

/-- The latest period after a step. -/
def recalled (latest : List Int16) (a : Action) (e : SimulatedEngine) : List Int16 :=
  if clears a e then Handler.silence (e.perform a).config.period.samples
  else
    match a with
    | .feed frames => if (e.feed frames).1 = some .proceed then frames else latest
    | _ => latest

/-- What a capture makes of the latest period, spelled out by its answer: silence where it was
rejected for its length, the frames where it proceeded, and the old period in any other case. -/
theorem recalled_feed {frames : List Int16} {r : Option Verdict} (h : e.feed frames = (r, e')) :
    recalled latest (.feed frames) e =
      if r = some .stop ∧ e.state .input = .running ∧ frames.length ≠ e.config.period.samples then
        Handler.silence e'.config.period.samples
      else if r = some .proceed then frames else latest := by
  simp only [recalled, clears, perform, h, Bool.and_eq_true, decide_eq_true_eq, and_assoc]

/-- The latest period after a run, from the one before it. -/
def latestAfter (latest : List Int16) (e : SimulatedEngine) : List Action → List Int16
  | [] => latest
  | a :: as => latestAfter (recalled latest a e) (e.perform a) as

/-- The latest period of a run that is cut in two is that of its second part, begun with that of its
first. -/
theorem latestAfter_append (latest : List Int16) (e : SimulatedEngine) (as bs : List Action) :
    latestAfter latest e (as ++ bs) = latestAfter (latestAfter latest e as) (e.after as) bs := by
  induction as generalizing latest e with
  | nil => rfl
  | cons a as ih => exact ih (recalled latest a e) (e.perform a)

/-! ## The channel holds it -/

/-- **The channel holds the latest period**, if there is a channel. -/
def Holds (latest : List Int16) (e : SimulatedEngine) : Prop :=
  ∀ c, e.line.channel = some c → c.samples = latest

/-- Only the samples of the channel count for what it holds. Its counters may go on, as they do when
a period is played. Where the channel is gone there is nothing left to say about what it holds. -/
theorem Holds.of_channel (h : Holds latest e)
    (hchannel : e'.line.channel.map Channel.samples = e.line.channel.map Channel.samples) :
    Holds latest e' := by
  intro c' hc'
  rw [hc'] at hchannel
  cases hc : e.line.channel with
  | none =>
    rw [hc] at hchannel
    cases hchannel
  | some c =>
    rw [hc] at hchannel
    exact (Option.some.inj hchannel).trans (h c hc)

theorem Fresh.holds (h : Fresh e) : Holds (Handler.silence e.config.period.samples) e := by
  intro c hc
  rw [h.channel] at hc
  rw [← Option.some.inj hc]
  rfl

/-- Without a channel there is nothing that could hold another period, so that a closed engine is in
step with any. -/
theorem Closed.holds (h : Closed e) (latest : List Int16) : Holds latest e := by
  intro c hc
  rw [h.channel] at hc
  cases hc

/-- A step that leaves what it should either silences or keeps the latest period: silence over a new
channel, and what was there over the old one. -/
theorem Leaves.holds {renewed : Bool} (h : Leaves e e' renewed) (hl : Holds latest e) :
    Holds (if renewed then Handler.silence e'.config.period.samples else latest) e' := by
  cases renewed with
  | true => exact (h.fresh rfl).holds
  | false =>
    rcases h.kept rfl with hnone | hsame
    · intro c hc
      rw [hnone] at hc
      cases hc
    · exact hl.of_channel (congrArg _ hsame)

/-- A capture does to the channel what it does to the latest period. Both are replaced where it
proceeds, and both are silenced where a running input rejects it. -/
theorem feed_holds (h : Sound e) (hl : Holds latest e) (frames : List Int16) :
    Holds (recalled latest (.feed frames) e) (e.feed frames).2 := by
  rcases h.shape with hc | ho
  · have hfeed := feed_of_closed hc frames
    rw [hfeed]
    exact hc.holds _
  · obtain ⟨r, e', hfeed, hd, _, hcases⟩ := feed_of_open ho frames
    rw [recalled_feed hfeed, hfeed]
    -- nothing runs; or the input has failed before; or the period is captured; or it faults
    rcases hcases with ⟨rfl, rfl⟩ | ⟨rfl, herr, hline⟩ | ⟨rfl, _, _, c, hc, hsamples⟩
      | ⟨rfl, hrun, hlen, hchannel⟩
    · simpa using hl
    · have hkept : Holds latest e' := hl.of_channel (by rw [hline])
      simpa [herr] using hkept
    · intro c' hc'
      rw [hc] at hc'
      rw [← Option.some.inj hc']
      simpa using hsamples
    · intro c' hc'
      obtain ⟨c, hc, hclen⟩ := ho.channel
      rw [hchannel, hc] at hc'
      rw [← Option.some.inj hc', if_pos ⟨rfl, hrun, hlen⟩, hd.config, ← hclen]
      rfl

/-- **One step** keeps the channel and the latest period together, whichever step it is. For calls
it is `Leaves.holds`; of the hardware only a capture writes to the channel. -/
theorem perform_holds (h : Sound e) (hl : Holds latest e) (a : Action) :
    Holds (recalled latest a e) (e.perform a) := by
  -- of the steps that are not calls, only a capture writes to the channel
  cases a with
  | call c => exact (call_leaves h c).holds hl
  | feed frames => exact feed_holds h hl frames
  | script s => exact hl
  | collect => exact hl
  | draw dest =>
    show Holds latest (e.draw dest).2.2
    rcases h.shape with hc | ho
    · rw [draw_of_closed hc]
      exact hl
    · obtain ⟨r, dest', e', hdraw, _, _, hchannel, _⟩ := draw_of_open ho dest
      rw [hdraw]
      exact hl.of_channel hchannel
  | unplug d error =>
    show Holds latest (e.unplug d error).2
    rcases h.shape with hc | ho
    · rw [unplug_of_idle (hc.vacant d).live]
      exact hl
    · obtain ⟨e', hunplug, _, _, hchannel⟩ := unplug_of_open ho d error
      rw [hunplug]
      exact hl.of_channel (congrArg _ hchannel)

/-- **A whole run** keeps them together, by induction with `perform_holds`, from any sound engine
whose channel holds the period that the run starts with. -/
theorem after_holds (h : Sound e) (hl : Holds latest e) (as : List Action) :
    Holds (latestAfter latest e as) (e.after as) := by
  induction as generalizing latest e with
  | nil => exact hl
  | cons a as ih => exact ih (perform_sound h a).1 (perform_holds h hl a)

/-! ## Nothing comes back -/

/-- A run in which a period was captured. -/
def Captures (e : SimulatedEngine) (as : List Action) (frames : List Int16) : Prop :=
  ∃ before later, as = before ++ .feed frames :: later
    ∧ ((e.after before).feed frames).1 = some .proceed

theorem Captures.cons {as : List Action} {frames : List Int16} (a : Action)
    (h : Captures (e.perform a) as frames) : Captures e (a :: as) frames := by
  obtain ⟨before, later, has, hproceed⟩ := h
  exact ⟨a :: before, later, by rw [has, List.cons_append], hproceed⟩

/-- What a step leaves as the latest period was there before, or is silence, or was captured in that
step. Nothing else ever gets into the channel. -/
theorem recalled_cases (latest : List Int16) (a : Action) (e : SimulatedEngine) :
    recalled latest a e = latest ∨ (∃ n, recalled latest a e = Handler.silence n)
      ∨ Captures e [a] (recalled latest a e) := by
  unfold recalled
  split
  · exact Or.inr (Or.inl ⟨_, rfl⟩)
  · split
    · next frames _ =>
      by_cases hproceed : (e.feed frames).1 = some .proceed
      · rw [if_pos hproceed]
        exact Or.inr (Or.inr ⟨[], [], rfl, hproceed⟩)
      · rw [if_neg hproceed]
        exact Or.inl rfl
    · exact Or.inl rfl

/-- What a run leaves as the latest period was there before, or is silence, or was captured in the
run, by induction with `recalled_cases`. Silence of some length is all that a new channel can hold,
and the samples of a capture are those of a step in the run (`Captures`). -/
theorem latestAfter_cases (latest : List Int16) (e : SimulatedEngine) (as : List Action) :
    latestAfter latest e as = latest ∨ (∃ n, latestAfter latest e as = Handler.silence n)
      ∨ Captures e as (latestAfter latest e as) := by
  induction as generalizing latest e with
  | nil => exact Or.inl rfl
  | cons a as ih =>
    -- either the rest of the run replaces what the first step leaves, or that is what counts
    rcases ih (recalled latest a e) (e.perform a) with hsame | hsilent | hcaptured
    · have hlatest : latestAfter latest e (a :: as) = recalled latest a e := hsame
      rw [hlatest]
      rcases recalled_cases latest a e with hkept | hsilent | ⟨before, later, has, hproceed⟩
      · exact Or.inl hkept
      · exact Or.inr (Or.inl hsilent)
      · refine Or.inr (Or.inr ⟨before, later ++ as, ?_, hproceed⟩)
        rw [← List.cons_append, ← List.append_assoc, ← has]
        rfl
    · exact Or.inr (Or.inl hsilent)
    · exact Or.inr (Or.inr (hcaptured.cons a))

/-- **After a step that clears**, the latest period is silence until a capture proceeds. So nothing
from before a fault of the input, or from an earlier channel, is played again. -/
theorem latestAfter_of_clears {a : Action} (h : clears a e = true) (as : List Action) :
    (∃ n, latestAfter latest e (a :: as) = Handler.silence n)
      ∨ Captures (e.perform a) as (latestAfter latest e (a :: as)) := by
  have hsilence : recalled latest a e = Handler.silence (e.perform a).config.period.samples := by
    unfold recalled
    rw [h]
    rfl
  have hlatest : latestAfter latest e (a :: as)
      = latestAfter (Handler.silence (e.perform a).config.period.samples) (e.perform a) as := by
    rw [← hsilence]
    rfl
  rw [hlatest]
  rcases latestAfter_cases (Handler.silence (e.perform a).config.period.samples) (e.perform a) as
    with hsame | hcases
  · exact Or.inl ⟨_, hsame⟩
  · exact hcases

/-! ## Playing -/

/-- What an engine answers to a playback while its channel holds the latest period, answer by
answer: the period, silence, or a buffer that nobody has touched. -/
theorem draw_of_holds (h : Sound e) (hl : Holds latest e) (dest : List Int16) :
    match e.draw dest with
    | (some .proceed, dest', _) =>
      dest.length = e.config.period.samples ∧ dest'.length = dest.length ∧ dest' = latest
    | (some .stop, dest', _) => dest' = Handler.silence dest.length
    | (none, dest', _) => dest' = dest := by
  rcases h.shape with hc | ho
  · rw [draw_of_closed hc]
  · obtain ⟨r, dest', e', hdraw, _, _, _, hcases⟩ := draw_of_open ho dest
    rw [hdraw]
    rcases hcases with ⟨rfl, hdest⟩ | ⟨rfl, hlen, hplayed⟩ | ⟨rfl, hsilent⟩
    · exact hdest
    · -- played: what the channel held, which is the latest period
      obtain ⟨c, hc, hclen⟩ := ho.channel
      rw [hc] at hplayed
      have hsamples : c.samples = dest' := Option.some.inj hplayed
      refine ⟨hlen, ?_, hsamples.symm.trans (hl c hc)⟩
      rw [hlen, ← hclen, ← hsamples]
      rfl
    · exact hsilent

/-- **What is played.** After any run, a playback that proceeds has a destination of one period and
overwrites it with the latest period; one that stops overwrites all of it with silence; one that
nobody answers leaves it alone. What is played after a step that clears is silence or has been
captured since. -/
theorem plays_latest (config : Config) (recovery : Recovery) (noticeCapacity : Nat)
    (as : List Action) (dest : List Int16) :
    let new : SimulatedEngine := create {} config recovery noticeCapacity
    let e := new.after as
    let latest := latestAfter (Handler.silence config.period.samples) new as
    (match e.draw dest with
      | (some .proceed, dest', _) =>
        dest.length = e.config.period.samples ∧ dest'.length = dest.length ∧ dest' = latest
      | (some .stop, dest', _) => dest' = Handler.silence dest.length
      | (none, dest', _) => dest' = dest)
    ∧ ∀ before a later, as = before ++ a :: later → clears a (new.after before) = true →
        (∃ n, latest = Handler.silence n)
          ∨ Captures (new.after (before ++ [a])) later latest := by
  intro new e latest
  have hsound : Sound new := sound_create config recovery noticeCapacity
  have hholds : Holds (Handler.silence config.period.samples) new := by
    intro c hc
    cases hc
  refine ⟨draw_of_holds (after_sound hsound as).1 (after_holds hsound hholds as) dest, ?_⟩
  intro before a later has hclears
  -- the run up to the step that clears does not matter
  let earlier : List Int16 := latestAfter (Handler.silence config.period.samples) new before
  have hlatest : latest = latestAfter earlier (new.after before) (a :: later) := by
    show latestAfter _ new as = _
    rw [has, latestAfter_append]
  have hafter : new.after (before ++ [a]) = (new.after before).perform a :=
    after_append new before [a]
  rw [hlatest, hafter]
  exact latestAfter_of_clears hclears later

/-- A period is captured, the input is lost and replaced, and two more are captured over the new
channel. -/
def capturedAgain : List Action :=
  [.call (.switch true), .feed [1, 2, 3, 4, 5, 6, 7, 8], .unplug .input .disconnected,
    .call .attendPending, .feed (List.replicate 8 5), .feed [8, 7, 6, 5, 4, 3, 2, -1]]

/-- The playback after that proceeds, and what it plays is the period that was captured last and not
the one from before the loss: the branch of `plays_latest` in which something is heard. -/
theorem plays_latest_captured :
    let e : SimulatedEngine :=
      (create {} { sampleRate := 8000, periodMs := 1 } .manual).after capturedAgain
    (e.draw (List.replicate 8 0)).1 = some .proceed
      ∧ (e.draw (List.replicate 8 0)).2.1 = [8, 7, 6, 5, 4, 3, 2, -1] := by
  intro e
  obtain ⟨hplays, _⟩ := plays_latest { sampleRate := 8000, periodMs := 1 } .manual 64 capturedAgain
    (List.replicate 8 0)
  have hanswer : (e.draw (List.replicate 8 0)).1 = some .proceed := by decide +kernel
  rcases hdraw : e.draw (List.replicate 8 0) with ⟨answer, dest', e'⟩
  rw [hdraw] at hanswer
  cases hanswer
  rw [hdraw] at hplays
  obtain ⟨_, _, hlatest⟩ := hplays
  exact ⟨rfl, hlatest.trans (by decide +kernel)⟩

end Engine

end Passthrough
