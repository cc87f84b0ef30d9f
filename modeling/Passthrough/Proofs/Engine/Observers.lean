import Mathlib.Data.List.Induction
import Passthrough.Proofs.Engine.Observed
/-!
# Which observer hears what

Observers can be chosen at any moment. A stream keeps the one that was chosen when it was opened, and
the two streams of a pair need not be opened at the same time: a lost output is replaced alone, by
then perhaps for another observer than that of the input.

The stream that an engine holds in a direction has been opened by some step of its run, as is told
from the numbers that the host gives out, and has been held since then (`HeldSince`). The observer
chosen before that step is the one in its callback, and so the one that hears what passes.

* **`after_observer`** — the observer chosen last in a run is the one of the engine.
* **`after_heldSince`** — the step that opened a stream, and the observer in its callback.
* **`observers_hear_audio`** — who hears what in any run.
-/

namespace Passthrough

open EngineM SimulatedHost

/-- The observer that a step chooses, which may be nobody. -/
def Action.observer? : Action → Option (Option ObserverId)
  | .call (.selectObserver observer) => some observer
  | _ => none

/-- The observer that has been chosen last; without a choice there is none. -/
def chosenObserver (as : List Action) : Option ObserverId :=
  (as.filterMap Action.observer?).getLastD none

namespace Engine

variable {new e : SimulatedEngine} {d : Direction} {s : StreamHandle}

/-! ## The observer of an engine -/

/-- A step changes the observer of an engine only by choosing one. Every other call is silent, and
what is silent keeps the observer (`Silent.observer`). -/
theorem perform_observer (e : SimulatedEngine) (a : Action) :
    (e.perform a).observer = a.observer?.getD e.observer := by
  cases a with
  | call c =>
    rcases call_silent e c with hsilent | ⟨observer, rfl⟩
    · cases c with
      | selectObserver observer => rfl
      | _ => exact hsilent.observer
    · rfl
  | _ => rfl

/-- **The observer of an engine** is the one that has been chosen last, or nobody if none has been.
The induction is from the end of the run, where the last choice stands. -/
theorem after_observer (hnew : new.observer = none) (as : List Action) :
    (new.after as).observer = chosenObserver as := by
  induction as using List.reverseRecOn with
  | nil => exact hnew
  | append_singleton as a ih =>
    have hlast : new.after (as ++ [a]) = (new.after as).perform a := after_append new as [a]
    rw [hlast, perform_observer, ih]
    unfold chosenObserver
    rw [List.filterMap_append]
    cases ha : a.observer? with
    | none => simp [ha]
    | some observer => simp [ha]

/-! ## The stream that is held -/

/-- **Since when a stream is held.** Before the step the host had not given out its number; after it
and after every step since, the engine holds the stream. -/
structure HeldSince (new : SimulatedEngine) (d : Direction) (s : StreamHandle)
    (before : List Action) (a : Action) (later : List Action) : Prop where
  unopened : (new.after before).host.opened < s.id
  held : ∀ mid, mid <+: later → (new.after (before ++ a :: mid)).streams.get d = some s

/-- It is held still after one more step that keeps it, which is how the induction over a run goes
on. Whether the stream was held in between is known for every shorter run, and the new one is the
premise. -/
theorem HeldSince.concat {before later : List Action} {a b : Action}
    (h : HeldSince new d s before a later)
    (hheld : (new.after (before ++ a :: (later ++ [b]))).streams.get d = some s) :
    HeldSince new d s before a (later ++ [b]) where
  unopened := h.unopened
  held mid hmid := by
    rcases List.prefix_concat_iff.mp hmid with rfl | hmid
    · exact hheld
    · exact h.held mid hmid

/-- The number of a stream that is held has been given out, so a stream opened later has another
one. -/
theorem Sound.id_le_opened (h : Sound e) (hheld : e.streams.get d = some s) :
    s.id ≤ e.host.opened := by
  rcases h.settled d with hvacant | ⟨s', ho⟩
  · rw [hvacant.handle] at hheld
    cases hheld
  · rw [ho.handle] at hheld
    exact Option.some.inj hheld ▸ ho.number

/-- **The stream that is held** has been opened by some step of the run, for the observer that had
been chosen before that step. The induction is from the end: the last step has opened the stream, or
the stream was held before it and has kept its callback (`Entrusts`). That its number tells it from
all others needs `Sound`. -/
theorem after_heldSince (hnew : Sound new) (hnone : ∀ d, new.streams.get d = none)
    (as : List Action) (hheld : (new.after as).streams.get d = some s) :
    ∃ before a later, as = before ++ a :: later ∧ HeldSince new d s before a later
      ∧ ∀ x ∈ (new.after as).host.streams, x.id = s.id →
          x.callback.observer = (new.after before).observer := by
  induction as using List.reverseRecOn with
  | nil =>
    have hempty : new.after [] = new := rfl
    rw [hempty, hnone d] at hheld
    cases hheld
  | append_singleton as b ih =>
    have hlast : new.after (as ++ [b]) = (new.after as).perform b := after_append new as [b]
    have hsound : Sound (new.after as) := (after_sound hnew as).1
    have hentrusts := perform_entrusts (new.after as) b
    rw [← hlast] at hentrusts
    rcases hentrusts.held d s hheld with hwas | hopened
    -- it was held before the last step, so its callback is as it was
    · obtain ⟨before, a, later, rfl, hsince, hobserver⟩ := ih hwas
      have hsplit : before ++ a :: later ++ [b] = before ++ a :: (later ++ [b]) := by simp
      refine ⟨before, a, later ++ [b], hsplit, hsince.concat (hsplit ▸ hheld), fun x hx hid => ?_⟩
      rcases hentrusts.host.streams x hx with ⟨y, hy, hyid, hcallback⟩ | ⟨hfresh, _⟩
      · rw [← hcallback]
        exact hobserver y hy (hyid.trans hid)
      · have hle := hsound.id_le_opened hwas
        omega
    -- the last step has opened it
    · refine ⟨as, b, [], rfl, ⟨hopened, fun mid hmid => ?_⟩, fun x hx hid => ?_⟩
      · rw [List.prefix_nil.mp hmid]
        exact hheld
      · rcases hentrusts.host.streams x hx with ⟨y, hy, hyid, _⟩ | ⟨_, hobserver⟩
        · have hle := hsound.numbered y hy
          omega
        · exact hobserver

/-! ## Who hears -/

/-- A callback is called for the stream that is held, and for no other one of its direction. On a
vacant side the device has no live stream, and on an occupied one only the stream that backs it. -/
theorem Sound.newestRunning_backs (h : Sound e) {x : SimulatedStream Handler}
    (hx : e.host.newestRunning? d = some x) :
    ∃ s, e.streams.get d = some s ∧ x.id = s.id := by
  rcases h.settled d with hvacant | ⟨s, ho⟩
  · rw [newestRunning?_of_nil hvacant.live] at hx
    cases hx
  · rcases ho.newestRunning? with hnone | ⟨y, hy, hbacks, _⟩
    · rw [hnone] at hx
      cases hx
    · rw [hy] at hx
      exact ⟨s, ho.handle, Option.some.inj hx ▸ hbacks.id⟩

/-- **The listener of a direction** is the observer that was chosen when the stream was opened. The
stream that is called back is the one held (`newestRunning_backs`), and its callback still has the
observer of its opening (`after_heldSince`). -/
theorem after_listener (hnew : Sound new) (hnone : ∀ d, new.streams.get d = none)
    (hobserver : new.observer = none) (as : List Action)
    (hrunning : (new.after as).host.newestRunning? d ≠ none) :
    ∃ s before a later, as = before ++ a :: later ∧ HeldSince new d s before a later
      ∧ (new.after as).listener d = chosenObserver before := by
  obtain ⟨x, hx⟩ := Option.ne_none_iff_exists'.mp hrunning
  obtain ⟨s, hheld, hid⟩ := (after_sound hnew as).1.newestRunning_backs hx
  obtain ⟨before, a, later, hsplit, hsince, hcallback⟩ := after_heldSince hnew hnone as hheld
  refine ⟨s, before, a, later, hsplit, hsince, ?_⟩
  unfold listener
  rw [hx, ← after_observer hobserver before]
  exact hcallback x (mem_live.mp (mem_of_newestRunning? hx)).1 hid

/-- **Observers hear exactly the audio.** In any run, with observers chosen at any moments:

* a period that is captured is given once to the observer that was chosen when the input that is
  held was opened;
* a period that is played is given once, as the device gets it, to the observer that was chosen when
  the output that is held was opened;
* nothing else that is done to the engine, to its host or by its hardware gives anything to an
  observer. -/
theorem observers_hear_audio (config : Config) (recovery : Recovery) (noticeCapacity : Nat)
    (as : List Action) :
    let new : SimulatedEngine := create {} config recovery noticeCapacity
    let e := new.after as
    (∀ frames, (e.feed frames).1 = some .proceed →
        ∃ s before a later, as = before ++ a :: later ∧ HeldSince new .input s before a later
          ∧ (e.feed frames).2.line.heard
              = e.line.heard ++ (chosenObserver before).toList.map fun id => ⟨id, .input, frames⟩)
      ∧ (∀ dest, (e.draw dest).1 = some .proceed →
          ∃ s before a later, as = before ++ a :: later ∧ HeldSince new .output s before a later
            ∧ (e.draw dest).2.2.line.heard
                = e.line.heard ++ (chosenObserver before).toList.map fun id =>
                    ⟨id, .output, (e.draw dest).2.1⟩)
      ∧ (∀ a, a ≠ .collect → e.passages a = [] → (e.perform a).line.heard = e.line.heard) := by
  intro new e
  have hnew : Sound new := sound_create config recovery noticeCapacity
  have hnone : ∀ d, new.streams.get d = none := fun d => by cases d <;> rfl
  refine ⟨fun frames hpassed => ?_, fun dest hpassed => ?_, fun a => heard_perform e⟩
  · have hrunning : e.host.newestRunning? .input ≠ none := by
      intro hidle
      rw [feed_of_idle hidle] at hpassed
      cases hpassed
    have hpassage : e.passages (.feed frames) = [(.input, frames)] := if_pos hpassed
    obtain ⟨s, before, a, later, hsplit, hsince, hlistener⟩ :=
      after_listener hnew hnone rfl as hrunning
    refine ⟨s, before, a, later, hsplit, hsince, ?_⟩
    rw [heard_feed, hpassage, hlistener, List.flatMap_singleton]
    rfl
  · have hrunning : e.host.newestRunning? .output ≠ none := by
      intro hidle
      rw [draw_of_idle hidle] at hpassed
      cases hpassed
    have hpassage : e.passages (.draw dest) = [(.output, (e.draw dest).2.1)] := if_pos hpassed
    obtain ⟨s, before, a, later, hsplit, hsince, hlistener⟩ :=
      after_listener hnew hnone rfl as hrunning
    refine ⟨s, before, a, later, hsplit, hsince, ?_⟩
    rw [heard_draw, hpassage, hlistener, List.flatMap_singleton]
    rfl

/-- An output that is replaced after another observer has been chosen plays for that one, while the
input goes on for the first. -/
example :
    let frames : List Int16 := List.replicate 8 3
    let e : SimulatedEngine := create {} { sampleRate := 8000, periodMs := 1 }
    let e' := e.after [.call (.selectObserver (some 1)), .call (.switch true),
      .call (.selectObserver (some 2)), .feed frames, .unplug .output .disconnected,
      .call .repair, .feed frames, .draw (List.replicate 8 0)]
    e'.line.heard.map (fun heard => (heard.observer, heard.direction))
      = [(1, .input), (1, .input), (2, .output)] := by
  decide +kernel

end Engine

end Passthrough
