import Passthrough.Proofs.Engine.Asking
import Passthrough.Proofs.Engine.DeviceChange
import Passthrough.Proofs.Engine.FaultReports
/-!
# Bursts of lost devices

A device that goes away is told of once for each of its streams, and the losses may be attended to
one by one, all at once or in any other way. It makes no difference. What is repaired is read off
the states of the sides and not off the events, and a repair leaves nothing to repair, whether it
succeeds or fails. So a burst comes to one repair (`attend_of_burst`), and more of it to none.

* **`repair_opensOnce`** — a repair asks for each side to be opened at most once.
* **`burst_attended_once`** — so it is for every burst, after any run.
-/

namespace Passthrough

open EngineM SimulatedHost

/-- **A burst**: losses only, and at least one. -/
structure Burst (batch : List Event) : Prop where
  losses : ∀ event ∈ batch, event.isDisconnect = true
  nonempty : batch ≠ []

namespace Burst

variable {batch batch' : List Event}

/-- Two bursts one after the other are a burst, so that it does not matter how the losses are
divided into batches. -/
theorem append (h : Burst batch) (h' : Burst batch') : Burst (batch ++ batch') where
  losses event hevent := by
    rcases List.mem_append.mp hevent with hfirst | hsecond
    · exact h.losses event hfirst
    · exact h'.losses event hsecond
  nonempty hnil := h.nonempty (List.append_eq_nil_iff.mp hnil).1

/-- The order of the losses does not matter, since a burst is only said to hold losses and not to be
empty. -/
theorem perm (h : Burst batch) (hperm : batch'.Perm batch) : Burst batch' where
  losses event hevent := h.losses event (hperm.mem_iff.mp hevent)
  nonempty hnil := by
    rw [hnil] at hperm
    exact h.nonempty hperm.symm.eq_nil

theorem not_isFault {event : Event} (h : event.isDisconnect = true) : event.isFault = false := by
  cases event with
  | disconnected _ _ => rfl
  | fault _ _ _ => cases h

/-- No fault is in a burst, so that attending to it does not end the session over one. -/
theorem any_isFault (h : Burst batch) : batch.any Event.isFault = false := by
  rw [List.any_eq_false]
  intro event hevent
  rw [not_isFault (h.losses event hevent)]
  simp

theorem any_isDisconnect (h : Burst batch) : batch.any Event.isDisconnect = true := by
  obtain ⟨event, hevent⟩ := List.exists_mem_of_ne_nil batch h.nonempty
  exact List.any_eq_true.mpr ⟨event, hevent, h.losses event hevent⟩

/-- No fault is told of, for there is none: what is published over a burst is all about the
repair. -/
theorem notices (h : Burst batch) : batch.filterMap Event.notice? = [] := by
  rw [List.filterMap_eq_nil_iff]
  intro event hevent
  have hloss := h.losses event hevent
  cases event with
  | disconnected _ _ => rfl
  | fault _ _ _ => cases hloss

end Burst

namespace Engine

variable {e : SimulatedEngine} {batch : List Event}

/-! ## One repair -/

/-- A repair does not crash, so that what the program leaves is what the call leaves. -/
theorem final_repair (h : Sound e) : final EngineM.repair e = e.repair.2 := by
  have hrepair : e.repair = e.runAnyway EngineM.repair := run_of_not_poisoned h.poisoned
  rw [hrepair]
  unfold final runAnyway
  rcases (repair_recovers h).cases with ⟨_, e', hrun, _⟩ | ⟨err, e', hrun, _⟩
  · rw [hrun]
  · rw [hrun]

/-- **Attending to a burst** is one attempt at a repair, whatever losses the burst is made of. It
succeeds as a call, whether or not the repair does. -/
theorem attend_of_burst (h : Sound e) (hburst : Burst batch) :
    e.runAnyway (attend batch) = (.ok (), e.repair.2) := by
  have hattend : attend batch e = (attempt EngineM.repair >>= fun _ => pure ()) e := by
    unfold attend
    rw [bind_apply, publishFaults_eq, hburst.notices, NoticeBoard.publishAll_nil]
    simp only [hburst.any_isFault, hburst.any_isDisconnect, Bool.false_eq_true, if_false, if_true]
  refine runAnyway_of_ok (hattend.trans ?_)
  rw [← final_repair h, bind_apply, attempt_apply]
  rcases (repair_recovers h).cases with ⟨_, e', hrun, _⟩ | ⟨err, e', hrun, _⟩
  · rw [hrun, final_of_ok hrun]
    exact pure_apply () e'
  · rw [hrun, final_of_error hrun]
    exact pure_apply () e'

/-- **A repair leaves nothing to repair**, and tells of itself at most once. So a second batch of
the same burst comes to nothing. In either outcome of a needed repair (`repair_of_needed`) no side
is left that has failed. -/
theorem repair_settles (h : Sound e) :
    ¬ NeedsRepair e.repair.2
      ∧ (e.repair.2.board = e.board ∨ ∃ r, TellsRepair r e e.repair.2) := by
  by_cases hneeded : NeedsRepair e
  · rcases repair_of_needed h hneeded with ⟨_, hresumed, htells⟩ | ⟨err, _, hended, htells⟩
    · exact ⟨hresumed.not_needed, Or.inr ⟨_, htells⟩⟩
    · exact ⟨hended.not_needed, Or.inr ⟨_, htells⟩⟩
  · have hsame : e.repair.2 = e := congrArg Prod.snd (repair_of_not_needed h hneeded)
    rw [hsame]
    exact ⟨hneeded, Or.inl rfl⟩

/-- **A repair opens each side at most once**, whatever it finds and whatever the host answers; the
bound is read off the list of `asks_repair`. -/
theorem repair_opensOnce (h : Sound e) :
    ∃ calls, Issues calls e e.repair.2 ∧ ∀ d, calls.count ⟨d, .openStream⟩ ≤ 1 := by
  have hown : OwnHandles e := by
    rcases h.shape with hc | ho
    · exact hc.ownHandles
    · exact ho.ownHandles
  obtain ⟨calls, hissues, hmost⟩ := (asks_repair e hown).calls
  rw [final_repair h] at hissues
  refine ⟨calls, hissues, fun d => Nat.le_trans (hmost.count_le _) ?_⟩
  cases d <;> decide

/-! ## Every run -/

/-- **A burst is attended to once**, after any run and whatever the host has been told to refuse or
to substitute. Attending to two bursts together leaves the same engine, with the same calls made of
its host and the same notices, as attending to one after the other, and as attending to their losses
in any other order: that which one repair leaves. It has opened each side at most once and has told
of itself at most once, and there is nothing left to repair, even if it has failed. -/
theorem burst_attended_once (config : Config) (recovery : Recovery) (noticeCapacity : Nat)
    (as : List Action) {b₁ b₂ : List Event} (h₁ : Burst b₁) (h₂ : Burst b₂) :
    let e := (create {} config recovery noticeCapacity : SimulatedEngine).after as
    e.runAnyway (attend (b₁ ++ b₂)) = (e.runAnyway (attend b₁)).2.runAnyway (attend b₂)
      ∧ (∀ b, b.Perm (b₁ ++ b₂) → e.runAnyway (attend b) = e.runAnyway (attend (b₁ ++ b₂)))
      ∧ e.runAnyway (attend (b₁ ++ b₂)) = (.ok (), e.repair.2)
      ∧ e.repair.2.repair = (.ok (), e.repair.2) ∧ ¬ NeedsRepair e.repair.2
      ∧ (e.repair.2.board = e.board ∨ ∃ r, TellsRepair r e e.repair.2)
      ∧ ∃ calls, Issues calls e e.repair.2 ∧ ∀ d, calls.count ⟨d, .openStream⟩ ≤ 1 := by
  intro e
  have h : Sound e := (after_sound (sound_create config recovery noticeCapacity) as).1
  have h' : Sound e.repair.2 := (call_leaves h .repair).sound h
  obtain ⟨hdone, htold⟩ := repair_settles h
  have hagain : e.repair.2.repair = (.ok (), e.repair.2) := repair_of_not_needed h' hdone
  have hboth := attend_of_burst h (h₁.append h₂)
  refine ⟨?_, fun b hperm => ?_, hboth, hagain, hdone, htold, repair_opensOnce h⟩
  · -- the second burst comes to a repair of what the first has left, which does nothing
    rw [hboth, attend_of_burst h h₁, attend_of_burst h' h₂, hagain]
  · rw [hboth, attend_of_burst h ((h₁.append h₂).perm hperm)]

/-- Both devices are lost, and the host is going to refuse the output that replaces the lost one. -/
def bothLost : List Action :=
  [.call (.switch true), .unplug .output .disconnected, .unplug .input .disconnected,
    .script (.openFault .output .unavailable)]

/-- The losses come to one attempt, which fails, in whichever way they are attended to: at once, one
by one, or in the other order. The first three facts are computed; the last two are the theorem at
two batches of one loss each. -/
theorem burst_attended_once_bothLost :
    let e := (create {} { sampleRate := 8000, periodMs := 1 } : SimulatedEngine).after bothLost
    let lost : Direction → Event := fun d => .disconnected d .disconnected
    e.line.link.pending = [lost .output, lost .input]
      ∧ e.repair.1 = .error (.error (.streamOpenFailed .output .unavailable))
      ∧ e.runAnyway (attend [lost .output, lost .input])
        = (e.runAnyway (attend [lost .output])).2.runAnyway (attend [lost .input])
      ∧ e.runAnyway (attend [lost .input, lost .output])
        = e.runAnyway (attend [lost .output, lost .input]) := by
  have hburst : ∀ d, Burst [.disconnected d .disconnected] := fun d =>
    ⟨fun event hevent => by rw [List.mem_singleton.mp hevent]; rfl, nofun⟩
  obtain ⟨htwice, hperm, _⟩ := burst_attended_once { sampleRate := 8000, periodMs := 1 } .manual 64
    bothLost (hburst .output) (hburst .input)
  exact ⟨rfl, rfl, htwice, hperm _ (List.Perm.swap _ _ _)⟩

end Engine

end Passthrough
