import Passthrough.Proofs.Engine.Publishing
import Passthrough.Proofs.Engine.Run
/-!
# Device changes

What the repair of an engine comes to, from any state that a run can reach and whatever the host has
been told to refuse.

A repair can fail at each of its steps: shutting down, opening either side, the check of what was
negotiated, starting. `Recovery` shows that all of these failures come back to a closed engine. Here
the rest of the outcome is put to it: which sides run afterwards (`replace_restarts`), and what is
told of it (`repair_tells`).

* **`repair_outcome`** — there is nothing to repair and nothing happens; or the session goes on; or
  the session ends. Each is told of once, and a second repair has nothing to do.
-/

namespace Passthrough

open EngineM SimulatedHost

namespace EngineM

/-- What a repair tells of how it has ended. -/
def repairNotice : Except AudioError Unit → Notice
  | .ok () => ⟨.deviceChangeRecovered, none⟩
  | .error err => ⟨.deviceChangeFailed, some err.message⟩

end EngineM

namespace Engine

variable {e e' : SimulatedEngine}

/-- Streams are held, and a side has failed. -/
def NeedsRepair (e : SimulatedEngine) : Prop := e.holdsStreams = true ∧ ∃ d, e.state d = .error

/-- A side that a repair opens anew: the output in any case, the input only if it was lost. -/
def Reopened (e : SimulatedEngine) (d : Direction) : Prop := d = .output ∨ e.state .input = .error

/-- **The end of a repair, told of once.** There may be warnings about slow streams before it. -/
def TellsRepair (r : Except AudioError Unit) (e e' : SimulatedEngine) : Prop :=
  ∃ warnings, (∀ n ∈ warnings, n.kind = .warning)
    ∧ e'.board = e.board.publishAll (warnings ++ [repairNotice r])

/-- **A session that goes on** after a repair. -/
structure Resumed (e e' : SimulatedEngine) : Prop where
  /-- The stream held in each direction is the one that the host has there. -/
  held : ∀ d, ∃ s x, e'.streams.get d = some s ∧ e'.host.live d = [x] ∧ x.id = s.id
  sound : ∀ d, e'.state d ≠ .error
  effectOn : e'.effectOn = e.effectOn
  started : e'.started = e.started
  running : e.started = true → ∀ d, e'.state d = .running
  resting : e.started = false → ∀ d, Reopened e d → e'.state d = .opened

/-! ## The sides after a repair

The side that was not opened anew is where it was; so what remains is where the others are. -/

/-- The sides that a replacement has opened run if the session is to run, and rest otherwise. It
is proved apart from `replace_ends`, since it concerns the output in either case and the input in
one. -/
theorem replace_restarts (h : Open e) (hn : Numbered e.host) :
    Ends (if e.state .input = .error then replaceBoth e.started else replaceOutput e.started) e
      fun r e' => r = .ok () → ∀ d, Reopened e d →
        e'.state d = if e.started then .running else .opened := by
  by_cases hin : e.state .input = .error
  · rw [if_pos hin]
    refine (replaceBoth_ends h hn).mono fun r e₁ ⟨_, _, hcases⟩ hr d _ => ?_
    rcases hcases with ⟨_, _, _, hstate⟩ | ⟨⟨err, herr⟩, _⟩
    · exact hstate d
    · rw [hr] at herr
      cases herr
  · rw [if_neg hin]
    refine (replaceOutput_ends h hn hin).mono fun r e₁ ⟨_, _, hcases⟩ hr d hd => ?_
    -- the input has not failed, so the output is the only side opened anew
    have hout : d = .output := hd.resolve_right hin
    rcases hcases with ⟨_, _, _, _, _, hstate⟩ | ⟨⟨err, herr⟩, _⟩
    · rw [hout]
      exact hstate
    · rw [hr] at herr
      cases herr

/-- The side that a repaired session kept runs if the session is to run: it had not failed, and an
open pair that counts as started has no side at rest. -/
theorem Repaired.resumed (h : Repaired e e')
    (hstate : ∀ d, Reopened e d → e'.state d = if e.started then .running else .opened) :
    Resumed e e' where
  held d := by
    obtain ⟨s, hs⟩ := h.isOpen.occupied d
    obtain ⟨x, hx, hb⟩ := hs.backed (h.sound d)
    exact ⟨s, x, hs.handle, hx, hb.id⟩
  sound := h.sound
  effectOn := h.effectOn
  started := h.started
  running hs d := by
    have hstarted : e'.started = true := h.started.trans hs
    -- a session that counts as started has no side that merely rests
    exact (h.isOpen.started hstarted d).resolve_right (h.sound d)
  resting hs d hd := by
    rw [hstate d hd, hs]
    rfl

/-! ## What is told -/

/-- A replacement of either kind warns at most, so that the notice about the repair is the first to
tell of it. -/
theorem publishes_replace (e : SimulatedEngine) : Publishes (fun n => n.kind = .warning)
    (if e.state .input = .error then replaceBoth e.started else replaceOutput e.started :
      EngineM (SimulatedHost Handler) Unit) :=
  publishes_ite (publishes_replaceBoth (fun _ => id) e.started)
    (publishes_replaceOutput (fun _ => id) e.started)

/-- **A repair that is needed** tells of its end, once and after any warnings, and has started again
what it has opened. What it comes to is known from `replace_ends`; here the same run is followed for
its notices, which are the warnings of the replacement and the one at the end. -/
theorem repair_tells (h : Open e) (hn : Numbered e.host) (hlost : ∃ d, e.state d = .error) :
    Ends EngineM.repair e fun r e' => TellsRepair r e e'
      ∧ (r = .ok () → ∀ d, Reopened e d →
          e'.state d = if e.started then .running else .opened) := by
  have hneeded := lost_iff.mpr ⟨h.holdsStreams, hlost⟩
  unfold EngineM.repair
  refine ends_get_bind ?_
  simp only [hneeded, if_true]
  have hreplace := (replace_restarts h hn).publishing (publishes_replace e)
  refine ((replace_ends h hn).and hreplace).attempt_bind
    fun r e₁ ⟨⟨_, hcases⟩, hstate, warnings, hboard, hwarn⟩ => ?_
  cases r with
  | ok _ =>
    refine ends_publish ⟨⟨warnings, hwarn, ?_⟩, fun _ => hstate rfl⟩
    show e₁.board.publish .deviceChangeRecovered none = _
    rw [NoticeBoard.publish_eq_publishAll, hboard, ← NoticeBoard.publishAll_append]
    rfl
  | error err =>
    -- a replacement that has failed leaves both sides fit to be shut down
    have hsettled : ∀ d, Settled e₁ d := by
      rcases hcases with ⟨hok, _⟩ | ⟨_, hsettled⟩
      · cases hok
      · exact hsettled
    refine ((shutDown_ends hsettled).silent publishes_shutDown).attempt_bind
      fun _ e₂ ⟨_, hsame⟩ => ?_
    refine ends_modify_bind (ends_publish_bind (ends_fail ⟨⟨warnings, hwarn, ?_⟩, ?_⟩))
    · show e₂.board.publish .deviceChangeFailed (some err.message) = _
      rw [NoticeBoard.publish_eq_publishAll, hsame, hboard, ← NoticeBoard.publishAll_append]
      rfl
    · intro hok
      cases hok

/-! ## The outcome -/

/-- A repair that is not needed is no more than a look: it succeeds and leaves the engine as it
is. -/
theorem repair_of_not_needed (h : Sound e) (hno : ¬ NeedsRepair e) : e.repair = (.ok (), e) :=
  run_of_ok (repair_of_sound fun hheld d hd => hno ⟨hheld, d, hd⟩) h.poisoned

/-- After a repair that succeeds no side has failed, so that a second one finds nothing to do. -/
theorem Resumed.not_needed (h : Resumed e e') : ¬ NeedsRepair e' := by
  rintro ⟨_, d, hd⟩
  exact h.sound d hd

/-- After a repair that gives up no streams are held, so that a second one finds nothing to do
either. -/
theorem Ended.not_needed (h : Ended e) : ¬ NeedsRepair e := by
  rintro ⟨hheld, _⟩
  rw [h.isClosed.holdsStreams] at hheld
  cases hheld

/-- A repair that is needed succeeds with the session going on, or fails with the session ended, and
the notice at its end says which. `repair_ends` and `repair_tells` are two statements about one run,
put together by `Ends.and`. -/
theorem repair_of_needed (h : Sound e) (hneeded : NeedsRepair e) :
    (e.repair.1 = .ok () ∧ Resumed e e.repair.2 ∧ TellsRepair (.ok ()) e e.repair.2)
      ∨ (∃ err, e.repair.1 = .error (.error err) ∧ Ended e.repair.2
          ∧ TellsRepair (.error err) e e.repair.2) := by
  obtain ⟨hheld, hlost⟩ := hneeded
  have ho : Open e := h.isOpen hheld
  obtain ⟨r, hreply, ⟨_, hcases⟩, htells, hstate⟩ :=
    ((repair_ends ho h.numbered hlost).and (repair_tells ho h.numbered hlost)).run h.poisoned
  rcases hcases with ⟨rfl, hrep⟩ | ⟨⟨err, rfl⟩, hended⟩
  · exact Or.inl ⟨hreply, hrep.resumed (hstate rfl), htells⟩
  · exact Or.inr ⟨err, hreply, hended, htells⟩

/-- **The outcome of a repair**, after any run. Where nothing is held or nothing has failed, nothing
happens at all. Else the repair succeeds and the session goes on, or it fails and the session ends;
it tells of that once. In any case there is nothing left to repair. -/
theorem repair_outcome (config : Config) (recovery : Recovery) (noticeCapacity : Nat)
    (as : List Action) :
    let e := (create {} config recovery noticeCapacity : SimulatedEngine).after as
    let e' := e.repair.2
    ((¬ NeedsRepair e ∧ e.repair = (.ok (), e))
      ∨ (NeedsRepair e ∧ e.repair.1 = .ok () ∧ Resumed e e' ∧ TellsRepair (.ok ()) e e')
      ∨ (NeedsRepair e ∧ ∃ err, e.repair.1 = .error (.error err) ∧ Ended e'
          ∧ TellsRepair (.error err) e e'))
    ∧ ¬ NeedsRepair e' ∧ e'.repair = (.ok (), e') := by
  intro e e'
  have h : Sound e := (after_sound (sound_create config recovery noticeCapacity) as).1
  have h' : Sound e' := (call_leaves h .repair).sound h
  by_cases hneeded : NeedsRepair e
  · -- what it leaves needs no repair, in either case
    rcases repair_of_needed h hneeded with ⟨hok, hresumed, htells⟩ | ⟨err, hfailed, hended, htells⟩
    · exact ⟨Or.inr (Or.inl ⟨hneeded, hok, hresumed, htells⟩), hresumed.not_needed,
        repair_of_not_needed h' hresumed.not_needed⟩
    · exact ⟨Or.inr (Or.inr ⟨hneeded, err, hfailed, hended, htells⟩), hended.not_needed,
        repair_of_not_needed h' hended.not_needed⟩
  · have hsame : e' = e := congrArg Prod.snd (repair_of_not_needed h hneeded)
    refine ⟨Or.inl ⟨hneeded, repair_of_not_needed h hneeded⟩, ?_, repair_of_not_needed h' ?_⟩
    · rw [hsame]
      exact hneeded
    · rw [hsame]
      exact hneeded

/-- The effect is on when the input is lost. -/
def lostInput : List Action := [.call (.switch true), .unplug .input .disconnected]

example :
    let e := (create {} { sampleRate := 8000, periodMs := 1 } : SimulatedEngine).after lostInput
    e.repair.1 = .ok () ∧ ∀ d, e.repair.2.state d = .running :=
  ⟨rfl, fun d => by cases d <;> rfl⟩

-- refused in the middle of it, the same repair ends the session
example :
    let e := (create {} { sampleRate := 8000, periodMs := 1 } : SimulatedEngine).after
      (lostInput ++ [.script (.openFault .output .unavailable)])
    e.repair.1 = .error (.error (.streamOpenFailed .output .unavailable))
      ∧ ∀ d, e.repair.2.state d = .closed :=
  ⟨rfl, fun d => by cases d <;> rfl⟩

end Engine

end Passthrough
