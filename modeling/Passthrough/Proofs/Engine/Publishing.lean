import Passthrough.Engine.Repair
import Passthrough.Proofs.Engine.Outcome
/-!
# What programs publish

A program of an engine only ever adds to the board, and most programs add nothing, or nothing but
warnings about slow streams. `Publishes P x` says so of `x` whatever it comes to, on any host: from
any engine it publishes only notices with `P`.

Such programs compose (`Publishes.bind`, `Publishes.attempt`), so there is one lemma for each
program. What is known of an ending is put together with it by `Ends.publishing`.
-/

namespace Passthrough

namespace NoticeBoard

/-- The board after these notices, oldest first. -/
def publishAll (b : NoticeBoard) (news : List Notice) : NoticeBoard :=
  { b with published := b.published ++ news.toArray }

theorem publishAll_nil (b : NoticeBoard) : b.publishAll [] = b := by
  simp [publishAll]

/-- Notices that are published in two goes are published in one, in order. That is what makes
`Publishes.bind` work. -/
theorem publishAll_append (b : NoticeBoard) (news more : List Notice) :
    b.publishAll (news ++ more) = (b.publishAll news).publishAll more := by
  unfold publishAll
  rw [← List.append_toArray, Array.append_assoc]

/-- The board keeps every notice that was ever published, oldest first; publishing adds at the
end. -/
theorem published_publishAll (b : NoticeBoard) (news : List Notice) :
    (b.publishAll news).published.toList = b.published.toList ++ news := by
  simp [publishAll]

/-- What has been published since is known by what there is now, so that two descriptions of the
same board name the same notices. -/
theorem publishAll_injective (b : NoticeBoard) {news more : List Notice}
    (h : b.publishAll news = b.publishAll more) : news = more := by
  have hpublished := congrArg (fun board => board.published.toList) h
  simp only [published_publishAll] at hpublished
  exact List.append_cancel_left hpublished

/-- One publication is a list of one notice, which brings the programs of the model into the form
that the theory composes. -/
theorem publish_eq_publishAll (b : NoticeBoard) (kind : Occurrence) (detail : Option String) :
    b.publish kind detail = b.publishAll [⟨kind, detail⟩] := by
  unfold publish publishAll
  rw [Array.push_eq_append]

end NoticeBoard

namespace EngineM

variable {H α β : Type} {P : Notice → Prop}

/-- The engine that a program leaves, whichever way it ends. -/
def final (x : EngineM H α) (e : Engine H) : Engine H :=
  match x e with
  | .ok _ e' => e'
  | .error _ e' => e'

/-- The engine that is left does not depend on the reply; where the run is known, so is that
engine. -/
theorem final_of_ok {x : EngineM H α} {e e' : Engine H} {a : α} (h : x e = .ok a e') :
    final x e = e' := by
  unfold final
  rw [h]

/-- A failure leaves an engine like any other ending: a notice that was published before the error
stays published. -/
theorem final_of_error {x : EngineM H α} {e e' : Engine H} {failure : Failure}
    (h : x e = .error failure e') : final x e = e' := by
  unfold final
  rw [h]

/-- **A program that publishes only `P`.** -/
def Publishes (P : Notice → Prop) (x : EngineM H α) : Prop :=
  ∀ e, ∃ news, (final x e).board = e.board.publishAll news ∧ ∀ n ∈ news, P n

/-! ## How programs go on -/

/-- A program that leaves the board alone publishes nothing, and therefore nothing but `P`, for any
`P`. -/
theorem publishes_of_board {x : EngineM H α} (h : ∀ e, (final x e).board = e.board) :
    Publishes P x := by
  intro e
  refine ⟨[], ?_, by simp⟩
  rw [h e, NoticeBoard.publishAll_nil]

theorem publishes_pure (a : α) : Publishes P (pure a : EngineM H α) :=
  publishes_of_board fun _ => rfl

theorem publishes_throw (failure : Failure) : Publishes P (throw failure : EngineM H α) :=
  publishes_of_board fun _ => rfl

theorem publishes_fail (err : AudioError) : Publishes P (fail err : EngineM H α) :=
  publishes_throw _

theorem publishes_fail_bind (err : AudioError) (f : α → EngineM H β) :
    Publishes P (fail err >>= f) := by
  refine publishes_of_board fun e => ?_
  rw [final_of_error (by rw [bind_apply, fail_apply])]

theorem publishes_get : Publishes P (get : EngineM H (Engine H)) := publishes_of_board fun _ => rfl

/-- A modification publishes nothing as long as it leaves the board alone, which `rfl` shows of
every modification in the programs of an engine. -/
theorem publishes_modify {g : Engine H → Engine H} (h : ∀ e, (g e).board = e.board) :
    Publishes P (modify g : EngineM H Unit) :=
  publishes_of_board h

theorem publishes_modifyLine (f : Line → Line) : Publishes P (modifyLine f : EngineM H Unit) :=
  publishes_of_board fun _ => rfl

/-- The host has no access to the board. Whatever it answers and whatever its callbacks do to the
line, nothing is published meanwhile. -/
theorem publishes_askHost (call : HostAction H Line α) : Publishes P (askHost call) :=
  publishes_of_board fun _ => rfl

theorem publishes_ofExcept (r : Except AudioError α) :
    Publishes P (ofExcept r : EngineM H α) := by
  cases r with
  | ok a => exact publishes_pure a
  | error err => exact publishes_fail err

/-- A publication publishes its notice, so what has to be shown is `P` of that. -/
theorem publishes_publish {kind : Occurrence} {detail : Option String} (h : P ⟨kind, detail⟩) :
    Publishes P (publish kind detail : EngineM H Unit) := by
  intro e
  refine ⟨[⟨kind, detail⟩], e.board.publish_eq_publishAll kind detail, fun n hn => ?_⟩
  rw [List.mem_singleton.mp hn]
  exact h

/-- Programs that publish only `P` publish only `P` one after the other; where the first fails, the
second is not run, and what the first has published is all there is. -/
theorem Publishes.bind {x : EngineM H α} {f : α → EngineM H β} (h : Publishes P x)
    (hf : ∀ a, Publishes P (f a)) : Publishes P (x >>= f) := by
  intro e
  obtain ⟨news, hboard, hnews⟩ := h e
  cases hx : x e with
  | error failure e' =>
    have hbind : (x >>= f) e = .error failure e' := by rw [bind_apply, hx]
    rw [final_of_error hx] at hboard
    rw [final_of_error hbind]
    exact ⟨news, hboard, hnews⟩
  | ok a e' =>
    have hbind : final (x >>= f) e = final (f a) e' := by
      unfold final
      rw [bind_apply, hx]
    obtain ⟨more, hboard', hmore⟩ := hf a e'
    rw [final_of_ok hx] at hboard
    -- the second program publishes on top of the first
    refine ⟨news ++ more, ?_, fun n hn => ?_⟩
    · rw [hbind, hboard', hboard, NoticeBoard.publishAll_append]
    · rcases List.mem_append.mp hn with hold | hnew
      · exact hnews n hold
      · exact hmore n hnew

/-- An attempt publishes what the attempted program does, whether or not that fails. The engine that
an attempt leaves is the one that the program has left (`final`). -/
theorem Publishes.attempt {x : EngineM H α} (h : Publishes P x) :
    Publishes P (EngineM.attempt x) := by
  intro e
  have hfinal : final (EngineM.attempt x) e = final x e := by
    unfold final
    rw [attempt_apply]
    rcases x e with ⟨_, _⟩ | ⟨_ | _, _⟩ <;> rfl
  rw [hfinal]
  exact h e

/-- A branch publishes what its arms do, whichever is taken; the condition does not matter. -/
theorem publishes_ite {c : Prop} [Decidable c] {x y : EngineM H α} (hx : Publishes P x)
    (hy : Publishes P y) : Publishes P (if c then x else y) := by
  split
  · exact hx
  · exact hy

/-- What a program publishes goes with any of its endings. `Publishes` speaks of every run and
`Ends` of the one at hand; this puts the two together. -/
theorem Ends.publishing {x : EngineM H α} {e : Engine H}
    {Q : Except AudioError α → Engine H → Prop} (h : Ends x e Q) (hp : Publishes P x) :
    Ends x e fun r e' => Q r e' ∧ ∃ news, e'.board = e.board.publishAll news ∧ ∀ n ∈ news, P n := by
  have hnews := hp e
  rcases h.cases with ⟨a, e', hx, hq⟩ | ⟨err, e', hx, hq⟩
  · rw [final_of_ok hx] at hnews
    exact ends_of_ok hx ⟨hq, hnews⟩
  · rw [final_of_error hx] at hnews
    exact ends_of_error hx ⟨hq, hnews⟩

/-- A program that publishes nothing leaves the board as it was, stated for `Publishes` of the empty
predicate. -/
theorem Ends.silent {x : EngineM H α} {e : Engine H}
    {Q : Except AudioError α → Engine H → Prop} (h : Ends x e Q)
    (hp : Publishes (fun _ => False) x) : Ends x e fun r e' => Q r e' ∧ e'.board = e.board := by
  refine (h.publishing hp).mono fun r e' ⟨hq, news, hboard, hnews⟩ => ⟨hq, ?_⟩
  have hnil : news = [] := List.eq_nil_iff_forall_not_mem.mpr hnews
  rw [hboard, hnil, NoticeBoard.publishAll_nil]

/-! ## Programs that publish nothing -/

/-- A move of the state publishes nothing, allowed or not. -/
theorem publishes_move (d : Direction) (t : StreamState) :
    Publishes P (move d t : EngineM H Unit) := by
  unfold move
  refine publishes_get.bind fun e => ?_
  cases e.line.move d t with
  | ok moved => exact publishes_modifyLine _
  | error err => exact publishes_fail err

/-- The end of an opening that failed publishes nothing: the error is told by the caller, once. -/
theorem publishes_abandonPair_fail (err : AudioError) :
    Publishes P (abandonPair >>= fun _ => fail err : EngineM H Unit) := by
  refine Publishes.bind ?_ fun _ => publishes_fail err
  exact publishes_modify fun _ => rfl

/-- A slow stream is the only thing that the opening of one tells of. The hypothesis is the one that
all the programs below share: warnings are `P`. -/
theorem publishes_warnIfSlow (hP : ∀ n : Notice, n.kind = .warning → P n) (p : StreamInfo) :
    Publishes P (warnIfSlow p : EngineM H Unit) := by
  unfold warnIfSlow
  exact publishes_ite (publishes_publish (hP _ rfl)) (publishes_pure ())

variable [StreamHost Handler Line H]

/-- Stopping a side publishes nothing, even if the host refuses; the error is its reply. All of it
is moves of the state and one call of the host. -/
theorem publishes_stopSide (d : Direction) : Publishes P (stopSide d : EngineM H Unit) := by
  unfold stopSide
  refine publishes_get.bind fun e => publishes_ite ?_ (publishes_pure ())
  refine publishes_get.bind fun e' => ?_
  cases e'.streams.get d with
  | none => exact publishes_pure ()
  | some s =>
    refine (publishes_move d .stopping).bind fun _ => (publishes_askHost _).bind fun r => ?_
    cases r with
    | ok _ => exact publishes_move d .opened
    | error source => exact (publishes_modifyLine _).bind fun _ => publishes_fail _

/-- Stopping both sides publishes nothing. The notice about a stop is published by the call, not
here. -/
theorem publishes_stopSides : Publishes P (stopSides : EngineM H Unit) := by
  unfold stopSides
  refine (publishes_stopSide .output).attempt.bind fun _ => ?_
  refine (publishes_stopSide .input).attempt.bind fun _ => ?_
  refine Publishes.bind ?_ fun _ => publishes_ofExcept _
  exact publishes_modify fun _ => rfl

/-- Starting a side publishes nothing, even if the host refuses. The checks before the call answer
with an error and nothing else. -/
theorem publishes_startSide (d : Direction) : Publishes P (startSide d : EngineM H Unit) := by
  unfold startSide
  refine publishes_get.bind fun e => ?_
  cases e.streams.get d with
  | none => exact publishes_fail _
  | some s =>
    refine publishes_get.bind fun e' => publishes_ite (publishes_fail_bind _ _) ?_
    refine (publishes_askHost _).bind fun r => ?_
    cases r with
    | ok _ => exact publishes_move d .running
    | error source => exact publishes_fail _

/-- Starting both sides publishes nothing: the notice about a start is published by the call, and
only if both sides run. -/
theorem publishes_startSides : Publishes P (startSides : EngineM H Unit) := by
  unfold startSides
  refine publishes_get.bind fun e => publishes_ite (publishes_fail_bind _ _) ?_
  refine (publishes_startSide .input).bind fun _ => (publishes_startSide .output).bind fun _ => ?_
  exact publishes_modify fun _ => rfl

/-- Closing a side publishes nothing, even if the host refuses. Neither the closing nor the
discarding of the handle is told of; that is left to the programs that close a pair. -/
theorem publishes_closeSide (d : Direction) : Publishes P (closeSide d : EngineM H Unit) := by
  unfold closeSide
  refine publishes_get.bind fun e => ?_
  cases e.streams.get d with
  | none => exact publishes_modifyLine _
  | some s =>
    refine Publishes.bind (publishes_modify fun _ => rfl) fun _ => ?_
    refine (publishes_askHost _).bind fun r => (publishes_askHost _).bind fun _ => ?_
    refine (publishes_modifyLine _).bind fun _ => ?_
    cases r.1 with
    | ok _ => exact publishes_pure ()
    | error source => exact publishes_fail _

/-- Shutting down publishes nothing, so that whoever shuts down can tell of it in its own terms. -/
theorem publishes_shutDown : Publishes P (shutDown : EngineM H Unit) := by
  unfold shutDown
  refine publishes_stopSides.attempt.bind fun _ => (publishes_modifyLine _).bind fun _ => ?_
  refine (publishes_closeSide .output).attempt.bind fun _ => ?_
  refine (publishes_closeSide .input).attempt.bind fun _ => ?_
  refine Publishes.bind ?_ fun _ => publishes_ofExcept _
  exact publishes_modify fun _ => rfl

theorem publishes_inputRate : Publishes P (inputRate : EngineM H Nat) := by
  unfold inputRate
  exact publishes_get.bind fun _ => publishes_pure _

/-! ## Programs that warn

Opening a stream is what can warn; so everything that opens one publishes `P` if warnings are `P`. -/

section Warnings

variable (hP : ∀ n : Notice, n.kind = .warning → P n)
include hP

/-- A new stream is checked, sized and kept. Of these only the warning about a slow stream is told.
So every notice of an opening is a warning, and the premise `hP` is about those alone. -/
theorem publishes_acceptStream (d : Direction) (rate : Nat) (s : StreamHandle) :
    Publishes P (acceptStream d rate s : EngineM H Unit) := by
  unfold acceptStream
  refine publishes_get.bind fun e => publishes_get.bind fun e' => ?_
  dsimp only
  cases checkFit e.config.period rate (StreamHost.infoOf s e'.host) with
  | error err =>
    refine (publishes_askHost _).bind fun _ => (publishes_move d .closed).attempt.bind fun _ => ?_
    exact (publishes_askHost _).bind fun _ => publishes_fail err
  | ok _ =>
    refine (publishes_askHost _).bind fun _ => (publishes_warnIfSlow hP _).bind fun _ => ?_
    refine (publishes_move d .opened).attempt.bind fun r => ?_
    cases r with
    | error err => exact (publishes_askHost _).bind fun _ => publishes_fail err
    | ok _ => exact publishes_modify fun _ => rfl

/-- Opening a side publishes warnings at most, whether it ends open or not. A host that crashes ends
the program, and has not made it tell of anything either. -/
theorem publishes_openSide (d : Direction) (rate : Nat) :
    Publishes P (openSide d rate : EngineM H Unit) := by
  unfold openSide
  refine publishes_get.bind fun e => publishes_ite (publishes_fail_bind _ _) ?_
  refine (publishes_move d .opening).bind fun _ => (publishes_askHost _).bind fun answer => ?_
  cases answer with
  | crashed message => exact publishes_throw _
  | refused source => exact (publishes_move d .closed).attempt.bind fun _ => publishes_fail _
  | opened s => exact publishes_acceptStream hP d rate s

/-- Opening the pair publishes warnings at most: one for each side that is slow. Where the output
fails, the warning about the input stays on the board. -/
theorem publishes_openSides : Publishes P (openSides : EngineM H Unit) := by
  unfold openSides
  refine publishes_get.bind fun e => publishes_ite (publishes_fail_bind _ _) ?_
  refine Publishes.bind (publishes_modify fun _ => rfl) fun _ => ?_
  refine (publishes_openSide hP .input _).attempt.bind fun r => ?_
  cases r with
  | error err =>
    exact (publishes_modifyLine _).bind fun _ => publishes_abandonPair_fail err
  | ok _ =>
    refine publishes_inputRate.bind fun rate => ?_
    refine (publishes_openSide hP .output rate).attempt.bind fun r => ?_
    cases r with
    | ok _ => exact publishes_pure ()
    | error err =>
      refine (publishes_modifyLine _).bind fun _ => ?_
      refine (publishes_closeSide .input).attempt.bind fun _ => ?_
      exact publishes_abandonPair_fail err

/-- Replacing both streams publishes warnings at most; the end of the old pair is not told, since
the session goes on. -/
theorem publishes_replaceBoth (restart : Bool) :
    Publishes P (replaceBoth restart : EngineM H Unit) := by
  unfold replaceBoth
  refine publishes_shutDown.attempt.bind fun _ => (publishes_openSides hP).bind fun _ => ?_
  exact publishes_ite publishes_startSides (publishes_pure ())

/-- Replacing the output publishes a warning at most, about the new output. The notice about the
repair itself comes later, from the program that asks for the replacement. -/
theorem publishes_replaceOutput (restart : Bool) :
    Publishes P (replaceOutput restart : EngineM H Unit) := by
  unfold replaceOutput
  refine publishes_get.bind fun e => ?_
  cases e.infoOf .input with
  | none => exact publishes_fail _
  | some p =>
    refine (publishes_stopSide .output).attempt.bind fun _ => ?_
    refine (publishes_closeSide .output).attempt.bind fun _ => ?_
    refine (publishes_openSide hP .output p.sampleRate).bind fun _ => ?_
    exact publishes_ite (publishes_startSide .output) (publishes_pure ())

end Warnings

end EngineM

end Passthrough
