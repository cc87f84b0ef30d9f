import Passthrough.Engine.Control
/-!
# What engine programs come to

A small logic for the programs of an engine. `Ends x e Q` says that the program `x`, run on the
engine `e`, does not crash, and that its reply and the engine it leaves satisfy `Q`. A call that
fails keeps what it has done, so `Q` speaks of both endings at once.

* **`Ends.bind`**, **`Ends.attempt_bind`** — the two ways in which programs go on from one another:
  a failure ends the whole, an attempted failure is a reply like any other.
* **`Ends.run`**, **`Ends.runAnyway`** — from programs to the calls of an engine.
-/

namespace Passthrough

namespace EngineM

variable {H α β : Type}

/-! ## Programs applied to an engine -/

theorem pure_apply (a : α) (e : Engine H) : (pure a : EngineM H α) e = .ok a e := rfl

/-- A program goes on from the engine that its first part leaves, and a failure of that part skips
the rest. The equation is stated once, so that no proof about a particular program has to open the
monad; see `Ends.bind` for the same in terms of `Ends`. -/
theorem bind_apply (x : EngineM H α) (f : α → EngineM H β) (e : Engine H) :
    (x >>= f) e = match x e with
      | .ok a e' => f a e'
      | .error failure e' => .error failure e' := by
  show EStateM.bind x f e = _
  unfold EStateM.bind
  cases x e <;> rfl

theorem get_apply (e : Engine H) : (get : EngineM H (Engine H)) e = .ok e e := rfl

theorem modify_apply (f : Engine H → Engine H) (e : Engine H) :
    (modify f : EngineM H Unit) e = .ok () (f e) := rfl

theorem fail_apply (err : AudioError) (e : Engine H) :
    (fail err : EngineM H α) e = .error (.error err) e := rfl

/-- A change by `modifyLine` touches the line and nothing else of an engine, so everything that is
said of the other fields before it may be reused after it by `rfl`. -/
theorem modifyLine_apply (f : Line → Line) (e : Engine H) :
    modifyLine f e = .ok () { e with line := f e.line } := rfl

/-- A publication changes the board alone and cannot fail. That is why notices never stand in the
way of an ending, and why `ends_publish` asks for nothing. -/
theorem publish_apply (kind : Occurrence) (detail : Option String) (e : Engine H) :
    publish kind detail e = .ok () { e with board := e.board.publish kind detail } := rfl

/-- A call of the host may change the host and, where the host calls back while it is asked, the
line as well. `quiet_of_eq` covers the hosts that do not call back. -/
theorem askHost_apply (call : HostAction H Line α) (e : Engine H) :
    askHost call e = .ok (call e.host e.line).1
      { e with host := (call e.host e.line).2.1, line := (call e.host e.line).2.2 } := rfl

/-- An attempt turns an error into a reply and lets a crash through: only `Failure.error` can be
recovered from, as only errors are values in the engine's calls. -/
theorem attempt_apply (x : EngineM H α) (e : Engine H) :
    attempt x e = match x e with
      | .ok a e' => .ok (.ok a) e'
      | .error (.error err) e' => .ok (.error err) e'
      | .error (.crash message) e' => .error (.crash message) e' := rfl

/-- A move that the transition table allows always succeeds, and changes one state of the line. With
`move_of_not_canMoveTo` this says all about `move`, so that later proofs only ask `canMoveTo`. -/
theorem move_of_canMoveTo {d : Direction} {t : StreamState} {e : Engine H}
    (h : (e.state d).canMoveTo t = true) :
    move d t e = .ok () { e with line := e.line.setState d t } := by
  have hline : (e.line.state d).canMoveTo t = true := h
  unfold move
  rw [bind_apply, get_apply]
  simp only [Line.move, hline, if_true]
  exact modifyLine_apply _ e

/-- A move that the transition table forbids is an error that names both states, and the engine
stays exactly as it was. With `move_of_canMoveTo` it says what a move does in each case, so that
`move` itself need not be opened by later proofs. -/
theorem move_of_not_canMoveTo {d : Direction} {t : StreamState} {e : Engine H}
    (h : (e.state d).canMoveTo t = false) :
    move d t e = .error (.error (.invalidTransition d (e.state d) t)) e := by
  have hline : (e.line.state d).canMoveTo t = false := h
  unfold move
  rw [bind_apply, get_apply]
  simp only [Line.move, hline, Bool.false_eq_true, if_false]
  exact fail_apply _ e

/-! ## Endings -/

/-- **The ending of a program.** Run on `e`, the program does not crash, and its reply and the
engine that it leaves satisfy `Q`. -/
def Ends (x : EngineM H α) (e : Engine H) (Q : Except AudioError α → Engine H → Prop) : Prop :=
  match x e with
  | .ok a e' => Q (.ok a) e'
  | .error (.error err) e' => Q (.error err) e'
  | .error (.crash _) _ => False

variable {x : EngineM H α} {f : α → EngineM H β} {e : Engine H}
  {Q Q' : Except AudioError α → Engine H → Prop} {R : Except AudioError β → Engine H → Prop}

/-- From an equation to an ending: where the run of a program is known outright, as for the programs
of one side in `Answers`, its specification follows from it. -/
theorem ends_of_ok {a : α} {e' : Engine H} (h : x e = .ok a e') (hQ : Q (.ok a) e') :
    Ends x e Q := by
  unfold Ends
  rw [h]
  exact hQ

/-- The companion of `ends_of_ok` for a run that fails. The engine it leaves is part of the
statement, since a call that fails keeps what it has done by then. -/
theorem ends_of_error {err : AudioError} {e' : Engine H} (h : x e = .error (.error err) e')
    (hQ : Q (.error err) e') : Ends x e Q := by
  unfold Ends
  rw [h]
  exact hQ

/-- A program that ends somehow has a reply and leaves an engine. The third case of `Ends`, a crash,
is ruled out; this is how an invariant is carried through a program by hand. -/
theorem Ends.cases (h : Ends x e Q) :
    (∃ a e', x e = .ok a e' ∧ Q (.ok a) e')
      ∨ (∃ err e', x e = .error (.error err) e' ∧ Q (.error err) e') := by
  unfold Ends at h
  split at h
  · next a e' hx => exact Or.inl ⟨a, e', hx, h⟩
  · next err e' hx => exact Or.inr ⟨err, e', hx, h⟩
  · exact h.elim

/-- A weaker specification follows from a stronger one. It is how an ending that was proved in
detail is handed on to a caller that needs less of it. -/
theorem Ends.mono (h : Ends x e Q) (hQ : ∀ r e', Q r e' → Q' r e') : Ends x e Q' := by
  rcases h.cases with ⟨a, e', hx, hq⟩ | ⟨err, e', hx, hq⟩
  · exact ends_of_ok hx (hQ _ _ hq)
  · exact ends_of_error hx (hQ _ _ hq)

/-- A program has one ending, so what two specifications say of it holds together. Shapes, calls and
notices of one program can therefore be proved apart and joined where all of them are needed. -/
theorem Ends.and (h : Ends x e Q) (h' : Ends x e Q') : Ends x e fun r e' => Q r e' ∧ Q' r e' := by
  rcases h.cases with ⟨a, e', hx, hq⟩ | ⟨err, e', hx, hq⟩
  · unfold Ends at h'
    rw [hx] at h'
    exact ends_of_ok hx ⟨hq, h'⟩
  · unfold Ends at h'
    rw [hx] at h'
    exact ends_of_error hx ⟨hq, h'⟩

/-- A program that runs as another one does ends as that one, also from another engine. It serves
where a first step has been taken by an equation and the rest has a specification of its own. -/
theorem Ends.of_eq {y : EngineM H α} {e₁ : Engine H} (h : Ends y e₁ Q) (hrun : x e = y e₁) :
    Ends x e Q := by
  unfold Ends at h ⊢
  rw [hrun]
  exact h

/-! ## How programs go on -/

/-- A program that only replies ends where it starts, so what is claimed has to hold of the engine
as it is. -/
theorem ends_pure {a : α} (hQ : Q (.ok a) e) : Ends (pure a) e Q := hQ

/-- A program that only fails ends where it starts as well: failing undoes nothing, and `Q` has to
hold of the engine at that point together with the error. -/
theorem ends_fail {err : AudioError} (hQ : Q (.error err) e) : Ends (fail err) e Q := hQ

/-- A modification cannot fail, so its ending speaks of the reply `.ok ()` and the modified
engine. -/
theorem ends_modify {g : Engine H → Engine H} {R : Except AudioError Unit → Engine H → Prop}
    (hR : R (.ok ()) (g e)) : Ends (modify g) e R := hR

/-- A publication cannot fail either: what is claimed has to hold of the engine with the notice on
its board. -/
theorem ends_publish {kind : Occurrence} {detail : Option String}
    {R : Except AudioError Unit → Engine H → Prop}
    (hR : R (.ok ()) { e with board := e.board.publish kind detail }) :
    Ends (publish kind detail) e R := hR

/-- A reply that was kept by `attempt` and is handed on at the end of a program: it ends where it
starts, in success or in the error that was kept. -/
theorem ends_ofExcept {r : Except AudioError α} (hQ : Q r e) : Ends (ofExcept r) e Q := by
  cases r with
  | ok a => exact hQ
  | error err => exact hQ

/-- Where the first program fails, the whole fails with it, and what it has done stays done; `herr`
is what has to be shown for that case. -/
theorem Ends.bind (h : Ends x e Q) (hok : ∀ a e', Q (.ok a) e' → Ends (f a) e' R)
    (herr : ∀ err e', Q (.error err) e' → R (.error err) e') : Ends (x >>= f) e R := by
  rcases h.cases with ⟨a, e', hx, hq⟩ | ⟨err, e', hx, hq⟩
  · exact (hok a e' hq).of_eq (by rw [bind_apply, hx])
  · exact ends_of_error (by rw [bind_apply, hx]) (herr err e' hq)

/-- The first part of a program is known outright to succeed, and its equation is used instead of a
specification. No case for its failure remains. -/
theorem ends_bind_of_ok {a : α} {e' : Engine H} (hx : x e = .ok a e') (h : Ends (f a) e' R) :
    Ends (x >>= f) e R :=
  h.of_eq (by rw [bind_apply, hx])

/-- An attempted program hands its reply on, whichever it is. The programs that close sides are made
this way: they go on past all errors and report the first of them at the end. -/
theorem Ends.attempt_bind {g : Except AudioError α → EngineM H β} (h : Ends x e Q)
    (hg : ∀ r e', Q r e' → Ends (g r) e' R) : Ends (attempt x >>= g) e R := by
  rcases h.cases with ⟨a, e', hx, hq⟩ | ⟨err, e', hx, hq⟩
  · exact (hg _ e' hq).of_eq (by rw [bind_apply, attempt_apply, hx])
  · exact (hg _ e' hq).of_eq (by rw [bind_apply, attempt_apply, hx])

/-- Reading the engine leaves it alone; what follows may speak of the engine that was read as `e`
itself. -/
theorem ends_get_bind {f : Engine H → EngineM H β} (h : Ends (f e) e R) :
    Ends (get >>= f) e R := h

/-- After a modification the program goes on from the modified engine; there is no case in which it
does not. -/
theorem ends_modify_bind {g : Engine H → Engine H} {f : Unit → EngineM H β}
    (h : Ends (f ()) (g e) R) : Ends (modify g >>= f) e R := h

/-- The same for a change of the line, which is how a program attaches, detaches and marks
faults. -/
theorem ends_modifyLine_bind {g : Line → Line} {f : Unit → EngineM H β}
    (h : Ends (f ()) { e with line := g e.line } R) : Ends (modifyLine g >>= f) e R := h

/-- The same for a notice in the middle of a program; the rest of it starts with that notice on the
board. -/
theorem ends_publish_bind {kind : Occurrence} {detail : Option String} {f : Unit → EngineM H β}
    (h : Ends (f ()) { e with board := e.board.publish kind detail } R) :
    Ends (publish kind detail >>= f) e R := h

/-! ## Calls of an engine -/

/-- From a program to the call of an engine: a run that succeeds is the answer of the call, and
leaves the poison as it was. -/
theorem runAnyway_of_ok {a : α} {e' : Engine H} (h : x e = .ok a e') :
    e.runAnyway x = (.ok a, e') := by
  unfold Engine.runAnyway
  rw [h]

/-- A call made whether or not the engine is poisoned; no crash, no poison. The answer of the call
is the reply of the program, with an error in the clothes of a `Failure`. -/
theorem Ends.runAnyway (h : Ends x e Q) :
    ∃ r, (e.runAnyway x).1 = r.mapError .error ∧ Q r (e.runAnyway x).2 := by
  unfold Engine.runAnyway
  rcases h.cases with ⟨a, e', hx, hq⟩ | ⟨err, e', hx, hq⟩
  · rw [hx]
    exact ⟨.ok a, rfl, hq⟩
  · rw [hx]
    exact ⟨.error err, rfl, hq⟩

/-- The poison is looked at first and once. An engine that is not poisoned, which `Sound` says of
every engine on simulated hardware, runs its programs as `runAnyway` does. -/
theorem run_of_not_poisoned (hp : e.poisoned = false) : e.run x = e.runAnyway x := by
  unfold Engine.run
  rw [hp]
  rfl

/-- Every specification of a program is one of the public call that runs it, on any engine that is
not poisoned. The theorems about calls are all drawn from here. -/
theorem Ends.run (h : Ends x e Q) (hp : e.poisoned = false) :
    ∃ r, (e.run x).1 = r.mapError .error ∧ Q r (e.run x).2 := by
  rw [run_of_not_poisoned hp]
  exact h.runAnyway

/-- The whole answer of a call whose program is known to succeed: reply and engine at once, for
those proofs that compare two engines. -/
theorem run_of_ok {a : α} {e' : Engine H} (h : x e = .ok a e') (hp : e.poisoned = false) :
    e.run x = (.ok a, e') := by
  rw [run_of_not_poisoned hp, runAnyway_of_ok h]

/-- The whole answer of a call whose program is known to fail with an error. The engine is that of
the program, for failing undoes nothing. -/
theorem run_of_error {err : AudioError} {e' : Engine H} (h : x e = .error (.error err) e')
    (hp : e.poisoned = false) : e.run x = (.error (.error err), e') := by
  rw [run_of_not_poisoned hp]
  unfold Engine.runAnyway
  rw [h]

end EngineM

end Passthrough
