import Passthrough.Proofs.Host.Answering
/-!
# Faults latch

A stream that has faulted takes no more audio, and no callback keeps a mark of that: it looks at the
state of its stream, which the fault has made `error`. From there the only move leads to `closed`,
and from `closed` the only one leads to `opening`; so that a stream that has failed refuses its
audio in every state that it passes through until its owner opens it again.

A fault can also meet a stream that is still being opened. No move leads from `opening` to `error`,
so it finds nothing there that it could strike.

* **`Callback.AtFault`** — the callbacks that are faults: a period of the wrong size that is not
  refused, and the news of a loss.
* **`Line.Latched.undergo`**, **`Line.Latched.afterAll`** — a latched stream stays latched through
  whatever happens, once and in any number, unless it is opened again.
* **`Callback.fault_latches`** — a fault latches a stream, unless it meets it while it is opened.
-/

namespace Passthrough

/-! ## Moves -/

namespace StreamState

/-- A fault strikes every stream but one that is closed or being opened. The second exception is
what `fault_latches` has to make room for. -/
theorem afterFault_eq_error {s : StreamState} (hclosed : s ≠ .closed) (hopening : s ≠ .opening) :
    s.afterFault = .error := by
  cases s with
  | closed => exact absurd rfl hclosed
  | opening => exact absurd rfl hopening
  | _ => rfl

/-- A stream that has failed can only be closed, so a start or a stop cannot bring it back. -/
theorem eq_closed_of_error_canMoveTo {t : StreamState} (h : error.canMoveTo t = true) :
    t = .closed := by
  cases t <;> first | rfl | cases h

theorem eq_opening_of_closed_canMoveTo {t : StreamState} (h : closed.canMoveTo t = true) :
    t = .opening := by
  cases t <;> first | rfl | cases h

end StreamState

/-! ## What happens on a line -/

/-- Something that happens on a line. -/
inductive Happening
  /-- The owner moves a stream on, if that move is allowed. -/
  | move (d : Direction) (target : StreamState)
  | callback (c : Callback)
  /-- The owner exchanges the channel, or does something to the link. -/
  | exchange (channel : Option Channel) (link : Link)

namespace Line

/-- The line after something has happened. -/
def undergo (l : Line) : Happening → Line
  | .move d target =>
    match l.move d target with
    | .ok (_, l) => l
    | .error _ => l
  | .callback c => c.called l
  | .exchange channel link => { l with channel, link }

/-- The line after all of this has happened. -/
def afterAll (l : Line) (xs : List Happening) : Line := xs.foldl undergo l

/-- **Refusing audio.** Whatever a data callback of this stream is set up with and given, it answers
that it is not to be called again, and leaves the line as it is; a playback has silence played. -/
structure Refuses (l : Line) (d : Direction) : Prop where
  capture (h : Handler) (p : StreamInfo) (frames : List Int16) (hd : h.direction = d) :
    h.capture p frames l = (.stop, l)
  render (h : Handler) (p : StreamInfo) (n : Nat) (hd : h.direction = d) :
    h.render p n l = (.stop, Handler.silence n, l)

/-- **Opened again**: somewhere in the course of this the stream is closed, and then opened. -/
def Reopens (l : Line) (d : Direction) (xs : List Happening) : Prop :=
  ∃ before rest, xs = before ++ .move d .opening :: rest
    ∧ (l.afterAll before).state d = .closed

/-- **Latched**: the stream has failed, and may have been closed since. -/
def Latched (l : Line) (d : Direction) : Prop := l.state d = .error ∨ l.state d = .closed

variable {l l' : Line} {d : Direction}

theorem state_undergo_move_ne (l : Line) {d' : Direction} (target : StreamState) (hd : d ≠ d') :
    (l.undergo (.move d' target)).state d = l.state d := by
  simp only [undergo, move]
  cases hallowed : (l.state d').canMoveTo target with
  | true => exact state_setState_ne l target hd
  | false => rfl

/-- A move takes place if the transition table allows it, and otherwise nothing happens. -/
theorem state_undergo_move (l : Line) (d : Direction) (target : StreamState) :
    (l.undergo (.move d target)).state d
      = if (l.state d).canMoveTo target then target else l.state d := by
  simp only [undergo, move]
  cases hallowed : (l.state d).canMoveTo target with
  | true => exact state_setState l d target
  | false => rfl

/-- A latched stream refuses its audio, since it has failed or is closed and neither state takes
any. -/
theorem Latched.refuses (h : l.Latched d) : l.Refuses d := by
  have hrefuses : (l.state d).refusesAudio = true := by
    rcases h with hstate | hstate <;> rw [hstate] <;> rfl
  exact ⟨fun h p frames hd => Handler.capture_of_refuses (hd ▸ hrefuses) frames,
    fun h p n hd => Handler.render_of_refuses (hd ▸ hrefuses) n⟩

/-- A fault changes nothing about a latched stream: it finds `error` or `closed`, and leaves either.
A fault in the other direction leaves this state alone altogether. -/
theorem Latched.of_strikes {d' : Direction} (h : l.Latched d) (hstrikes : l.Strikes d' l') :
    l'.Latched d := by
  have hstate : l'.state d = l.state d := by
    by_cases hd : d = d'
    · subst hd
      rcases hstrikes.state with hsame | hfault
      · exact hsame
      · rw [hfault]
        rcases h with hstate | hstate <;> rw [hstate] <;> rfl
    · exact hstrikes.others d hd
  unfold Latched
  rwa [hstate]

/-- **Whatever happens once** leaves a latched stream latched, unless it is opened, and that is
possible from `closed` only. -/
theorem Latched.undergo (h : l.Latched d) (x : Happening) :
    (x = .move d .opening ∧ l.state d = .closed) ∨ (l.undergo x).Latched d := by
  cases x with
  | move d' target =>
    by_cases hd : d = d'
    · subst hd
      unfold Latched
      rw [state_undergo_move]
      split
      · next hallowed =>
        -- the only moves from where the stream can stand
        rcases h with herror | hclosed
        · rw [herror] at hallowed
          exact .inr (.inr (StreamState.eq_closed_of_error_canMoveTo hallowed))
        · rw [hclosed] at hallowed
          rw [StreamState.eq_opening_of_closed_canMoveTo hallowed]
          exact .inl ⟨rfl, hclosed⟩
      · exact .inr h
    · unfold Latched
      rw [state_undergo_move_ne l target hd]
      exact .inr h
  | callback c => exact .inr (h.of_strikes (c.called_strikes l))
  | exchange channel link => exact .inr h

/-- **Whatever happens** leaves a latched stream latched, unless it is opened again, by induction
with `Latched.undergo`. -/
theorem Latched.afterAll (h : l.Latched d) (xs : List Happening) :
    l.Reopens d xs ∨ (l.afterAll xs).Latched d := by
  induction xs generalizing l with
  | nil => exact .inr h
  | cons x rest ih =>
    rcases h.undergo x with ⟨rfl, hclosed⟩ | hlatched
    · exact .inl ⟨[], rest, rfl, hclosed⟩
    · rcases ih hlatched with ⟨before, after, rfl, hclosed⟩ | hrest
      · exact .inl ⟨x :: before, after, rfl, hclosed⟩
      · exact .inr hrest

end Line

/-! ## Faults -/

namespace Callback

/-- **A callback that is a fault**: a data callback that is not refused and meets a period of the
wrong size, or the news that the hardware has closed the stream. -/
def AtFault (l : Line) : Callback → Prop
  | capture h p frames =>
    (l.state h.direction).refusesAudio = false ∧ (h.misfit? p frames.length l).isSome = true
  | render h p n =>
    (l.state h.direction).refusesAudio = false ∧ (h.misfit? p n l).isSome = true
  | beforeClose .. => False
  | afterClose .. => True

variable {c : Callback} {l : Line}

/-- **A fault** stops its stream, if it can strike it where it stands, whichever kind of fault it
is. A misfit goes through `Handler.fault` and a loss through `afterClose`, and both set the state to
`afterFault` of what it was. -/
theorem state_called_of_atFault (h : c.AtFault l) :
    (c.called l).state c.direction = (l.state c.direction).afterFault := by
  cases c with
  | capture handler p frames =>
    obtain ⟨actual, hmisfit⟩ := Option.isSome_iff_exists.mp h.2
    show (handler.capture p frames l).2.state handler.direction = _
    rw [Handler.capture_of_misfit h.1 hmisfit]
    exact handler.state_fault l actual
  | render handler p n =>
    obtain ⟨actual, hmisfit⟩ := Option.isSome_iff_exists.mp h.2
    show (handler.render p n l).2.2.state handler.direction = _
    rw [Handler.render_of_misfit h.1 hmisfit]
    exact handler.state_fault l actual
  | beforeClose handler p error => exact h.elim
  | afterClose handler p error => exact Line.state_setState l _ _

/-- **Faults latch.** A fault that meets a stream which is not closed makes it fail, and from then
on it refuses its audio, whatever happens on the line, until it has been closed and is opened again;
unless the fault meets it while it is being opened, which it goes on being. -/
theorem fault_latches (c : Callback) (l : Line) (hfault : c.AtFault l)
    (hclosed : l.state c.direction ≠ .closed) :
    (l.state c.direction ≠ .opening →
        (c.called l).state c.direction = .error
          ∧ ∀ later, (c.called l).Reopens c.direction later
              ∨ ((c.called l).afterAll later).Refuses c.direction)
      ∧ (l.state c.direction = .opening → (c.called l).state c.direction = .opening) := by
  have hstate := state_called_of_atFault hfault
  constructor
  · intro hopening
    have herror : (c.called l).state c.direction = .error :=
      hstate.trans (StreamState.afterFault_eq_error hclosed hopening)
    have hlatched : (c.called l).Latched c.direction := .inl herror
    exact ⟨herror, fun later => (hlatched.afterAll later).imp_right Line.Latched.refuses⟩
  · intro hopening
    rw [hstate, hopening]
    rfl

/-- An input of periods of eight samples, in the middle of the run of a pair of streams, is given a
period of one sample. -/
theorem fault_latches_shortPeriod :
    let h : Handler := ⟨.input, ⟨8000, 1, 1⟩, none, 1⟩
    let p : StreamInfo := ⟨.input, 8000, 1, 8, 8, .none⟩
    let l : Line := { states := .both .running, channel := some (.ofLength 8) }
    let c : Callback := .capture h p [1]
    c.AtFault l ∧ l.state .input ≠ .closed ∧ l.state .input ≠ .opening
      ∧ (c.called l).state .input = .error
      ∧ ((c.called l).afterAll [.callback (.capture h p [1, 2, 3, 4, 5, 6, 7, 8]),
          .move .input .closed]).Refuses .input := by
  intro h p l c
  have hfault : c.AtFault l := ⟨rfl, by decide⟩
  obtain ⟨herror, hlater⟩ := (fault_latches c l hfault (by decide)).1 (by decide)
  refine ⟨hfault, by decide, by decide, herror, (hlater _).resolve_left ?_⟩
  -- nothing of this opens the stream
  rintro ⟨before, rest, hxs, -⟩
  have hmem : Happening.move c.direction .opening ∈ before ++ .move c.direction .opening :: rest :=
    List.mem_append_right _ List.mem_cons_self
  rw [← hxs] at hmem
  simp at hmem

/-- **A fault that does not latch.** An input that is still being opened is given a period of one
sample; it does not fail, and takes the next period. -/
theorem fault_not_latches_while_opening :
    let h : Handler := ⟨.input, ⟨8000, 1, 1⟩, none, 1⟩
    let p : StreamInfo := ⟨.input, 8000, 1, 8, 8, .none⟩
    let l : Line := { states := ⟨.opening, .closed⟩, channel := some (.ofLength 8) }
    let c : Callback := .capture h p [1]
    c.AtFault l ∧ l.state c.direction ≠ .closed ∧ (c.called l).state c.direction ≠ .error
      ∧ (h.capture p [1, 2, 3, 4, 5, 6, 7, 8] (c.called l)).1 = .proceed :=
  ⟨⟨rfl, rfl⟩, by decide, by decide, by decide⟩

end Callback

end Passthrough
