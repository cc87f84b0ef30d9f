import Passthrough.Proofs.Engine.Lasting
import Passthrough.Proofs.Engine.Minutes
/-!
# Engines on any host

What holds of an engine between two turns, on any host that answers: each side is closed and holds
nothing, or holds a stream and is open, runs or has failed. Nothing in between is ever left behind,
since every program finishes what it has begun with a side (`SideOpened`, `SideRefused`).

A turn is a call of the engine, from its owner or its worker, or whatever the hardware does between
two calls: the host comes into any state, and the callbacks are called, of any stream that there has
ever been, with anything at all.

* **`lastingInvariant_upright`** — the invariant lasts through every call.
* **`upright_afterTurns`** — so it does through every run.
-/

namespace Passthrough

open EngineM

/-! ## Turns -/

/-- A turn in the life of an engine on a host of this kind. -/
inductive Turn (H : Type)
  | call (c : Call)
  /-- The host comes into this state, and the hardware makes these calls. -/
  | hardware (host : H) (callbacks : List Callback)
  /-- The observers collect what they were given. -/
  | collect

namespace Engine

variable {H : Type}

/-! ## The invariant -/

/-- **A side between two turns**: it is closed and holds nothing, or it holds a stream, and is open,
runs, or has failed. -/
def SideUpright (state : StreamState) (held : Option StreamHandle) : Prop :=
  state = .closed ∧ held = none
    ∨ held.isSome = true ∧ (state = .opened ∨ state = .running ∨ state = .error)

/-- **An engine between two turns.** -/
structure Upright (e : Engine H) : Prop where
  side : ∀ d, SideUpright (e.state d) (e.streams.get d)
  alive : e.poisoned = false

variable {e e' : Engine H} {d : Direction}

/-- A side that holds no stream is closed: in the other case of `SideUpright` it would hold one. -/
theorem Upright.closed (h : e.Upright) (hunheld : e.streams.get d = none) :
    e.state d = .closed := by
  rcases h.side d with ⟨hclosed, _⟩ | ⟨hheld, _⟩
  · exact hclosed
  · rw [hunheld] at hheld
    cases hheld

theorem Upright.held (h : e.Upright) (hrunning : e.state d = .running) :
    (e.streams.get d).isSome = true := by
  rcases h.side d with ⟨hclosed, _⟩ | ⟨hheld, _⟩
  · rw [hrunning] at hclosed
    cases hclosed
  · exact hheld

/-- A fault leaves a side that has failed, if there was one to strike: a closed side stays closed,
and one that is open or runs comes to `.error`, which `SideUpright` admits with a stream held. -/
theorem SideUpright.afterFault {state : StreamState} {held : Option StreamHandle}
    (h : SideUpright state held) : SideUpright state.afterFault held := by
  rcases h with ⟨rfl, hnone⟩ | ⟨hheld, hstate⟩
  · exact .inl ⟨rfl, hnone⟩
  · exact .inr ⟨hheld, .inr (.inr (StreamState.afterFault_of_occupied hstate))⟩

/-- An engine with the same states, the same streams and nothing poisoned is as upright as before,
whatever else has changed about it. Everything but the sides is left open by it: the host, the
board, the configuration and the channel. -/
theorem upright_of_same (h : e.Upright) (hstates : e'.line.states = e.line.states)
    (hstreams : e'.streams = e.streams) (halive : e'.poisoned = e.poisoned) : e'.Upright where
  side d := by
    have hstate : e'.state d = e.state d := by
      unfold Engine.state Line.state
      rw [hstates]
    rw [hstate, hstreams]
    exact h.side d
  alive := halive.trans h.alive

/-- A callback can strike its own side at most. That side is upright by `SideUpright.afterFault`,
and the other one is as it was. It is the only way in which the hardware can reach an engine
(`Line.Strikes`). -/
theorem upright_of_strikes (h : e.Upright) {line : Line} (hstrikes : e.line.Strikes d line) :
    { e with line }.Upright where
  side d' := by
    show SideUpright (line.state d') (e.streams.get d')
    by_cases hd : d' = d
    · subst hd
      rcases hstrikes.state with hsame | hfault
      · rw [hsame]
        exact h.side d'
      · rw [hfault]
        exact (h.side d').afterFault
    · rw [hstrikes.others d' hd]
      exact h.side d'
  alive := h.alive

/-- Amid an engine that is upright, only the side itself is in question. The programs of one side
all come with such an `Amid`, so that `lastingInvariant_upright` looks at one side at a time. -/
theorem upright_of_amid {e e' : Engine (MinutedHost H)} {ms : List Minute} (h : e.Upright)
    (hamid : Amid d ms e e') (hside : SideUpright (e'.state d) (e'.streams.get d)) :
    e'.Upright where
  side d' := by
    by_cases hd : d' = d
    · subst hd
      exact hside
    · rw [hamid.state d' hd, hamid.held d' hd]
      exact h.side d'
  alive := hamid.poisoned.trans h.alive

end Engine

/-! ## Every call -/

namespace EngineM

variable {H : Type} [StreamHost Handler Line H] [Answering H]

open Engine

/-- Stopping a side leaves it as it was, open, or failed, with its stream held (`stopSide_minutes`).
That it has failed is what a refusal of the host comes to, and it still holds its stream then. -/
theorem stopSide_upright (d : Direction) :
    Lasts Upright (stopSide d : EngineM (MinutedHost H) Unit) := by
  intro e h
  refine (stopSide_minutes d e).mono ?_
  rintro r e' ⟨calls, _, _, hamid, hstreams, hstate⟩
  refine upright_of_amid h hamid ?_
  rcases hstate with hsame | ⟨_, hheld, hopened | herror⟩
  · rw [hsame, hstreams]
    exact h.side d
  · exact .inr ⟨hheld, .inl hopened⟩
  · exact .inr ⟨hheld, .inr (.inr herror)⟩

/-- Starting a side leaves it as it was, or running with its stream held (`startSide_minutes`). A
refusal of the host leaves it as it was. -/
theorem startSide_upright (d : Direction) :
    Lasts Upright (startSide d : EngineM (MinutedHost H) Unit) := by
  intro e h
  refine (startSide_minutes d e).mono ?_
  rintro r e' ⟨ms, hamid, hstreams, hstate⟩
  refine upright_of_amid h hamid ?_
  rw [hstreams]
  rcases hstate with hsame | ⟨hheld, hrunning⟩
  · rw [hsame]
    exact h.side d
  · exact .inr ⟨hheld, .inr (.inl hrunning)⟩

/-- Closing a side leaves it closed and without a stream, whatever the host answered
(`closeSide_minutes`). -/
theorem closeSide_upright (d : Direction) :
    Lasts Upright (closeSide d : EngineM (MinutedHost H) Unit) := by
  intro e h
  refine (closeSide_minutes d e).mono ?_
  rintro r e' ⟨calls, _, _, hamid, hnone, hclosed⟩
  exact upright_of_amid h hamid (.inl ⟨hclosed, hnone⟩)

/-- Opening a side leaves it open with the stream that was handed out (`SideOpened`), or closed
without one (`SideRefused`). A side that is not closed, or an engine without a channel, is refused
with nothing done. -/
theorem openSide_upright (d : Direction) (rate : Nat) :
    Lasts Upright (openSide d rate : EngineM (MinutedHost H) Unit) := by
  intro e h
  cases hchannel : e.line.channel with
  | none => exact ends_of_error (openSide_of_no_channel hchannel rate) h
  | some c =>
    have hsome : e.line.channel.isSome = true := by simp [hchannel]
    by_cases hstate : e.state d = .closed
    · refine (openSide_minutes hsome hstate).mono fun r e' hcases => ?_
      rcases hcases with ⟨_, s, p, ms, hopened⟩ | ⟨err, ms, _, hrefused⟩
      · refine upright_of_amid h hopened.toAmid (.inr ⟨?_, .inl hopened.opened⟩)
        rw [hopened.holds]
        rfl
      · refine upright_of_amid h hrefused.toAmid ?_
        rw [hrefused.streams, hrefused.closed, ← hstate]
        exact h.side d
    · exact ends_of_error (openSide_of_not_closed hsome hstate rate) h

/-- **An upright engine** stays upright through every call. The four programs of a side have a lemma
each; the rest of a call changes only what `upright_of_same` allows. -/
theorem lastingInvariant_upright :
    LastingInvariant (Upright : Engine (MinutedHost H) → Prop) where
  mark h marks := upright_of_same h marks.states marks.streams marks.poisoned
  stopSide := stopSide_upright
  startSide := startSide_upright
  closeSide := closeSide_upright
  openSides := lasts_openSides
    (fun h marks => upright_of_same h marks.states marks.streams marks.poisoned)
    (fun _ _ h => upright_of_same h rfl rfl rfl) openSide_upright closeSide_upright
  replaceOutput := lasts_replaceOutput stopSide_upright closeSide_upright openSide_upright
    startSide_upright
  configured h _ _ := upright_of_same h rfl rfl rfl
  chosen h _ := upright_of_same h rfl rfl rfl

end EngineM

/-! ## Runs -/

namespace Engine

variable {H : Type}

theorem upright_create (host : MinutedHost H) (config : Config) (recovery : Recovery)
    (noticeCapacity : Nat) : (create host config recovery noticeCapacity).Upright where
  side d := .inl (by cases d <;> exact ⟨rfl, rfl⟩)
  alive := rfl

/-- Any number of callbacks strikes what one of them can. The induction is on the callbacks, with
`upright_of_strikes` for each. -/
theorem upright_called {e : Engine (MinutedHost H)} (h : e.Upright) (callbacks : List Callback) :
    { e with line := callbacks.foldl Callback.called e.line }.Upright := by
  induction callbacks generalizing e with
  | nil => exact h
  | cons c rest ih => exact ih (upright_of_strikes h (c.called_strikes e.line))

variable [StreamHost Handler Line H]

/-- The engine after a turn. What the hardware does is not in the minutes. -/
def take (e : Engine (MinutedHost H)) : Turn H → Engine (MinutedHost H)
  | .call c => e.call c
  | .hardware inner callbacks =>
    { e with host := { e.host with inner }, line := callbacks.foldl Callback.called e.line }
  | .collect => { e with line := e.line.takeHeard.2 }

/-- The engine after a run, on a host that is in this state at its beginning. -/
def afterTurns (host : H) (config : Config) (recovery : Recovery) (noticeCapacity : Nat)
    (ts : List (Turn H)) : Engine (MinutedHost H) :=
  ts.foldl take (create ⟨host, []⟩ config recovery noticeCapacity)

variable [Answering H]

/-- **One turn** leaves an upright engine upright: a call by `lastingInvariant_upright`, what the
hardware does by `upright_called`, and the collecting of what was heard because it touches neither
states nor streams. -/
theorem upright_take {e : Engine (MinutedHost H)} (h : e.Upright) (t : Turn H) :
    (e.take t).Upright := by
  cases t with
  | call c =>
    exact lastingInvariant_upright.call h c fun _ _ => upright_of_same h rfl rfl rfl
  | hardware inner callbacks =>
    have hhost : { e with host := { e.host with inner } }.Upright := upright_of_same h rfl rfl rfl
    exact upright_called hhost callbacks
  | collect => exact upright_of_same h rfl rfl rfl

/-- **After any run** an engine is upright. The induction is on the turns, with `upright_take` for
each and `upright_create` at the start. -/
theorem upright_afterTurns (host : H) (config : Config) (recovery : Recovery)
    (noticeCapacity : Nat) (ts : List (Turn H)) :
    (afterTurns host config recovery noticeCapacity ts).Upright := by
  have hrun : ∀ e : Engine (MinutedHost H), e.Upright → (ts.foldl take e).Upright := by
    induction ts with
    | nil => exact fun _ h => h
    | cons t rest ih => exact fun e h => ih _ (upright_take h t)
  exact hrun _ (upright_create _ _ _ _)

end Engine

end Passthrough
