import Passthrough.Proofs.Engine.Lasting
import Passthrough.Proofs.Engine.Run
/-!
# What observers are given

An observer goes into the callbacks of a stream when the stream is opened, and stays there for as
long as the stream is live, whoever is chosen meanwhile. A callback gives its observer the period
that it passes on, and nothing else in an engine gives anything to an observer.

Calls are silent therefore, and so is all that the hardware does besides exchanging periods
(`Silent`). As long as no other observer is chosen, every live stream has the same one
(`ObservedBy`), which is given every period that passes, in the order in which they pass.

* **`lastingInvariant_silent`** — no call gives anything to an observer.
* **`heard_feed`**, **`heard_draw`** — who is given a period that passes.
* **`perform_entrusts`**, **`heard_perform`** — what every step leaves to the streams and their
  observers.
* **`perform_observedBy`** — a step under one observer.
-/

namespace Passthrough

/-! ## The callbacks of a host -/

namespace SimulatedHost

variable {κ σ : Type} {P : κ → Prop} {h h' h'' : SimulatedHost κ}

/-- Every live stream has a callback with `P`. -/
def CallbacksAre (P : κ → Prop) (h : SimulatedHost κ) : Prop := ∀ x ∈ h.streams, P x.callback

/-- **Callbacks stay with their streams** between two states of a host: every live stream was live
before, with the same callback, or has been opened since, with one that has `P`. -/
structure Retains (P : κ → Prop) (h h' : SimulatedHost κ) : Prop where
  opened : h.opened ≤ h'.opened
  streams : ∀ x ∈ h'.streams, (∃ y ∈ h.streams, y.id = x.id ∧ y.callback = x.callback)
    ∨ h.opened < x.id ∧ P x.callback

theorem Retains.of_old (hopened : h'.opened = h.opened)
    (hold : ∀ x ∈ h'.streams, ∃ y ∈ h.streams, y.id = x.id ∧ y.callback = x.callback) :
    Retains P h h' :=
  ⟨Nat.le_of_eq hopened.symm, fun x hx => Or.inl (hold x hx)⟩

theorem Retains.of_streams (hopened : h'.opened = h.opened) (hstreams : h'.streams = h.streams) :
    Retains P h h' :=
  .of_old hopened fun x hx => ⟨x, hstreams ▸ hx, rfl, rfl⟩

theorem Retains.refl (h : SimulatedHost κ) : Retains P h h := .of_streams rfl rfl

/-- Callbacks that stay with their streams twice in a row stay; a stream that is new in the first
part keeps the callback that it was opened with. -/
theorem Retains.trans (hr : Retains P h h') (hr' : Retains P h' h'') : Retains P h h'' where
  opened := Nat.le_trans hr.opened hr'.opened
  streams x hx := by
    rcases hr'.streams x hx with ⟨y, hy, hid, hcallback⟩ | ⟨hnew, hP⟩
    · rcases hr.streams y hy with ⟨z, hz, hid', hcallback'⟩ | ⟨hnew, hP⟩
      · exact Or.inl ⟨z, hz, hid'.trans hid, hcallback'.trans hcallback⟩
      · exact Or.inr ⟨hid ▸ hnew, hcallback ▸ hP⟩
    · exact Or.inr ⟨Nat.lt_of_le_of_lt hr.opened hnew, hP⟩

/-- What is true of every callback before, and of those of new streams, is true of every callback
after. -/
theorem Retains.callbacksAre (hr : Retains P h h') (hP : h.CallbacksAre P) : h'.CallbacksAre P := by
  intro x hx
  rcases hr.streams x hx with ⟨y, hy, _, hcallback⟩ | ⟨_, hx⟩
  · exact hcallback ▸ hP y hy
  · exact hx

/-- A stream that is switched on or off keeps its callback. The lemmas up to `retains_unplug` say
the same of all that can happen to a host besides an opening. -/
theorem retains_setRunning (h : SimulatedHost κ) (id : Nat) (running : Bool) :
    Retains P h (h.setRunning id running) := by
  refine .of_old rfl fun x hx => ?_
  obtain ⟨y, hy, rfl⟩ := List.mem_map.mp hx
  refine ⟨y, hy, ?_, ?_⟩ <;> split <;> rfl

theorem retains_remove (h : SimulatedHost κ) (id : Nat) : Retains P h (h.remove id) :=
  .of_old rfl fun x hx => ⟨x, (List.mem_filter.mp hx).1, rfl, rfl⟩

theorem retains_record (h : SimulatedHost κ) (d : Direction) (op : CallKind) :
    Retains P h (h.record d op) := .of_streams rfl rfl

theorem retains_setBufferSize (s : StreamHandle) (frames : Nat) (h : SimulatedHost κ) :
    Retains P h (setBufferSize s frames h).2 := by
  unfold setBufferSize
  split <;> exact .refl h

/-- A start, granted or refused, leaves the callbacks where they are. What is changed is the record
of the calls, the planted faults, and which streams run. -/
theorem retains_startStream (s : StreamHandle) (h : SimulatedHost κ) :
    Retains P h (startStream s h).2 := by
  unfold startStream
  dsimp only
  split
  · exact retains_record h _ _
  · split
    · exact .of_streams rfl rfl
    · split
      · exact (retains_record h _ _).trans (retains_setRunning _ s.id true)
      · exact retains_record h _ _

/-- A stop leaves them where they are. The cases are those of a start, but for a stream that is
gone, which can be stopped without an error. -/
theorem retains_stopStream (s : StreamHandle) (h : SimulatedHost κ) :
    Retains P h (stopStream s h).2 := by
  unfold stopStream
  dsimp only
  split
  · exact retains_record h _ _
  · split
    · exact .of_streams rfl rfl
    · exact (retains_record h _ _).trans (retains_setRunning _ s.id false)

/-- A close removes a stream with its callback, and touches no other. -/
theorem retains_closeStream (s : StreamHandle) (h : SimulatedHost κ) :
    Retains P h (closeStream s h).2 := by
  unfold closeStream
  split
  · exact .refl h
  · exact (retains_record h _ _).trans (retains_remove _ s.id)

theorem retains_discard (s : StreamHandle) (h : SimulatedHost κ) :
    Retains P h (discard s h).2 := by
  unfold discard
  split
  · exact .refl h
  · exact retains_remove h s.id

/-- A host that opens a stream does not crash, keeps its callbacks but for the new one, and gives
that stream a number that no stream has had. The property `P` has to hold of the callback that is
handed over, as the new stream has that one. -/
theorem retains_openStream (side : Direction) (r : StreamSpec) {callback : κ}
    (hcallback : P callback) (h : SimulatedHost κ) : ∃ answer h',
      openStream side r callback h = (answer, h') ∧ Retains P h h'
        ∧ (∀ message, answer ≠ .crashed message)
        ∧ ∀ s, answer = .opened s → h.opened < s.id := by
  rcases openStream_cases side r callback h with
    ⟨source, h', hask, hstreams, hopened⟩ | ⟨h', hask, hstreams, hopened⟩
  · exact ⟨_, h', hask, .of_streams hopened hstreams, nofun, nofun⟩
  · refine ⟨_, h', hask, ⟨by omega, fun x hx => ?_⟩, nofun, ?_⟩
    · rw [hstreams, List.mem_append, List.mem_singleton] at hx
      rcases hx with hold | rfl
      · exact Or.inl ⟨x, hold, rfl, rfl⟩
      · exact Or.inr ⟨Nat.lt_succ_self _, hcallback⟩
    · rintro s ⟨rfl⟩
      exact Nat.lt_succ_self _

theorem retains_answered (h : SimulatedHost κ) (id : Nat) (verdict : Verdict) :
    Retains P h (h.answered id verdict) := by
  cases verdict with
  | proceed => exact .refl h
  | stop => exact retains_setRunning h id false

theorem retains_follow (h : SimulatedHost κ) (s : Script) : Retains P h (h.follow s) := by
  cases s <;> exact .of_streams rfl rfl

variable [StreamOwner κ σ]

theorem retains_feed (frames : List Int16) (h : SimulatedHost κ) (s : σ) :
    Retains P h (h.feed frames s).2.1 := by
  unfold feed
  cases h.newestRunning? .input with
  | none => exact .refl h
  | some x => exact retains_answered h x.id _

theorem retains_draw (dest : List Int16) (h : SimulatedHost κ) (s : σ) :
    Retains P h (h.draw dest s).2.2.1 := by
  unfold draw
  cases h.newestRunning? .output with
  | none => exact .refl h
  | some x => exact retains_answered h x.id _

/-- The loss of a device removes streams, and touches the callback of none that stays. -/
theorem retains_unplug (d : Direction) (error : HostError) (h : SimulatedHost κ) (s : σ) :
    Retains P h (h.unplug d error s).2.1 := by
  unfold unplug
  cases (h.live d).getLast? with
  | none => exact .refl h
  | some x => exact retains_remove h x.id

end SimulatedHost

/-! ## The callbacks themselves -/

/-- A period that passes in a direction. -/
abbrev Passage := Direction × List Int16

/-- What has passed, once the callback has answered. -/
def passed (answer : Option Verdict) (p : Passage) : List Passage :=
  if answer = some .proceed then [p] else []

/-- How an observer hears of it. -/
def Passage.heardBy (id : ObserverId) (p : Passage) : Heard := ⟨id, p.1, p.2⟩

/-- Who hears of it: the observer of the callback, if it has one. -/
def Passage.toldTo (observer : Option ObserverId) (p : Passage) : List Heard :=
  observer.toList.map p.heardBy

namespace Handler

/-- A fault gives nothing to an observer, so that observers hear of good periods only. -/
theorem heard_fault (h : Handler) (actualBytes : Nat) (l : Line) :
    (h.fault actualBytes l).heard = l.heard := by
  unfold fault
  split <;> rfl

/-- What a notification adds is the period, for the observer if there is one. -/
theorem heard_notify (observer : Option ObserverId) (d : Direction) (frames : List Int16)
    (l : Line) : (l.notify observer d frames).heard
      = l.heard ++ (passed (some .proceed) (d, frames)).flatMap (Passage.toldTo observer) := by
  cases observer with
  | none => exact (List.append_nil _).symm
  | some id => rfl

/-- A callback gives its observer the period that it passes on, and nothing else. The frames are
those that the device has captured. What it passes on depends on its verdict: a callback that
answers stop has passed on nothing (`passed`). -/
theorem heard_capture (h : Handler) (p : StreamInfo) (frames : List Int16) (l : Line) :
    (h.capture p frames l).2.heard = l.heard
      ++ (passed (h.capture p frames l).1 (.input, frames)).flatMap (Passage.toldTo h.observer) := by
  have hnone : l.heard = l.heard ++ (passed (some .stop) (.input, frames)).flatMap
      (Passage.toldTo h.observer) := (List.append_nil _).symm
  unfold capture
  split
  · exact hnone
  · split
    · exact hnone
    · split
      · exact (heard_fault h _ l).trans hnone
      · split
        · exact (heard_fault h _ l).trans hnone
        · exact heard_notify h.observer .input frames _

/-- The same for a playback. The frames are those that are played, and not what was in the
destination. A callback that answers stop has filled its destination with silence, and nobody is
told of that. -/
theorem heard_render (h : Handler) (p : StreamInfo) (length : Nat) (l : Line) :
    (h.render p length l).2.2.heard = l.heard
      ++ (passed (h.render p length l).1 (.output, (h.render p length l).2.1)).flatMap
          (Passage.toldTo h.observer) := by
  have hnone : l.heard = l.heard ++ (passed (some .stop) (.output, silence length)).flatMap
      (Passage.toldTo h.observer) := (List.append_nil _).symm
  unfold render
  split
  · exact hnone
  · split
    · exact hnone
    · split
      · exact (heard_fault h _ l).trans hnone
      · split
        · exact (heard_fault h _ l).trans hnone
        · exact heard_notify h.observer .output _ _

end Handler

/-! ## Calls -/

open EngineM SimulatedHost

/-- **What stays with the streams** between two states of an engine: callbacks keep the observer
that they were opened with, a new stream gets the one that is chosen, and a stream that is held was
held before or is new. -/
structure Engine.Entrusts (e e' : SimulatedEngine) : Prop where
  host : Retains (fun callback => callback.observer = e.observer) e.host e'.host
  held : ∀ d s, e'.streams.get d = some s → e.streams.get d = some s ∨ e.host.opened < s.id

/-- **An engine that is silent** towards its observers, and goes on with the one that it had. -/
structure Engine.Silent (e e' : SimulatedEngine) : Prop extends Engine.Entrusts e e' where
  observer : e'.observer = e.observer
  heard : e'.line.heard = e.line.heard

namespace EngineM

open Engine (Silent)

variable {e e₁ e₂ : SimulatedEngine}

theorem silent_refl (e : SimulatedEngine) : Silent e e :=
  ⟨⟨.refl _, fun _ _ => Or.inl⟩, rfl, rfl⟩

/-- An engine goes on in silence if its host and what was heard stay, and it takes hold of
nothing. -/
theorem silent_of_same (h : Silent e e₁) (hobserver : e₂.observer = e₁.observer)
    (hhost : e₂.host = e₁.host) (hheld : ∀ d s, e₂.streams.get d = some s →
      e₁.streams.get d = some s) (hheard : e₂.line.heard = e₁.line.heard) : Silent e e₂ :=
  ⟨⟨hhost ▸ h.host, fun d s hs => h.held d s (hheld d s hs)⟩, hobserver.trans h.observer,
    hheard.trans h.heard⟩

theorem silent_mark (h : Silent e e₁) (marks : Marks e₁ e₂) : Silent e e₂ :=
  silent_of_same h marks.observer marks.host (fun _ _ hs => marks.streams ▸ hs) marks.heard

theorem modifyLine_silent {f : Line → Line} (hf : ∀ l, (f l).heard = l.heard) :
    Lasts (Silent e) (modifyLine f : EngineM (SimulatedHost Handler) Unit) :=
  lasts_modify fun e₁ h => silent_of_same h rfl rfl (fun _ _ => id) (hf e₁.line)

/-- A notice is not given to the observers of periods, but to subscribers of the board. -/
theorem publish_silent (kind : Occurrence) (detail : Option String) :
    Lasts (Silent e) (publish kind detail : EngineM (SimulatedHost Handler) Unit) :=
  lasts_modify fun _ h => silent_of_same h rfl rfl (fun _ _ => id) rfl

/-- A move of the state is silent, allowed or not. -/
theorem move_silent (d : Direction) (t : StreamState) :
    Lasts (Silent e) (move d t : EngineM (SimulatedHost Handler) Unit) := by
  intro e₁ h
  cases hmove : (e₁.state d).canMoveTo t with
  | true =>
    exact ends_of_ok (move_of_canMoveTo hmove) (silent_of_same h rfl rfl (fun _ _ => id) rfl)
  | false => exact ends_of_error (move_of_not_canMoveTo hmove) h

theorem askHost_silent {α : Type} {call : SimulatedHost Handler → α × SimulatedHost Handler}
    (hcall : ∀ {P : Handler → Prop} h, Retains P h (call h).2) :
    Lasts (Silent e) (askHost (.quiet call)) :=
  fun e₁ h => ends_of_ok rfl ⟨⟨h.host.trans (hcall e₁.host), h.held⟩, h.observer, h.heard⟩

/-! ### One side -/

/-- Stopping a side is silent, on every path. No callback of the host comes during a stop, and the
states are nothing that observers are told of. -/
theorem stopSide_silent (d : Direction) :
    Lasts (Silent e) (stopSide d : EngineM (SimulatedHost Handler) Unit) := by
  unfold stopSide
  refine lasts_get_bind fun e₁ => lasts_ite ?_ (lasts_pure ())
  refine lasts_get_bind fun e₂ => ?_
  cases e₂.streams.get d with
  | none => exact lasts_pure ()
  | some s =>
    refine (move_silent d .stopping).bind fun _ => ?_
    refine (askHost_silent (retains_stopStream s)).bind fun r => ?_
    cases r with
    | ok _ => exact move_silent d .opened
    | error source =>
      refine Lasts.bind (modifyLine_silent ?_) fun _ => lasts_fail _
      exact fun _ => rfl

/-- Starting a side is silent, on every path: the stream goes on with the observer that it was
opened for. The observer that has been chosen in the meantime is not asked. -/
theorem startSide_silent (d : Direction) :
    Lasts (Silent e) (startSide d : EngineM (SimulatedHost Handler) Unit) := by
  unfold startSide
  refine lasts_get_bind fun e₁ => ?_
  cases e₁.streams.get d with
  | none => exact lasts_fail _
  | some s =>
    have hask : Lasts (Silent e) (askHost (StreamHost.startStream s) :
        EngineM (SimulatedHost Handler) _) := askHost_silent (retains_startStream s)
    -- A side that is not ready fails before the host is asked, and goes no further.
    refine lasts_get_bind fun e₂ =>
      lasts_ite ((lasts_fail _).bind fun _ => hask.bind fun r => ?_) (hask.bind fun r => ?_)
    all_goals
      cases r with
      | ok _ => exact move_silent d .running
      | error source => exact lasts_fail _

/-- A side that lets go of its stream holds none, which is within what `Silent` allows. What
`Silent` says of handles is that each was held before or is new, and it has no need for them to
stay. -/
theorem silent_letGo (h : Silent e e₁) (d : Direction) :
    Silent e { e₁ with streams := e₁.streams.set d none } := by
  refine silent_of_same h rfl rfl (fun d' s hs => ?_) rfl
  by_cases hd : d' = d
  · subst hd
    rw [Duplex.get_set] at hs
    cases hs
  · rwa [Duplex.get_set_ne _ _ hd] at hs

/-- Closing a side is silent, on every path. The handle is let go of before the host is asked
(`silent_letGo`). -/
theorem closeSide_silent (d : Direction) :
    Lasts (Silent e) (closeSide d : EngineM (SimulatedHost Handler) Unit) := by
  unfold closeSide
  refine lasts_get_bind fun e₁ => ?_
  cases e₁.streams.get d with
  | none => exact modifyLine_silent fun _ => rfl
  | some s =>
    refine Lasts.bind (lasts_modify fun _ h => silent_letGo h d) fun _ => ?_
    refine (askHost_silent (retains_closeStream s)).bind fun r => ?_
    refine (askHost_silent (retains_discard r.2)).bind fun _ => ?_
    have hsettle : Lasts (Silent e) (modifyLine (·.settle d) :
        EngineM (SimulatedHost Handler) Unit) := modifyLine_silent fun _ => rfl
    refine hsettle.bind fun _ => ?_
    cases r.1 with
    | ok _ => exact lasts_pure ()
    | error source => exact lasts_fail _

/-- A stream that is taken hold of is new, so it is not one that could have lost its observer. Its
number is above all that have been given out when `e` was looked at. -/
theorem silent_hold (h : Silent e e₁) (d : Direction) {s : StreamHandle}
    (hs : e.host.opened < s.id) : Silent e { e₁ with streams := e₁.streams.set d (some s) } := by
  refine ⟨⟨h.host, fun d' s' hs' => ?_⟩, h.observer, h.heard⟩
  by_cases hd : d' = d
  · subst hd
    rw [Duplex.get_set] at hs'
    exact Or.inr (Option.some.inj hs' ▸ hs)
  · rw [Duplex.get_set_ne _ _ hd] at hs'
    exact h.held d' s' hs'

/-- A new stream is checked and kept, or closed, in silence. The only step that is not one of the
host or of the states is `silent_hold`, at the end of the branch that keeps it. -/
theorem acceptStream_silent (d : Direction) (rate : Nat) {s : StreamHandle}
    (hs : e.host.opened < s.id) :
    Lasts (Silent e) (acceptStream d rate s : EngineM (SimulatedHost Handler) Unit) := by
  unfold acceptStream
  refine lasts_get_bind fun e₁ => lasts_get_bind fun e₂ => ?_
  dsimp only
  cases checkFit e₁.config.period rate (StreamHost.infoOf s e₂.host) with
  -- a stream that does not fit is closed and given up
  | error err =>
    refine (askHost_silent (retains_closeStream s)).bind fun r => ?_
    refine (move_silent d .closed).attempt_bind fun _ => ?_
    exact (askHost_silent (retains_discard r.2)).bind fun _ => lasts_fail err
  | ok _ =>
    refine (askHost_silent (retains_setBufferSize s _)).bind fun _ => ?_
    have hwarn : Lasts (Silent e) (warnIfSlow (StreamHost.infoOf s e₂.host) :
        EngineM (SimulatedHost Handler) Unit) := lasts_ite (publish_silent _ _) (lasts_pure ())
    refine hwarn.bind fun _ => (move_silent d .opened).attempt_bind fun r => ?_
    cases r with
    | error err => exact (askHost_silent (retains_discard s)).bind fun _ => lasts_fail err
    | ok _ => exact lasts_modify fun _ h => silent_hold h d hs

/-- **Opening a side.** Its callbacks get the observer that has been chosen, and nobody is given
anything meanwhile. That its callbacks get the chosen observer is the premise `P` of
`retains_openStream`, with what `Silent` says of the engine by then. -/
theorem openSide_silent (d : Direction) (rate : Nat) :
    Lasts (Silent e) (openSide d rate : EngineM (SimulatedHost Handler) Unit) := by
  intro e₁ h
  cases hc : e₁.line.channel with
  | none => exact ends_of_error (openSide_of_no_channel hc rate) h
  | some c =>
    have hsome : e₁.line.channel.isSome = true := by simp [hc]
    by_cases hstate : e₁.state d = .closed
    · have hgiven : (handlerFor d e₁).observer = e.observer := h.observer
      obtain ⟨answer, host, hask, hretains, hanswer, hnumber⟩ :=
        retains_openStream (P := fun callback => callback.observer = e.observer) d
          (e₁.config.spec d rate) hgiven e₁.host
      have hopened : Silent e { e₁ with host, line := e₁.line.setState d .opening } :=
        ⟨⟨h.host.trans hretains, h.held⟩, h.observer, h.heard⟩
      -- what comes of the answer does not tell anybody anything either
      have hanswered : Lasts (Silent e) (openAnswered d rate answer :
          EngineM (SimulatedHost Handler) Unit) := by
        cases answer with
        | crashed message => exact absurd rfl (hanswer message)
        | refused source => exact (move_silent d .closed).attempt_bind fun _ => lasts_fail _
        | opened s =>
          exact acceptStream_silent d rate (Nat.lt_of_le_of_lt h.host.opened (hnumber s rfl))
      exact (hanswered _ hopened).of_eq (openSide_of_closed hsome hstate (quiet_of_eq hask _))
    · exact ends_of_error (openSide_of_not_closed hsome hstate rate) h

/-- **No call** gives anything to an observer, or another one to a stream that has one; it takes no
more than the programs of one side and `silent_mark`. -/
theorem lastingInvariant_silent (e : SimulatedEngine) : LastingInvariant (Silent e) where
  mark := silent_mark
  stopSide := stopSide_silent
  startSide := startSide_silent
  closeSide := closeSide_silent
  openSides := lasts_openSides silent_mark
    (fun _ _ h => silent_of_same h rfl rfl (fun _ _ => id) rfl) openSide_silent closeSide_silent
  replaceOutput := lasts_replaceOutput stopSide_silent closeSide_silent openSide_silent
    startSide_silent
  configured h _ _ := silent_of_same h rfl rfl (fun _ _ => id) rfl
  chosen h _ := silent_of_same h rfl rfl (fun _ _ => id) rfl

end EngineM

/-! ## Every step -/

namespace Engine

variable {id : ObserverId} {heard : List Heard} {e e' : SimulatedEngine}

/-- **Every call** is silent, or chooses an observer and does nothing else. -/
theorem call_silent (e : SimulatedEngine) (c : Call) :
    Silent e (e.call c) ∨ ∃ observer, c = .selectObserver observer := by
  by_cases hc : ∃ observer, c = .selectObserver observer
  · exact Or.inr hc
  · exact Or.inl ((lastingInvariant_silent e).call (silent_refl e) c fun observer heq =>
      absurd ⟨observer, heq⟩ hc)

theorem script_silent (e : SimulatedEngine) (s : Script) :
    Silent e { e with host := e.host.follow s } :=
  ⟨⟨retains_follow e.host s, fun _ _ => Or.inl⟩, rfl, rfl⟩

/-- The loss of a device is silent, for observers hear of periods and not of events. The callbacks
that the loss leads to mark the side and queue an event. -/
theorem unplug_silent (e : SimulatedEngine) (d : Direction) (error : HostError) :
    Silent e (e.unplug d error).2 where
  host := retains_unplug d error e.host e.line
  held _ _ := Or.inl
  observer := rfl
  heard := by
    unfold Engine.unplug SimulatedHost.unplug
    cases (e.host.live d).getLast? <;> rfl

/-- What passes in a step: the period that is captured, or the one that is played. -/
def passages (e : SimulatedEngine) : Action → List Passage
  | .feed frames => passed (e.feed frames).1 (.input, frames)
  | .draw dest => passed (e.draw dest).1 (.output, (e.draw dest).2.1)
  | _ => []

/-- The observer of the stream whose callback is called next. -/
def listener (e : SimulatedEngine) (d : Direction) : Option ObserverId :=
  (e.host.newestRunning? d).bind (·.callback.observer)

/-- **A period that is captured** is given to the observer of the stream, as it was when the stream
was opened. Without a stream that runs nothing passes, and a callback for the other side passes
nothing either. -/
theorem heard_feed (e : SimulatedEngine) (frames : List Int16) :
    (e.feed frames).2.line.heard = e.line.heard
      ++ (e.passages (.feed frames)).flatMap (Passage.toldTo (e.listener .input)) := by
  unfold passages listener Engine.feed SimulatedHost.feed
  cases e.host.newestRunning? .input with
  | none => exact (List.append_nil _).symm
  | some x =>
    cases hside : x.side with
    | input =>
      simp only [hside]
      exact Handler.heard_capture x.callback x.properties frames e.line
    | output =>
      simp only [hside]
      exact (List.append_nil _).symm

/-- **A period that is played** is given to the observer of the stream that plays it. The cases are
those of `heard_feed`, with the frames that come back from the callback. -/
theorem heard_draw (e : SimulatedEngine) (dest : List Int16) :
    (e.draw dest).2.2.line.heard = e.line.heard
      ++ (e.passages (.draw dest)).flatMap (Passage.toldTo (e.listener .output)) := by
  unfold passages listener Engine.draw SimulatedHost.draw
  cases e.host.newestRunning? .output with
  | none => exact (List.append_nil _).symm
  | some x =>
    cases hside : x.side with
    | input =>
      simp only [hside]
      exact (List.append_nil _).symm
    | output =>
      simp only [hside]
      exact Handler.heard_render x.callback x.properties dest.length e.line

/-- **Every step** leaves to the streams what they were opened with, the observer that is chosen now
included. Calls are silent (`call_silent`) but for the one that chooses an observer, and that one
leaves the streams alone. -/
theorem perform_entrusts (e : SimulatedEngine) (a : Action) : Entrusts e (e.perform a) := by
  cases a with
  | call c =>
    rcases call_silent e c with hsilent | ⟨observer, rfl⟩
    · exact hsilent.toEntrusts
    · exact ⟨.refl _, fun _ _ => Or.inl⟩
  | feed frames => exact ⟨retains_feed frames e.host e.line, fun _ _ => Or.inl⟩
  | draw dest => exact ⟨retains_draw dest e.host e.line, fun _ _ => Or.inl⟩
  | unplug d error => exact (unplug_silent e d error).toEntrusts
  | script s => exact (script_silent e s).toEntrusts
  | collect => exact ⟨.refl _, fun _ _ => Or.inl⟩

/-- **A step in which nothing passes** gives nothing to an observer. What has been given is
collected outside of the engine. It is the converse of what `heard_feed` and `heard_draw` say of a
step in which a period does pass. -/
theorem heard_perform (e : SimulatedEngine) {a : Action} (hcollect : a ≠ .collect)
    (hnone : e.passages a = []) : (e.perform a).line.heard = e.line.heard := by
  cases a with
  | call c =>
    rcases call_silent e c with hsilent | ⟨observer, rfl⟩
    · exact hsilent.heard
    · rfl
  | feed frames =>
    have hheard := heard_feed e frames
    rwa [hnone, List.flatMap_nil, List.append_nil] at hheard
  | draw dest =>
    have hheard := heard_draw e dest
    rwa [hnone, List.flatMap_nil, List.append_nil] at hheard
  | unplug d error => exact (unplug_silent e d error).heard
  | script s => rfl
  | collect => exact absurd rfl hcollect

/-! ## One observer -/

/-- **An engine under one observer**: it is the one chosen, and every live stream has it. This is
what it was given and has not collected. -/
structure ObservedBy (id : ObserverId) (heard : List Heard) (e : SimulatedEngine) : Prop where
  chosen : e.observer = some id
  live : e.host.CallbacksAre fun callback => callback.observer = some id
  heard : e.line.heard = heard

/-- Under one observer, whoever listens to a stream that runs is that observer. -/
theorem ObservedBy.listener (h : ObservedBy id heard e) {d : Direction}
    (hrunning : e.host.newestRunning? d ≠ none) : e.listener d = some id := by
  obtain ⟨x, hx⟩ := Option.ne_none_iff_exists'.mp hrunning
  unfold Engine.listener
  rw [hx]
  exact h.live x (mem_live.mp (mem_of_newestRunning? hx)).1

/-- What passes is given to the only observer there is, period by period and in order. The premise
says that nothing passes unless a stream is called back, and that stream has the observer. -/
theorem ObservedBy.told (h : ObservedBy id heard e) {d : Direction} {ps : List Passage}
    (hnone : e.host.newestRunning? d = none → ps = []) :
    ps.flatMap (Passage.toldTo (e.listener d)) = ps.map (Passage.heardBy id) := by
  by_cases hrunning : e.host.newestRunning? d = none
  · rw [hnone hrunning]
    rfl
  · rw [h.listener hrunning]
    exact List.map_eq_flatMap.symm

/-- The observer stays through what leaves the chosen one alone: the streams that stay have it, and
new ones get it. The recording of captured audio carries a tap through any run with it. -/
theorem ObservedBy.of_entrusts (h : ObservedBy id heard e) (hentrusts : Entrusts e e')
    (hobserver : e'.observer = e.observer) {heard' : List Heard} (hheard : e'.line.heard = heard') :
    ObservedBy id heard' e' where
  chosen := hobserver.trans h.chosen
  live := by
    have hretains := hentrusts.host
    rw [h.chosen] at hretains
    exact hretains.callbacksAre h.live
  heard := hheard

/-- **Every step** but the choice of another observer gives to this one what passes in it. What has
been given is collected outside of the engine. -/
theorem perform_observedBy (h : ObservedBy id heard e) {a : Action} (hcollect : a ≠ .collect)
    (hobserver : ∀ observer, a ≠ .call (.selectObserver observer)) :
    ObservedBy id (heard ++ (e.passages a).map (Passage.heardBy id)) (e.perform a) := by
  -- nothing passes in most steps, and then nothing is told
  have hsilent : e.passages a = [] → (e.perform a).observer = e.observer →
      ObservedBy id (heard ++ (e.passages a).map (Passage.heardBy id)) (e.perform a) := by
    intro hnone hsame
    refine h.of_entrusts (perform_entrusts e a) hsame ?_
    rw [heard_perform e hcollect hnone, h.heard, hnone, List.map_nil, List.append_nil]
  cases a with
  | feed frames =>
    refine h.of_entrusts (perform_entrusts e _) rfl ((heard_feed e frames).trans ?_)
    rw [h.heard, h.told fun hnone => ?_]
    show passed (e.feed frames).1 _ = []
    rw [feed_of_idle hnone]
    rfl
  | draw dest =>
    refine h.of_entrusts (perform_entrusts e _) rfl ((heard_draw e dest).trans ?_)
    rw [h.heard, h.told fun hnone => ?_]
    show passed (e.draw dest).1 _ = []
    rw [draw_of_idle hnone]
    rfl
  | collect => exact absurd rfl hcollect
  | call c =>
    rcases call_silent e c with hcall | ⟨observer, rfl⟩
    · exact hsilent rfl hcall.observer
    · exact absurd rfl (hobserver observer)
  | unplug d error => exact hsilent rfl rfl
  | script s => exact hsilent rfl rfl

end Engine

end Passthrough
