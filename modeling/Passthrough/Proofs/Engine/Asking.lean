import Passthrough.Proofs.Engine.Issued
import Passthrough.Proofs.Engine.Publishing
/-!
# The most that programs ask for

A program asks its host for different things, depending on what it finds and on what the host
answers. The most that it can ask for is still a short list: `Asks most x` says so of `x`. From any
engine whose handles are those of their directions, the calls that it makes are some of `most`, in
this order.

Such programs compose like those that publish (`Publishes`), so that there is one lemma for each
program, up to the repair of a pair (`asks_repair`). It stops, closes, opens and starts both sides
at most once, but for closing once more what was opened in vain.
-/

namespace Passthrough

open EngineM SimulatedHost

namespace Engine

/-- The handle held for a direction is that of a stream of this direction. -/
def OwnHandles (e : SimulatedEngine) : Prop :=
  ∀ d s, e.streams.get d = some s → s.properties.direction = d

variable {e e' : SimulatedEngine} {d : Direction}

theorem Closed.ownHandles (h : Closed e) : OwnHandles e := by
  intro d s hs
  rw [(h.vacant d).handle] at hs
  cases hs

/-- The handles of an open engine are those of their sides, by `Occupied.direction`. -/
theorem Open.ownHandles (h : Open e) : OwnHandles e := by
  intro d s hs
  obtain ⟨s', ho⟩ := h.occupied d
  rw [ho.handle] at hs
  rw [← Option.some.inj hs]
  exact ho.direction

/-- Only the handles count, so that any change of the rest keeps them right. -/
theorem OwnHandles.of_streams (h : OwnHandles e) (hstreams : e'.streams = e.streams) :
    OwnHandles e' := by
  intro d s hs
  rw [hstreams] at hs
  exact h d s hs

/-- A side takes hold of a stream of its own direction, or lets go of the one that it has; the other
side keeps its own. The programs that hand a stream out or take it back keep `OwnHandles` by this
lemma alone. -/
theorem OwnHandles.set (h : OwnHandles e) {o : Option StreamHandle}
    (ho : ∀ s, o = some s → s.properties.direction = d) :
    OwnHandles { e with streams := e.streams.set d o } := by
  intro d' s hs
  have hget : (e.streams.set d o).get d' = some s := hs
  by_cases hd : d' = d
  · subst hd
    rw [Duplex.get_set] at hget
    exact ho s hget
  · rw [Duplex.get_set_ne _ _ hd] at hget
    exact h d' s hget

end Engine

namespace EngineM

open Engine

variable {α β : Type} {most most' calls : List CallRecord} {e : SimulatedEngine}

/-- **The most that a program asks for** when it is run on this engine. -/
structure AsksOn (most : List CallRecord) (x : EngineM (SimulatedHost Handler) α)
    (e : SimulatedEngine) : Prop where
  own : OwnHandles (final x e)
  calls : ∃ calls, Issues calls e (final x e) ∧ calls.Sublist most

/-- **The most that a program asks for**, wherever it is run. -/
def Asks (most : List CallRecord) (x : EngineM (SimulatedHost Handler) α) : Prop :=
  ∀ e, OwnHandles e → AsksOn most x e

/-! ## How programs go on

What may be asked for is added up along a program. Steps that ask for nothing are taken with `then`
in front and with `lastly` behind, so that they leave the list as it is. -/

/-- A program during which the host records nothing asks for nothing, which is within any list. -/
theorem asksOn_nothing {x : EngineM (SimulatedHost Handler) α} (h : OwnHandles e)
    (hcalls : (final x e).host.calls = e.host.calls) (hstreams : (final x e).streams = e.streams) :
    AsksOn most x e :=
  ⟨h.of_streams hstreams, [], issues_nothing hcalls, List.nil_sublist most⟩

/-- A program that only replies asks for nothing. The lemmas up to `asks_move` say the same of the
other programs that do not ask the host. -/
theorem asks_pure (a : α) : Asks most (pure a) := fun _ h => asksOn_nothing h rfl rfl

theorem asks_throw (failure : Failure) : Asks most (throw failure : EngineM _ α) :=
  fun _ h => asksOn_nothing h rfl rfl

theorem asks_fail (err : AudioError) : Asks most (fail err : EngineM _ α) := asks_throw _

theorem asks_ofExcept (r : Except AudioError α) : Asks most (ofExcept r) := by
  cases r with
  | ok a => exact asks_pure a
  | error err => exact asks_fail err

theorem asks_modify {g : SimulatedEngine → SimulatedEngine}
    (hhost : ∀ e, (g e).host = e.host) (hstreams : ∀ e, (g e).streams = e.streams) :
    Asks most (modify g) :=
  fun e h => asksOn_nothing h (congrArg SimulatedHost.calls (hhost e)) (hstreams e)

theorem asks_modifyLine (f : Line → Line) : Asks most (modifyLine f : EngineM _ Unit) :=
  asks_modify (fun _ => rfl) fun _ => rfl

theorem asks_publish (kind : Occurrence) (detail : Option String) :
    Asks most (publish kind detail : EngineM _ Unit) :=
  asks_modify (fun _ => rfl) fun _ => rfl

/-- A warning is a notice or nothing, and the host does not hear of it. -/
theorem asks_warnIfSlow (p : StreamInfo) : Asks most (warnIfSlow p : EngineM _ Unit) := by
  unfold warnIfSlow
  split
  · exact asks_publish _ _
  · exact asks_pure ()

/-- A move of the state does not reach the host, allowed or not. Both outcomes leave the host and
the handles as they are (`asksOn_nothing`), so the list of calls is empty. -/
theorem asks_move (d : Direction) (t : StreamState) : Asks most (move d t : EngineM _ Unit) := by
  intro e h
  cases hmove : (e.state d).canMoveTo t with
  | true =>
    have hfinal := final_of_ok (move_of_canMoveTo hmove)
    exact asksOn_nothing h (by rw [hfinal]) (by rw [hfinal])
  | false =>
    have hfinal := final_of_error (move_of_not_canMoveTo hmove)
    exact asksOn_nothing h (by rw [hfinal]) (by rw [hfinal])

/-- What counts is the engine that a program leaves, and not what it answers, so that an attempt
asks for what the program does. -/
theorem AsksOn.of_final {x : EngineM (SimulatedHost Handler) α}
    {y : EngineM (SimulatedHost Handler) β} (h : AsksOn most y e) (hsame : final x e = final y e) :
    AsksOn most x e :=
  ⟨hsame ▸ h.own, hsame ▸ h.calls⟩

theorem AsksOn.mono {x : EngineM (SimulatedHost Handler) α} (h : AsksOn most x e)
    (hsub : most.Sublist most') : AsksOn most' x e := by
  obtain ⟨calls, hissues, hcalls⟩ := h.calls
  exact ⟨h.own, calls, hissues, hcalls.trans hsub⟩

/-- The same wherever the program is run; it brings the two arms of a branch to one list. -/
theorem Asks.mono {x : EngineM (SimulatedHost Handler) α} (h : Asks most x)
    (hsub : most.Sublist most') : Asks most' x :=
  fun e ho => (h e ho).mono hsub

/-- One program after another asks for what they both ask for. Where the first fails, the second
asks for nothing, which is within its list as well. -/
theorem AsksOn.bind {x : EngineM (SimulatedHost Handler) α}
    {f : α → EngineM (SimulatedHost Handler) β} (h : AsksOn most x e)
    (hf : ∀ a, Asks most' (f a)) : AsksOn (most ++ most') (x >>= f) e := by
  obtain ⟨calls, hissues, hcalls⟩ := h.calls
  cases hx : x e with
  | error failure e' =>
    -- the second program is not run, and the first has asked for enough
    have hown := h.own
    rw [final_of_error hx] at hissues hown
    have hbind : final (x >>= f) e = e' := final_of_error (by rw [bind_apply, hx])
    refine ⟨hbind ▸ hown, calls, hbind ▸ hissues, ?_⟩
    exact hcalls.trans (List.sublist_append_left most most')
  | ok a e' =>
    have hown := h.own
    rw [final_of_ok hx] at hissues hown
    have hbind : final (x >>= f) e = final (f a) e' := by
      unfold final
      rw [bind_apply, hx]
    obtain ⟨hown', more, hissues', hmore⟩ := hf a e' hown
    exact ⟨hbind ▸ hown', calls ++ more, hbind ▸ hissues.trans hissues', hcalls.append hmore⟩

/-- The same wherever the programs are run, which is the form that the programs of the model use. -/
theorem Asks.bind {x : EngineM (SimulatedHost Handler) α}
    {f : α → EngineM (SimulatedHost Handler) β} (h : Asks most x) (hf : ∀ a, Asks most' (f a)) :
    Asks (most ++ most') (x >>= f) :=
  fun e ho => (h e ho).bind hf

/-- A program that asks for nothing may stand before any other without adding to the list. -/
theorem Asks.then {x : EngineM (SimulatedHost Handler) α}
    {f : α → EngineM (SimulatedHost Handler) β} (h : Asks [] x) (hf : ∀ a, Asks most (f a)) :
    Asks most (x >>= f) :=
  h.bind hf

theorem Asks.lastly {x : EngineM (SimulatedHost Handler) α}
    {f : α → EngineM (SimulatedHost Handler) β} (h : Asks most x) (hf : ∀ a, Asks [] (f a)) :
    Asks most (x >>= f) := by
  have hboth := h.bind hf
  rwa [List.append_nil] at hboth

/-- A program that looks at the engine knows what it finds there, so the rest has to be bounded on
that engine only. -/
theorem asks_get_bind {f : SimulatedEngine → EngineM (SimulatedHost Handler) β}
    (h : ∀ e, OwnHandles e → AsksOn most (f e) e) : Asks most (get >>= f) := by
  intro e ho
  refine (h e ho).of_final ?_
  unfold final
  rw [bind_apply, get_apply]

/-- An attempt asks for what the attempted program asks for. -/
theorem Asks.attempt {x : EngineM (SimulatedHost Handler) α} (h : Asks most x) :
    Asks most (EngineM.attempt x) := by
  intro e ho
  refine (h e ho).of_final ?_
  unfold final
  rw [attempt_apply]
  rcases x e with ⟨_, _⟩ | ⟨_ | _, _⟩ <;> rfl

/-- Both arms of a branch have to be within the list; `Asks.mono` brings them there. -/
theorem asks_ite {c : Prop} [Decidable c] {x y : EngineM (SimulatedHost Handler) α}
    (hx : Asks most x) (hy : Asks most y) : Asks most (if c then x else y) := by
  split
  · exact hx
  · exact hy

/-- A call of the host asks for what the host puts on record for it, whatever it answers. -/
theorem asks_askHost {call : SimulatedHost Handler → α × SimulatedHost Handler}
    (hcalls : ∀ host, (call host).2.calls = host.calls ++ calls) :
    Asks calls (askHost (HostAction.quiet call)) :=
  fun e h => ⟨h, calls, hcalls e.host, List.Sublist.refl calls⟩

theorem asks_fail_bind (err : AudioError) (f : α → EngineM (SimulatedHost Handler) β) :
    Asks most (fail err >>= f) := by
  intro e h
  have hfinal : final (fail err >>= f) e = e := final_of_error (by rw [bind_apply, fail_apply])
  exact asksOn_nothing h (by rw [hfinal]) (by rw [hfinal])

/-! ## The programs of one side

A call is recorded under the direction of the stream that it is made for, which is why handles have
to be those of their sides. -/

/-- Stopping a side asks for one stop at most, none where the side does not run. The direction of
the call is that of the handle, and by `OwnHandles` it is the one of the side. -/
theorem asks_stopSide (d : Direction) : Asks [⟨d, .stop⟩] (stopSide d) := by
  unfold stopSide
  -- the handle is looked up again after the state has been checked
  refine asks_get_bind fun e ho => asks_ite (asks_get_bind fun e' ho' => ?_) (asks_pure ()) e ho
  rcases hs : e'.streams.get d with _ | s
  · exact asks_pure () e' ho'
  · have hcalls := calls_stopStream (κ := Handler) s
    rw [ho' d s hs] at hcalls
    refine (asks_move d .stopping).then (fun _ => (asks_askHost hcalls).lastly fun r => ?_) e' ho'
    cases r with
    | ok _ => exact asks_move d .opened
    | error source => exact (asks_modifyLine _).then fun _ => asks_fail _

/-- Starting a side asks for one start at most, none where the side may not be started. A side
without a stream, and one that may not go over to `running`, fail before the host is asked. -/
theorem asks_startSide (d : Direction) : Asks [⟨d, .start⟩] (startSide d) := by
  unfold startSide
  refine asks_get_bind fun e ho => ?_
  rcases hs : e.streams.get d with _ | s
  · exact asks_fail _ e ho
  · have hcalls := calls_startStream (κ := Handler) s
    rw [ho d s hs] at hcalls
    refine asks_get_bind (fun e' ho' => asks_ite (asks_fail_bind _ _) ?_ e' ho') e ho
    refine (asks_askHost hcalls).lastly fun r => ?_
    cases r with
    | ok _ => exact asks_move d .running
    | error source => exact asks_fail _

/-- A stream that its owner has closed before is not asked to close again, so one close is the most.
The host records a closing just if the handle is not marked as closed (`calls_closeStream`). -/
theorem asks_closeStream {s : StreamHandle} {d : Direction} (hs : s.properties.direction = d) :
    Asks [⟨d, .close⟩] (askHost (StreamHost.closeStream s) :
      EngineM (SimulatedHost Handler) (Except HostError Unit × StreamHandle)) := by
  intro e ho
  cases hclosed : s.closed with
  | true =>
    have hcalls : (SimulatedHost.closeStream s e.host).2.calls = e.host.calls := by
      unfold SimulatedHost.closeStream
      rw [hclosed]
      rfl
    exact asksOn_nothing ho hcalls rfl
  | false =>
    have hcalls := calls_closeStream hclosed e.host
    rw [hs] at hcalls
    exact ⟨ho, _, hcalls, .refl _⟩

theorem asks_discard (s : StreamHandle) :
    Asks most (askHost (StreamHost.discard s) : EngineM (SimulatedHost Handler) Unit) :=
  fun e ho => asksOn_nothing ho (calls_discard s e.host) rfl

/-- Closing a side asks for one close at most, none where the side holds nothing. The handle is
taken from the side first, so that the closing is not asked for a second time by a later program. -/
theorem asks_closeSide (d : Direction) : Asks [⟨d, .close⟩] (closeSide d) := by
  unfold closeSide
  refine asks_get_bind fun e ho => ?_
  rcases hs : e.streams.get d with _ | s
  · exact asks_modifyLine _ e ho
  · have hgo : Asks [] (modify fun e : SimulatedEngine =>
        { e with streams := e.streams.set d none }) :=
      fun e ho => ⟨ho.set nofun, [], issues_nothing rfl, .slnil⟩
    refine hgo.then (fun _ => (asks_closeStream (ho d s hs)).lastly fun r => ?_) e ho
    refine (asks_discard r.2).then fun _ => (asks_modifyLine _).then fun _ => ?_
    cases r.1 with
    | ok _ => exact asks_pure ()
    | error source => exact asks_fail _

/-- A stream that has been opened for a side is held, or closed again: one close at most. Sizing the
buffer is no call of the record, and the two branches close at most one stream between them. -/
theorem asks_acceptStream {s : StreamHandle} {d : Direction} (hs : s.properties.direction = d)
    (rate : Nat) : Asks [⟨d, .close⟩] (acceptStream d rate s) := by
  unfold acceptStream
  refine asks_get_bind fun e ho => asks_get_bind (fun e' ho' => ?_) e ho
  dsimp only
  cases checkFit e.config.period rate (StreamHost.infoOf s e'.host) with
  | error err =>
    -- only a stream that does not fit is closed here
    refine Asks.lastly (asks_closeStream hs) (fun r => ?_) e' ho'
    exact (asks_move d .closed).attempt.then fun _ => (asks_discard _).then fun _ => asks_fail err
  | ok _ =>
    have hsize : Asks [] (askHost (StreamHost.setBufferSize s e.config.period.doubleFrames) :
        EngineM (SimulatedHost Handler) _) :=
      fun e ho => asksOn_nothing ho (calls_setBufferSize s _ e.host) rfl
    refine hsize.then (fun _ => (asks_warnIfSlow _).then fun _ => ?_) e' ho'
    refine (asks_move d .opened).attempt.then fun r => ?_
    cases r with
    | error err => exact (asks_discard s).then fun _ => asks_fail err
    | ok _ =>
      intro e ho
      refine ⟨ho.set fun s' hs' => ?_, [], issues_nothing rfl, List.nil_sublist _⟩
      rw [← Option.some.inj hs']
      exact hs

/-- After an answer that is known, only what follows that answer has to be bounded. It spares the
cases in which the simulated host does not answer at all. -/
theorem asksOn_answered {call : SimulatedHost Handler → α × SimulatedHost Handler}
    {f : α → EngineM (SimulatedHost Handler) β} {a : α} {host : SimulatedHost Handler}
    (ho : OwnHandles e) (hcall : call e.host = (a, host))
    (hcalls : host.calls = e.host.calls ++ calls) (hf : Asks most (f a)) :
    AsksOn (calls ++ most) (askHost (HostAction.quiet call) >>= f) e := by
  obtain ⟨hown, more, hissues, hmore⟩ := hf { e with host } ho
  have hfinal : final (askHost (HostAction.quiet call) >>= f) e = final (f a) { e with host } := by
    unfold final
    rw [bind_apply, askHost_apply, quiet_of_eq hcall]
  have hasked : Issues calls e { e with host } := hcalls
  exact ⟨hfinal ▸ hown, calls ++ more, hfinal ▸ hasked.trans hissues, hmore.append_left calls⟩

/-- Opening a side asks for one opening and, if what comes of it does not fit, for one close; never
for a second opening. The stream that comes of it has the direction that was asked for, so that
`asks_acceptStream` applies to it. -/
theorem asks_openSide (d : Direction) (rate : Nat) :
    Asks [⟨d, .openStream⟩, ⟨d, .close⟩] (openSide d rate) := by
  unfold openSide
  refine asks_get_bind fun e ho => asks_ite (asks_fail_bind _ _) ?_ e ho
  refine (asks_move d .opening).then fun _ e' ho' => ?_
  let spec := e.config.spec d rate
  let handler : Handler := ⟨d, e.config.period, e.observer, e.line.channelId⟩
  have hcalls := calls_openStream d spec handler e'.host
  -- the stream that is opened is one of the direction that was asked for
  rcases openStream_cases d spec handler e'.host with ⟨source, host, hask, _⟩ | ⟨host, hask, _⟩
  · rw [hask] at hcalls
    refine asksOn_answered ho' hask hcalls ?_
    exact (asks_move d .closed).attempt.then fun _ => asks_fail _
  · rw [hask] at hcalls
    let handle : StreamHandle := { id := e'.host.opened + 1, properties := e'.host.granted spec }
    have hown : handle.properties.direction = d := rfl
    exact asksOn_answered ho' hask hcalls (asks_acceptStream hown rate)

/-! ## The programs of the pair -/

/-- The most that closing a pair takes. -/
def shutDownCalls : List CallRecord :=
  [⟨.output, .stop⟩, ⟨.input, .stop⟩, ⟨.output, .close⟩, ⟨.input, .close⟩]

/-- The most that opening a pair takes: each side may have to be closed again. -/
def openSidesCalls : List CallRecord :=
  [⟨.input, .openStream⟩, ⟨.input, .close⟩, ⟨.output, .openStream⟩, ⟨.output, .close⟩,
    ⟨.input, .close⟩]

def startSidesCalls : List CallRecord := [⟨.input, .start⟩, ⟨.output, .start⟩]

theorem asks_stopSides : Asks [⟨.output, .stop⟩, ⟨.input, .stop⟩] stopSides := by
  unfold stopSides
  refine (asks_stopSide .output).attempt.bind fun _ => ?_
  refine (asks_stopSide .input).attempt.lastly fun _ => ?_
  refine Asks.then ?_ fun _ => asks_ofExcept _
  exact asks_modify (fun _ => rfl) fun _ => rfl

/-- Shutting down asks for one stop and one close each, all stops before all closings. -/
theorem asks_shutDown : Asks shutDownCalls shutDown := by
  unfold shutDown
  refine asks_stopSides.attempt.bind fun _ => (asks_modifyLine _).then fun _ => ?_
  refine (asks_closeSide .output).attempt.bind fun _ => ?_
  refine (asks_closeSide .input).attempt.lastly fun _ => ?_
  refine Asks.then ?_ fun _ => asks_ofExcept _
  exact asks_modify (fun _ => rfl) fun _ => rfl

theorem asks_startSides : Asks startSidesCalls startSides := by
  unfold startSides
  refine asks_get_bind fun e ho => asks_ite (asks_fail_bind _ _) ?_ e ho
  refine (asks_startSide .input).bind fun _ => (asks_startSide .output).lastly fun _ => ?_
  exact asks_modify (fun _ => rfl) fun _ => rfl

theorem asks_abandonPair : Asks most (abandonPair : EngineM (SimulatedHost Handler) Unit) :=
  asks_modify (fun _ => rfl) fun _ => rfl

/-- Reading the rate of the input asks for nothing, for it is read off the handle. -/
theorem asks_inputRate : Asks most (inputRate : EngineM (SimulatedHost Handler) Nat) :=
  asks_get_bind fun _ ho => asks_pure _ _ ho

/-- Opening the pair asks for one opening each. A side that has been opened in vain is closed, so
there may be as many closings. The list `openSidesCalls` has both closings, although no run makes
both: a closing of the input means that the output has none left to make. -/
theorem asks_openSides : Asks openSidesCalls openSides := by
  unfold openSides
  refine asks_get_bind fun e ho => asks_ite (asks_fail_bind _ _) ?_ e ho
  refine Asks.then ?_ fun _ => (asks_openSide .input _).attempt.bind fun r => ?_
  · exact asks_modify (fun _ => rfl) fun _ => rfl
  · cases r with
    | error err =>
      exact (asks_modifyLine _).then fun _ => asks_abandonPair.then fun _ => asks_fail err
    | ok _ =>
      refine asks_inputRate.then fun rate => (asks_openSide .output rate).attempt.bind fun r => ?_
      cases r with
      | ok _ => exact asks_pure ()
      | error err =>
        refine (asks_modifyLine _).then fun _ => (asks_closeSide .input).attempt.lastly fun _ => ?_
        exact asks_abandonPair.then fun _ => asks_fail err

/-! ## Repairing -/

/-- Replacing both streams asks for a shutdown, an opening and a start of the pair at most. -/
theorem asks_replaceBoth (restart : Bool) :
    Asks (shutDownCalls ++ openSidesCalls ++ startSidesCalls) (replaceBoth restart) := by
  unfold replaceBoth
  rw [List.append_assoc]
  refine asks_shutDown.attempt.bind fun _ => asks_openSides.bind fun _ => ?_
  exact asks_ite asks_startSides (asks_pure ())

/-- The output alone takes no more than both sides do, in the same order; this is what lets one list
bound a repair. The programs of the output are put together to a list of five calls, and that this
is a part of the longer list is decided. -/
theorem asks_replaceOutput (restart : Bool) :
    Asks (shutDownCalls ++ openSidesCalls ++ startSidesCalls) (replaceOutput restart) := by
  have hmost : Asks [⟨.output, .stop⟩, ⟨.output, .close⟩, ⟨.output, .openStream⟩,
      ⟨.output, .close⟩, ⟨.output, .start⟩] (replaceOutput restart) := by
    unfold replaceOutput
    refine asks_get_bind fun e ho => ?_
    cases e.infoOf .input with
    | none => exact asks_fail _ e ho
    | some p =>
      refine Asks.bind (asks_stopSide .output).attempt (fun _ => ?_) e ho
      refine (asks_closeSide .output).attempt.bind fun _ => ?_
      refine (asks_openSide .output p.sampleRate).bind fun _ => ?_
      exact asks_ite (asks_startSide .output) (asks_pure ())
  exact hmost.mono (by decide)

/-- **The most that a repair asks for**: to shut down, to open and to start both sides, and to shut
down what a failure has left open. -/
def repairCalls : List CallRecord :=
  shutDownCalls ++ openSidesCalls ++ startSidesCalls ++ shutDownCalls

/-- A repair asks for a replacement of either kind and for a shutdown after it, at most. In this
list each side is opened once. The three parts are `asks_replaceBoth`, `asks_replaceOutput` and
`asks_shutDown`; notices ask the host for nothing. -/
theorem asks_repair : Asks repairCalls EngineM.repair := by
  unfold EngineM.repair
  refine asks_get_bind fun e ho => asks_ite ?_ (asks_pure ()) e ho
  refine (asks_ite (asks_replaceBoth _) (asks_replaceOutput _)).attempt.bind fun r => ?_
  cases r with
  | ok _ => exact asks_publish _ _
  | error err =>
    refine asks_shutDown.attempt.lastly fun _ => ?_
    refine Asks.then ?_ fun _ => (asks_publish _ _).then fun _ => asks_fail err
    exact asks_modify (fun _ => rfl) fun _ => rfl

end EngineM

end Passthrough
