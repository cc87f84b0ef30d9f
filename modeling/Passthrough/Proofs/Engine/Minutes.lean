import Passthrough.Proofs.Engine.Answers
import Passthrough.Proofs.Host.Minuted
/-!
# What one side asks for

The programs of one direction on any host that answers, with minutes taken. Whatever the answer is,
each of them leaves the other direction and everything that both share alone (`Amid`), and comes to
what its minutes say.

* **`stopSide_minutes`**, **`closeSide_minutes`** — a side that gives up asks for nothing but to be
  stopped, if it runs, and to be closed, if it holds a stream (`Parting`).
* **`openSide_minutes`** — a side that opens holds a stream that fits, or none.
-/

namespace Passthrough

/-! ## Partings -/

/-- What a side that gives up asks of the host. -/
inductive Parting
  | stop (d : Direction) (stream : StreamHandle)
  | close (d : Direction) (stream : StreamHandle)

namespace Parting

def minute : Parting → Except HostError Unit → Minute
  | stop _ stream, answer => .stopped stream answer
  | close _ stream, answer => .closed stream answer

/-- What is made of an answer that is a failure. -/
def failure : Parting → HostError → AudioError
  | stop d _, source => .streamStopFailed d source
  | close d _, source => .streamCloseFailed d source

/-- **What calls come to that are all made**: the first failure among their answers. -/
def outcome : List (Parting × Except HostError Unit) → Except AudioError Unit
  | [] => .ok ()
  | (_, .ok ()) :: rest => outcome rest
  | (parting, .error source) :: _ => .error (parting.failure source)

def minutes (calls : List (Parting × Except HostError Unit)) : List Minute :=
  calls.map fun (parting, answer) => parting.minute answer

variable {calls calls' : List (Parting × Except HostError Unit)}

/-- What calls come to is the first error of two parts, the earlier part before the later one. The
induction is on the calls of the earlier part, up to the first failure among them. -/
theorem outcome_append :
    outcome (calls ++ calls') = firstError (outcome calls) (outcome calls') := by
  induction calls with
  | nil => rfl
  | cons call rest ih =>
    obtain ⟨parting, answer⟩ := call
    cases answer with
    | ok _ => exact ih
    | error source => rfl

/-- They come to nothing bad just if no answer is a failure. This is the criterion that
`bringDown_completes` is read with: closing succeeds just if every call does. -/
theorem outcome_eq_ok_iff : outcome calls = .ok () ↔ ∀ call ∈ calls, call.2 = .ok () := by
  induction calls with
  | nil => simp [outcome]
  | cons call rest ih =>
    obtain ⟨parting, answer⟩ := call
    cases answer with
    | ok _ => simpa [outcome] using ih
    | error source => simp [outcome]

theorem minutes_append : minutes (calls ++ calls') = minutes calls ++ minutes calls' :=
  List.map_append

end Parting

open Parting

namespace Engine

variable {H : Type} (e : Engine H) (d : Direction)

/-- What stopping a side takes. -/
def stopping : List Parting :=
  if e.state d = .running then (e.streams.get d).toList.map (.stop d) else []

/-- What closing a side takes. -/
def closing : List Parting := (e.streams.get d).toList.map (.close d)

end Engine

namespace EngineM

variable {H : Type}

/-! ## Around a side -/

/-- **Amid the rest of the engine**: a side has made these calls, and nothing has changed but
itself. -/
structure Amid (d : Direction) (ms : List Minute) (e e' : Engine (MinutedHost H)) : Prop where
  minutes : e'.host.minutes = e.host.minutes ++ ms
  state : ∀ d', d' ≠ d → e'.state d' = e.state d'
  held : ∀ d', d' ≠ d → e'.streams.get d' = e.streams.get d'
  channel : e'.line.channel.map Channel.length = e.line.channel.map Channel.length
  attached : e'.line.link.attached = e.line.link.attached
  config : e'.config = e.config
  effectOn : e'.effectOn = e.effectOn
  started : e'.started = e.started
  poisoned : e'.poisoned = e.poisoned

variable {d : Direction} {ms ms' : List Minute} {e e' e'' : Engine (MinutedHost H)}

theorem Amid.refl (d : Direction) (e : Engine (MinutedHost H)) : Amid d [] e e :=
  ⟨(List.append_nil _).symm, fun _ _ => rfl, fun _ _ => rfl, rfl, rfl, rfl, rfl, rfl, rfl⟩

/-- A side that does one thing and then another leaves the rest alone in both. The minutes of the
second come behind those of the first. Every program of one side is put together from single steps
by it, each of which is an `Amid`. -/
theorem Amid.trans (h : Amid d ms e e') (h' : Amid d ms' e' e'') : Amid d (ms ++ ms') e e'' where
  minutes := by rw [h'.minutes, h.minutes, List.append_assoc]
  state d' hd := (h'.state d' hd).trans (h.state d' hd)
  held d' hd := (h'.held d' hd).trans (h.held d' hd)
  channel := h'.channel.trans h.channel
  attached := h'.attached.trans h.attached
  config := h'.config.trans h.config
  effectOn := h'.effectOn.trans h.effectOn
  started := h'.started.trans h.started
  poisoned := h'.poisoned.trans h.poisoned

theorem amid_setState (d : Direction) (t : StreamState) (e : Engine (MinutedHost H)) :
    Amid d [] e { e with line := e.line.setState d t } :=
  { Amid.refl d e with state := fun _ hd => Line.state_setState_ne _ _ hd }

/-- A side takes hold of a stream, or lets go of it; the other side holds what it held. -/
theorem amid_hold (d : Direction) (stream : Option StreamHandle) (e : Engine (MinutedHost H)) :
    Amid d [] e { e with streams := e.streams.set d stream } :=
  { Amid.refl d e with held := fun _ hd => Duplex.get_set_ne _ _ hd }

theorem amid_board (d : Direction) (board : NoticeBoard) (e : Engine (MinutedHost H)) :
    Amid d [] e { e with board } :=
  { Amid.refl d e with }

/-- A call of the host moves nothing on the line, by what `Answering` asks of hosts, and it is
entered in the minutes. All programs of a side are chains of such calls and of moves of its own. -/
theorem amid_ask (d : Direction) {host : MinutedHost H} {line : Line}
    (hline : e.line.Unmoved line) (hminutes : host.minutes = e.host.minutes ++ ms) :
    Amid d ms e { e with host, line } where
  minutes := hminutes
  state d' _ := hline.state d'
  held _ _ := rfl
  channel := hline.channel
  attached := hline.attached
  config := rfl
  effectOn := rfl
  started := rfl
  poisoned := rfl

/-- A call of the host is answered as the host answers it, with the host and the line that it
leaves. -/
theorem askHost_of_eq {α : Type} {call : HostAction (MinutedHost H) Line α} {a : α}
    {host : MinutedHost H} {line : Line} (hcall : call e.host e.line = (a, host, line)) :
    askHost call e = .ok a { e with host, line } := by
  rw [askHost_apply, hcall]

/-! ## Stopping and closing -/

variable [StreamHost Handler Line H] [Answering H]

/-- **A side that stops** is asked to just if it runs and holds a stream. It is open afterwards, or
it has failed. Which call it makes, if any, is `stopping`, and what it comes to is the outcome of
that call. -/
theorem stopSide_minutes (d : Direction) (e : Engine (MinutedHost H)) :
    Ends (stopSide d) e fun r e' => ∃ calls, calls.map Prod.fst = e.stopping d ∧ r = outcome calls
      ∧ Amid d (minutes calls) e e' ∧ e'.streams = e.streams
      ∧ (e'.state d = e.state d ∨ e.state d = .running ∧ (e'.streams.get d).isSome = true
          ∧ (e'.state d = .opened ∨ e'.state d = .error)) := by
  by_cases hr : e.state d = .running
  · cases hs : e.streams.get d with
    | none =>
      refine ends_of_ok (stopSide_of_none hs) ⟨[], ?_, rfl, .refl d e, rfl, .inl rfl⟩
      simp [Engine.stopping, hs]
    | some s =>
      -- the host is asked while the side is on its way to stop
      obtain ⟨answer, inner, line, hask, hline⟩ :=
        MinutedHost.stopStream_minuted s e.host (e.line.setState d .stopping)
      have hstate : line.state d = .stopping := (hline.state d).trans (Line.state_setState _ _ _)
      have hcalls : [(Parting.stop d s, answer)].map Prod.fst = e.stopping d := by
        simp [Engine.stopping, hr, hs]
      have hasked : Amid d [.stopped s answer] e
          { e with host := ⟨inner, e.host.minutes ++ [.stopped s answer]⟩, line } :=
        (amid_setState d .stopping e).trans (amid_ask d hline rfl)
      have hheld : (e.streams.get d).isSome = true := by simp [hs]
      refine Ends.of_eq ?_ (stopSide_of_running hs hr hask)
      cases answer with
      | ok _ =>
        refine ends_of_ok (move_of_canMoveTo (by simp [Engine.state, hstate]; rfl)) ?_
        refine ⟨[(.stop d s, .ok ())], hcalls, rfl, hasked.trans (amid_setState d _ _), rfl,
          .inr ⟨hr, hheld, .inl (Line.state_setState _ _ _)⟩⟩
      | error source =>
        -- a refusal strikes the side itself, which is failed from then on
        have hfault : line.markFaulted d = line.setState d .error := by
          unfold Line.markFaulted
          rw [hstate]
          rfl
        refine ends_modifyLine_bind (ends_fail ?_)
        rw [hfault]
        exact ⟨[(.stop d s, .error source)], hcalls, rfl, hasked.trans (amid_setState d _ _), rfl,
          .inr ⟨hr, hheld, .inr (Line.state_setState _ _ _)⟩⟩
  · refine ends_of_ok (stopSide_of_not_running hr) ⟨[], ?_, rfl, .refl d e, rfl, .inl rfl⟩
    simp [Engine.stopping, hr]

/-- **A side that closes** asks just for its stream to be closed, if it holds one. It is closed
afterwards, whatever the answer is. Which call it makes is `closing`; the discarding of the handle
that follows it is not entered. -/
theorem closeSide_minutes (d : Direction) (e : Engine (MinutedHost H)) :
    Ends (closeSide d) e fun r e' => ∃ calls, calls.map Prod.fst = e.closing d ∧ r = outcome calls
      ∧ Amid d (minutes calls) e e' ∧ e'.streams.get d = none ∧ e'.state d = .closed := by
  cases hs : e.streams.get d with
  | none =>
    refine ends_of_ok (closeSide_of_none hs) ⟨[], ?_, rfl, ?_, hs, ?_⟩
    · simp [Engine.closing, hs]
    · exact amid_setState d _ e
    · show (e.line.setState d (e.line.state d).settled).state d = .closed
      rw [Line.state_setState, StreamState.settled_eq_closed]
  | some s =>
    obtain ⟨answer, s', inner, line, hclose, hline⟩ :=
      MinutedHost.closeStream_minuted s e.host e.line
    obtain ⟨inner', line', hdiscard, hline'⟩ :=
      MinutedHost.discard_minuted s' ⟨inner, e.host.minutes ++ [.closed s answer]⟩ line
    -- the one call that counts; to discard the handle is not one
    have hcalls : [(Parting.close d s, answer)].map Prod.fst = e.closing d := by
      simp [Engine.closing, hs]
    let asked : Engine (MinutedHost H) := { e with
      host := ⟨inner, e.host.minutes ++ [.closed s answer]⟩, streams := e.streams.set d none, line }
    have hasked : Amid d [.closed s answer] e asked :=
      (amid_hold d none e).trans (amid_ask d hline rfl)
    have hdiscarded : Amid d [] asked
        { asked with host := ⟨inner', asked.host.minutes⟩, line := line' } :=
      amid_ask d hline' (List.append_nil _).symm
    have hclosed : Amid d [.closed s answer] e { e with
        host := ⟨inner', e.host.minutes ++ [.closed s answer]⟩
        streams := e.streams.set d none
        line := line'.setState d .closed } :=
      (hasked.trans hdiscarded).trans (amid_setState d .closed _)
    -- closed in both cases: the answer decides only what is returned
    refine Ends.of_eq ?_ (closeSide_of_some hs hclose hdiscard)
    cases answer with
    | ok _ =>
      exact ends_pure ⟨[(.close d s, .ok ())], hcalls, rfl, hclosed, Duplex.get_set _ _ _,
        Line.state_setState _ _ _⟩
    | error source =>
      exact ends_fail ⟨[(.close d s, .error source)], hcalls, rfl, hclosed, Duplex.get_set _ _ _,
        Line.state_setState _ _ _⟩

/-! ## Starting -/

/-- **A side that starts** runs afterwards, or stays as it was. A side without a stream, or one that
cannot go over to running, asks the host for nothing; and where the host refuses, no state has been
changed yet. -/
theorem startSide_minutes (d : Direction) (e : Engine (MinutedHost H)) :
    Ends (startSide d) e fun _ e' => ∃ ms, Amid d ms e e' ∧ e'.streams = e.streams
      ∧ (e'.state d = e.state d ∨ (e.streams.get d).isSome = true ∧ e'.state d = .running) := by
  cases hs : e.streams.get d with
  | none => exact ends_of_error (startSide_of_none hs) ⟨[], .refl d e, rfl, .inl rfl⟩
  | some s =>
    cases hr : (e.state d).canMoveTo .running with
    | false =>
      exact ends_of_error (startSide_of_not_startable hs hr) ⟨[], .refl d e, rfl, .inl rfl⟩
    | true =>
      obtain ⟨answer, inner, line, hask, hline⟩ := MinutedHost.startStream_minuted s e.host e.line
      -- while the host was asked, the line may have heard something, but no state has moved
      have hstate : line.state d = e.state d := hline.state d
      have hasked : Amid d [.started s answer] e
          { e with host := ⟨inner, e.host.minutes ++ [.started s answer]⟩, line } :=
        amid_ask d hline rfl
      refine Ends.of_eq ?_ (startSide_of_startable hs hr hask)
      cases answer with
      | ok _ =>
        refine ends_of_ok (move_of_canMoveTo (show (line.state d).canMoveTo _ = true from ?_)) ?_
        · rw [hstate]
          exact hr
        · exact ⟨_, hasked.trans (amid_setState d _ _), rfl, .inr ⟨rfl, Line.state_setState _ _ _⟩⟩
      | error source => exact ends_fail ⟨_, hasked, rfl, .inl hstate⟩

/-! ## Opening -/

/-- **A side that has opened**: it holds the stream that was handed out, which fits. -/
structure SideOpened (d : Direction) (rate : Nat) (s : StreamHandle) (p : StreamInfo)
    (ms : List Minute) (e e' : Engine (MinutedHost H)) : Prop extends Amid d ms e e' where
  asked : ∃ answer, ms = [.handedOut d (e.config.spec d rate) s p,
    .resized s e.config.period.doubleFrames answer]
  fits : checkFit e.config.period rate p = .ok ()
  holds : e'.streams.get d = some s
  opened : e'.state d = .opened
  runsAt : StreamHost.infoOf s e'.host = p

/-- **A side that has not**: either it was refused a stream, or the one that was handed out does not
fit, and has been closed. -/
structure SideRefused (d : Direction) (rate : Nat) (err : AudioError) (ms : List Minute)
    (e e' : Engine (MinutedHost H)) : Prop extends Amid d ms e e' where
  asked : (∃ source, ms = [.refused d (e.config.spec d rate) source]
      ∧ err = .streamOpenFailed d source)
    ∨ ∃ s p answer, ms = [.handedOut d (e.config.spec d rate) s p, .closed s answer]
      ∧ checkFit e.config.period rate p = .error err
  streams : e'.streams = e.streams
  closed : e'.state d = .closed

/-- A stream that does not fit is closed again. The side goes back to closed before the handle is
discarded, and what the host answers to the closing is not looked at. -/
theorem acceptStream_of_misfit {rate : Nat} {s : StreamHandle} {err : AudioError}
    (hstate : e.state d = .opening)
    (hfit : checkFit e.config.period rate (StreamHost.infoOf s e.host) = .error err) :
    Ends (acceptStream d rate s) e fun r e' => r = .error err ∧ ∃ answer,
      Amid d [.closed s answer] e e' ∧ e'.streams = e.streams ∧ e'.state d = .closed := by
  obtain ⟨answer, s', inner, line, hclose, hline⟩ :=
    MinutedHost.closeStream_minuted s e.host e.line
  let asked : Engine (MinutedHost H) :=
    { e with host := ⟨inner, e.host.minutes ++ [.closed s answer]⟩, line }
  have hasked : Amid d [.closed s answer] e asked := amid_ask d hline rfl
  have hopening : asked.state d = .opening := (hline.state d).trans hstate
  obtain ⟨inner', line', hdiscard, hline'⟩ :=
    MinutedHost.discard_minuted s' asked.host (line.setState d .closed)
  have hdiscarded : Amid d [] { asked with line := line.setState d .closed }
      { asked with host := ⟨inner', asked.host.minutes⟩, line := line' } :=
    amid_ask d hline' (List.append_nil _).symm
  -- the program, step by step, from here
  unfold acceptStream
  refine ends_get_bind (ends_get_bind ?_)
  dsimp only
  rw [hfit]
  refine ends_bind_of_ok (askHost_of_eq hclose) ?_
  refine ends_bind_of_ok (attempt_move_closed asked hopening) ?_
  refine ends_bind_of_ok (askHost_of_eq hdiscard) (ends_fail ⟨rfl, answer, ?_, rfl, ?_⟩)
  · exact hasked.trans ((amid_setState d .closed asked).trans hdiscarded)
  · exact (hline'.state d).trans (Line.state_setState _ _ _)

/-- A stream that fits is held. It has been asked for a buffer of two periods by then, whose answer
is not looked at, and a warning has been sent if its frames take too long; neither changes what it
says of itself. -/
theorem acceptStream_of_fit {rate : Nat} {s : StreamHandle} (hstate : e.state d = .opening)
    (hfit : checkFit e.config.period rate (StreamHost.infoOf s e.host) = .ok ()) :
    Ends (acceptStream d rate s) e fun r e' => r = .ok () ∧ ∃ answer,
      Amid d [.resized s e.config.period.doubleFrames answer] e e' ∧ e'.streams.get d = some s
        ∧ e'.state d = .opened ∧ StreamHost.infoOf s e'.host = StreamHost.infoOf s e.host := by
  obtain ⟨answer, inner, line, hsize, hline, hinfo⟩ :=
    MinutedHost.setBufferSize_minuted s e.host e.line e.config.period.doubleFrames
  let asked : Engine (MinutedHost H) := { e with
    host := ⟨inner, e.host.minutes ++ [.resized s e.config.period.doubleFrames answer]⟩, line }
  have hasked : Amid d [.resized s e.config.period.doubleFrames answer] e asked :=
    amid_ask d hline rfl
  let told : Engine (MinutedHost H) :=
    { asked with board := warned (StreamHost.infoOf s e.host) asked.board }
  have hmove : attempt (move d .opened) told
      = .ok (.ok ()) { told with line := line.setState d .opened } := by
    have hopening : told.state d = .opening := (hline.state d).trans hstate
    rw [attempt_apply, move_of_canMoveTo (by rw [hopening]; rfl)]
  -- the program, step by step, from here
  unfold acceptStream
  refine ends_get_bind (ends_get_bind ?_)
  dsimp only
  rw [hfit]
  refine ends_bind_of_ok (askHost_of_eq hsize) ?_
  refine ends_bind_of_ok (warnIfSlow_apply _ asked) ?_
  refine ends_bind_of_ok hmove (ends_modify ⟨rfl, answer, ?_, Duplex.get_set _ _ _, ?_, hinfo⟩)
  · exact hasked.trans ((amid_board d _ asked).trans
      ((amid_setState d .opened told).trans (amid_hold d (some s) _)))
  · exact Line.state_setState _ _ _

/-- **A side that opens**, once there is a channel: the host refuses, or hands out a stream, which
is then held to the configuration. So there are three ways for it to end, and two of them leave the
side closed. -/
theorem openSide_minutes {rate : Nat} (hchannel : e.line.channel.isSome = true)
    (hstate : e.state d = .closed) :
    Ends (openSide d rate) e fun r e' => (r = .ok () ∧ ∃ s p ms, SideOpened d rate s p ms e e')
      ∨ ∃ err ms, r = .error err ∧ SideRefused d rate err ms e e' := by
  have hopening : (e.line.setState d .opening).state d = .opening := Line.state_setState _ _ _
  obtain ⟨answer, inner, line, hask, hline, hcases⟩ :=
    MinutedHost.openStream_minuted e.host _ (e.config.spec d rate) (handlerFor d e) hopening
  have hstate' : line.state d = .opening := (hline.state d).trans hopening
  refine Ends.of_eq ?_ (openSide_of_closed hchannel hstate hask)
  -- refused a stream, or handed one that is still to be checked
  rcases hcases with ⟨source, rfl⟩ | ⟨s, rfl⟩
  · have hrefused : Amid d [.refused d (e.config.spec d rate) source] e { e with
        host := ⟨inner, e.host.minutes ++ [.refused d (e.config.spec d rate) source]⟩, line } :=
      (amid_setState d .opening e).trans (amid_ask d hline rfl)
    refine ends_bind_of_ok (attempt_move_closed _ hstate') (ends_fail (.inr ?_))
    exact ⟨_, _, rfl, {
      toAmid := hrefused.trans (amid_setState d .closed _)
      asked := .inl ⟨source, rfl, rfl⟩
      streams := rfl
      closed := Line.state_setState _ _ _ }⟩
  · let p := StreamHost.infoOf s inner
    let given : Engine (MinutedHost H) := { e with
      host := ⟨inner, e.host.minutes ++ [.handedOut d (e.config.spec d rate) s p]⟩, line }
    have hgiven : Amid d [.handedOut d (e.config.spec d rate) s p] e given :=
      (amid_setState d .opening e).trans (amid_ask d hline rfl)
    show Ends (acceptStream d rate s) given _
    cases hfit : checkFit e.config.period rate p with
    | error err =>
      refine (acceptStream_of_misfit (e := given) hstate' hfit).mono ?_
      rintro r e' ⟨rfl, answer, hamid, hstreams, hclosed⟩
      exact .inr ⟨err, _, rfl, {
        toAmid := hgiven.trans hamid
        asked := .inr ⟨s, p, answer, rfl, hfit⟩
        streams := hstreams
        closed := hclosed }⟩
    | ok _ =>
      refine (acceptStream_of_fit (e := given) hstate' hfit).mono ?_
      rintro r e' ⟨rfl, answer, hamid, hheld, hopened, hinfo⟩
      exact .inl ⟨rfl, s, p, _, {
        toAmid := hgiven.trans hamid
        asked := ⟨answer, rfl⟩
        fits := hfit
        holds := hheld
        opened := hopened
        runsAt := hinfo }⟩

end EngineM

end Passthrough
