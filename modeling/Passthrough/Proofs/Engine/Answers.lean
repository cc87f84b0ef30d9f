import Passthrough.Engine.Streams
import Passthrough.Proofs.Engine.Outcome
/-!
# Side programs by the answers of the host

What the programs of one direction come to, given what the host answers. An answer is an equation for
one call of the host; the closed forms are those for a host that does not call back while it is
asked, so that the line is left as it was.
-/

namespace Passthrough

namespace EngineM

variable {H : Type} {d : Direction}

/-- The board after a warning about a stream that did not get the low-latency path. -/
def warned (p : StreamInfo) (board : NoticeBoard) : NoticeBoard :=
  if p.performanceMode ≠ .lowLatency then
    board.publish .warning <| some <|
      s!"{p.direction.name} stream is not low latency ({Setting.name p.performanceMode}). " ++
      "Check the requested format, sample rate and channel count."
  else board

/-- The warning about a slow stream is a publication or nothing, so `warned` says what it does to
the board, and the rest of the engine does not come into it. -/
theorem warnIfSlow_apply (p : StreamInfo) (e : Engine H) :
    warnIfSlow p e = .ok () { e with board := warned p e.board } := by
  unfold warnIfSlow warned
  split
  · exact publish_apply _ _ e
  · exact pure_apply () e

/-- A call during which the host does not call back leaves the line alone. Every call of the
simulated host is `quiet`, so an equation about the host is all that a specification has to
provide. -/
theorem quiet_of_eq {α : Type} {call : H → α × H} {host host' : H} {answer : α}
    (hcall : call host = (answer, host')) (line : Line) :
    (HostAction.quiet call : HostAction H Line α) host line = (answer, host', line) := by
  rw [HostAction.quiet_apply, hcall]

/-- A side that gives up while it opens is closed again. The move is attempted, but it cannot fail
from `opening`, so that the error that is reported is always the one of the host. -/
theorem attempt_move_closed (e : Engine H) (hstate : e.state d = .opening) :
    attempt (move d .closed) e = .ok (.ok ()) { e with line := e.line.setState d .closed } := by
  rw [attempt_apply, move_of_canMoveTo (by rw [hstate]; rfl)]

variable [StreamHost Handler Line H]
variable {e : Engine H} {s : StreamHandle} {host host' host'' : H}

/-! ## Stopping -/

/-- A side that does not run is not stopped, and the host is not asked: stopping twice is harmless,
and so is stopping a side that has failed. -/
theorem stopSide_of_not_running (h : e.state d ≠ .running) : stopSide d e = .ok () e := by
  unfold stopSide
  rw [bind_apply, get_apply]
  simp only [h, if_false]
  exact pure_apply () e

/-- Without a handle there is nothing to stop. The state of the side does not matter here, which is
why this is not an instance of `stopSide_of_not_running`. -/
theorem stopSide_of_none (hs : e.streams.get d = none) : stopSide d e = .ok () e := by
  by_cases hr : e.state d = .running
  · unfold stopSide
    simp only [bind_apply, get_apply, hr, if_true, hs]
    exact pure_apply () e
  · exact stopSide_of_not_running hr

/-- What a stopping side makes of the answer of the host. -/
def stopAnswered (d : Direction) : Except HostError Unit → EngineM H Unit
  | .ok () => move d .opened
  | .error source => do
    modifyLine (·.markFaulted d)
    fail (.streamStopFailed d source)

/-- A running side is marked as stopping before the host is asked, and whatever the host does to the
line meanwhile is kept. `stopAnswered` takes over from its answer. -/
theorem stopSide_of_running (hs : e.streams.get d = some s) (hr : e.state d = .running)
    {answer : Except HostError Unit} {line : Line}
    (hask : StreamHost.stopStream s e.host (e.line.setState d .stopping) = (answer, host, line)) :
    stopSide d e = stopAnswered d answer { e with host, line } := by
  have hmove : move d .stopping e = .ok () { e with line := e.line.setState d .stopping } :=
    move_of_canMoveTo (by rw [hr]; rfl)
  unfold stopSide
  simp only [bind_apply, get_apply, hr, if_true, hs, hmove, askHost_apply, hask]
  rfl

/-- A stop that the host carries out without calling back: the side is open again and keeps its
handle. It has been `stopping` while the host was asked, which leaves no trace since `setState` is
applied twice to one side. -/
theorem stopSide_of_ok (hs : e.streams.get d = some s) (hr : e.state d = .running)
    (hask : StreamHost.stopStream s e.host (e.line.setState d .stopping)
      = (.ok (), host, e.line.setState d .stopping)) :
    stopSide d e = .ok () { e with host, line := e.line.setState d .opened } := by
  rw [stopSide_of_running hs hr hask]
  show move d .opened _ = _
  rw [move_of_canMoveTo (by simp [Engine.state]; rfl)]
  simp only [Line.setState_setState]

/-- A stop that the host refuses without calling back. The side has failed, and the error names the
direction and carries what the host said. From `stopping` a fault leads to `error`, so that
`markFaulted` does set the state here. -/
theorem stopSide_of_error (hs : e.streams.get d = some s) (hr : e.state d = .running)
    {source : HostError}
    (hask : StreamHost.stopStream s e.host (e.line.setState d .stopping)
      = (.error source, host, e.line.setState d .stopping)) :
    stopSide d e = .error (.error (.streamStopFailed d source))
      { e with host, line := e.line.setState d .error } := by
  rw [stopSide_of_running hs hr hask]
  have hfault : (e.line.setState d .stopping).markFaulted d = e.line.setState d .error := by
    simp [Line.markFaulted]
    rfl
  simp only [stopAnswered, bind_apply, modifyLine_apply, hfault, fail_apply]

/-! ## Starting -/

/-- A side without a stream cannot be started: `notOpen`, and nothing has changed. -/
theorem startSide_of_none (hs : e.streams.get d = none) :
    startSide d e = .error (.error .notOpen) e := by
  unfold startSide
  rw [bind_apply, get_apply]
  simp only [hs]
  exact fail_apply _ e

/-- A stream that may not run from where it stands is not started, and the host is not asked. That
is what keeps a side that failed from being started before it is replaced. -/
theorem startSide_of_not_startable (hs : e.streams.get d = some s)
    (hr : (e.state d).canMoveTo .running = false) :
    startSide d e = .error (.error (.invalidTransition d (e.state d) .running)) e := by
  unfold startSide
  simp only [bind_apply, get_apply, hs, hr, Bool.not_false, if_true, fail_apply]

/-- What a starting side makes of the answer of the host. -/
def startAnswered (d : Direction) : Except HostError Unit → EngineM H Unit
  | .ok () => move d .running
  | .error source => fail (.streamStartFailed d source)

/-- Unlike a stop, a start asks the host before the state is moved: the line of the call is the line
as it stands, and `startAnswered` moves it only after the host has agreed. -/
theorem startSide_of_startable (hs : e.streams.get d = some s)
    (hr : (e.state d).canMoveTo .running = true) {answer : Except HostError Unit} {line : Line}
    (hask : StreamHost.startStream s e.host e.line = (answer, host, line)) :
    startSide d e = startAnswered d answer { e with host, line } := by
  unfold startSide
  simp only [bind_apply, get_apply, hs, hr, Bool.not_true, Bool.false_eq_true, if_false,
    askHost_apply, hask]
  cases answer <;> rfl

/-- A start that the host carries out without calling back: the side runs from now on. -/
theorem startSide_of_ok (hs : e.streams.get d = some s)
    (hr : (e.state d).canMoveTo .running = true)
    (hask : StreamHost.startStream s e.host e.line = (.ok (), host, e.line)) :
    startSide d e = .ok () { e with host, line := e.line.setState d .running } := by
  rw [startSide_of_startable hs hr hask]
  exact move_of_canMoveTo hr

/-- A start that the host refuses without calling back leaves the side where it was. Its stream
stays open, so that a later start may succeed. -/
theorem startSide_of_error (hs : e.streams.get d = some s)
    (hr : (e.state d).canMoveTo .running = true) {source : HostError}
    (hask : StreamHost.startStream s e.host e.line = (.error source, host, e.line)) :
    startSide d e = .error (.error (.streamStartFailed d source)) { e with host } := by
  rw [startSide_of_startable hs hr hask]
  exact fail_apply _ _

/-! ## Closing -/

/-- Without a handle, closing only settles the state of the side. It is a success whatever the state
was, so that closing twice is harmless. -/
theorem closeSide_of_none (hs : e.streams.get d = none) :
    closeSide d e = .ok () { e with line := e.line.settle d } := by
  unfold closeSide
  rw [bind_apply, get_apply]
  simp only [hs]
  exact modifyLine_apply _ e

/-- What a closing side makes of the answer of the host. -/
def closeAnswered (d : Direction) : Except HostError Unit → EngineM H Unit
  | .ok () => pure ()
  | .error source => fail (.streamCloseFailed d source)

/-- Whatever the host answers, the side is closed afterwards: the handle is let go of and its stream
is discarded also when the close is refused, and only the reply tells the difference. -/
theorem closeSide_of_some (hs : e.streams.get d = some s) {answer : Except HostError Unit}
    {s' : StreamHandle} {line line' : Line}
    (hclose : StreamHost.closeStream s e.host e.line = ((answer, s'), host, line))
    (hdiscard : StreamHost.discard s' host line = ((), host', line')) :
    closeSide d e = closeAnswered d answer { e with
      host := host', streams := e.streams.set d none, line := line'.setState d .closed } := by
  have hsettle : line'.settle d = line'.setState d .closed := by
    unfold Line.settle
    rw [StreamState.settled_eq_closed]
  unfold closeSide
  simp only [bind_apply, get_apply, hs, modify_apply, askHost_apply, hclose, hdiscard,
    modifyLine_apply, hsettle]
  cases answer <;> rfl

/-! ## Opening -/

/-- No stream is opened without a channel for its callbacks. No caller gets here, for `openSides`
and `replaceOutput` both have one; but `openSide` does not rely on that. -/
theorem openSide_of_no_channel (hc : e.line.channel = none) (rate : Nat) :
    openSide d rate e = .error (.error .notOpen) e := by
  unfold openSide
  rw [bind_apply, get_apply]
  simp only [hc, Option.isNone_none, if_true]
  rw [bind_apply, fail_apply]

/-- Only a closed side may be opened. The refusal comes before the host is asked, so the stream that
the side may hold is not touched. No state but `closed` may go over to `opening`, which is all that
the proof looks at. -/
theorem openSide_of_not_closed (hc : e.line.channel.isSome = true) (hstate : e.state d ≠ .closed)
    (rate : Nat) : openSide d rate e
      = .error (.error (.invalidTransition d (e.state d) .opening)) e := by
  have hnone : e.line.channel.isNone = false := by
    cases hch : e.line.channel with
    | none => simp [hch] at hc
    | some _ => rfl
  have hmove : (e.state d).canMoveTo .opening = false := by
    cases hs : e.state d with
    | closed => exact absurd hs hstate
    | _ => rfl
  unfold openSide
  rw [bind_apply, get_apply]
  simp only [hnone, Bool.false_eq_true, if_false]
  rw [bind_apply, move_of_not_canMoveTo hmove]

/-- The callbacks that the engine leaves with a stream it opens. -/
def handlerFor (d : Direction) (e : Engine H) : Handler :=
  ⟨d, e.config.period, e.observer, e.line.channelId⟩

/-- What an opening side makes of the answer of the host. -/
def openAnswered (d : Direction) (rate : Nat) : Opening → EngineM H Unit
  | .crashed message => throw (.crash message)
  | .refused source => do
    let _ ← attempt (move d .closed)
    fail (.streamOpenFailed d source)
  | .opened stream => acceptStream d rate stream

/-- A closed side over a channel asks the host, with the callbacks that `handlerFor` gives it; all
that can differ afterwards is the answer, which `openAnswered` takes from there. -/
theorem openSide_of_closed {rate : Nat} (hc : e.line.channel.isSome = true)
    (hstate : e.state d = .closed) {answer : Opening} {line : Line}
    (hask : StreamHost.openStream d (e.config.spec d rate) (handlerFor d e) e.host
        (e.line.setState d .opening) = (answer, host, line)) :
    openSide d rate e = openAnswered d rate answer { e with host, line } := by
  have hnone : e.line.channel.isNone = false := by
    cases hch : e.line.channel with
    | none => simp [hch] at hc
    | some _ => rfl
  have hmove : move d .opening e = .ok () { e with line := e.line.setState d .opening } :=
    move_of_canMoveTo (by rw [hstate]; rfl)
  unfold handlerFor at hask
  unfold openSide
  simp only [bind_apply, get_apply, hnone, Bool.false_eq_true, if_false, hmove, askHost_apply, hask]
  rfl

/-- A host that refuses leaves no trace on the engine: the side was `opening` while it was asked,
and is closed again. The error tells the direction and what the host said; the state is restored by
`attempt_move_closed`, and what is put back is what was there (`Line.setState_of_state_eq`). -/
theorem openSide_of_refused {rate : Nat} (hc : e.line.channel.isSome = true)
    (hstate : e.state d = .closed) {source : HostError}
    (hask : StreamHost.openStream d (e.config.spec d rate) (handlerFor d e) e.host
        (e.line.setState d .opening) = (.refused source, host, e.line.setState d .opening)) :
    openSide d rate e = .error (.error (.streamOpenFailed d source)) { e with host } := by
  rw [openSide_of_closed hc hstate hask]
  simp only [openAnswered, bind_apply]
  rw [attempt_move_closed _ (by simp [Engine.state])]
  simp only [Line.setState_setState, fail_apply]
  rw [Line.setState_of_state_eq hstate]

/-- A stream that does not fit is closed and let go of, and the error of the check is what is
reported. So no side ever holds a stream that runs at anything but what was asked for. -/
theorem openSide_of_misfit {rate : Nat} (hc : e.line.channel.isSome = true)
    (hstate : e.state d = .closed)
    (hask : StreamHost.openStream d (e.config.spec d rate) (handlerFor d e) e.host
        (e.line.setState d .opening) = (.opened s, host, e.line.setState d .opening))
    {err : AudioError}
    (hfit : checkFit e.config.period rate (StreamHost.infoOf s host) = .error err)
    {answer : Except HostError Unit} {s' : StreamHandle}
    (hclose : StreamHost.closeStream s host (e.line.setState d .opening)
      = ((answer, s'), host', e.line.setState d .opening))
    (hdiscard : StreamHost.discard s' host' e.line = ((), host'', e.line)) :
    openSide d rate e = .error (.error err) { e with host := host'' } := by
  rw [openSide_of_closed hc hstate hask]
  simp only [openAnswered, acceptStream, bind_apply, get_apply, hfit, askHost_apply, hclose]
  rw [attempt_move_closed _ (by simp [Engine.state])]
  simp only [Line.setState_setState, Line.setState_of_state_eq hstate, hdiscard]
  rfl

/-- A stream that fits is held. The buffer is sized while the side is still `opening`, whatever the
host answers to that, and the board has a warning more if the stream is slow (`warned`). -/
theorem openSide_of_fit {rate : Nat} (hc : e.line.channel.isSome = true)
    (hstate : e.state d = .closed)
    (hask : StreamHost.openStream d (e.config.spec d rate) (handlerFor d e) e.host
        (e.line.setState d .opening) = (.opened s, host, e.line.setState d .opening))
    (hfit : checkFit e.config.period rate (StreamHost.infoOf s host) = .ok ())
    {answer : Except HostError Nat}
    (hsize : StreamHost.setBufferSize s e.config.period.doubleFrames host
      (e.line.setState d .opening) = (answer, host', e.line.setState d .opening)) :
    openSide d rate e = .ok ()
      { e with
        host := host'
        streams := e.streams.set d (some s)
        line := e.line.setState d .opened
        board := warned (StreamHost.infoOf s host) e.board } := by
  rw [openSide_of_closed hc hstate hask]
  simp only [openAnswered, acceptStream, bind_apply, get_apply, hfit, askHost_apply, hsize,
    warnIfSlow_apply, attempt_apply]
  -- from `opening` to `opened` is an allowed move
  rw [move_of_canMoveTo (by simp [Engine.state]; rfl)]
  simp only [Line.setState_setState]
  rfl

/-- A pair that is open is not opened again. The engine stays as it is, so `alreadyOpen` is an error
after which the streams are still there. -/
theorem openSides_of_holdsStreams (h : e.holdsStreams = true) :
    openSides e = .error (.error .alreadyOpen) e := by
  unfold openSides
  rw [bind_apply, get_apply]
  simp only [h, if_true]
  rw [bind_apply, fail_apply]

end EngineM

end Passthrough
