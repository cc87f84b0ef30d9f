import Passthrough.Proofs.Engine.Answers
import Passthrough.Proofs.Engine.Side
/-!
# The programs of one side

What stopping, starting, closing and opening one side of an engine on simulated hardware comes to,
from a side that is vacant or occupied. Each specification says which shape the side has afterwards
and that nothing else was touched; whether the host refuses is left open wherever it may.
-/

namespace Passthrough

open EngineM SimulatedHost

namespace Engine

variable {e e' : SimulatedEngine} {d d' : Direction} {s : StreamHandle}
  {host : SimulatedHost Handler} {t : StreamState} {x : SimulatedStream Handler}

/-! ## Changes of one side -/

/-- The most that a program of one side does: another handle, another state, a notice, and a host
that has changed for this direction only. The other `actsOn_` lemmas are cases of this one. -/
theorem actsOn_update (o : Option StreamHandle) (t : StreamState) (board : NoticeBoard)
    (hlive : ∀ d', d' ≠ d → host.live d' = e.host.live d') (hhost : Follows e.host host) :
    ActsOn d e { e with
      host, board, streams := e.streams.set d o, line := e.line.setState d t } where
  config := rfl
  recovery := rfl
  observer := rfl
  poisoned := rfl
  heard := rfl
  pending := rfl
  listening := rfl
  host := hhost
  channel := rfl
  link := rfl
  started := rfl
  effectOn := rfl
  other d' hd :=
    ⟨Line.state_setState_ne _ _ hd, Duplex.get_set_ne _ _ hd, hlive d' hd, rfl⟩

/-- A side that keeps its handle and moves to another state, as it does when it is started or
stopped. -/
theorem actsOn_restate (t : StreamState) (hlive : ∀ d', d' ≠ d → host.live d' = e.host.live d')
    (hhost : Follows e.host host) :
    ActsOn d e { e with host, line := e.line.setState d t } := by
  have h := actsOn_update (e.streams.get d) t e.board hlive hhost
  rwa [Duplex.set_get] at h

/-- A side on whose behalf the host was asked in vain: handle and state are as before, so that only
the record of the host has grown. -/
theorem actsOn_host (hlive : ∀ d', d' ≠ d → host.live d' = e.host.live d')
    (hhost : Follows e.host host) : ActsOn d e { e with host } := by
  have h := actsOn_restate (e.state d) hlive hhost
  -- a side that moves to the state it is in has not moved
  have hline : e.line.setState d (e.state d) = e.line := Line.setState_of_state_eq rfl
  rwa [hline] at h

/-- The stream of a handle is switched on or off together with the state of its side. The two
hypotheses are all that `Backs` says about whether a stream runs. -/
theorem Backs.restate (h : Backs e d s x) (running : Bool)
    (hrunning : t = .running → running = true) (hresting : t = .opened → running = false) :
    Backs { e with host, line := e.line.setState d t } d s { x with running } where
  id := h.id
  properties := h.properties
  side := h.side
  handler := h.handler
  period := h.period
  channelId := h.channelId
  running ht := hrunning ((Line.state_setState e.line d t).symm.trans ht)
  resting ht := hresting ((Line.state_setState e.line d t).symm.trans ht)

/-- An occupied side moves to another of its three states. Its stream may be switched with that, or
be gone if the side has failed. That it keeps its handle, its direction and its number is the same
in all cases, so only the live streams are asked for. -/
theorem Occupied.restate (h : Occupied e d s) (ht : t = .opened ∨ t = .running ∨ t = .error)
    (hhost : Follows e.host host)
    (hlive : (∃ x, host.live d = [x] ∧ Backs { e with host, line := e.line.setState d t } d s x)
      ∨ (host.live d = [] ∧ t = .error)) :
    Occupied { e with host, line := e.line.setState d t } d s where
  handle := h.handle
  unclosed := h.unclosed
  direction := h.direction
  admitted := h.admitted
  state := by
    have hs : ({ e with host, line := e.line.setState d t } : SimulatedEngine).state d = t :=
      Line.state_setState e.line d t
    rw [hs]
    exact ht
  live := by
    -- the stream backs the side in its new state, or is gone with it failed
    rcases hlive with hx | ⟨hnil, hs⟩
    · exact Or.inl hx
    · exact Or.inr ⟨hnil, (Line.state_setState e.line d t).trans hs⟩
  number := Nat.le_trans h.number hhost.opened
  own := h.own_of_follows hhost

/-- A side whose stream the host kept as it was, and which has failed. Nothing is known of whether
the stream still runs, and `Occupied` asks nothing of a failed side. -/
theorem Occupied.fail (h : Occupied e d s) (hhost : Follows e.host host)
    (hlive : host.live d = e.host.live d) :
    Occupied { e with host, line := e.line.setState d .error } d s := by
  refine h.restate (Or.inr (Or.inr rfl)) hhost ?_
  rw [hlive]
  rcases h.live with ⟨x, hx, hb⟩ | ⟨hnil, _⟩
  · exact Or.inl ⟨x, hx, hb.restate x.running (by simp) (by simp)⟩
  · exact Or.inr ⟨hnil, rfl⟩

/-- The stream of an occupied side, switched: it is the only live one of its direction, so that the
switch by number finds it and no other one. -/
theorem Occupied.live_setRunning (hb : Backs e d s x) (hx : e.host.live d = [x]) (op : CallKind)
    (running : Bool) :
    ((e.host.record d op).setRunning s.id running).live d = [{ x with running }] := by
  rw [SimulatedHost.live_setRunning, live_record, hx]
  simp [hb.id]

/-- The switch of one side leaves the streams of the other alone, because no stream of the other
direction has that number (`Occupied.id_ne`). -/
theorem Occupied.live_setRunning_ne (h : Occupied e d s) (op : CallKind) (running : Bool)
    (hd : d' ≠ d) :
    ((e.host.record d op).setRunning s.id running).live d' = e.host.live d' := by
  rw [live_setRunning_of_ne (by simpa using h.id_ne hd), live_record]

/-- A host that records a call and switches a stream has followed: it has made no stream and
forgotten none. -/
theorem follows_switch (h : SimulatedHost Handler) (d : Direction) (op : CallKind) (id : Nat)
    (running : Bool) : Follows h ((h.record d op).setRunning id running) :=
  (follows_record h d op).trans (follows_setRunning _ id running)

/-! ## Stopping -/

/-- A vacant side has nothing to stop and is left exactly as it is, so that stopping a pair need not
ask which of its sides are there. -/
theorem stopSide_vacant (h : Vacant e d) : stopSide d e = .ok () e :=
  stopSide_of_not_running (by rw [h.state]; simp)

/-- **Stopping a side.** The stream stays and the side runs no longer, even if the host refuses:
then the side has failed, and `Occupied` allows for that. -/
theorem stopSide_ends (h : Occupied e d s) :
    Ends (stopSide d) e fun _ e' =>
      Occupied e' d s ∧ e'.state d ≠ .running ∧ ActsOn d e e' := by
  by_cases hr : e.state d = .running
  · obtain ⟨x, hx, hb⟩ := h.backed (by rw [hr]; simp)
    -- refused, the stream runs on while the side has failed; `Backs` does not say which it does then
    rcases stopStream_cases s e.host with ⟨source, host, hask, hstreams, hopened⟩ | hask
    · have hfollows : Follows e.host host := .of_streams hopened hstreams
      have hrefused : StreamHost.stopStream s e.host (e.line.setState d .stopping)
          = (.error source, host, e.line.setState d .stopping) :=
        congrArg (fun r => (r.1, r.2, e.line.setState d .stopping)) hask
      refine ends_of_error (stopSide_of_error h.handle hr hrefused)
        ⟨h.fail hfollows (live_eq_of_streams hstreams d), ?_, ?_⟩
      · simp [Engine.state]
      · exact actsOn_restate _ (fun d' _ => live_eq_of_streams hstreams d') hfollows
    · rw [h.direction] at hask
      have hstopped : StreamHost.stopStream s e.host (e.line.setState d .stopping)
          = (.ok (), (e.host.record d .stop).setRunning s.id false,
              e.line.setState d .stopping) :=
        congrArg (fun r => (r.1, r.2, e.line.setState d .stopping)) hask
      refine ends_of_ok (stopSide_of_ok h.handle hr hstopped) ⟨?_, ?_, ?_⟩
      · refine h.restate (Or.inl rfl) (follows_switch _ _ _ _ _)
          (Or.inl ⟨_, Occupied.live_setRunning hb hx .stop false, ?_⟩)
        exact hb.restate false (by simp) (by simp)
      · simp [Engine.state]
      · exact actsOn_restate _ (fun d' hd => h.live_setRunning_ne .stop false hd)
          (follows_switch _ _ _ _ _)
  · exact ends_of_ok (stopSide_of_not_running hr) ⟨h, hr, .refl d e⟩

/-- **A stop of one side.** It runs no longer, and has the shape that it had. -/
structure Stops (d : Direction) (e e' : SimulatedEngine) : Prop extends ActsOn d e e' where
  resting : e'.state d ≠ .running
  vacant : Vacant e d → Vacant e' d
  occupied : ∀ s, Occupied e d s → Occupied e' d s

/-- Stopped, a side has the shape that it had, so a close may follow a stop on any side. -/
theorem Stops.settled (h : Stops d e e') (hs : Settled e d) : Settled e' d := by
  rcases hs with hv | ⟨s, ho⟩
  · exact Or.inl (h.vacant hv)
  · exact Or.inr ⟨s, h.occupied s ho⟩

/-- **Stopping a side of any shape**, which is `stopSide_vacant` or `stopSide_ends`. The programs of
the pair are put together with this form, and do not split on the shapes. -/
theorem stopSide_settled (h : Settled e d) : Ends (stopSide d) e fun _ e' => Stops d e e' := by
  rcases h with hv | ⟨s, ho⟩
  · have hresting : e.state d ≠ .running := by
      rw [hv.state]
      simp
    exact ends_of_ok (stopSide_vacant hv) ⟨.refl d e, hresting, id, fun _ => id⟩
  · refine (stopSide_ends ho).mono fun _ e' ⟨ho', hr, hact⟩ => ⟨hact, hr, ?_, ?_⟩
    · exact fun hv => absurd ho hv.not_occupied
    · intro s' hs'
      rw [hs'.handle_eq ho]
      exact ho'

/-! ## Starting -/

/-- **Starting a side.** The stream stays; the side runs exactly if the start succeeded. A start
that fails leaves the side where it was, and one that succeeds found it open. -/
theorem startSide_ends (h : Occupied e d s) :
    Ends (startSide d) e fun r e' =>
      Occupied e' d s ∧ ActsOn d e e'
        ∧ ((r = .ok () ∧ e.state d = .opened ∧ e'.state d = .running)
          ∨ ((∃ err, r = .error err) ∧ e'.state d = e.state d)) := by
  by_cases hr : (e.state d).canMoveTo .running = true
  · have hopen : e.state d = .opened := by
      rcases h.state with hs | hs | hs
      · exact hs
      · rw [hs] at hr; cases hr
      · rw [hs] at hr; cases hr
    -- only an open side may start, and its stream is on the host
    obtain ⟨x, hx, hb⟩ := h.backed (by rw [hopen]; simp)
    rcases startStream_cases s e.host with
      ⟨source, host, hask, hstreams, hopened⟩ | ⟨hask, _⟩
    · have hfollows : Follows e.host host := .of_streams hopened hstreams
      have hact : ActsOn d e { e with host } :=
        actsOn_host (fun d' _ => live_eq_of_streams hstreams d') hfollows
      have hrefused : StreamHost.startStream s e.host e.line = (.error source, host, e.line) :=
        congrArg (fun r => (r.1, r.2, e.line)) hask
      exact ends_of_error (startSide_of_error h.handle hr hrefused)
        ⟨h.frame ⟨rfl, rfl, live_eq_of_streams hstreams d, rfl⟩ rfl hfollows, hact,
          Or.inr ⟨⟨_, rfl⟩, rfl⟩⟩
    · rw [h.direction] at hask
      have hrunning : StreamHost.startStream s e.host e.line
          = (.ok (), (e.host.record d .start).setRunning s.id true, e.line) :=
        congrArg (fun r => (r.1, r.2, e.line)) hask
      refine ends_of_ok (startSide_of_ok h.handle hr hrunning)
        ⟨?_, ?_, Or.inl ⟨rfl, hopen, ?_⟩⟩
      · refine h.restate (Or.inr (Or.inl rfl)) (follows_switch _ _ _ _ _)
          (Or.inl ⟨_, Occupied.live_setRunning hb hx .start true, ?_⟩)
        exact hb.restate true (by simp) (by simp)
      · exact actsOn_restate _ (fun d' hd => h.live_setRunning_ne .start true hd)
          (follows_switch _ _ _ _ _)
      · simp [Engine.state]
  · exact ends_of_error (startSide_of_not_startable h.handle (by simpa using hr))
      ⟨h, .refl d e, Or.inr ⟨⟨_, rfl⟩, rfl⟩⟩

/-! ## Closing -/

/-- A vacant side is closed already: the settling of its state finds `closed` and leaves the engine
exactly as it is. -/
theorem closeSide_vacant (h : Vacant e d) : closeSide d e = .ok () e := by
  rw [closeSide_of_none h.handle]
  have hsettle : e.line.settle d = e.line := by
    unfold Line.settle
    rw [StreamState.settled_eq_closed]
    exact Line.setState_of_state_eq h.state
  rw [hsettle]

/-- **Closing a side.** It cannot fail here, because the handle is unclosed and the simulated host
closes what it has; the side is vacant afterwards and its stream is gone from the host. -/
theorem closeSide_ends (h : Occupied e d s) :
    Ends (closeSide d) e fun r e' => r = .ok () ∧ Vacant e' d ∧ ActsOn d e e' := by
  have hask := closeStream_of_unclosed h.unclosed e.host
  rw [h.direction] at hask
  have hclose : StreamHost.closeStream s e.host e.line
      = ((.ok (), { s with closed := true }), (e.host.record d .close).remove s.id, e.line) :=
    congrArg (fun r => (r.1, r.2, e.line)) hask
  have hdiscard : StreamHost.discard { s with closed := true }
      ((e.host.record d .close).remove s.id) e.line
        = ((), (e.host.record d .close).remove s.id, e.line) := rfl
  have hrun := closeSide_of_some h.handle hclose hdiscard
  have hfollows : Follows e.host ((e.host.record d .close).remove s.id) :=
    (follows_record e.host d .close).trans (follows_remove _ s.id)
  -- the close is by number; a stream that the hardware has taken is not found, and nothing remains
  refine ends_of_ok hrun ⟨rfl, ⟨?_, ?_, ?_⟩, ?_⟩
  · simp [Engine.state]
  · exact Duplex.get_set e.streams d none
  · show ((e.host.record d .close).remove s.id).live d = []
    rw [live_remove, live_record]
    rcases h.live with ⟨x, hx, hb⟩ | ⟨hnil, _⟩
    · rw [hx]
      simp [hb.id]
    · rw [hnil]
      rfl
  · refine actsOn_update none .closed e.board (fun d' hd => ?_) hfollows
    rw [live_remove_of_ne (by simpa using h.id_ne hd), live_record]

/-- **Closing a side of any shape** ends vacant. Together with `stopSide_settled` this is all that
`shutDown_ends` needs to know about one side. -/
theorem closeSide_settled (h : Settled e d) :
    Ends (closeSide d) e fun r e' => r = .ok () ∧ Vacant e' d ∧ ActsOn d e e' := by
  rcases h with hv | ⟨s, ho⟩
  · exact ends_of_ok (closeSide_vacant hv) ⟨rfl, hv, .refl d e⟩
  · exact closeSide_ends ho

/-! ## Opening -/

/-- The stream that opens next for a side, at the rate of the configuration. -/
def upcoming (d : Direction) (e : SimulatedEngine) : SimulatedStream Handler :=
  e.host.nextStream d (e.config.spec d e.config.period.sampleRate) (handlerFor d e)

def upcomingHandle (d : Direction) (e : SimulatedEngine) : StreamHandle :=
  { id := e.host.opened + 1, properties := (e.upcoming d).properties }

/-- A new stream is live in its own direction and in no other, so that opening one side is work on
that side alone. -/
theorem live_upcoming_ne (hstreams : host.streams = e.host.streams ++ [e.upcoming d])
    (hd : d' ≠ d) : host.live d' = e.host.live d' := by
  have hdir : (e.upcoming d).properties.direction ≠ d' := hd.symm
  rw [live_append hstreams, if_neg hdir]

/-- Opened on a vacant side, the new stream is the only live one of its direction. That is the one
part of `Occupied` that needs the side to have been vacant. -/
theorem Vacant.live_upcoming (h : Vacant e d)
    (hstreams : host.streams = e.host.streams ++ [e.upcoming d]) :
    host.live d = [e.upcoming d] := by
  have hdir : (e.upcoming d).properties.direction = d := rfl
  rw [live_append hstreams, if_pos hdir, h.live, List.nil_append]

/-- A new stream that the period admits, held. Its number is fresh because the host numbers its
streams in order (`Numbered`), and so it is not one of the other direction. -/
theorem Vacant.occupied_upcoming (h : Vacant e d) (hn : Numbered e.host)
    (hstreams : host.streams = e.host.streams ++ [e.upcoming d])
    (hopened : host.opened = e.host.opened + 1)
    (hadmits : e.config.period.Admits (e.upcoming d).properties) (board : NoticeBoard) :
    Occupied { e with
      host, board, streams := e.streams.set d (some (e.upcomingHandle d)),
      line := e.line.setState d .opened } d (e.upcomingHandle d) where
  handle := Duplex.get_set e.streams d _
  unclosed := rfl
  direction := rfl
  admitted := hadmits
  state := Or.inl (Line.state_setState e.line d .opened)
  live := by
    -- the new side is open, not running, and so is its stream
    refine Or.inl ⟨_, h.live_upcoming hstreams, rfl, rfl, rfl, rfl, rfl, rfl, ?_,
      fun _ => rfl⟩
    simp [Engine.state]
  number := Nat.le_of_eq hopened.symm
  own := by
    -- no stream from before has the number of the new one
    intro x hx hid
    rw [hstreams] at hx
    rcases List.mem_append.mp hx with hold | hnew
    · exact absurd hid (hn.id_ne_next x (mem_live.mpr ⟨hold, rfl⟩))
    · rw [List.mem_singleton.mp hnew]
      rfl

/-- A new stream that does not fit, closed again: the side is as vacant as it was, and the host has
only given out one more number. It is the path of `acceptStream` on which the stream is handed
back. -/
theorem Vacant.close_upcoming (h : Vacant e d) (hn : Numbered e.host)
    (hstreams : host.streams = e.host.streams ++ [e.upcoming d])
    (hopened : host.opened = e.host.opened + 1) :
    ActsOn d e { e with host := (host.record d .close).remove (e.host.opened + 1) }
      ∧ Vacant { e with host := (host.record d .close).remove (e.host.opened + 1) } d := by
  have hfollows : Follows e.host ((host.record d .close).remove (e.host.opened + 1)) :=
    (follows_append hstreams hopened rfl).trans
      ((follows_record host d .close).trans (follows_remove _ _))
  have hother : ∀ d', d' ≠ d →
      ((host.record d .close).remove (e.host.opened + 1)).live d' = e.host.live d' := by
    intro d' hd
    -- the other direction has no stream of this number, so the removal passes it by
    have hlive : (host.record d .close).live d' = e.host.live d' := by
      rw [live_record, live_upcoming_ne hstreams hd]
    rw [live_remove_of_ne (by rw [hlive]; exact hn.id_ne_next), hlive]
  have hgone : ((host.record d .close).remove (e.host.opened + 1)).live d = e.host.live d := by
    rw [live_remove, live_record, h.live_upcoming hstreams, h.live]
    simp [upcoming, nextStream]
  exact ⟨actsOn_host hother hfollows, h.frame ⟨rfl, rfl, hgone, rfl⟩⟩

/-- **Opening a side.** At the rate of the configuration, and with a channel to open it over, the
side ends open or, refused or unfit, as vacant as it was. -/
theorem openSide_ends (h : Vacant e d) (hc : e.line.channel.isSome = true)
    (hn : Numbered e.host) :
    Ends (openSide d e.config.period.sampleRate) e fun r e' =>
      ActsOn d e e'
        ∧ ((r = .ok () ∧ (∃ s, Occupied e' d s) ∧ e'.state d = .opened)
          ∨ ((∃ err, r = .error err) ∧ Vacant e' d)) := by
  let spec := e.config.spec d e.config.period.sampleRate
  -- the host refuses or opens; what it opens is checked before the side holds it
  rcases openStream_cases d spec (handlerFor d e) e.host with
    ⟨source, host, hask, hstreams, hopened⟩ | ⟨host, hask, hstreams, hopened⟩
  · have hact : ActsOn d e { e with host } :=
      actsOn_host (fun d' _ => live_eq_of_streams hstreams d') (.of_streams hopened hstreams)
    have hrefused : StreamHost.openStream d spec (handlerFor d e) e.host
        (e.line.setState d .opening) = (.refused source, host, e.line.setState d .opening) :=
      congrArg (fun r => (r.1, r.2, e.line.setState d .opening)) hask
    exact ends_of_error (openSide_of_refused hc h.state hrefused)
      ⟨hact, Or.inr ⟨⟨_, rfl⟩, h.frame ⟨rfl, rfl, live_eq_of_streams hstreams d, rfl⟩⟩⟩
  · have hopen : StreamHost.openStream d spec (handlerFor d e) e.host (e.line.setState d .opening)
        = (.opened (e.upcomingHandle d), host, e.line.setState d .opening) :=
      congrArg (fun r => (r.1, r.2, e.line.setState d .opening)) hask
    cases hfit : checkFit e.config.period e.config.period.sampleRate
        (StreamHost.infoOf (e.upcomingHandle d) host) with
    | error err =>
      have hclose : StreamHost.closeStream (e.upcomingHandle d) host (e.line.setState d .opening)
          = ((.ok (), { e.upcomingHandle d with closed := true }),
              (host.record d .close).remove (e.host.opened + 1), e.line.setState d .opening) := rfl
      obtain ⟨hact, hvacant⟩ := h.close_upcoming hn hstreams hopened
      exact ends_of_error (openSide_of_misfit hc h.state hopen hfit hclose rfl)
        ⟨hact, Or.inr ⟨⟨err, rfl⟩, hvacant⟩⟩
    | ok _ =>
      have hadmits : e.config.period.Admits (e.upcoming d).properties :=
        (checkFit_eq_ok_iff _ _).mp hfit
      have hact := actsOn_update (some (e.upcomingHandle d)) .opened
        (warned (e.upcoming d).properties e.board) (fun d' hd => live_upcoming_ne hstreams hd)
        (follows_append hstreams hopened rfl)
      exact ends_of_ok (openSide_of_fit hc h.state hopen hfit rfl)
        ⟨hact, Or.inl ⟨rfl, ⟨_, h.occupied_upcoming hn hstreams hopened hadmits _⟩,
          Line.state_setState e.line d .opened⟩⟩

end Engine

end Passthrough
