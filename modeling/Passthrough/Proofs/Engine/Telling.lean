import Passthrough.Proofs.Engine.DeviceChange
import Passthrough.Proofs.Engine.Picture
/-!
# What the notices tell

Notices are published by the calls, and not by what the calls are made of: a recovery opens and
closes streams without a word about it, and so does an opening that fails half way. So each call is
shown to tell of exactly what has become of the picture (`Tells`).

* **`call_tells`**, **`after_tells`** — every call does, and so does a whole run.
* **`heard_tells`** — whoever has missed nothing knows by the notices alone whether the pair is
  open and whether it counts as started.
-/

namespace Passthrough

open EngineM SimulatedHost

namespace Engine

/-! ## What is told -/

/-- What is to be known of an engine. -/
def picture {H : Type} (e : Engine H) : Picture := ⟨e.holdsStreams, e.started⟩

/-- **An engine that tells** what becomes of it. -/
def Tells (e e' : SimulatedEngine) : Prop :=
  ∃ news, e'.board = e.board.publishAll news ∧ e.picture.follow? news = some e'.picture

variable {e e' e'' : SimulatedEngine}

/-- A step that publishes nothing has to leave the picture as it is, and then it tells all there
is. -/
theorem tells_of_same (hboard : e'.board = e.board) (hpicture : e'.picture = e.picture) :
    Tells e e' :=
  ⟨[], by rw [hboard, NoticeBoard.publishAll_nil], by rw [hpicture]; rfl⟩

theorem Tells.refl (e : SimulatedEngine) : Tells e e := tells_of_same rfl rfl

theorem Tells.trans (h : Tells e e') (h' : Tells e' e'') : Tells e e'' := by
  obtain ⟨news, hboard, hseen⟩ := h
  obtain ⟨news', hboard', hseen'⟩ := h'
  exact ⟨news ++ news', by rw [hboard', hboard, NoticeBoard.publishAll_append],
    Picture.follow?_append hseen hseen'⟩

/-- Asides, of an engine whose picture has not changed: they may say what they like about it. -/
theorem tells_of_aside {news : List Notice} (hboard : e'.board = e.board.publishAll news)
    (hnews : ∀ n ∈ news, n.kind.isAside = true) (hpicture : e'.picture = e.picture) : Tells e e' :=
  ⟨news, hboard, by rw [hpicture]; exact Picture.follow?_of_aside hnews⟩

/-- What has been done without a word is told of by the notice that follows. Asides may come before
it, as the warnings about slow streams do. The picture follows asides without a change
(`follow?_of_aside`), so that only the last notice counts. -/
theorem tells_late {kind : Occurrence} {detail : Option String} {news : List Notice}
    (hboard : e'.board = e.board.publishAll news) (hnews : ∀ n ∈ news, n.kind.isAside = true)
    (h : e.picture.see? ⟨kind, detail⟩ = some e'.picture) :
    Tells e { e' with board := e'.board.publish kind detail } := by
  refine ⟨news ++ [⟨kind, detail⟩], ?_, ?_⟩
  · rw [NoticeBoard.publishAll_append, ← hboard]
    exact NoticeBoard.publish_eq_publishAll ..
  · refine Picture.follow?_append (Picture.follow?_of_aside hnews) ?_
    rw [Picture.follow?_singleton]
    exact h

/-- So it is where nothing else has been published: the programs of the pair are silent, and the
call that runs one says at its end what has come of it. -/
theorem tells_next {kind : Occurrence} {detail : Option String} (hboard : e'.board = e.board)
    (h : e.picture.see? ⟨kind, detail⟩ = some e'.picture) :
    Tells e { e' with board := e'.board.publish kind detail } :=
  tells_late (hboard.trans e.board.publishAll_nil.symm) (by simp) h

/-- A warning tells neither of the pair nor of its start, so that opening streams may warn at any
point. -/
theorem isAside_of_warning {n : Notice} (h : n.kind = .warning) : n.kind.isAside = true := by
  rw [h]
  rfl

theorem Closed.picture (h : Closed e) : e.picture = {} := by
  unfold Engine.picture
  rw [h.holdsStreams, h.started]

/-- The picture of an open engine is open, and its second mark is the one that the engine keeps. -/
theorem Open.picture (h : Open e) : e.picture = ⟨true, e.started⟩ := by
  unfold Engine.picture
  rw [h.holdsStreams]

/-! ## The lifecycle -/

/-- An opening tells that the pair is open, if it is; one that fails tells nothing, and has changed
nothing that could be told. What is published on the way are warnings at most
(`publishes_openSides`), and those are asides. -/
theorem bringUp_tells (h : Closed e) (hn : Numbered e.host) :
    Ends EngineM.bringUp e fun _ e' => Tells e e' := by
  have hpublishes : Publishes (fun n => n.kind.isAside = true)
      (openSides : EngineM (SimulatedHost Handler) Unit) :=
    publishes_openSides fun _ => isAside_of_warning
  unfold EngineM.bringUp
  refine ((openSides_ends h hn).publishing hpublishes).bind
    (fun _ e₁ ⟨⟨_, _, hcases⟩, news, hboard, hnews⟩ => ?_)
    fun err e₁ ⟨⟨_, _, hcases⟩, news, hboard, hnews⟩ => ?_
  · rcases hcases with ⟨_, hopen, _, hstarted, _⟩ | ⟨⟨_, herr⟩, _⟩
    · obtain ⟨s, hin⟩ := hopen.occupied .input
      refine ends_bind_of_ok (inputRate_of_occupied hin) (ends_get_bind (ends_publish ?_))
      refine tells_late hboard hnews ?_
      rw [h.picture, hopen.picture, hstarted]
      rfl
    · cases herr
  -- an opening that fails is closed again, and nothing but warnings has been told
  · rcases hcases with ⟨hok, _⟩ | ⟨_, hclosed⟩
    · cases hok
    · exact tells_of_aside hboard hnews (hclosed.picture.trans h.picture.symm)

/-- A start tells that the pair is started, if both sides run. A start that fails tells nothing, and
the pair is neither open nor started in another way than before. -/
theorem start_tells (h : Open e) : Ends EngineM.start e fun _ e' => Tells e e' := by
  unfold EngineM.start
  refine ((startSides_ends h).silent publishes_startSides).bind
    (fun _ e₁ ⟨⟨_, _, hopen, _, hcases⟩, hboard⟩ => ?_)
    fun err e₁ ⟨⟨_, _, hopen, _, hcases⟩, hboard⟩ => ?_
  · rcases hcases with ⟨_, hstarted, _⟩ | ⟨⟨_, herr⟩, _⟩
    · refine ends_publish (tells_next hboard ?_)
      rw [h.picture, hopen.picture, hstarted]
      rfl
    · cases herr
  · rcases hcases with ⟨hok, _⟩ | ⟨_, hstarted⟩
    · cases hok
    · exact tells_of_same hboard (by rw [h.picture, hopen.picture, hstarted])

theorem Halts.picture (h : Halts e e') (hs : Sound e) : e'.picture = ⟨e.holdsStreams, false⟩ := by
  rcases hs.shape with hc | ho
  · rw [(h.closed hc).picture, hc.holdsStreams]
  · rw [(h.open ho).picture, h.started, ho.holdsStreams]

/-- A stop tells that the pair is stopped, if it counted as started, even where the host has
refused. What has been halted is not started any more (`Halts.picture`), and for a pair that was not
there is nothing to tell. -/
theorem stop_tells (h : Sound e) : Ends EngineM.stop e fun _ e' => Tells e e' := by
  unfold EngineM.stop
  refine ends_get_bind (((stopSides_ends h.settled).silent publishes_stopSides).attempt_bind
    fun r e₁ ⟨hhalt, hboard⟩ => ?_)
  cases hwas : e.started with
  | true =>
    refine ends_publish_bind (ends_ofExcept (tells_next hboard ?_))
    rw [hhalt.picture h]
    rfl
  | false =>
    refine ends_ofExcept (tells_of_same hboard ?_)
    rw [hhalt.picture h, picture, hwas]

/-- A closing tells that the pair is closed, if it was open. Everything is closed after it whatever
the host has answered, so the notice is right in each case. -/
theorem bringDown_tells (h : Sound e) : Ends EngineM.bringDown e fun _ e' => Tells e e' := by
  unfold EngineM.bringDown
  refine ends_get_bind (((shutDown_ends h.settled).silent publishes_shutDown).attempt_bind
    fun r e₁ ⟨⟨hclosed, _, _⟩, hboard⟩ => ?_)
  cases hwas : e.holdsStreams with
  | true =>
    refine ends_publish_bind (ends_ofExcept (tells_next hboard ?_))
    rw [hclosed.picture]
    rfl
  | false =>
    exact ends_ofExcept (tells_of_same hboard
      (hclosed.picture.trans (h.isClosed hwas).picture.symm))

theorem Tells.effectOn (h : Tells e e') (effectOn : Bool) : Tells e { e' with effectOn } := h

/-- Turning the effect on tells of the opening and of the start; where the start fails, of the
opening and of the closing that follows. A pair that is open already is refused, without a change
and without a word. -/
theorem switch_on_tells (hoff : e.effectOn = false) (h : Sound e) :
    Ends (EngineM.switch true) e fun _ e' => Tells e e' := by
  rcases h.shape with hc | ho
  · unfold EngineM.switch
    refine ends_get_bind ?_
    simp only [hoff, Bool.true_eq_false, if_false, if_true]
    refine ((bringUp_closed_ends hc h.numbered).and (bringUp_tells hc h.numbered)).bind
      (fun _ e₁ ⟨⟨hkeep₁, _, hcases⟩, htells₁⟩ => ?_) fun err e₁ ⟨_, htells₁⟩ => htells₁
    rcases hcases with ⟨_, hfresh, _, _⟩ | ⟨⟨_, herr⟩, _⟩
    · refine ((start_ends hfresh.isOpen).and (start_tells hfresh.isOpen)).attempt_bind
        fun r e₂ ⟨⟨hkeep₂, _, hopen₂, hchannel₂, _⟩, htells₂⟩ => ?_
      cases r with
      | ok _ => exact ends_modify ((htells₁.trans htells₂).effectOn true)
      -- what did not start is closed again, and told of as closed
      | error err =>
        have hsound₁ : Sound e₁ := (leaves_fresh hkeep₁ hfresh).sound h
        have hsound₂ : Sound e₂ := (leaves_open hkeep₂ hopen₂ hchannel₂).sound hsound₁
        refine (bringDown_tells hsound₂).attempt_bind fun _ e₃ htells₃ => ?_
        exact ends_fail ((htells₁.trans htells₂).trans htells₃)
    · cases herr
  · exact ends_of_error (switch_on_of_open hoff ho) (.refl e)

/-- Turning the effect off tells of the stop and of the closing. Both programs are attempted, and
each of them tells what it has done even if it answers with an error. -/
theorem switch_off_tells (hon : e.effectOn = true) (h : Sound e) :
    Ends (EngineM.switch false) e fun _ e' => Tells e e' := by
  unfold EngineM.switch
  refine ends_get_bind ?_
  simp only [hon, Bool.false_eq_true, if_false]
  refine ((stop_leaves h).and (stop_tells h)).attempt_bind fun _ e₁ ⟨hleaves₁, htells₁⟩ => ?_
  refine (bringDown_tells (hleaves₁.sound h)).attempt_bind fun _ e₂ htells₂ => ?_
  exact ends_modify_bind (ends_ofExcept ((htells₁.trans htells₂).effectOn false))

/-- Switching tells what it does either way, and where the effect is as asked, it does nothing. -/
theorem switch_tells (h : Sound e) (on : Bool) :
    Ends (EngineM.switch on) e fun _ e' => Tells e e' := by
  by_cases hsame : e.effectOn = on
  · exact ends_of_ok (switch_of_eq hsame) (.refl e)
  · cases on with
    | true => exact switch_on_tells (by simpa using hsame) h
    | false => exact switch_off_tells (by simpa using hsame) h

/-! ## Recovery -/

/-- **A repair** is told of by how it has ended: an open pair stays open, or it is closed. The
closing and the opening in between are not told, since the session goes on. -/
theorem repair_told (h : Sound e) : Ends EngineM.repair e fun _ e' => Tells e e' := by
  by_cases hneeded : NeedsRepair e
  · obtain ⟨hheld, hlost⟩ := hneeded
    have ho : Open e := h.isOpen hheld
    refine ((repair_ends ho h.numbered hlost).and (repair_tells ho h.numbered hlost)).mono
      fun r e' ⟨⟨_, hcases⟩, ⟨warnings, hwarn, hboard⟩, _⟩ => ?_
    refine ⟨_, hboard, Picture.follow?_append
      (Picture.follow?_of_aside fun n hn => isAside_of_warning (hwarn n hn)) ?_⟩
    rw [Picture.follow?_singleton, ho.picture]
    rcases hcases with ⟨rfl, hrep⟩ | ⟨⟨err, rfl⟩, hended⟩
    · rw [hrep.isOpen.picture, hrep.started]
      rfl
    · rw [hended.isClosed.picture]
      rfl
  · refine ends_of_ok (repair_of_sound fun hheld d hd => hneeded ⟨hheld, d, hd⟩) (.refl e)

/-- The reports of faults are asides: they name a direction and the bytes, and say nothing of the
pair. The induction is on the batch. -/
theorem publishes_publishFaults (batch : List Event) : Publishes (fun n => n.kind.isAside = true)
    (publishFaults batch : EngineM (SimulatedHost Handler) Unit) := by
  induction batch with
  | nil => exact publishes_pure ()
  | cons event rest ih =>
    cases event with
    | disconnected _ _ => exact ih
    | fault d expected actual =>
      exact Publishes.bind (publishes_publish (by rfl)) fun _ => ih

/-- Faults are told of and change nothing else, so that the end of the session that follows starts
from the same picture. -/
theorem publishFaults_ends (batch : List Event) (e : SimulatedEngine) :
    Ends (publishFaults batch) e fun r e' => r = .ok () ∧ ∃ news,
      e' = { e with board := e.board.publishAll news } ∧ ∀ n ∈ news, n.kind.isAside = true := by
  obtain ⟨board, hrun⟩ := publishFaults_apply batch e
  obtain ⟨news, hboard, hnews⟩ := publishes_publishFaults batch e
  rw [final_of_ok hrun] at hboard
  exact ends_of_ok hrun ⟨rfl, news, by rw [← hboard], hnews⟩

/-- The end of a session over a fault is told of as a stop and a closing, like one that the owner
asks for. It is only the mark of the effect that is taken back besides, and no picture has that in
it. -/
theorem endSession_tells (h : Sound e) : Ends endSession e fun _ e' => Tells e e' := by
  unfold endSession
  refine ends_get_bind ?_
  cases hheld : e.holdsStreams with
  | false => exact ends_pure (.refl e)
  | true =>
    refine ((stop_leaves h).and (stop_tells h)).attempt_bind fun _ e₁ ⟨hleaves₁, htells₁⟩ => ?_
    refine (bringDown_tells (hleaves₁.sound h)).attempt_bind fun _ e₂ htells₂ => ?_
    exact ends_modify ((htells₁.trans htells₂).effectOn false)

/-- Attending to a batch tells what has come of it: an end, a repair, or nothing but asides. The
asides about faults come first, and `Tells.trans` puts the rest behind them. -/
theorem attend_tells (h : Sound e) (batch : List Event) :
    Ends (attend batch) e fun _ e' => Tells e e' := by
  unfold attend
  refine (publishFaults_ends batch e).bind (fun _ e₁ ⟨_, news, he₁, hnews⟩ => ?_)
    fun err e₁ ⟨hr, _⟩ => by cases hr
  subst he₁
  have htells₁ : Tells e { e with board := e.board.publishAll news } :=
    tells_of_aside rfl hnews rfl
  -- a notice changes nothing that soundness speaks of
  have hsound₁ : Sound { e with board := e.board.publishAll news } :=
    ((unnoticed_board e _).leaves h).sound h
  cases batch.any Event.isFault with
  | true => exact (endSession_tells hsound₁).mono fun _ _ htells₂ => htells₁.trans htells₂
  | false =>
    cases batch.any Event.isDisconnect with
    | true =>
      exact (repair_told hsound₁).attempt_bind fun _ _ htells₂ =>
        ends_pure (htells₁.trans htells₂)
    | false => exact ends_pure htells₁

/-! ## Every step -/

theorem configures_tells {c : Call} (hc : c.configures = true) : Tells e (e.call c) := by
  obtain ⟨_, _, heq, _⟩ := e.call_of_configures hc
  rw [heq]
  exact tells_of_same rfl rfl

/-- What is attended to has been taken before, and nothing is told of that. -/
theorem attend_taken_tells (h : Sound e) (batch : List Event) :
    ∃ e', e.taken.runAnyway (attend batch) = (.ok (), e') ∧ Tells e e' := by
  obtain ⟨r, hreply, ⟨hr, _⟩, htells⟩ :=
    ((attend_leaves h.taken batch).and (attend_tells h.taken batch)).runAnyway
  rw [hr] at hreply
  exact ⟨_, Prod.ext hreply rfl, htells⟩

/-- **Every call tells** what has become of the pair, whichever call it is and however it ends. Each
call is looked up in the lemma of its program, or in the one that says that it is refused. -/
theorem call_tells (h : Sound e) (c : Call) : Tells e (e.call c) := by
  cases c with
  | configure | selectApi | selectDevice | selectObserver => exact configures_tells rfl
  | bringUp =>
    rcases h.shape with hc | ho
    · obtain ⟨_, _, htells⟩ := (bringUp_tells hc h.numbered).run h.poisoned
      exact htells
    · -- refused on an open pair, without a word
      have hrefused : e.bringUp = (.error (.error .alreadyOpen), e) :=
        run_of_error (bringUp_of_open ho) h.poisoned
      show Tells e e.bringUp.2
      rw [hrefused]
      exact .refl e
  | start =>
    rcases h.shape with hc | ho
    · -- refused on a closed one, without a word
      have hrefused : e.start = (.error (.error .notOpen), e) :=
        run_of_error (start_of_closed hc) h.poisoned
      show Tells e e.start.2
      rw [hrefused]
      exact .refl e
    · obtain ⟨_, _, htells⟩ := (start_tells ho).run h.poisoned
      exact htells
  | stop =>
    obtain ⟨_, _, htells⟩ := (stop_tells h).run h.poisoned
    exact htells
  | bringDown =>
    obtain ⟨_, _, htells⟩ := (bringDown_tells h).run h.poisoned
    exact htells
  | switch on =>
    obtain ⟨_, _, htells⟩ := (switch_tells h on).run h.poisoned
    exact htells
  | trySwitch on =>
    obtain ⟨_, _, _, htells, _⟩ := (trySwitch_ends (switch_tells h on)).run h.poisoned
    show Tells e (e.trySwitch on).2
    rw [trySwitch_eq_run h.poisoned]
    exact htells
  | repair =>
    obtain ⟨_, _, htells⟩ := (repair_told h).run h.poisoned
    exact htells
  | attendPending =>
    exact attendPending_cases (P := Tells e) (.refl e) (tells_of_same rfl rfl)
      (attend_taken_tells h _)
  | runWorker =>
    exact runWorker_cases (P := Tells e) (.refl e) (tells_of_same rfl rfl)
      (attend_taken_tells h _)

/-- **Every step tells.** What the hardware does is not told of, and does not change the picture: a
side that fails is open all the same, and started if it was. -/
theorem perform_tells (h : Sound e) (a : Action) : Tells e (e.perform a) := by
  cases a with
  | call c => exact call_tells h c
  | _ => exact tells_of_same rfl rfl

/-- **A whole run** tells what has become of the pair, by induction with `perform_tells`. -/
theorem after_tells (h : Sound e) (as : List Action) : Tells e (e.after as) := by
  induction as generalizing e with
  | nil => exact .refl e
  | cons a as ih => exact (perform_tells h a).trans (ih (perform_sound h a).1)

/-! ## Subscribers -/

/-- What a subscriber gets that comes for it after each of these parts of a run. -/
def heard (e : SimulatedEngine) (s : Subscriber) : List (List Action) → List Received
  | [] => []
  | as :: rest =>
    let (got, s) := (e.after as).board.receive s
    got ++ heard (e.after as) s rest

end Engine

/-- A subscriber that is up to date and does not lag gets all that is new, and is up to date again.
A subscriber who lags hears of it first, so that without such a word none of the news was
overwritten. -/
theorem NoticeBoard.receive_publishAll {b : NoticeBoard} {news : List Notice}
    (hall : ∀ missed, Received.lagged missed ∉ ((b.publishAll news).receive b.subscribe).1) :
    (b.publishAll news).receive b.subscribe
      = (news.map .notice, (b.publishAll news).subscribe) := by
  let start := max b.subscribe.position (b.publishAll news).oldest
  -- whoever missed some would have been told so
  have hmissed : start - b.subscribe.position = 0 := by
    by_contra hne
    refine hall (start - b.subscribe.position) (List.mem_append_left _ ?_)
    rw [if_neg hne]
    exact List.mem_singleton_self _
  have hstart : start = b.published.toList.length :=
    Nat.le_antisymm (Nat.sub_eq_zero_iff_le.mp hmissed) (Nat.le_max_left _ _)
  have hrest : (b.publishAll news).published.toList.drop start = news := by
    rw [hstart, published_publishAll, List.drop_left]
  refine Prod.ext ?_ rfl
  show (if start - b.subscribe.position = 0 then [] else _)
    ++ ((b.publishAll news).published.toList.drop start).map Received.notice = _
  rw [if_pos hmissed, hrest]
  rfl

namespace Engine

variable {e : SimulatedEngine}

/-- **A subscriber that misses nothing** gets all that has been published since it subscribed,
however often it comes for it. The induction is on the parts of the run, at whose ends the
subscriber comes for its notices. -/
theorem heard_published (h : Sound e) (parts : List (List Action))
    (hall : ∀ missed, .lagged missed ∉ e.heard e.board.subscribe parts) :
    ∃ ns : List Notice, e.heard e.board.subscribe parts = ns.map .notice
      ∧ (e.after parts.flatten).board = e.board.publishAll ns := by
  induction parts generalizing e with
  | nil => exact ⟨[], rfl, e.board.publishAll_nil.symm⟩
  | cons as rest ih =>
    obtain ⟨news, hboard, _⟩ := after_tells h as
    have hheard : e.heard e.board.subscribe (as :: rest)
        = ((e.after as).board.receive e.board.subscribe).1
          ++ (e.after as).heard ((e.after as).board.receive e.board.subscribe).2 rest := rfl
    rw [hheard] at hall ⊢
    have hnews : ∀ missed,
        Received.lagged missed ∉ ((e.board.publishAll news).receive e.board.subscribe).1 := by
      rw [← hboard]
      exact fun missed hlag => hall missed (List.mem_append_left _ hlag)
    have hreceive : (e.after as).board.receive e.board.subscribe
        = (news.map .notice, (e.after as).board.subscribe) := by
      rw [hboard]
      exact NoticeBoard.receive_publishAll hnews
    -- up to date again, the subscriber goes on as from the start
    rw [hreceive] at hall ⊢
    obtain ⟨more, hmore, hboard'⟩ := ih (after_sound h as).1 fun missed hlag =>
      hall missed (List.mem_append_right _ hlag)
    refine ⟨news ++ more, ?_, ?_⟩
    · rw [hmore, List.map_append]
    · rw [List.flatten_cons, after_append, hboard', hboard, NoticeBoard.publishAll_append]

/-- What it gets it can follow to the engine as it is: `after_tells` for what was published, and
`heard_published` for what was heard. The notices are the same because a board that has grown by
them tells which they were (`publishAll_injective`). -/
theorem heard_follows (h : Sound e) (parts : List (List Action))
    (hall : ∀ missed, .lagged missed ∉ e.heard e.board.subscribe parts) :
    ∃ ns : List Notice, e.heard e.board.subscribe parts = ns.map .notice
      ∧ e.picture.follow? ns = some (e.after parts.flatten).picture := by
  obtain ⟨ns, hheard, hboard⟩ := heard_published h parts hall
  obtain ⟨news, hboard', hseen⟩ := after_tells h parts.flatten
  have hsame : ns = news := NoticeBoard.publishAll_injective _ (hboard.symm.trans hboard')
  rw [← hsame] at hseen
  exact ⟨ns, hheard, hseen⟩

/-- **Notices tell the truth.** Take any run, and a subscriber that has come for its notices at any
points of it, the last time at its end, and has missed none. The pair is open if the last notice
about it was of its opening, and closed if it was of its closing or there was none; and it counts as
started exactly if the last notice about that was of its start. Between two openings the subscriber
has heard of a closing. -/
theorem heard_tells (config : Config) (recovery : Recovery) (noticeCapacity : Nat)
    (parts : List (List Action))
    (hall : ∀ missed, .lagged missed ∉
      (create {} config recovery noticeCapacity : SimulatedEngine).heard
        (NoticeBoard.ofCapacity noticeCapacity).subscribe parts) :
    let new : SimulatedEngine := create {} config recovery noticeCapacity
    let e := new.after parts.flatten
    ∃ ns : List Notice, new.heard new.board.subscribe parts = ns.map .notice
      ∧ ((Open e ∧ (lastAbout Occurrence.concernsPair ns).any Occurrence.isOpening = true)
        ∨ (Closed e ∧ (lastAbout Occurrence.concernsPair ns).any Occurrence.isOpening = false))
      ∧ (e.started = true ↔ lastAbout Occurrence.concernsStart ns = some .started)
      ∧ ∀ before n between n' rest, ns = before ++ n :: between ++ n' :: rest →
          n.kind.isOpening = true → n'.kind.isOpening = true →
          ∃ m ∈ between, m.kind.isClosing = true := by
  intro new e
  have hnew : Sound new := sound_create config recovery noticeCapacity
  have h : Sound e := (after_sound hnew parts.flatten).1
  obtain ⟨ns, hheard, hseen⟩ := heard_follows hnew parts hall
  obtain ⟨hopen, hstarted⟩ := Picture.follow?_marks hseen
  refine ⟨ns, hheard, ?_, ?_, fun before n between n' rest hns hn hn' => ?_⟩
  · -- the picture that the notices give is the one of the engine
    have hpicture : (lastAbout Occurrence.concernsPair ns).any Occurrence.isOpening
        = e.holdsStreams := by
      refine Eq.trans ?_ hopen.symm
      cases lastAbout Occurrence.concernsPair ns <;> rfl
    rw [hpicture]
    rcases h.shape with hc | ho
    · exact Or.inr ⟨hc, hc.holdsStreams⟩
    · exact Or.inl ⟨ho, ho.holdsStreams⟩
  · have hpicture : e.started = (lastAbout Occurrence.concernsStart ns).elim false
        (decide <| · = .started) := hstarted
    rw [hpicture]
    cases lastAbout Occurrence.concernsStart ns <;> simp
  · rw [hns] at hseen
    exact Picture.follow?_alternates hseen hn hn'

/-- The effect is turned on, its input is lost and replaced, and then its output is lost for
good. -/
def lostTwice : List (List Action) :=
  [[.call (.switch true)], [.unplug .input .disconnected, .call .attendPending],
    [.unplug .output .disconnected, .script (.openFault .output .unavailable),
      .call .attendPending]]

/-- Whoever hears of all that knows in the end that everything is closed, although nobody has called
for a closing in it. What is heard is computed, and the last notice about the pair among it is that
of the repair that failed. -/
theorem heard_tells_lostTwice :
    let new : SimulatedEngine := create {} { sampleRate := 8000, periodMs := 1 }
    (∀ missed, .lagged missed ∉ new.heard new.board.subscribe lostTwice)
      ∧ Closed (new.after lostTwice.flatten) := by
  have hboard : NoticeBoard.ofCapacity 64 = { kept := 64 } :=
    congrArg (NoticeBoard.mk · #[]) (by decide +kernel : (NoticeBoard.ofCapacity 64).kept = 64)
  have hheard : (create {} { sampleRate := 8000, periodMs := 1 } : SimulatedEngine).heard
      (NoticeBoard.ofCapacity 64).subscribe lostTwice = List.map .notice
        [⟨.streamsOpened 8000 8, none⟩, ⟨.started, none⟩, ⟨.deviceChangeRecovered, none⟩,
          ⟨.deviceChangeFailed,
            some (AudioError.streamOpenFailed .output .unavailable).message⟩] := by
    unfold create
    rw [hboard]
    rfl
  intro new
  have hall : ∀ missed, .lagged missed ∉ new.heard new.board.subscribe lostTwice := by
    intro missed
    rw [show new.heard new.board.subscribe lostTwice = _ from hheard]
    simp
  obtain ⟨ns, hns, hpair, _⟩ :=
    heard_tells { sampleRate := 8000, periodMs := 1 } .manual 64 lostTwice hall
  -- the failed repair is the last word about the pair
  have hlast : lastAbout Occurrence.concernsPair ns = some .deviceChangeFailed := by
    rw [(List.map_inj_right fun _ _ => Received.notice.inj).mp (hns.symm.trans hheard)]
    rfl
  refine ⟨hall, ?_⟩
  rw [hlast] at hpair
  rcases hpair with ⟨_, hopening⟩ | ⟨hclosed, _⟩
  · cases hopening
  · exact hclosed

end Engine

end Passthrough
