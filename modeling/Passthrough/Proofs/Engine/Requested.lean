import Passthrough.Proofs.Engine.InForce
import Passthrough.Proofs.Engine.Lasting
/-!
# What an engine requests

The host keeps the requests for streams that it receives, whether it grants them or not. What one
step of an engine adds to them is told in full by `Requests`: nothing, the streams of a pair, or one
output beside an input that stays.

Every request is what the configuration asks for (`Config.inputSpec`, `Config.outputSpec`), an
output at the rate of the input that is held while it is requested. For a pair that is the input
that has been granted just before; for an output that is replaced, it is the one that has been held
all along.

Only opening a side requests anything. So whatever stops, starts and closes requests nothing and
takes hold of nothing (`Unasked`), which lasts through all programs that do not open
(`steady_unasked`); only those that do have to be looked at one by one.

* **`openSide_requests`**, **`openSides_requests`**, **`replaceOutput_requests`** — the programs that
  open something.
* **`repair_requests`** — recovery of a pair and of an output alone.
* **`call_requests`**, **`perform_requests`** — every call, and every step of a run.
-/

namespace Passthrough

open EngineM SimulatedHost

/-! ## Hosts that are not asked to open -/

namespace SimulatedHost

variable {κ : Type} {h h' h'' : SimulatedHost κ}

/-- **No stream requested** between two states of a host; it would grant what it would have granted
before. -/
structure Unrequested (h h' : SimulatedHost κ) : Prop where
  requests : h'.requests = h.requests
  opened : h'.opened = h.opened
  substitutes : h'.substitutes = h.substitutes

theorem Unrequested.refl (h : SimulatedHost κ) : Unrequested h h := ⟨rfl, rfl, rfl⟩

/-- Where neither of two changes asks a host for a stream, both together do not. -/
theorem Unrequested.trans (hu : Unrequested h h') (hu' : Unrequested h' h'') :
    Unrequested h h'' where
  requests := hu'.requests.trans hu.requests
  opened := hu'.opened.trans hu.opened
  substitutes := hu'.substitutes.trans hu.substitutes

/-- Starting a stream requests none, and uses up at most the fault that was planted for starts. The
requests of a host grow with openings alone, and the pending faults for openings stay. -/
theorem unrequested_startStream (s : StreamHandle) (h : SimulatedHost κ) :
    Unrequested h (startStream s h).2 := by
  unfold startStream
  dsimp only
  split
  · exact ⟨rfl, rfl, rfl⟩
  · split
    · exact ⟨rfl, rfl, rfl⟩
    · split <;> exact ⟨rfl, rfl, rfl⟩

/-- Stopping a stream requests none. -/
theorem unrequested_stopStream (s : StreamHandle) (h : SimulatedHost κ) :
    Unrequested h (stopStream s h).2 := by
  unfold stopStream
  dsimp only
  split
  · exact ⟨rfl, rfl, rfl⟩
  · split <;> exact ⟨rfl, rfl, rfl⟩

theorem unrequested_closeStream (s : StreamHandle) (h : SimulatedHost κ) :
    Unrequested h (closeStream s h).2 := by
  unfold closeStream
  split <;> exact ⟨rfl, rfl, rfl⟩

theorem unrequested_discard (s : StreamHandle) (h : SimulatedHost κ) :
    Unrequested h (discard s h).2 := by
  unfold discard
  dsimp only
  split <;> exact ⟨rfl, rfl, rfl⟩

/-- Every opening leaves its request, granted or refused, and is the only thing that does. -/
theorem requests_openStream (side : Direction) (r : StreamSpec) (callback : κ)
    (h : SimulatedHost κ) : (openStream side r callback h).2.requests = h.requests ++ [r] := by
  unfold openStream
  dsimp only
  split <;> rfl

/-! The hardware requests nothing. -/

theorem requests_answered (h : SimulatedHost κ) (id : Nat) (verdict : Verdict) :
    (h.answered id verdict).requests = h.requests := by
  cases verdict <;> rfl

variable {σ : Type} [StreamOwner κ σ]

theorem requests_feed (frames : List Int16) (h : SimulatedHost κ) (s : σ) :
    (h.feed frames s).2.1.requests = h.requests := by
  unfold feed
  split
  · rfl
  · exact requests_answered _ _ _

theorem requests_draw (dest : List Int16) (h : SimulatedHost κ) (s : σ) :
    (h.draw dest s).2.2.1.requests = h.requests := by
  unfold draw
  split
  · rfl
  · exact requests_answered _ _ _

/-- The loss of a device requests nothing; a replacement is requested only when the loss is attended
to. -/
theorem requests_unplug (d : Direction) (error : HostError) (h : SimulatedHost κ) (s : σ) :
    (h.unplug d error s).2.1.requests = h.requests := by
  unfold unplug
  split <;> rfl

end SimulatedHost

namespace Engine

variable {e e' e'' : SimulatedEngine} {d : Direction} {s : StreamHandle} {rs : List StreamSpec}

/-! ## Without an opening -/

/-- **Nothing asked for** between two states of an engine, which holds no stream that it did not
hold. -/
structure Unasked (e e' : SimulatedEngine) : Prop where
  config : e'.config = e.config
  host : Unrequested e.host e'.host
  held : ∀ d s, e'.streams.get d = some s → e.streams.get d = some s

theorem Unasked.refl (e : SimulatedEngine) : Unasked e e := ⟨rfl, .refl _, fun _ _ => id⟩

theorem Unasked.trans (h : Unasked e e') (h' : Unasked e' e'') : Unasked e e'' where
  config := h'.config.trans h.config
  host := h.host.trans h'.host
  held d s hs := h.held d s (h'.held d s hs)

/-- A change of the host and the line asks for nothing, if the host is not asked to open. -/
theorem unasked_host {host : SimulatedHost Handler} (hhost : Unrequested e.host host)
    (line : Line) : Unasked e { e with host, line } :=
  ⟨rfl, hhost, fun _ _ => id⟩

/-- Changes that the sides do not see ask for nothing. With the programs of one side this makes
`steady_unasked`. -/
theorem Unasked.of_marks (h : Unasked e e') (marks : Marks e' e'') : Unasked e e'' where
  config := marks.config.trans h.config
  host := marks.host ▸ h.host
  held d s hs := h.held d s (marks.streams ▸ hs)

/-- An engine that held nothing holds nothing, as long as nothing is opened. That is so for either
side, as a handle that is held now was held before. -/
theorem Unasked.unheld (h : Unasked e e') (hnone : ∀ d, e.streams.get d = none) :
    e'.holdsStreams = false := by
  rw [← Bool.not_eq_true, holdsStreams_iff]
  rintro ⟨d, hd⟩
  obtain ⟨s, hs⟩ := Option.isSome_iff_exists.mp hd
  have hheld := h.held d s hs
  rw [hnone d] at hheld
  cases hheld

/-- The host would grant the same to a side, so that a request made later comes to what it would
have come to before. -/
theorem Unasked.upcomingHandle (h : Unasked e e') (d : Direction) :
    e'.upcomingHandle d = e.upcomingHandle d := by
  unfold Engine.upcomingHandle upcoming nextStream SimulatedHost.granted
  rw [h.config, h.host.opened, h.host.substitutes]

/-- Stopping a side of any engine asks for nothing, and takes hold of nothing. It is stated for any
engine, sound or not, so that it can be used in the middle of a program. -/
theorem unasked_stopSide (e : SimulatedEngine) (d : Direction) :
    Ends (stopSide d) e fun _ e' => Unasked e e' := by
  by_cases hr : e.state d = .running
  · cases hs : e.streams.get d with
    | none => exact ends_of_ok (stopSide_of_none hs) (.refl e)
    | some s =>
      have hhost := unrequested_stopStream s e.host
      rcases hask : SimulatedHost.stopStream s e.host with ⟨answer, host⟩
      rw [hask] at hhost
      have hstop := quiet_of_eq hask (e.line.setState d .stopping)
      cases answer with
      | ok _ => exact ends_of_ok (stopSide_of_ok hs hr hstop) (unasked_host hhost _)
      | error source => exact ends_of_error (stopSide_of_error hs hr hstop) (unasked_host hhost _)
  · exact ends_of_ok (stopSide_of_not_running hr) (.refl e)

/-- Starting a side asks for nothing. The ways out before the host is asked leave the engine as it
is. -/
theorem unasked_startSide (e : SimulatedEngine) (d : Direction) :
    Ends (startSide d) e fun _ e' => Unasked e e' := by
  cases hs : e.streams.get d with
  | none => exact ends_of_error (startSide_of_none hs) (.refl e)
  | some s =>
    cases hr : (e.state d).canMoveTo .running with
    | false => exact ends_of_error (startSide_of_not_startable hs hr) (.refl e)
    | true =>
      have hhost := unrequested_startStream s e.host
      rcases hask : SimulatedHost.startStream s e.host with ⟨answer, host⟩
      rw [hask] at hhost
      have hstart := quiet_of_eq hask e.line
      cases answer with
      | ok _ => exact ends_of_ok (startSide_of_ok hs hr hstart) (unasked_host hhost _)
      | error source =>
        exact ends_of_error (startSide_of_error hs hr hstart) (unasked_host hhost _)

/-- Closing a side asks for nothing; it lets go of what it held. Both the closing and the discarding
of the handle leave the requests alone (`unrequested_discard`). -/
theorem unasked_closeSide (e : SimulatedEngine) (d : Direction) :
    Ends (closeSide d) e fun _ e' => Unasked e e' := by
  cases hs : e.streams.get d with
  | none => exact ends_of_ok (closeSide_of_none hs) (unasked_host (.refl _) _)
  | some s =>
    have hhost := unrequested_closeStream s e.host
    rcases hask : SimulatedHost.closeStream s e.host with ⟨⟨answer, s'⟩, host⟩
    rw [hask] at hhost
    -- the side lets go of its stream, and the other one keeps what it has
    have hgone : Unasked e { e with
        host := (SimulatedHost.discard s' host).2
        streams := e.streams.set d none, line := e.line.setState d .closed } := by
      refine ⟨rfl, hhost.trans (unrequested_discard s' host), fun d' s'' hs'' => ?_⟩
      by_cases hd : d' = d
      · subst hd
        rw [Duplex.get_set] at hs''
        cases hs''
      · rwa [Duplex.get_set_ne _ _ hd] at hs''
    refine Ends.of_eq ?_ (closeSide_of_some hs (quiet_of_eq hask e.line) rfl)
    cases answer with
    | ok _ => exact ends_pure hgone
    | error source => exact ends_fail hgone

/-- **Whatever does not open** asks for nothing, and preserves what depends on what was asked for
only. -/
theorem steady_of_unasked {I : SimulatedEngine → Prop}
    (hI : ∀ {e e'}, I e → Unasked e e' → I e') : SteadyInvariant I where
  mark h marks := hI h ((Unasked.refl _).of_marks marks)
  stopSide d e h := (unasked_stopSide e d).mono fun _ _ => hI h
  startSide d e h := (unasked_startSide e d).mono fun _ _ => hI h
  closeSide d e h := (unasked_closeSide e d).mono fun _ _ => hI h

/-- **Nothing is requested** by any program that stops, starts and closes, since it lasts through
the three programs of one side that do. -/
theorem steady_unasked (e : SimulatedEngine) : SteadyInvariant (Unasked e) :=
  steady_of_unasked fun h hu => h.trans hu

/-! ## Opening -/

/-- **Opening a side** requests what the configuration asks for, once, and whether or not the host
grants it; if it succeeds, the side holds what was granted. -/
theorem openSide_requests (h : Vacant e d) (hc : e.line.channel.isSome = true) (rate : Nat) :
    Ends (openSide d rate) e fun r e' =>
      e'.host.requests = e.host.requests ++ [e.config.spec d rate]
        ∧ (r = .ok () → e'.streams.get d = some {
            id := e.host.opened + 1, properties := e.host.granted (e.config.spec d rate) }) := by
  have hrequests := requests_openStream d (e.config.spec d rate) (handlerFor d e) e.host
  rcases openStream_cases d (e.config.spec d rate) (handlerFor d e) e.host with
    ⟨source, host, hask, _⟩ | ⟨host, hask, _⟩
  · rw [hask] at hrequests
    have hrefused := quiet_of_eq hask (e.line.setState d .opening)
    exact ends_of_error (openSide_of_refused hc h.state hrefused) ⟨hrequests, nofun⟩
  · rw [hask] at hrequests
    have hopen := quiet_of_eq hask (e.line.setState d .opening)
    -- granted, but a stream that does not fit is given back
    cases hfit : checkFit e.config.period rate (e.host.granted (e.config.spec d rate)) with
    | ok _ =>
      exact ends_of_ok (openSide_of_fit hc h.state hopen hfit rfl)
        ⟨hrequests, fun _ => Duplex.get_set e.streams d _⟩
    | error err =>
      exact ends_of_error (openSide_of_misfit hc h.state hopen hfit rfl rfl) ⟨hrequests, nofun⟩

/-- **What opening a pair requests**: the input, and if that is granted the output, at the rate of
the input. -/
inductive PairRequests (e e' : SimulatedEngine) : List StreamSpec → Prop
  | input (unheld : e'.holdsStreams = false) : PairRequests e e' [e.config.inputSpec]
  | both (held : ∀ s, e'.streams.input = some s → s = e.upcomingHandle .input) :
    PairRequests e e' [e.config.inputSpec,
      e.config.outputSpec (e.upcomingHandle .input).properties.sampleRate]

/-- Nothing is asked for before the pair is opened, so the requests may be counted from there. The
number that the input will get is also the same from there, for it counts openings
(`upcomingHandle`). -/
theorem PairRequests.of_unasked (h : PairRequests e' e'' rs) (hu : Unasked e e') :
    PairRequests e e'' rs := by
  cases h with
  | input unheld =>
    rw [hu.config]
    exact .input unheld
  | both held =>
    rw [hu.config, hu.upcomingHandle]
    exact .both (hu.upcomingHandle .input ▸ held)

/-- Nothing is asked for after that, so they may be counted up to any later engine. -/
theorem PairRequests.trans_unasked (h : PairRequests e e' rs) (hu : Unasked e' e'') :
    PairRequests e e'' rs := by
  cases h with
  | input unheld => exact .input (hu.unheld (get_eq_none_of_unheld unheld))
  | both held => exact .both fun s hs => held s (hu.held .input s hs)

/-- A pair is opened between two states of an engine, once. -/
def RequestsPair (e e' : SimulatedEngine) : Prop :=
  ∃ rs, e'.host.requests = e.host.requests ++ rs ∧ PairRequests e e' rs

theorem RequestsPair.of_unasked (h : RequestsPair e' e'') (hu : Unasked e e') :
    RequestsPair e e'' := by
  obtain ⟨rs, hrequests, hpair⟩ := h
  exact ⟨rs, by rw [hrequests, hu.host.requests], hpair.of_unasked hu⟩

theorem RequestsPair.trans_unasked (h : RequestsPair e e') (hu : Unasked e' e'') :
    RequestsPair e e'' := by
  obtain ⟨rs, hrequests, hpair⟩ := h
  exact ⟨rs, by rw [hu.host.requests, hrequests], hpair.trans_unasked hu⟩

theorem steady_requestsPair (e : SimulatedEngine) : SteadyInvariant (RequestsPair e) :=
  steady_of_unasked RequestsPair.trans_unasked

/-- **Opening the pair** requests the input, and, if that is granted and fits, the output at the
rate of the input; never an output alone. What `openSide_ends` says of the shapes and what
`openSide_requests` says of the requests are followed together; the failures after that open nothing
and so keep what has been asked (`steady_requestsPair`). -/
theorem openSides_requests (h : Closed e) (hn : Numbered e.host) :
    Ends openSides e fun _ e' => RequestsPair e e' := by
  unfold openSides
  refine ends_get_bind ?_
  simp only [h.holdsStreams, Bool.false_eq_true, if_false]
  refine ends_modify_bind ?_
  let e₁ : SimulatedEngine := { e with
    line := e.line.renew e.config.period.samples }
  have hvacant : ∀ d, Vacant e₁ d := fun d => (h.vacant d).of_same rfl rfl rfl
  refine ((openSide_ends (e := e₁) (hvacant .input) rfl hn).and
    (openSide_requests (e := e₁) (hvacant .input) rfl _)).attempt_bind
    fun r₂ e₂ ⟨⟨hact₂, hcases⟩, hrequests₂, hheld₂⟩ => ?_
  have hout : Vacant e₂ .output := hact₂.vacant (by simp) (hvacant .output)
  rcases hcases with ⟨rfl, ⟨s, hin⟩, _⟩ | ⟨⟨err, rfl⟩, hin⟩
  · -- the input that is held now is the one that was granted
    have hs : s = e.upcomingHandle .input := Option.some.inj (hin.handle.symm.trans (hheld₂ rfl))
    refine ends_bind_of_ok (inputRate_of_occupied hin) ?_
    have hsome : e₂.line.channel.isSome = true := by
      rw [hact₂.channel]
      rfl
    refine ((openSide_ends hout hsome (hn.of_follows hact₂.host)).and
      (openSide_requests hout hsome _)).attempt_bind
      fun r₃ e₃ ⟨⟨hact₃, _⟩, hrequests₃, _⟩ => ?_
    have hpair : RequestsPair e e₃ := by
      refine ⟨_, ?_, .both fun s' hs' => ?_⟩
      · rw [hrequests₃, hrequests₂, hact₂.config, ← hs]
        have hrate := hin.admitted.sampleRate
        rw [hact₂.config] at hrate
        rw [hrate, List.append_assoc]
        rfl
      · have hsame : e₃.streams.get .input = e₂.streams.get .input :=
          (hact₃.other .input (by simp)).handle
        exact Option.some.inj (hs'.symm.trans (hsame.trans (hheld₂ rfl)))
    cases r₃ with
    | ok _ => exact ends_pure hpair
    | error err =>
      have hsteady := steady_requestsPair e
      exact (hsteady.detach.bind fun _ => (hsteady.closeSide .input).attempt_bind fun _ =>
        hsteady.abandonPair err) e₃ hpair
  · have hsteady := steady_unasked e₂
    have hnone : ∀ d, e₂.streams.get d = none := by
      intro d
      cases d with
      | input => exact hin.handle
      | output => exact hout.handle
    refine ((hsteady.detach.bind fun _ => hsteady.abandonPair err) e₂ (.refl e₂)).mono
      fun _ e₃ hu => ⟨_, ?_, .input (hu.unheld hnone)⟩
    rw [hu.host.requests, hrequests₂]
    rfl

/-- **Replacing the output** requests one, at the rate of the input that is held, and as the
configuration is now: a device that was chosen since is asked for. -/
theorem replaceOutput_requests (h : Open e) (hin : Occupied e .input s) (restart : Bool) :
    Ends (replaceOutput restart) e fun _ e' => e'.host.requests
      = e.host.requests ++ [e.config.outputSpec s.properties.sampleRate] := by
  have hsteady := steady_unasked e
  unfold replaceOutput
  refine ends_get_bind ?_
  simp only [hin.infoOf]
  refine ((stopSide_settled (h.settled .output)).and
    (hsteady.stopSide .output e (.refl e))).attempt_bind fun _ e₁ ⟨hstop, hu₁⟩ => ?_
  refine ((closeSide_settled (hstop.settled (h.settled .output))).and
    (hsteady.closeSide .output e₁ hu₁)).attempt_bind fun _ e₂ ⟨⟨_, hvacant₂, hclose⟩, hu₂⟩ => ?_
  -- the old output goes, and the channel stays for the new one
  have hchannel := h.channel_isSome (hstop.toActsOn.trans hclose)
  refine (openSide_requests hvacant₂ hchannel _).bind (fun _ e₃ ⟨hrequests₃, _⟩ => ?_)
    fun err e₃ ⟨hrequests₃, _⟩ => ?_
  · have hrest : Lasts (Unasked e₃) (if restart then startSide .output else pure ()) :=
      lasts_ite ((steady_unasked e₃).startSide .output) (lasts_pure ())
    refine (hrest e₃ (.refl e₃)).mono fun _ e₄ hu₄ => ?_
    rw [hu₄.host.requests, hrequests₃, hu₂.host.requests, hu₂.config]
    rfl
  · rw [hrequests₃, hu₂.host.requests, hu₂.config]
    rfl

/-! ## What a step requests -/

/-- **What a step requests**: nothing, a pair, or an output for the input that is held. Where the
engine holds streams afterwards, that input is as it was. -/
inductive Requests (e e' : SimulatedEngine) : List StreamSpec → Prop
  | nothing : Requests e e' []
  | pair {rs : List StreamSpec} (pair : PairRequests e e' rs) : Requests e e' rs
  | output (s : StreamHandle) (held : e.streams.input = some s)
    (kept : e'.holdsStreams = true → SameSide .input e e') :
    Requests e e' [e.config.outputSpec s.properties.sampleRate]

/-- Nothing that counts has changed before, so what is requested from there is requested from here.
The cases are those of `Requests`, and the marks do not touch what any of them speaks of. -/
theorem Requests.of_marks (h : Requests e' e'' rs) (marks : Marks e e') : Requests e e'' rs := by
  cases h with
  | nothing => exact .nothing
  | pair hpair => exact .pair (hpair.of_unasked ((Unasked.refl e).of_marks marks))
  | output s held kept =>
    rw [marks.config]
    refine .output s (marks.streams ▸ held) fun hheld => ?_
    have hsame : SameSide .input e e' :=
      ⟨congrArg (fun states => states.get .input) marks.states,
        congrArg (fun streams => streams.get .input) marks.streams,
        congrArg (fun host => host.live .input) marks.host, marks.channelId⟩
    exact hsame.trans (kept hheld)

/-- One of these is requested between two states of an engine. -/
def Requesting (e e' : SimulatedEngine) : Prop :=
  ∃ rs, e'.host.requests = e.host.requests ++ rs ∧ Requests e e' rs

theorem Requesting.of_marks (h : Requesting e' e'') (marks : Marks e e') : Requesting e e'' := by
  obtain ⟨rs, hrequests, hasked⟩ := h
  exact ⟨rs, by rw [hrequests, marks.host], hasked.of_marks marks⟩

theorem Requesting.of_requests (h : e'.host.requests = e.host.requests) : Requesting e e' :=
  ⟨[], h.trans (List.append_nil _).symm, .nothing⟩

theorem Requesting.of_unasked (h : Unasked e e') : Requesting e e' := .of_requests h.host.requests

theorem RequestsPair.requesting (h : RequestsPair e e') : Requesting e e' := by
  obtain ⟨rs, hrequests, hpair⟩ := h
  exact ⟨rs, hrequests, .pair hpair⟩

theorem requesting_of_steady {α : Type} {x : EngineM (SimulatedHost Handler) α}
    (hx : Lasts (Unasked e) x) : Ends x e fun _ e' => Requesting e e' :=
  (hx e (.refl e)).mono fun _ _ => .of_unasked

/-! ## The programs -/

theorem bringUp_requests (h : Closed e) (hn : Numbered e.host) :
    Ends EngineM.bringUp e fun _ e' => RequestsPair e e' := by
  have hsteady := steady_requestsPair e
  unfold EngineM.bringUp
  refine (openSides_requests h hn).bind (fun _ e₁ hpair => ?_) fun _ _ => id
  exact (lasts_inputRate.bind fun rate => lasts_get_bind fun _ => hsteady.publish _ _) e₁ hpair

/-- Switching the effect requests a pair, if it is turned on from closed; else nothing. Turning off
opens nothing, and neither does a start that fails nor the closing behind it. -/
theorem switch_requests (h : Sound e) (on : Bool) :
    Ends (EngineM.switch on) e fun _ e' => Requesting e e' := by
  cases on with
  | false => exact requesting_of_steady (steady_unasked e).switchOff
  | true =>
    by_cases hon : e.effectOn = true
    · exact ends_of_ok (switch_of_eq hon) (.of_unasked (.refl e))
    · have hoff : e.effectOn = false := by simpa using hon
      rcases h.shape with hc | ho
      · have hsteady := steady_requestsPair e
        refine Ends.mono ?_ fun _ _ hpair => RequestsPair.requesting hpair
        unfold EngineM.switch
        refine ends_get_bind ?_
        simp only [hoff, Bool.true_eq_false, if_false, if_true]
        refine (bringUp_requests hc h.numbered).bind (fun _ e₁ hpair => ?_) fun _ _ => id
        refine (hsteady.start e₁ hpair).attempt_bind fun r e₂ hpair => ?_
        cases r with
        | ok _ => exact (hsteady.marked fun _ => {}) e₂ hpair
        -- a start that fails is followed by closing what has been opened
        | error err => exact (hsteady.bringDown.attempt_bind fun _ => lasts_fail err) e₂ hpair
      · exact ends_of_error (switch_on_of_open hoff ho) (.of_unasked (.refl e))

/-! ## Recovery -/

/-- Replacing both streams requests a pair, over the sides that have been closed for it. To shut
down asks for nothing, so that the requests may be counted from before it (`of_unasked`). -/
theorem replaceBoth_requests (h : Open e) (hn : Numbered e.host) (restart : Bool) :
    Ends (replaceBoth restart) e fun _ e' => RequestsPair e e' := by
  have hsteady := steady_requestsPair e
  unfold replaceBoth
  refine ((shutDown_ends h.settled).and ((steady_unasked e).shutDown e (.refl e))).attempt_bind
    fun _ e₁ ⟨⟨hclosed₁, hkeep₁, _⟩, hu₁⟩ => ?_
  refine (openSides_requests hclosed₁ (hn.of_follows hkeep₁.host)).bind (fun _ e₂ hpair => ?_)
    fun _ _ hpair => hpair.of_unasked hu₁
  exact (lasts_ite hsteady.startSides (lasts_pure ())) e₂ (hpair.of_unasked hu₁)

/-- **What a repair requests** is what the replacement does that it makes; what comes after that
opens nothing. The property is any that opening nothing keeps (`SteadyInvariant`), so this serves
the requests of both kinds of repair. -/
theorem repair_of_replace {I : SimulatedEngine → Prop} (hI : SteadyInvariant I)
    (hneeded : (e.holdsStreams && (decide (e.state .input = .error)
      || decide (e.state .output = .error))) = true)
    (hreplace : Ends (if e.state .input = .error then replaceBoth e.started
      else replaceOutput e.started) e fun _ e' => I e') :
    Ends EngineM.repair e fun _ e' => I e' := by
  unfold EngineM.repair
  refine ends_get_bind ?_
  simp only [hneeded, if_true]
  refine hreplace.attempt_bind fun r e₁ h₁ => ?_
  cases r with
  | ok _ => exact (hI.publish _ _) e₁ h₁
  | error err => exact (hI.giveUp err) e₁ h₁

/-- **Repairing an output alone** requests an output and nothing else, at the rate of the input that
is held and as the configuration is now. That the input is left alone is said only for a pair that
is still open, since a repair that fails closes it. -/
theorem repair_output_requests (h : Open e) (hn : Numbered e.host) (hin : Occupied e .input s)
    (hout : e.state .output = .error) (hne : e.state .input ≠ .error) :
    Ends EngineM.repair e fun _ e' =>
      e'.host.requests = e.host.requests ++ [e.config.outputSpec s.properties.sampleRate]
        ∧ (e'.holdsStreams = true → SameSide .input e e') := by
  have hsteady : SteadyInvariant fun e' : SimulatedEngine => e'.host.requests
      = e.host.requests ++ [e.config.outputSpec s.properties.sampleRate] :=
    steady_of_unasked fun hrequests hu => hu.host.requests.trans hrequests
  have hrequests := repair_of_replace hsteady (lost_iff.mpr ⟨h.holdsStreams, ⟨.output, hout⟩⟩)
    (by rw [if_neg hne]; exact replaceOutput_requests h hin e.started)
  refine ((repair_ends h hn ⟨.output, hout⟩).and hrequests).mono
    fun _ e' ⟨⟨_, hcases⟩, hrequests⟩ => ⟨hrequests, fun hheld => ?_⟩
  rcases hcases with ⟨_, hrepaired⟩ | ⟨_, hended⟩
  · exact (hrepaired.kept hne).2
  · rw [hended.isClosed.holdsStreams] at hheld
    cases hheld

/-- **A repair requests** a pair where the input is lost, one output where only the output is, and
nothing where nothing is lost. The branch is the one of the program, on the state of the input. -/
theorem repair_requests (h : Sound e) : Ends EngineM.repair e fun _ e' => Requesting e e' := by
  by_cases hneeded : e.holdsStreams = true ∧ ∃ d, e.state d = .error
  · have ho := h.isOpen hneeded.1
    by_cases hne : e.state .input = .error
    · refine (repair_of_replace (steady_requestsPair e) (lost_iff.mpr hneeded) ?_).mono
        fun _ _ hpair => hpair.requesting
      rw [if_pos hne]
      exact replaceBoth_requests ho h.numbered e.started
    · -- the pair needs a repair and the input is sound, so it is the output that is lost
      have hout : e.state .output = .error := by
        obtain ⟨_, d, hd⟩ := hneeded
        cases d with
        | input => exact absurd hd hne
        | output => exact hd
      obtain ⟨s, hin⟩ := ho.occupied .input
      exact (repair_output_requests ho h.numbered hin hout hne).mono
        fun _ e' ⟨hrequests, hkept⟩ => ⟨_, hrequests, .output s hin.handle hkept⟩
  · exact ends_of_ok (repair_of_sound fun hheld d hd => hneeded ⟨hheld, d, hd⟩)
      (.of_unasked (.refl e))

/-- Attending to a batch requests what the repair does, if it calls for one, and nothing over a
fault. A fault ends the session, whatever else is in the batch, and that opens nothing. -/
theorem attend_requests (h : Sound e) (batch : List Event) :
    Ends (attend batch) e fun _ e' => Requesting e e' := by
  cases hfault : batch.any Event.isFault with
  | true =>
    obtain ⟨board, hattend⟩ := attend_of_fault (e := e) hfault
    have hu : Unasked e { e with board } := (Unasked.refl e).of_marks {}
    exact (((steady_unasked e).endSession hu).of_eq hattend).mono fun _ _ h' => .of_unasked h'.2
  | false =>
    obtain ⟨board, hattend⟩ := attend_of_no_fault (e := e) hfault
    refine Ends.of_eq ?_ hattend
    have hboard : Sound { e with board } := ((unnoticed_board e board).leaves h).sound h
    split
    · exact (repair_requests hboard).attempt_bind fun _ _ h' => ends_pure (h'.of_marks {})
    · exact ends_pure (.of_requests rfl)

/-! ## Every step -/

/-- What is attended to has been taken before, and that requests nothing. -/
theorem attend_taken_requests (h : Sound e) (batch : List Event) :
    ∃ e', e.taken.runAnyway (attend batch) = (.ok (), e') ∧ Requesting e e' := by
  obtain ⟨r, hreply, ⟨rfl, _⟩, hrequests⟩ :=
    ((attend_leaves h.taken batch).and (attend_requests h.taken batch)).runAnyway
  have marks : Marks e e.taken := { pending := fun _ hevent => by cases hevent }
  exact ⟨_, Prod.ext hreply rfl, hrequests.of_marks marks⟩

/-- **Every call** requests nothing, a pair, or one output beside the input that is held. Calls that
configure never reach the host, and those that stop or close keep what `steady_unasked` keeps. -/
theorem call_requests (h : Sound e) (c : Call) : Requesting e (e.call c) := by
  have hsteady := steady_unasked e
  by_cases hc : c.configures = true
  · exact .of_requests (congrArg (·.requests) (e.host_of_configures hc))
  cases c with
  | configure | selectApi | selectDevice | selectObserver => exact absurd rfl hc
  | bringUp =>
    rcases h.shape with hc | ho
    · obtain ⟨_, _, hpair⟩ := (bringUp_requests hc h.numbered).run h.poisoned
      exact RequestsPair.requesting hpair
    · -- open already, and refused before the host is asked
      show Requesting e (e.run EngineM.bringUp).2
      rw [run_of_error (bringUp_of_open ho) h.poisoned]
      exact .of_requests rfl
  | start => exact .of_unasked (hsteady.start.run (.refl e))
  | stop => exact .of_unasked (hsteady.stop.run (.refl e))
  | bringDown => exact .of_unasked (hsteady.bringDown.run (.refl e))
  | switch on =>
    obtain ⟨_, _, hrequests⟩ := (switch_requests h on).run h.poisoned
    exact hrequests
  | trySwitch on =>
    rw [call_trySwitch h on]
    obtain ⟨_, _, hrequests⟩ := (switch_requests h on).run h.poisoned
    exact hrequests
  | repair =>
    obtain ⟨_, _, hrequests⟩ := (repair_requests h).run h.poisoned
    exact hrequests
  | attendPending =>
    exact attendPending_cases (P := Requesting e) (.of_requests rfl) (.of_requests rfl)
      (attend_taken_requests h _)
  | runWorker =>
    exact runWorker_cases (P := Requesting e) (.of_requests rfl) (.of_requests rfl)
      (attend_taken_requests h _)

/-- **Every step of a run.** The hardware requests nothing, and what the host is told is no request.
So what is requested in a run is known step by step, which is what `after_requested` splits a run
with. -/
theorem perform_requests (h : Sound e) (a : Action) : Requesting e (e.perform a) := by
  cases a with
  | call c => exact call_requests h c
  | feed frames => exact .of_requests (requests_feed frames e.host e.line)
  | draw dest => exact .of_requests (requests_draw dest e.host e.line)
  | unplug d error => exact .of_requests (requests_unplug d error e.host e.line)
  | script s => cases s <;> exact .of_requests rfl
  | collect => exact .of_requests rfl

end Engine

end Passthrough
