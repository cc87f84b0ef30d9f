import Passthrough.Proofs.Config.Accepted
import Passthrough.Proofs.Engine.Run
import Passthrough.Session
/-!
# Starting again

No history spoils an engine. Whatever has failed before, an engine whose sides are closed and whose
effect is off can be configured and started again, on a host that has not been told to fail.

A closed engine has kept nothing of its history but the numbers that the host has given out. On a
host that obliges, every program of an opening succeeds, and what the host has been asked is known
to the call.

* **`SimulatedHost.Asked`** — what has been asked of a host between two of its states.
* **`openSides_obliged`**, **`startSides_obliged`** — opening and starting on a host that obliges.
* **`starts_again`** — configured and started, after any run that ends closed and off.
-/

namespace Passthrough

open EngineM SimulatedHost

/-! ## A host that obliges -/

namespace SimulatedHost

variable {κ : Type} {h h' h'' : SimulatedHost κ}

/-- Nothing has been planted: no call is to fail, and no stream is to differ from its request. -/
structure Obliging (h : SimulatedHost κ) : Prop where
  faults : h.faults = .both {}
  substitutes : h.substitutes = .both {}

/-- **What has been asked** between two states of a host, which obliges as before. -/
structure Asked (calls : List CallRecord) (requests : List StreamSpec)
    (h h' : SimulatedHost κ) : Prop where
  calls : h'.calls = h.calls ++ calls
  requests : h'.requests = h.requests ++ requests
  faults : h'.faults = h.faults
  substitutes : h'.substitutes = h.substitutes

variable {calls calls' : List CallRecord} {requests requests' : List StreamSpec}

theorem Asked.nothing (h : SimulatedHost κ) : Asked [] [] h h :=
  ⟨(List.append_nil _).symm, (List.append_nil _).symm, rfl, rfl⟩

/-- What has been asked in two steps has been asked in both, calls and requests each in order. -/
theorem Asked.trans (ha : Asked calls requests h h') (ha' : Asked calls' requests' h' h'') :
    Asked (calls ++ calls') (requests ++ requests') h h'' where
  calls := by rw [ha'.calls, ha.calls, List.append_assoc]
  requests := by rw [ha'.requests, ha.requests, List.append_assoc]
  faults := ha'.faults.trans ha.faults
  substitutes := ha'.substitutes.trans ha.substitutes

/-- Being asked does not make a host less obliging: what would make it so has to be planted. -/
theorem Asked.obliging (ha : Asked calls requests h h') (ho : Obliging h) : Obliging h' :=
  ⟨ha.faults.trans ho.faults, ha.substitutes.trans ho.substitutes⟩

/-- A host that obliges grants a request as it is, with room for four of its callbacks. The room is
a product in 32 bits, so it is four periods only where that does not wrap. -/
theorem Obliging.granted (ho : Obliging h) (r : StreamSpec) :
    h.granted r = {
      direction := r.direction
      sampleRate := r.sampleRate
      channelCount := r.channelCount
      bufferCapacityFrames := r.periodFrames 4
      framesPerCallback := r.framesPerCallback
      performanceMode := r.performanceMode } := by
  unfold SimulatedHost.granted
  rw [ho.substitutes, Duplex.get_both]
  rfl

/-- A stream is opened when it is asked for, under the next number and with what was requested. The
two lists of `Asked` are the calls that are recorded and the requests; both grow by one. -/
theorem Obliging.openStream (ho : Obliging h) (side : Direction) (r : StreamSpec) (callback : κ) :
    ∃ h', SimulatedHost.openStream side r callback h
        = (.opened { id := h.opened + 1, properties := h.granted r }, h')
      ∧ Asked [⟨r.direction, .openStream⟩] [r] h h' := by
  have hfault : (h.faults.get r.direction).openStream = none := by
    rw [ho.faults, Duplex.get_both]
  unfold SimulatedHost.openStream
  simp only [record, hfault]
  exact ⟨_, rfl, rfl, rfl, rfl, rfl⟩

/-- A live stream is started when it is asked for. -/
theorem Obliging.startStream (ho : Obliging h) {s : StreamHandle} (hs : s.closed = false)
    (hlive : h.contains s.id = true) :
    ∃ h', SimulatedHost.startStream s h = (.ok (), h')
      ∧ Asked [⟨s.properties.direction, .start⟩] [] h h' := by
  have hfault : (h.faults.get s.properties.direction).start = none := by
    rw [ho.faults, Duplex.get_both]
  exact ⟨_, startStream_of_live hs hlive hfault, rfl, (List.append_nil _).symm, rfl, rfl⟩

end SimulatedHost

/-! ## What the period admits -/

/-- A stream that is granted as it was requested has room for more than one modest period, so it
passes the check of the engine. -/
theorem Config.admits_granted {c : Config} (hmodest : c.period.Modest) (d : Direction)
    {h : SimulatedHost Handler} (ho : Obliging h) :
    c.period.Admits (h.granted (c.spec d c.period.sampleRate)) := by
  rw [ho.granted, periodFrames_spec hmodest d _ (by decide)]
  exact ⟨rfl, rfl, c.period.bytes_le_bufferBytes (by decide)⟩

/-! ## Sessions

A session answers what its engine answers, as a status. -/

namespace Session

variable {H : Type} {s : Session H} {engine : Engine H}

/-- A session takes over what its engine takes over, and answers that it is all right. -/
theorem configure_of_ok {options : Options}
    (h : s.engine.configure options = (.ok (), engine)) :
    s.configure options = (.ok, { s with engine }) := by
  unfold configure
  rw [h]
  rfl

/-- A session answers that the effect is on where its engine has succeeded. -/
theorem switchOn_of_ok [StreamHost Handler Line H] (h : s.engine.switch true = (.ok (), engine)) :
    s.switchOn = (.ok .ok, { s with engine }) := by
  unfold switchOn
  rw [h]
  rfl

end Session

namespace Engine

variable {e e' : SimulatedEngine} {d : Direction} {s : StreamHandle}

/-! ## The programs of one side -/

/-- **Opening a vacant side** succeeds, and nothing is asked beyond the opening: no close, for what
is granted fits. That it fits is `Config.admits_granted`, for a host that grants what it is asked
for. -/
theorem openSide_obliged (h : Vacant e d) (hc : e.line.channel.isSome = true)
    (hmodest : e.config.period.Modest) (ho : Obliging e.host) :
    Ends (openSide d e.config.period.sampleRate) e fun r e' =>
      r = .ok () ∧ Asked [⟨d, .openStream⟩] [e.config.spec d e.config.period.sampleRate]
        e.host e'.host := by
  obtain ⟨host, hask, hasked⟩ :=
    ho.openStream d (e.config.spec d e.config.period.sampleRate) (handlerFor d e)
  have hopen : StreamHost.openStream d (e.config.spec d e.config.period.sampleRate)
      (handlerFor d e) e.host (e.line.setState d .opening)
        = (.opened (e.upcomingHandle d), host, e.line.setState d .opening) :=
    congrArg (fun r => (r.1, r.2, e.line.setState d .opening)) hask
  have hfit : checkFit e.config.period e.config.period.sampleRate
      (StreamHost.infoOf (e.upcomingHandle d) host) = .ok () :=
    (checkFit_eq_ok_iff _ _).mpr (Config.admits_granted hmodest d ho)
  exact ends_of_ok (openSide_of_fit hc h.state hopen hfit rfl) ⟨rfl, hasked⟩

/-- The handle of a side that has not failed stands for a stream of the host, so that a start finds
it. -/
theorem Occupied.contains (h : Occupied e d s) (hd : e.state d ≠ .error) :
    e.host.contains s.id = true := by
  obtain ⟨x, hx, hb⟩ := h.backed hd
  have hmem : x ∈ e.host.live d := by simp [hx]
  apply List.any_eq_true.mpr
  exact ⟨x, (mem_live.mp hmem).1, by simp [hb.id]⟩

/-- **Starting a side** that rests succeeds, by one call. The stream of an open side is live on the
host (`Occupied.contains`), so that no start is turned away. -/
theorem startSide_obliged (h : Occupied e d s) (hstate : e.state d = .opened)
    (ho : Obliging e.host) :
    Ends (startSide d) e fun r e' => r = .ok () ∧ Asked [⟨d, .start⟩] [] e.host e'.host := by
  have hlive : e.host.contains s.id = true := h.contains (by simp [hstate])
  obtain ⟨host, hask, hasked⟩ := ho.startStream h.unclosed hlive
  rw [h.direction] at hasked
  have hstart : StreamHost.startStream s e.host e.line = (.ok (), host, e.line) :=
    congrArg (fun r => (r.1, r.2, e.line)) hask
  exact ends_of_ok (startSide_of_ok h.handle (by rw [hstate]; rfl) hstart) ⟨rfl, hasked⟩

/-! ## The programs of the pair -/

/-- What is asked of the host when a pair is opened: the input first, and the output at the rate
that the input has got. -/
def openCalls : List CallRecord := [⟨.input, .openStream⟩, ⟨.output, .openStream⟩]

def startCalls : List CallRecord := [⟨.input, .start⟩, ⟨.output, .start⟩]

/-- **Opening a closed pair** succeeds: two openings, the output at the rate of the input, which is
the configured one. `openSide_ends` tells the shapes and `openSide_obliged` the answers, and the two
are followed side by side. -/
theorem openSides_obliged (h : Closed e) (hn : Numbered e.host)
    (hmodest : e.config.period.Modest) (ho : Obliging e.host) :
    Ends openSides e fun r e' => r = .ok ()
      ∧ Asked openCalls [e.config.inputSpec, e.config.outputSpec e.config.sampleRate]
          e.host e'.host := by
  unfold openSides
  refine ends_get_bind ?_
  simp only [h.holdsStreams, Bool.false_eq_true, if_false]
  refine ends_modify_bind ?_
  let e₁ : SimulatedEngine := { e with
    line := e.line.renew e.config.period.samples }
  have hvacant : ∀ d, Vacant e₁ d := fun d => (h.vacant d).of_same rfl rfl rfl
  refine ((openSide_ends (e := e₁) (hvacant .input) rfl hn).and
    (openSide_obliged (e := e₁) (hvacant .input) rfl hmodest ho)).attempt_bind
    fun r₂ e₂ ⟨⟨hact₂, hcases⟩, hr₂, hasked₂⟩ => ?_
  rcases hcases with ⟨rfl, ⟨s, hin⟩, _⟩ | ⟨⟨_, herr⟩, _⟩
  · refine ends_bind_of_ok (inputRate_of_occupied hin) ?_
    have hout : Vacant e₂ .output := hact₂.vacant (by simp) (hvacant .output)
    have hsome : e₂.line.channel.isSome = true := by
      rw [hact₂.channel]
      rfl
    refine (openSide_obliged hout hsome (hact₂.config ▸ hmodest)
      (hasked₂.obliging ho)).attempt_bind
      fun r₃ e₃ ⟨hr₃, hasked₃⟩ => ?_
    subst hr₃
    -- the configuration has not changed since the input was opened
    rw [hact₂.config] at hasked₃
    exact ends_pure ⟨rfl, hasked₂.trans hasked₃⟩
  · rw [hr₂] at herr
    cases herr

/-- **Starting a pair** that rests succeeds, the input first. The output still rests when the input
has started, since work on one side leaves the other alone. -/
theorem startSides_obliged (h : Open e) (hstate : ∀ d, e.state d = .opened)
    (ho : Obliging e.host) :
    Ends startSides e fun r e' => r = .ok () ∧ Asked startCalls [] e.host e'.host := by
  obtain ⟨s, hin⟩ := h.occupied .input
  obtain ⟨s', hout⟩ := h.occupied .output
  -- the check for missing streams, which does not apply
  have hheld : (e.streams.input.isNone || e.streams.output.isNone) = false := by
    have h₁ : e.streams.input = some s := hin.handle
    have h₂ : e.streams.output = some s' := hout.handle
    rw [h₁, h₂]
    rfl
  unfold startSides
  refine ends_get_bind ?_
  simp only [hheld, Bool.false_eq_true, if_false]
  refine ((startSide_ends hin).and (startSide_obliged hin (hstate .input) ho)).bind
    (fun _ e₁ ⟨⟨_, hact₁, _⟩, _, hasked₁⟩ => ?_) fun err e₁ ⟨_, hr, _⟩ => ?_
  · have hrests : e₁.state .output = .opened :=
      (hact₁.other .output (by simp)).state.trans (hstate .output)
    refine (startSide_obliged (hact₁.occupied (by simp) hout) hrests
      (hasked₁.obliging ho)).bind (fun _ e₂ ⟨_, hasked₂⟩ => ?_) fun err e₂ ⟨hr, _⟩ => ?_
    · exact ends_modify ⟨rfl, hasked₁.trans hasked₂⟩
    · cases hr
  · cases hr

/-! ## The calls -/

/-- **Opening** a closed engine succeeds, with the two requests of its configuration. The notice of
it tells the rate of the input, and asks the host for nothing. -/
theorem bringUp_obliged (h : Closed e) (hn : Numbered e.host)
    (hmodest : e.config.period.Modest) (ho : Obliging e.host) :
    Ends EngineM.bringUp e fun r e' => r = .ok ()
      ∧ Asked openCalls [e.config.inputSpec, e.config.outputSpec e.config.sampleRate]
          e.host e'.host := by
  unfold EngineM.bringUp
  refine ((openSides_ends h hn).and (openSides_obliged h hn hmodest ho)).bind
    (fun _ e₁ ⟨⟨_, _, hcases⟩, _, hasked⟩ => ?_) fun err e₁ ⟨_, hr, _⟩ => ?_
  · rcases hcases with ⟨_, hopen, _⟩ | ⟨⟨_, herr⟩, _⟩
    · obtain ⟨s, hin⟩ := hopen.occupied .input
      exact ends_bind_of_ok (inputRate_of_occupied hin)
        (ends_get_bind (ends_publish ⟨rfl, hasked⟩))
    · cases herr
  · cases hr

/-- **Starting** an open engine at rest succeeds. -/
theorem start_obliged (h : Open e) (hstate : ∀ d, e.state d = .opened) (ho : Obliging e.host) :
    Ends EngineM.start e fun r e' => r = .ok () ∧ Asked startCalls [] e.host e'.host := by
  unfold EngineM.start
  refine (startSides_obliged h hstate ho).bind (fun _ e₁ ⟨_, hasked⟩ => ?_) fun err e₁ hends => ?_
  · exact ends_publish ⟨rfl, hasked⟩
  · exact hends

/-- **Switching on** from closed succeeds, by exactly four calls: two openings and two starts. The
start finds both sides open and at rest, as `bringUp_closed_ends` says. -/
theorem switch_on_obliged (hoff : e.effectOn = false) (h : Closed e) (hn : Numbered e.host)
    (hmodest : e.config.period.Modest) (ho : Obliging e.host) :
    Ends (EngineM.switch true) e fun r e' => r = .ok ()
      ∧ Asked (openCalls ++ startCalls)
          [e.config.inputSpec, e.config.outputSpec e.config.sampleRate] e.host e'.host := by
  unfold EngineM.switch
  refine ends_get_bind ?_
  simp only [hoff, Bool.true_eq_false, if_false, if_true]
  refine ((bringUp_closed_ends h hn).and (bringUp_obliged h hn hmodest ho)).bind
    (fun _ e₁ ⟨⟨_, _, hcases⟩, _, hasked₁⟩ => ?_) fun err e₁ ⟨_, hr, _⟩ => ?_
  · -- an obliging host opens, so the refusal is not the case
    rcases hcases with ⟨_, hfresh, _, hstate⟩ | ⟨⟨_, herr⟩, _⟩
    · refine (start_obliged hfresh.isOpen hstate (hasked₁.obliging ho)).attempt_bind
        fun r e₂ ⟨hr, hasked₂⟩ => ?_
      subst hr
      have hasked := hasked₁.trans hasked₂
      rw [List.append_nil] at hasked
      exact ends_modify ⟨rfl, hasked⟩
    · cases herr
  · cases hr

/-! ## After any history -/

/-- **A pair that runs** on the terms of its configuration, on both sides. -/
structure RunsOn (c : Config) (e : SimulatedEngine) : Prop where
  config : e.config = c
  effectOn : e.effectOn = true
  running : ∀ d, e.state d = .running
  granted : ∀ d, ∃ p, e.infoOf d = some p
    ∧ p.sampleRate = c.sampleRate ∧ p.channelCount = c.channelCount

/-- A sound engine that is closed and off starts on a host that obliges, and both sides run on the
terms of its configuration. What has happened to it before does not come into it. -/
theorem switch_on_runs (h : Sound e) (hc : Closed e) (hoff : e.effectOn = false)
    (hmodest : e.config.period.Modest) (ho : Obliging e.host) :
    (e.switch true).1 = .ok () ∧ RunsOn e.config (e.switch true).2
      ∧ Asked (openCalls ++ startCalls)
          [e.config.inputSpec, e.config.outputSpec e.config.sampleRate]
          e.host (e.switch true).2.host := by
  obtain ⟨r, hreply, ⟨hkeep, hcases⟩, rfl, hasked⟩ :=
    ((switch_on_ends hoff hc h.numbered).and (switch_on_obliged hoff hc h.numbered hmodest ho)).run
      h.poisoned
  refine ⟨hreply, ?_, hasked⟩
  rcases hcases with ⟨_, hfresh, hon, _, hrun⟩ | ⟨⟨_, herr⟩, _⟩
  · refine ⟨hkeep.config, hon, hrun, fun d => ?_⟩
    obtain ⟨s, hs⟩ := hfresh.isOpen.occupied d
    have hadmits := hs.admitted
    rw [hkeep.config] at hadmits
    exact ⟨s.properties, hs.infoOf, hadmits.sampleRate, hadmits.channelCount⟩
  · cases herr

/-- An engine that holds nothing takes over the options that pass their checks. -/
theorem configure_of_closed {options : Options} {config : Config}
    (hoptions : Config.ofOptions options = .ok config) (h : Closed e) :
    e.configure options = (.ok (), { e with config }) := by
  unfold configure
  rw [hoptions]
  simp only [h.holdsStreams, Bool.false_eq_true, if_false]

/-- An engine whose sides are both closed is closed in full, since an open one has no closed side.
`starts_again` asks for the states alone, which an owner can see, and gets the rest from here. -/
theorem Sound.isClosed_of_states (h : Sound e) (hstates : ∀ d, e.state d = .closed) :
    Closed e := by
  rcases h.shape with hc | ho
  · exact hc
  · obtain ⟨s, hs⟩ := ho.occupied .input
    have hstate := hs.state
    rw [hstates .input] at hstate
    simp at hstate

/-- **No history spoils an engine.** After any run that ends with both sides closed and the effect
off, with nothing planted on the host: whatever options pass their checks, they are taken over, the
session starts, and both sides run at the rate and with the channels asked for. The host has been
asked for exactly two streams, the input first and the output at the rate of the input, and to start
both. -/
theorem starts_again (config : Config) (recovery : Recovery) (noticeCapacity : Nat)
    (as : List Action) (tap : Option (ObserverId × Tap)) (taps : Nat)
    (options : Options) (resolved : Config) (hoptions : Config.ofOptions options = .ok resolved)
    (hclosed : ∀ d, ((create {} config recovery noticeCapacity : SimulatedEngine).after as).state d
      = .closed)
    (hoff : ((create {} config recovery noticeCapacity : SimulatedEngine).after as).effectOn
      = false)
    (hobliging : Obliging
      ((create {} config recovery noticeCapacity : SimulatedEngine).after as).host) :
    let e := (create {} config recovery noticeCapacity : SimulatedEngine).after as
    let configured := (Session.mk e tap taps).configure options
    let started := configured.2.switchOn
    let e' := started.2.engine
    configured.1 = .ok ∧ started.1 = .ok .ok ∧ RunsOn resolved e'
      ∧ e'.host.calls = e.host.calls ++ [⟨.input, .openStream⟩, ⟨.output, .openStream⟩,
          ⟨.input, .start⟩, ⟨.output, .start⟩]
      ∧ (∀ p, e'.infoOf .input = some p →
          e'.host.requests = e.host.requests
            ++ [resolved.inputSpec, resolved.outputSpec p.sampleRate]) := by
  intro e configured started e'
  have h : Sound e := (after_sound (sound_create config recovery noticeCapacity) as).1
  have hc : Closed e := h.isClosed_of_states hclosed
  have hconfigure := configure_of_closed hoptions hc
  -- the configuration is the only thing that the engine started differs in
  let e₁ : SimulatedEngine := { e with config := resolved }
  have hc₁ : Closed e₁ := hc.frame (fun _ => ⟨rfl, rfl, rfl, rfl⟩) rfl rfl rfl
  have h₁ : Sound e₁ := ⟨Or.inl hc₁, h.poisoned, h.listening, h.numbered⟩
  obtain ⟨hok, hruns, hasked⟩ :=
    switch_on_runs h₁ hc₁ hoff (Config.accepted_of_ofOptions hoptions).modest hobliging
  have hconfigured : configured = (.ok, Session.mk e₁ tap taps) :=
    Session.configure_of_ok hconfigure
  have hswitch : e₁.switch true = (.ok (), (e₁.switch true).2) := Prod.ext hok rfl
  have hstarted : started = (.ok .ok, Session.mk (e₁.switch true).2 tap taps) := by
    show configured.2.switchOn = _
    rw [hconfigured]
    exact Session.switchOn_of_ok hswitch
  have he' : e' = (e₁.switch true).2 := by
    show started.2.engine = _
    rw [hstarted]
  rw [he']
  refine ⟨by rw [hconfigured], by rw [hstarted], hruns, hasked.calls, fun p hp => ?_⟩
  obtain ⟨q, hq, hrate, _⟩ := hruns.granted .input
  rw [hp] at hq
  rw [Option.some.inj hq, hrate]
  exact hasked.requests

/-- A run in which little succeeds: an output that does not start, a fault in the first period with
a stop that is refused, an input that is lost and cannot be opened again, and options that do not
pass. -/
def troubled : List Action :=
  [.call (.configure { sampleRate := 8000, periodLenMs := 1 }),
    .script (.startFault .output .unavailable), .call (.switch true),
    .call (.switch true), .feed [1], .script (.stopFault .output .timeout), .call .attendPending,
    .call .bringUp, .call .start, .unplug .input .disconnected,
    .script (.openFault .input .unavailable), .call .repair,
    .call (.configure { sampleRate := 1 })]

/-- It starts again, with options that it has not had before, and on its first attempt. What is
needed of the run is computed: its states, the effect and the host; the rest is the theorem. -/
theorem starts_again_troubled :
    let e := (create {} : SimulatedEngine).after troubled
    let resolved : Config := { sampleRate := 44100, periodMs := 10, channelCount := 2 }
    let started := ((Session.mk e none 0).configure
      { sampleRate := 44100, periodLenMs := 10, channelCount := 2 }).2.switchOn
    e.host.opened = 6 ∧ started.1 = .ok .ok ∧ RunsOn resolved started.2.engine
      ∧ started.2.engine.host.calls = e.host.calls ++ [⟨.input, .openStream⟩,
          ⟨.output, .openStream⟩, ⟨.input, .start⟩, ⟨.output, .start⟩] := by
  -- the run ends with everything closed and the effect off
  have hclosed : ∀ d, ((create {} : SimulatedEngine).after troubled).state d = .closed := by
    intro d
    cases d <;> decide +kernel
  have hoff : ((create {} : SimulatedEngine).after troubled).effectOn = false := by decide +kernel
  have hobliging : Obliging ((create {} : SimulatedEngine).after troubled).host :=
    ⟨by decide +kernel, by decide +kernel⟩
  have hopened : ((create {} : SimulatedEngine).after troubled).host.opened = 6 := by
    decide +kernel
  have hoptions : Config.ofOptions { sampleRate := 44100, periodLenMs := 10, channelCount := 2 }
      = .ok { sampleRate := 44100, periodMs := 10, channelCount := 2 } := rfl
  obtain ⟨_, hstarted, hruns, hcalls, _⟩ :=
    starts_again {} .manual 64 troubled none 0 _ _ hoptions hclosed hoff hobliging
  exact ⟨hopened, hstarted, hruns, hcalls⟩

end Engine

end Passthrough
