import Passthrough.Proofs.Engine.SidePrograms
/-!
# The pair of an engine

The two shapes that an engine on simulated hardware can have between two calls: *closed*, with both
sides vacant and nothing left of the line between them, or *open*, with both sides occupied over a
channel of one period. The programs that work on both sides lead from one shape to the other.

* **`shutDown_ends`** — from sides of any shape, shutting down ends closed.
* **`openSides_ends`** — opening a closed pair ends open or closed, never half open.
* **`startSides_ends`** — starting an open pair leaves it open, whether it succeeds or not.
-/

namespace Passthrough

open EngineM SimulatedHost

namespace Engine

variable {e e' : SimulatedEngine} {d : Direction} {s : StreamHandle}

/-! ## The two shapes -/

/-- **A closed engine.** -/
structure Closed (e : SimulatedEngine) : Prop where
  vacant : ∀ d, Vacant e d
  channel : e.line.channel = none
  detached : e.line.link.attached = false
  started : e.started = false

/-- **An open engine.** A session that counts as started has no side that merely rests. -/
structure Open (e : SimulatedEngine) : Prop where
  occupied : ∀ d, ∃ s, Occupied e d s
  channel : ∃ c, e.line.channel = some c ∧ c.length = e.config.period.samples
  attached : e.line.link.attached = true
  started : e.started = true → ∀ d, e.state d = .running ∨ e.state d = .error

/-- Both sides of a closed engine are vacant, so the programs that stop and close apply to it. -/
theorem Closed.settled (h : Closed e) (d : Direction) : Settled e d := Or.inl (h.vacant d)

/-- Both sides of an open engine are occupied, so the programs that stop and close apply to it as
well. -/
theorem Open.settled (h : Open e) (d : Direction) : Settled e d := Or.inr (h.occupied d)

/-- **One channel for all.** The callbacks of every live stream were set up over the channel that
was made last, which is the one that `Handler.capture` and `Handler.render` find on the line. -/
def SharesChannel (e : SimulatedEngine) : Prop :=
  ∀ d, ∀ x ∈ e.host.live d, x.callback.channelId = e.line.channelId

/-- Every live stream of an open engine is the one that the handle of its side stands for. A fact
about live streams is thereby one about the handles, whose fields `Backs` spells out. -/
theorem Open.backs (h : Open e) {x : SimulatedStream Handler} (hx : x ∈ e.host.live d) :
    ∃ s, Occupied e d s ∧ Backs e d s x := by
  obtain ⟨s, hs⟩ := h.occupied d
  rcases hs.live with ⟨y, hy, hb⟩ | ⟨hnil, _⟩
  · rw [hy, List.mem_singleton] at hx
    subst hx
    exact ⟨s, hs, hb⟩
  · rw [hnil] at hx
    cases hx

/-- Both streams of an open engine were set up over the channel in use, the one that was opened by a
recovery included: this is `Backs.channelId`, which every program of one side preserves. -/
theorem Open.sharesChannel (h : Open e) : SharesChannel e := by
  intro d x hx
  obtain ⟨s, _, hb⟩ := h.backs hx
  exact hb.channelId

/-- A closed engine has no live stream, so that there are no callbacks left that could hold on to a
channel that was given up. -/
theorem Closed.sharesChannel (h : Closed e) : SharesChannel e := by
  intro d x hx
  rw [(h.vacant d).live] at hx
  cases hx

/-- The shapes concern the sides, the line between them and the mark of a started session only, so a
closed engine stays closed through anything that leaves these alone. -/
theorem Closed.frame (h : Closed e) (same : ∀ d, SameSide d e e')
    (hchannel : e'.line.channel = e.line.channel)
    (hattached : e'.line.link.attached = e.line.link.attached)
    (hstarted : e'.started = e.started) : Closed e' where
  vacant d := (h.vacant d).frame (same d)
  channel := hchannel.trans h.channel
  detached := hattached.trans h.detached
  started := hstarted.trans h.started

/-- An open engine stays open through anything that leaves its sides, its line, its mark and the
period alone. The host may have gone on, as long as it follows. -/
theorem Open.frame (h : Open e) (same : ∀ d, SameSide d e e')
    (hperiod : e'.config.period = e.config.period) (hhost : Follows e.host e'.host)
    (hchannel : e'.line.channel = e.line.channel)
    (hattached : e'.line.link.attached = e.line.link.attached)
    (hstarted : e'.started = e.started) : Open e' where
  occupied := by
    intro d
    obtain ⟨s, hs⟩ := h.occupied d
    exact ⟨s, hs.frame (same d) hperiod hhost⟩
  channel := by
    rw [hchannel, hperiod]
    exact h.channel
  attached := hattached.trans h.attached
  started := by
    intro hs d
    rw [(same d).state]
    exact h.started (hstarted.symm.trans hs) d

/-- Whether an engine holds streams, on any host, is a question about its two handles. The guards of
the public calls ask no more than this, and proofs prefer to speak of the directions. -/
theorem holdsStreams_iff {H : Type} {e : Engine H} :
    e.holdsStreams = true ↔ ∃ d, (e.streams.get d).isSome = true := by
  unfold holdsStreams
  rw [Bool.or_eq_true]
  constructor
  · rintro (h | h)
    · exact ⟨.input, h⟩
    · exact ⟨.output, h⟩
  · rintro ⟨d, h⟩
    cases d
    · exact Or.inl h
    · exact Or.inr h

/-- An engine that holds no streams has no handle on either side; the form in which
`holdsStreams_iff` is used by the programs that find nothing to do. -/
theorem get_eq_none_of_unheld {H : Type} {e : Engine H} (h : e.holdsStreams = false)
    (d : Direction) : e.streams.get d = none := by
  cases hs : e.streams.get d with
  | none => rfl
  | some s =>
    rw [holdsStreams_iff.mpr ⟨d, by simp [hs]⟩] at h
    cases h

/-- A closed engine passes the guards of the calls that ask for one: configuring, selecting an
interface, opening. -/
theorem Closed.holdsStreams (h : Closed e) : e.holdsStreams = false := by
  have hin : e.streams.input = none := (h.vacant .input).handle
  have hout : e.streams.output = none := (h.vacant .output).handle
  unfold Engine.holdsStreams
  rw [hin, hout]
  rfl

/-- An open engine holds streams, also when both sides have failed, for a failed side keeps its
handle. -/
theorem Open.holdsStreams (h : Open e) : e.holdsStreams = true := by
  obtain ⟨s, hs⟩ := h.occupied .input
  exact holdsStreams_iff.mpr ⟨.input, by rw [hs.handle]; rfl⟩

/-- The two shapes of an engine exclude each other, as those of its sides do. With `Sound.shape`, an
engine has exactly one of them between two steps. -/
theorem Closed.not_open (h : Closed e) : ¬ Open e := by
  intro ho
  have := h.holdsStreams
  rw [ho.holdsStreams] at this
  cases this

/-! ## Stopping -/

/-- **A halt of the pair.** No side runs any more; what is open stays open, and what both sides
share stays as it is. -/
structure Halts (e e' : SimulatedEngine) : Prop extends Keeps e e' where
  resting : ∀ d, e'.state d ≠ .running
  vacant : ∀ d, Vacant e d → Vacant e' d
  occupied : ∀ d s, Occupied e d s → Occupied e' d s
  channel : e'.line.channel = e.line.channel
  link : e'.line.link = e.line.link
  effectOn : e'.effectOn = e.effectOn
  started : e'.started = false

theorem Halts.settled (h : Halts e e') (hs : Settled e d) : Settled e' d := by
  rcases hs with hv | ⟨s, ho⟩
  · exact Or.inl (h.vacant d hv)
  · exact Or.inr ⟨s, h.occupied d s ho⟩

/-- A closed engine that is stopped is still closed. Nothing refuses to stop a closed engine; its
sides just have nothing that runs. -/
theorem Halts.closed (h : Halts e e') (hc : Closed e) : Closed e' where
  vacant d := h.vacant d (hc.vacant d)
  channel := h.channel.trans hc.channel
  detached := by
    rw [h.link]
    exact hc.detached
  started := h.started

/-- **An open engine that is halted** is open and not started, at rest on both sides or failed.
Each field of `Open` is one that `Halts` keeps, but for the mark of being started, which is taken
back. -/
theorem Halts.open (h : Halts e e') (ho : Open e) : Open e' where
  occupied := by
    intro d
    obtain ⟨s, hs⟩ := ho.occupied d
    exact ⟨s, h.occupied d s hs⟩
  channel := by
    rw [h.channel, h.config]
    exact ho.channel
  attached := by
    rw [h.link]
    exact ho.attached
  started hs := by
    rw [h.started] at hs
    cases hs

/-- The output is stopped first, then the input. Each stop leaves the other side alone, so that the
two of them make a halt of the pair, whatever the host has answered to either. -/
theorem Stops.halts {e₁ e₂ : SimulatedEngine} (hout : Stops .output e e₁)
    (hin : Stops .input e₁ e₂) : Halts e { e₂ with started := false } := by
  have hsame : SameSide .output e₁ e₂ := hin.other .output (by simp)
  have hkeep : Keeps e { e₂ with started := false } :=
    (hout.toKeeps.trans hin.toKeeps).trans (keeps_line e₂ false rfl rfl rfl)
  -- no side runs; a vacant side stays vacant; an occupied one keeps its handle
  refine ⟨hkeep, ?_, ?_, ?_, hin.channel.trans hout.channel, hin.link.trans hout.link,
    hin.effectOn.trans hout.effectOn, rfl⟩
  · intro d
    cases d with
    | input => exact hin.resting
    | output =>
      show e₂.state .output ≠ .running
      rw [hsame.state]
      exact hout.resting
  · intro d hv
    have hvacant : Vacant e₂ d := by
      cases d with
      | input => exact hin.vacant (hout.toActsOn.vacant (by simp) hv)
      | output => exact (hout.vacant hv).frame hsame
    exact hvacant.frame ⟨rfl, rfl, rfl, rfl⟩
  · intro d s ho
    have hoccupied : Occupied e₂ d s := by
      cases d with
      | input => exact hin.occupied s (hout.toActsOn.occupied (by simp) ho)
      | output => exact hin.toActsOn.occupied (by simp) (hout.occupied s ho)
    exact hoccupied.frame ⟨rfl, rfl, rfl, rfl⟩ rfl (.refl _)

/-- Stopping both sides always halts the pair. The first error is reported, but the second side is
stopped all the same. -/
theorem stopSides_ends (h : ∀ d, Settled e d) : Ends stopSides e fun _ e' => Halts e e' := by
  unfold stopSides
  refine (stopSide_settled (h .output)).attempt_bind fun r₁ e₁ hout => ?_
  have hin : Settled e₁ .input := hout.toActsOn.settled (by simp) (h .input)
  refine (stopSide_settled hin).attempt_bind fun r₂ e₂ hin => ?_
  exact ends_modify_bind (ends_ofExcept (hout.halts hin))

/-! ## Shutting down -/

/-- What is left when both sides are vacant and the line is given up. That no channel remains does
not matter to the sides, see `Vacant.of_same`. -/
theorem closed_of_vacant {line : Line} (h : ∀ d, Vacant e d)
    (hstates : line.states = e.line.states) (hchannel : line.channel = none)
    (hdetached : line.link.attached = false) : Closed { e with line, started := false } where
  vacant d := (h d).of_same (congrArg (fun states => states.get d) hstates) rfl rfl
  channel := hchannel
  detached := hdetached
  started := rfl

/-- **Shutting down ends closed**, from sides of any shape and whatever the host refuses. Every way
in which an engine gives up ends with this program, so it is what makes `Closed` reachable after any
failure. -/
theorem shutDown_ends (h : ∀ d, Settled e d) :
    Ends shutDown e fun _ e' => Closed e' ∧ Keeps e e' ∧ e'.effectOn = e.effectOn := by
  unfold shutDown
  refine (stopSides_ends h).attempt_bind fun r₁ e₁ hhalt => ?_
  refine ends_modifyLine_bind ?_
  -- from here on a lost device is not reported any more; the sides do not notice
  let e₂ : SimulatedEngine := { e₁ with line := e₁.line.detach }
  have hsettled : ∀ d, Settled e₂ d := fun d =>
    (hhalt.settled (h d)).frame ⟨rfl, rfl, rfl, rfl⟩ rfl (.refl _)
  have hkeep₂ : Keeps e e₂ := hhalt.toKeeps.trans (keeps_line e₁ e₁.started rfl rfl rfl)
  refine (closeSide_settled (hsettled .output)).attempt_bind fun r₃ e₃ ⟨_, hout, hact₃⟩ => ?_
  have hin : Settled e₃ .input := hact₃.settled (by simp) (hsettled .input)
  refine (closeSide_settled hin).attempt_bind fun r₄ e₄ ⟨_, hin', hact₄⟩ => ?_
  have hvacant : ∀ d, Vacant e₄ d := by
    intro d
    cases d with
    | input => exact hin'
    | output => exact hact₄.vacant (by simp) hout
  have hdetached : e₄.line.link.attached = false := by
    rw [hact₄.link, hact₃.link]
    rfl
  refine ends_modify_bind (ends_ofExcept ⟨closed_of_vacant hvacant rfl rfl hdetached, ?_, ?_⟩)
  · have hkeep₄ : Keeps e e₄ := hkeep₂.trans (hact₃.toKeeps.trans hact₄.toKeeps)
    exact hkeep₄.trans (keeps_line e₄ false rfl rfl rfl)
  · exact hact₄.effectOn.trans (hact₃.effectOn.trans hhalt.effectOn)

/-! ## Opening -/

/-- What the engine reads off a handle are the properties that the host granted when it opened the
stream; nothing updates them later. -/
theorem Occupied.infoOf (h : Occupied e d s) : e.infoOf d = some s.properties := by
  unfold Engine.infoOf
  rw [h.handle]
  rfl

/-- The output is asked for at the rate of the input, which is that of the configuration, because a
stream that runs at another rate was not accepted. -/
theorem inputRate_of_occupied (h : Occupied e .input s) :
    inputRate e = .ok e.config.period.sampleRate e := by
  unfold inputRate
  rw [bind_apply, get_apply]
  simp only [h.infoOf, h.admitted.sampleRate]
  exact pure_apply _ e

/-- The end of an opening that failed: with both sides vacant, the line is given up, and the error
that the host gave is reported unchanged. It is where both failures of `openSides` end, the refusal
of the input and that of the output. -/
theorem abandonPair_ends (h : ∀ d, Vacant e d) (hdetached : e.line.link.attached = false)
    (hstarted : e.started = false) (err : AudioError) :
    Ends (abandonPair >>= fun _ => fail err : EngineM _ Unit) e fun r e' =>
      r = .error err ∧ Keeps e e' ∧ e'.effectOn = e.effectOn ∧ Closed e' := by
  have hclosed : Closed { e with line := { e.line with channel := none }, started := false } :=
    closed_of_vacant h rfl rfl hdetached
  rw [← hstarted] at hclosed
  exact ends_modify_bind (ends_fail ⟨rfl, keeps_line e e.started rfl rfl rfl, rfl, hclosed⟩)

/-- A half-open pair is given up: the input, which is open by now, is closed again. The output has
been refused by then, and its side is vacant; after the closing so is the other one. -/
theorem abandonInput_ends (hin : Occupied e .input s) (hout : Vacant e .output)
    (hstarted : e.started = false) (err : AudioError) :
    Ends (modifyLine Line.detach >>= fun _ => attempt (closeSide .input) >>= fun _ =>
        abandonPair >>= fun _ => fail err : EngineM _ Unit) e fun r e' =>
      r = .error err ∧ Keeps e e' ∧ e'.effectOn = e.effectOn ∧ Closed e' := by
  refine ends_modifyLine_bind ?_
  let e₁ : SimulatedEngine := { e with line := e.line.detach }
  have hin₁ : Occupied e₁ .input s := hin.frame ⟨rfl, rfl, rfl, rfl⟩ rfl (.refl _)
  have hout₁ : Vacant e₁ .output := hout.frame ⟨rfl, rfl, rfl, rfl⟩
  have hkeep₁ : Keeps e e₁ := keeps_line e e.started rfl rfl rfl
  refine (closeSide_ends hin₁).attempt_bind fun r₂ e₂ ⟨_, hin₂, hact₂⟩ => ?_
  -- the input has just been closed, and the output never came to be
  have hvacant : ∀ d, Vacant e₂ d := by
    intro d
    cases d with
    | input => exact hin₂
    | output => exact hact₂.vacant (by simp) hout₁
  have hdetached : e₂.line.link.attached = false := by
    rw [hact₂.link]
    rfl
  refine (abandonPair_ends hvacant hdetached (hact₂.started.trans hstarted) err).mono
    fun r e₃ ⟨hr, hkeep₃, heffect₃, hclosed⟩ => ?_
  exact ⟨hr, (hkeep₁.trans hact₂.toKeeps).trans hkeep₃, heffect₃.trans hact₂.effectOn, hclosed⟩

/-- Two occupied sides over a new channel are an open pair at rest; `Open.started` has nothing to
say of a session that does not count as started. -/
theorem open_of_occupied (hocc : ∀ d, ∃ s, Occupied e d s) (hattached : e.line.link.attached = true)
    (hchannel : e.line.channel = some (.ofLength e.config.period.samples))
    (hstarted : e.started = false) : Open e where
  occupied := hocc
  channel := ⟨_, hchannel, Channel.length_ofLength _⟩
  attached := hattached
  started hs := by
    rw [hstarted] at hs
    cases hs

/-- **Opening a closed pair** ends open at rest, over a new channel, or closed. The three paths are
success, an output that is refused (`abandonInput_ends`) and an input that is refused
(`abandonPair_ends`); on each the shape of both sides is carried from step to step. -/
theorem openSides_ends (h : Closed e) (hn : Numbered e.host) :
    Ends openSides e fun r e' => Keeps e e' ∧ e'.effectOn = e.effectOn
      ∧ ((r = .ok () ∧ Open e' ∧ (∀ d, e'.state d = .opened) ∧ e'.started = false
            ∧ e'.line.channel = some (.ofLength e.config.period.samples))
        ∨ ((∃ err, r = .error err) ∧ Closed e')) := by
  unfold openSides
  refine ends_get_bind ?_
  simp only [h.holdsStreams, Bool.false_eq_true, if_false]
  refine ends_modify_bind ?_
  let e₁ : SimulatedEngine := { e with
    line := e.line.renew e.config.period.samples }
  have hvacant : ∀ d, Vacant e₁ d := fun d => (h.vacant d).of_same rfl rfl rfl
  have hkeep₁ : Keeps e e₁ := keeps_line e e.started rfl rfl rfl
  refine (openSide_ends (e := e₁) (hvacant .input) rfl hn).attempt_bind
    fun r₂ e₂ ⟨hact₂, hcases⟩ => ?_
  have hkeep₂ : Keeps e e₂ := hkeep₁.trans hact₂.toKeeps
  have hout : Vacant e₂ .output := hact₂.vacant (by simp) (hvacant .output)
  have hstarted₂ : e₂.started = false := hact₂.started.trans h.started
  rcases hcases with ⟨rfl, ⟨s, hin⟩, hstate⟩ | ⟨⟨err, rfl⟩, hin⟩
  · -- the input is open: the output follows at the rate that the input got
    refine ends_bind_of_ok (inputRate_of_occupied hin) ?_
    have hsome₂ : e₂.line.channel.isSome = true := by
      rw [hact₂.channel]
      rfl
    refine (openSide_ends hout hsome₂ (hn.of_follows hkeep₂.host)).attempt_bind
      fun r₃ e₃ ⟨hact₃, hcases⟩ => ?_
    have hkeep₃ : Keeps e e₃ := hkeep₂.trans hact₃.toKeeps
    have hin₃ : Occupied e₃ .input s := hact₃.occupied (by simp) hin
    have hstarted₃ : e₃.started = false := hact₃.started.trans hstarted₂
    have heffect₃ : e₃.effectOn = e.effectOn := hact₃.effectOn.trans hact₂.effectOn
    rcases hcases with ⟨rfl, ⟨s', hout₃⟩, hstate'⟩ | ⟨⟨err, rfl⟩, hout₃⟩
    · have hchannel : e₃.line.channel = some (.ofLength e.config.period.samples) :=
        hact₃.channel.trans hact₂.channel
      have hattached : e₃.line.link.attached = true := by
        rw [hact₃.link, hact₂.link]
        rfl
      have hocc : ∀ d, ∃ s, Occupied e₃ d s := by
        intro d
        cases d with
        | input => exact ⟨s, hin₃⟩
        | output => exact ⟨s', hout₃⟩
      have hopened : ∀ d, e₃.state d = .opened := by
        intro d
        cases d with
        | input => exact (hact₃.other .input (by simp)).state.trans hstate
        | output => exact hstate'
      have hopen : Open e₃ :=
        open_of_occupied hocc hattached (by rw [hchannel, hkeep₃.config]) hstarted₃
      exact ends_pure ⟨hkeep₃, heffect₃, Or.inl ⟨rfl, hopen, hopened, hstarted₃, hchannel⟩⟩
    · refine (abandonInput_ends hin₃ hout₃ hstarted₃ err).mono
        fun r e₄ ⟨hr, hkeep₄, heffect₄, hclosed⟩ => ?_
      exact ⟨hkeep₃.trans hkeep₄, heffect₄.trans heffect₃, Or.inr ⟨⟨err, hr⟩, hclosed⟩⟩
  · refine ends_modifyLine_bind ?_
    -- the input was refused, and the output was never asked for
    let e₃ : SimulatedEngine := { e₂ with line := e₂.line.detach }
    have hvacant₃ : ∀ d, Vacant e₃ d := by
      intro d
      refine Vacant.frame (e := e₂) ?_ ⟨rfl, rfl, rfl, rfl⟩
      cases d with
      | input => exact hin
      | output => exact hout
    have hkeep₃ : Keeps e e₃ := hkeep₂.trans (keeps_line e₂ e₂.started rfl rfl rfl)
    refine (abandonPair_ends hvacant₃ rfl hstarted₂ err).mono
      fun r e₄ ⟨hr, hkeep₄, heffect₄, hclosed⟩ => ?_
    exact ⟨hkeep₃.trans hkeep₄, heffect₄.trans hact₂.effectOn, Or.inr ⟨⟨err, hr⟩, hclosed⟩⟩

/-! ## Starting -/

/-- Work on one side that leaves it occupied leaves the pair open. The other side needs no argument:
`ActsOn.other` keeps it. What has to be shown of the mark of being started is the last hypothesis,
as work on one side may have to do with it. -/
theorem Open.of_actsOn (h : Open e) (hact : ActsOn d e e') (ho : ∃ s, Occupied e' d s)
    (hstarted : e'.started = true → ∀ d, e'.state d = .running ∨ e'.state d = .error) :
    Open e' where
  occupied := by
    intro d'
    by_cases hd : d' = d
    · subst hd
      exact ho
    · obtain ⟨s, hs⟩ := h.occupied d'
      exact ⟨s, hact.occupied hd hs⟩
  channel := by
    rw [hact.channel, hact.config]
    exact h.channel
  attached := by
    rw [hact.link]
    exact h.attached
  started := hstarted

/-- A session that counts as started cannot be started again: no side of it rests, so an open side
tells that the session has been stopped or never started. -/
theorem Open.not_started_of_opened (h : Open e) (hd : e.state d = .opened) : e.started = false := by
  cases hs : e.started with
  | false => rfl
  | true =>
    rcases h.started hs d with hr | hr
    · rw [hr] at hd
      cases hd
    · rw [hr] at hd
      cases hd

/-- **Starting an open pair.** It stays open over the same channel. It runs on both sides exactly
if the start succeeded; a start that fails changes at most the input, and does not count. -/
theorem startSides_ends (h : Open e) :
    Ends startSides e fun r e' => Keeps e e' ∧ e'.effectOn = e.effectOn ∧ Open e'
      ∧ e'.line.channel = e.line.channel
      ∧ ((r = .ok () ∧ e'.started = true ∧ ∀ d, e'.state d = .running)
        ∨ ((∃ err, r = .error err) ∧ e'.started = e.started)) := by
  obtain ⟨s, hin⟩ := h.occupied .input
  obtain ⟨s', hout⟩ := h.occupied .output
  have hheld : (e.streams.input.isNone || e.streams.output.isNone) = false := by
    have h₁ : e.streams.input = some s := hin.handle
    have h₂ : e.streams.output = some s' := hout.handle
    rw [h₁, h₂]
    rfl
  unfold startSides
  refine ends_get_bind ?_
  simp only [hheld, Bool.false_eq_true, if_false]
  refine (startSide_ends hin).bind (fun _ e₁ ⟨hin₁, hact₁, hcases⟩ => ?_)
    fun err e₁ ⟨hin₁, hact₁, hcases⟩ => ?_
  · rcases hcases with ⟨_, hopened, hrun₁⟩ | ⟨⟨_, herr⟩, _⟩
    -- a start that got past the input found it resting, so the session did not count as started
    · have hfresh : e₁.started = false :=
        hact₁.started.trans (h.not_started_of_opened hopened)
      have hopen₁ : Open e₁ :=
        h.of_actsOn hact₁ ⟨s, hin₁⟩ fun hs => by rw [hfresh] at hs; cases hs
      have hout₁ : Occupied e₁ .output s' := hact₁.occupied (by simp) hout
      refine (startSide_ends hout₁).bind (fun _ e₂ ⟨hout₂, hact₂, hcases₂⟩ => ?_)
        fun err e₂ ⟨hout₂, hact₂, hcases₂⟩ => ?_
      · rcases hcases₂ with ⟨_, _, hrun₂⟩ | ⟨⟨_, herr⟩, _⟩
        · have hrun : ∀ d, e₂.state d = .running := by
            intro d
            cases d with
            | input => exact (hact₂.other .input (by simp)).state.trans hrun₁
            | output => exact hrun₂
          have hopen₂ : Open e₂ :=
            hopen₁.of_actsOn hact₂ ⟨s', hout₂⟩ fun _ d => Or.inl (hrun d)
          refine ends_modify ⟨?_, hact₂.effectOn.trans hact₁.effectOn,
            ⟨fun d => ?_, hopen₂.channel, hopen₂.attached, fun _ d => Or.inl (hrun d)⟩,
            hact₂.channel.trans hact₁.channel, Or.inl ⟨rfl, rfl, hrun⟩⟩
          · exact (hact₁.toKeeps.trans hact₂.toKeeps).trans (keeps_line e₂ true rfl rfl rfl)
          · obtain ⟨s, hs⟩ := hopen₂.occupied d
            exact ⟨s, hs.frame ⟨rfl, rfl, rfl, rfl⟩ rfl (.refl _)⟩
        · cases herr
      · -- the output did not start: the input is left running
        have hfresh₂ : e₂.started = false := hact₂.started.trans hfresh
        refine ⟨hact₁.toKeeps.trans hact₂.toKeeps, hact₂.effectOn.trans hact₁.effectOn, ?_,
          hact₂.channel.trans hact₁.channel,
          Or.inr ⟨⟨err, rfl⟩, hact₂.started.trans hact₁.started⟩⟩
        exact hopen₁.of_actsOn hact₂ ⟨s', hout₂⟩ fun hs => by rw [hfresh₂] at hs; cases hs
    · cases herr
  · rcases hcases with ⟨hok, _⟩ | ⟨_, hsame⟩
    · cases hok
    · refine ⟨hact₁.toKeeps, hact₁.effectOn, ?_, hact₁.channel,
        Or.inr ⟨⟨err, rfl⟩, hact₁.started⟩⟩
      refine h.of_actsOn hact₁ ⟨s, hin₁⟩ fun hs d => ?_
      rw [hact₁.started] at hs
      cases d with
      | input =>
        rw [hsame]
        exact h.started hs .input
      | output =>
        rw [(hact₁.other .output (by simp)).state]
        exact h.started hs .output

end Engine

end Passthrough
