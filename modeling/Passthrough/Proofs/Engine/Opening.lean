import Passthrough.Proofs.Engine.Side
import Passthrough.Proofs.Engine.Upright
/-!
# Opening is all or nothing

Whatever a host that answers does, opening a pair ends with both streams held or with none. What
there is to object to in its answers is written down answer by answer (`Minute.objections`); the
first objection is what opening comes to. After an objection to the input the output is not asked
for, and every stream that was handed out by then is closed again.

* **`openSides_minutes`** — what opening asks for, what it comes to and what it leaves.
* **`bringUp_all_or_nothing`** — so it is in every run; where streams are held already, opening does
  nothing at all.
-/

namespace Passthrough

open EngineM Engine

/-! ## Objections -/

/-- What there is to object to in an answer, in the order of the checks. -/
def Minute.objections (period : PeriodFormat) : Minute → List AudioError
  | .refused side _ source => [.streamOpenFailed side source]
  | .handedOut _ _ _ p =>
    (if p.sampleRate = period.sampleRate then []
      else [.sampleRateMismatch p.direction period.sampleRate p.sampleRate])
    ++ (if p.channelCount = period.channelCount then []
      else [.channelCountMismatch p.direction period.channelCount p.channelCount])
    ++ (if period.bytes ≤ period.bufferBytes p.bufferCapacityFrames then []
      else [.bufferCapacityTooSmall p.direction period.bytes
        (period.bufferBytes p.bufferCapacityFrames)])
  | _ => []

/-- **What objections come to**: the first of them. -/
def firstObjection : List AudioError → Except AudioError Unit
  | [] => .ok ()
  | err :: _ => .error err

/-- A stream is checked for what there is to object to, in the order in which `Minute.objections`
lists it: the rate, then the channels, then the frames of a callback. -/
theorem checkFit_eq (period : PeriodFormat) (d : Direction) (r : StreamSpec) (s : StreamHandle)
    (p : StreamInfo) : checkFit period period.sampleRate p
      = firstObjection ((Minute.handedOut d r s p).objections period) := by
  unfold checkFit Minute.objections
  by_cases hrate : p.sampleRate = period.sampleRate
  · by_cases hchannels : p.channelCount = period.channelCount
    · by_cases hroom : period.bytes ≤ period.bufferBytes p.bufferCapacityFrames
      · simp [hrate, hchannels, hroom, Nat.not_lt.mpr hroom, firstObjection]
      · simp [hrate, hchannels, hroom, Nat.lt_of_not_le hroom, firstObjection]
    · simp [hrate, hchannels, firstObjection]
  · simp [hrate, firstObjection]

theorem firstObjection_eq_ok_iff {objections : List AudioError} :
    firstObjection objections = .ok () ↔ objections = [] := by
  cases objections with
  | nil => simp [firstObjection]
  | cons err rest => simp [firstObjection]

/-- The first objection stays the first, whatever is objected to later. -/
theorem firstObjection_append {objections more : List AudioError} {err : AudioError}
    (h : firstObjection objections = .error err) :
    firstObjection (objections ++ more) = .error err := by
  cases objections with
  | nil => cases h
  | cons other rest => exact h

namespace EngineM

variable {H : Type} {d : Direction} {s : StreamHandle} {p : StreamInfo} {err : AudioError}
  {ms : List Minute} {e e' : Engine (MinutedHost H)}

/-! ## One side -/

section Side

variable {f : PeriodFormat}

/-- The minutes of a side that has opened at the configured rate hold no objection: its stream
`fits`, and no other call of an opening can be objected to. -/
theorem SideOpened.unobjected [StreamHost Handler Line H]
    (h : SideOpened d f.sampleRate s p ms e e') (hperiod : e.config.period = f) :
    ∀ m ∈ ms, m.objections f = [] := by
  obtain ⟨answer, rfl⟩ := h.asked
  have hfits : checkFit f f.sampleRate p = .ok () := hperiod ▸ h.fits
  rw [checkFit_eq f d (e.config.spec d f.sampleRate) s] at hfits
  intro m hm
  rw [List.mem_cons, List.mem_singleton] at hm
  rcases hm with rfl | rfl
  · exact firstObjection_eq_ok_iff.mp hfits
  · rfl

theorem SideOpened.admits [StreamHost Handler Line H] (h : SideOpened d f.sampleRate s p ms e e')
    (hperiod : e.config.period = f) : f.Admits p :=
  (checkFit_eq_ok_iff f p).mp (hperiod ▸ h.fits)

theorem SideOpened.once [StreamHost Handler Line H] {rate : Nat}
    (h : SideOpened d rate s p ms e e') :
    ms.filterMap Minute.asked? = [d] ∧ ms.filterMap Minute.handedOut? = [(d, s, p)]
      ∧ ms.filterMap Minute.closed? = [] := by
  obtain ⟨answer, rfl⟩ := h.asked
  exact ⟨rfl, rfl, rfl⟩

/-- The minutes of a side that has not opened begin with an answer to object to: a refusal, or a
stream that does not fit. The side comes to the first of these objections. -/
theorem SideRefused.objected (h : SideRefused d f.sampleRate err ms e e')
    (hperiod : e.config.period = f) :
    ∃ m rest, ms = m :: rest ∧ m.asked? = some d
      ∧ firstObjection (m.objections f) = .error err := by
  rcases h.asked with ⟨source, rfl, rfl⟩ | ⟨s, p, answer, rfl, hmisfit⟩
  · exact ⟨_, [], rfl, rfl, rfl⟩
  · rw [hperiod, checkFit_eq f d (e.config.spec d f.sampleRate) s] at hmisfit
    exact ⟨_, _, rfl, rfl, hmisfit⟩

theorem SideRefused.reply (h : SideRefused d f.sampleRate err ms e e')
    (hperiod : e.config.period = f) (more : List Minute) :
    firstObjection ((ms ++ more).flatMap (Minute.objections f)) = .error err := by
  obtain ⟨m, rest, rfl, _, hfirst⟩ := h.objected hperiod
  exact firstObjection_append hfirst

end Side

/-- A side that has not opened asks for one stream, and what is handed out to it is closed, once. -/
theorem SideRefused.once {rate : Nat} (h : SideRefused d rate err ms e e') :
    ms.filterMap Minute.asked? = [d]
      ∧ ms.filterMap Minute.closed?
        = ((ms.filterMap Minute.handedOut?).map fun (_, stream, _) => stream).reverse := by
  rcases h.asked with ⟨source, rfl, _⟩ | ⟨s, p, answer, rfl, _⟩ <;> exact ⟨rfl, rfl⟩

/-! ## The pair -/

/-- **Both streams are held**, as they were handed out, over a new channel. -/
structure BroughtUp (e : Engine (MinutedHost H)) (calls : List Minute)
    (e' : Engine (MinutedHost H)) (s : Duplex StreamHandle) (p : Duplex StreamInfo) : Prop where
  handedOut : calls.filterMap Minute.handedOut?
    = [(.input, s.input, p.input), (.output, s.output, p.output)]
  unclosed : calls.filterMap Minute.closed? = []
  held : ∀ d, e'.streams.get d = some (s.get d)
  opened : ∀ d, e'.state d = .opened
  admitted : ∀ d, e.config.period.Admits (p.get d)
  channel : e'.line.channel.map Channel.length = some e.config.period.samples
  attached : e'.line.link.attached = true

/-- **Nothing is left**: what was handed out is closed again, each stream once. -/
structure RolledBack (e : Engine (MinutedHost H)) (calls : List Minute)
    (e' : Engine (MinutedHost H)) : Prop where
  closed : calls.filterMap Minute.closed?
    = ((calls.filterMap Minute.handedOut?).map fun (_, stream, _) => stream).reverse
  states : ∀ d, e'.state d = .closed
  streams : ∀ d, e'.streams.get d = none
  channel : e'.line.channel = none
  detached : e'.line.link.attached = false
  effectOn : e'.effectOn = e.effectOn
  started : e'.started = e.started

/-- **All or nothing.** The first objection to the answers is what the calls come to. The output is
asked for just if there is none to the input. -/
structure AllOrNothing (e : Engine (MinutedHost H)) (calls : List Minute)
    (r : Except AudioError Unit) (e' : Engine (MinutedHost H)) : Prop where
  minutes : e'.host.minutes = e.host.minutes ++ calls
  reply : r = firstObjection (calls.flatMap (Minute.objections e.config.period))
  askedBoth : (∀ m ∈ calls, m.asked? = some .input → m.objections e.config.period = []) →
    calls.filterMap Minute.asked? = [.input, .output]
  askedInput : (∃ m ∈ calls, m.asked? = some .input ∧ m.objections e.config.period ≠ []) →
    calls.filterMap Minute.asked? = [.input]
  config : e'.config = e.config
  all : r = .ok () → ∃ s p, BroughtUp e calls e' s p
  nothing : ∀ err, r = .error err → RolledBack e calls e'

/-- An engine with a new line, over which a pair is to be opened. -/
def linked (e : Engine (MinutedHost H)) : Engine (MinutedHost H) := { e with
  line := e.line.renew e.config.period.samples }

/-- An engine whose channel has been given up. -/
def abandoned (e : Engine (MinutedHost H)) : Engine (MinutedHost H) := { e with
  line := { e.line with channel := none } }

variable {e₁ e₂ e₃ : Engine (MinutedHost H)} {ms₁ ms₂ : List Minute}

/-- **The input is refused**, and the output is not asked for. Of the pair nothing is left but the
channel, and that is given up by `abandoned`. -/
theorem SideRefused.allOrNothing
    (h : SideRefused .input e.config.period.sampleRate err ms (linked e) e₁)
    (hshut : ∀ d, e.state d = .closed ∧ e.streams.get d = none) :
    AllOrNothing e ms (.error err) (abandoned { e₁ with line := e₁.line.detach }) where
  minutes := h.minutes
  -- there are no other calls than those of the input
  reply := by
    have hreply := h.reply (f := e.config.period) rfl []
    rw [List.append_nil] at hreply
    exact hreply.symm
  -- the input has been objected to, so this case is void
  askedBoth hunobjected := by
    obtain ⟨m, rest, rfl, hinput, hfirst⟩ := h.objected (f := e.config.period) rfl
    rw [hunobjected m List.mem_cons_self hinput] at hfirst
    cases hfirst
  askedInput _ := h.once.1
  config := h.config
  all hok := by cases hok
  nothing _ _ := {
    closed := h.once.2
    states := fun
      | .input => h.closed
      | .output => (h.state .output nofun).trans (hshut .output).1
    streams := fun d => (congrArg (·.get d) h.streams).trans (hshut d).2
    channel := rfl
    detached := rfl
    effectOn := h.effectOn
    started := h.started }

/-- What is told of an opening changes nothing about it: `AllOrNothing` says nothing of the board.
So the notice of an opening can be told after all else, in `bringUp_minutes`. -/
theorem AllOrNothing.told {calls : List Minute} {r : Except AudioError Unit}
    (h : AllOrNothing e calls r e') (board : NoticeBoard) :
    AllOrNothing e calls r { e' with board } where
  minutes := h.minutes
  reply := h.reply
  askedBoth := h.askedBoth
  askedInput := h.askedInput
  config := h.config
  all hok := by
    obtain ⟨s, p, hup⟩ := h.all hok
    exact ⟨s, p, hup.1, hup.2, hup.3, hup.4, hup.5, hup.6, hup.7⟩
  nothing err herr := by
    have hback := h.nothing err herr
    exact ⟨hback.1, hback.2, hback.3, hback.4, hback.5, hback.6, hback.7⟩

section Held

variable [StreamHost Handler Line H]

theorem not_asked_of_once {m : Minute} (honce : ms.filterMap Minute.asked? = [.output])
    (hm : m ∈ ms) : m.asked? ≠ some .input := by
  intro hinput
  have hmem : Direction.input ∈ ms.filterMap Minute.asked? := List.mem_filterMap.mpr ⟨m, hm, hinput⟩
  rw [honce] at hmem
  cases List.mem_singleton.mp hmem

/-- **The output is refused**, and the input is closed again. The minutes are those of the input,
those of the output and one closing; so the streams are closed in the order that is the reverse of
their opening, and the objection is the first that the output meets, as nothing was wrong with the
input. -/
theorem SideRefused.allOrNothing_output {answer : Except HostError Unit}
    (h : SideRefused .output e.config.period.sampleRate err ms₂ e₁ e₂)
    (hin : SideOpened .input e.config.period.sampleRate s p ms₁ (linked e) e₁)
    (hamid : Amid .input [.closed s answer] { e₂ with line := e₂.line.detach } e₃)
    (hnone : e₃.streams.get .input = none) (hclosed : e₃.state .input = .closed)
    (hshut : e.streams.get .output = none) :
    AllOrNothing e (ms₁ ++ (ms₂ ++ [.closed s answer])) (.error err) (abandoned e₃) := by
  have hperiod : e₁.config.period = e.config.period := congrArg Config.period hin.config
  have hunobjected := hin.unobjected (f := e.config.period) rfl
  obtain ⟨hasked₁, hgiven₁, hclosed₁⟩ := hin.once
  obtain ⟨hasked₂, hclosed₂⟩ := h.once
  exact {
    minutes := by
      have hminutes : e₃.host.minutes = e₂.host.minutes ++ [.closed s answer] := hamid.minutes
      have hlinked : (linked e).host.minutes = e.host.minutes := rfl
      show e₃.host.minutes = _
      rw [hminutes, h.minutes, hin.minutes, hlinked, List.append_assoc, List.append_assoc]
    reply := by
      rw [List.flatMap_append, List.flatMap_eq_nil_iff.mpr hunobjected]
      exact (h.reply hperiod _).symm
    askedBoth := fun _ => by
      rw [List.filterMap_append, List.filterMap_append, hasked₁, hasked₂]
      rfl
    askedInput := by
      rintro ⟨m, hm, hinput, hobjected⟩
      rcases List.mem_append.mp hm with hm | hm
      · exact absurd (hunobjected m hm) hobjected
      · rcases List.mem_append.mp hm with hm | hm
        · exact absurd hinput (not_asked_of_once hasked₂ hm)
        · rw [List.mem_singleton.mp hm] at hinput
          cases hinput
    config := hamid.config.trans (h.config.trans hin.config)
    all := nofun
    nothing := fun _ _ => {
      -- what the output was handed is closed by itself, and the input last
      closed := by
        simp only [List.filterMap_append, hclosed₁, hclosed₂, hgiven₁, List.map_append,
          List.reverse_append]
        rfl
      states := fun
        | .input => hclosed
        | .output => (hamid.state .output nofun).trans h.closed
      streams := fun
        | .input => hnone
        | .output => ((hamid.held .output nofun).trans (congrArg (·.get .output) h.streams)).trans
            ((hin.held .output nofun).trans hshut)
      channel := rfl
      detached := hamid.attached
      effectOn := hamid.effectOn.trans (h.effectOn.trans hin.effectOn)
      started := hamid.started.trans (h.started.trans hin.started) } }

/-- **Both are held.** Neither side has met an objection, each was asked for once, and nothing was
closed; the output has changed nothing of what the input holds. -/
theorem SideOpened.allOrNothing {s' : StreamHandle} {p' : StreamInfo}
    (h : SideOpened .output e.config.period.sampleRate s' p' ms₂ e₁ e₂)
    (hin : SideOpened .input e.config.period.sampleRate s p ms₁ (linked e) e₁) :
    AllOrNothing e (ms₁ ++ ms₂) (.ok ()) e₂ := by
  have hperiod : e₁.config.period = e.config.period := congrArg Config.period hin.config
  -- no call of either side can be objected to
  have hunobjected : ∀ m ∈ ms₁ ++ ms₂, m.objections e.config.period = [] := by
    intro m hm
    rcases List.mem_append.mp hm with hm | hm
    · exact hin.unobjected (f := e.config.period) rfl m hm
    · exact h.unobjected hperiod m hm
  obtain ⟨hasked₁, hgiven₁, hclosed₁⟩ := hin.once
  obtain ⟨hasked₂, hgiven₂, hclosed₂⟩ := h.once
  exact {
    minutes := (h.toAmid.minutes.trans (congrArg (· ++ ms₂) hin.minutes)).trans
      (List.append_assoc _ _ _)
    reply := by
      rw [List.flatMap_eq_nil_iff.mpr hunobjected]
      rfl
    askedBoth := fun _ => by
      rw [List.filterMap_append, hasked₁, hasked₂]
      rfl
    askedInput := by
      rintro ⟨m, hm, _, hobjected⟩
      exact absurd (hunobjected m hm) hobjected
    config := h.config.trans hin.config
    all := fun _ => ⟨⟨s, s'⟩, ⟨p, p'⟩, {
      handedOut := by
        rw [List.filterMap_append, hgiven₁, hgiven₂]
        rfl
      unclosed := by
        rw [List.filterMap_append, hclosed₁, hclosed₂]
        rfl
      held := fun
        | .input => (h.held .input nofun).trans hin.holds
        | .output => h.holds
      opened := fun
        | .input => (h.state .input nofun).trans hin.opened
        | .output => h.opened
      admitted := fun
        | .input => hin.admits rfl
        | .output => h.admits hperiod
      channel := by
        rw [h.channel, hin.channel]
        exact congrArg some (Channel.length_ofLength _)
      attached := h.attached.trans hin.attached }⟩
    nothing := nofun }

/-- An engine that holds streams already refuses to open more, and does nothing at all. -/
theorem bringUp_of_holdsStreams (h : e.holdsStreams = true) :
    bringUp e = .error (.error .alreadyOpen) e := by
  unfold bringUp
  rw [bind_apply, openSides_of_holdsStreams h]

variable [Answering H]

/-- **Opening a pair** that is not held. The input is opened first; where it is refused, that is all
(`SideRefused.allOrNothing`). Otherwise the output decides, between `SideOpened.allOrNothing` and
the roll-back of the input (`SideRefused.allOrNothing_output`). -/
theorem openSides_minutes (h : e.Upright) (hunheld : e.holdsStreams = false) :
    Ends openSides e fun r e' => (∃ calls, AllOrNothing e calls r e')
      ∧ e'.poisoned = e.poisoned := by
  have hnone := get_eq_none_of_unheld hunheld
  have hshut : ∀ d, e.state d = .closed ∧ e.streams.get d = none :=
    fun d => ⟨h.closed (hnone d), hnone d⟩
  unfold openSides
  refine ends_get_bind ?_
  simp only [hunheld, Bool.false_eq_true, if_false]
  show Ends _ e _
  refine ends_modify_bind ?_
  show Ends _ (linked e) _
  refine (openSide_minutes (e := linked e) rfl (hshut .input).1).attempt_bind ?_
  rintro r₁ e₁ (⟨rfl, s, p, ms₁, hin⟩ | ⟨err, ms₁, rfl, hrefused⟩)
  · -- the input runs at the configured rate, so that is what the output is asked for
    have hrate : inputRate e₁ = .ok e.config.sampleRate e₁ := by
      have hinfo : e₁.infoOf .input = some p := by
        unfold Engine.infoOf
        rw [hin.holds, ← hin.runsAt]
        rfl
      have hadmits := hin.admits (f := e.config.period) rfl
      unfold inputRate
      rw [bind_apply, get_apply]
      dsimp only
      rw [hinfo]
      exact congrArg (fun rate => EStateM.Result.ok rate e₁) hadmits.sampleRate
    refine ends_bind_of_ok hrate ?_
    have hchannel : e₁.line.channel.isSome = true := by
      have hlength := hin.channel
      cases hc : e₁.line.channel with
      | none =>
        rw [hc] at hlength
        cases hlength
      | some c => rfl
    have hclosed : e₁.state .output = .closed := (hin.state .output nofun).trans (hshut .output).1
    refine (openSide_minutes hchannel hclosed).attempt_bind ?_
    rintro r₂ e₂ (⟨rfl, s', p', ms₂, hout⟩ | ⟨err, ms₂, rfl, hrefused⟩)
    · exact ends_pure ⟨⟨_, hout.allOrNothing hin⟩, hout.poisoned.trans hin.poisoned⟩
    · refine ends_modifyLine_bind ((closeSide_minutes .input _).attempt_bind ?_)
      rintro r₃ e₃ ⟨calls, hcalls, -, hamid, hnone₃, hclosed₃⟩
      have hheld : e₂.streams.get .input = some s := by
        rw [hrefused.streams]
        exact hin.holds
      have hclose : calls.map Prod.fst = [.close .input s] := by
        rw [hcalls]
        show (e₂.streams.get .input).toList.map _ = _
        rw [hheld]
        rfl
      obtain ⟨⟨parting, answer⟩, rfl, rfl⟩ := List.map_eq_singleton_iff.mp hclose
      refine ends_bind_of_ok rfl (ends_fail ⟨⟨_, hrefused.allOrNothing_output hin hamid hnone₃
        hclosed₃ (hshut .output).2⟩, ?_⟩)
      exact hamid.poisoned.trans (hrefused.poisoned.trans hin.poisoned)
  · refine ends_modifyLine_bind (ends_bind_of_ok rfl (ends_fail ?_))
    exact ⟨⟨ms₁, hrefused.allOrNothing hshut⟩, hrefused.poisoned⟩

/-- Bringing up is opening both sides, and a notice if that succeeds. The notice tells the rate of
the input, which is read off its stream (`inputRate`), and changes the board alone
(`AllOrNothing.told`). -/
theorem bringUp_minutes (h : e.Upright) (hunheld : e.holdsStreams = false) :
    Ends bringUp e fun r e' => (∃ calls, AllOrNothing e calls r e')
      ∧ e'.poisoned = e.poisoned := by
  unfold bringUp
  refine (openSides_minutes h hunheld).bind ?_ fun _ _ => id
  rintro _ e' ⟨⟨calls, hcalls⟩, halive⟩
  have hrate : inputRate e' = .ok _ e' := rfl
  exact ends_bind_of_ok hrate (ends_get_bind (ends_publish ⟨⟨calls, hcalls.told _⟩, halive⟩))

end Held

end EngineM

/-! ## Every run -/

namespace Engine

variable {H : Type} [StreamHost Handler Line H] [Answering H]

/-- **Opening is all or nothing**, after any run and whatever the host answers. An engine that holds
streams refuses, and nothing happens. `AllOrNothing` says the rest: what the calls come to, that
both streams are held, or that each one handed out has been closed. -/
theorem bringUp_all_or_nothing (host : H) (config : Config) (recovery : Recovery)
    (noticeCapacity : Nat) (ts : List (Turn H)) :
    let e := afterTurns host config recovery noticeCapacity ts
    (e.holdsStreams = true → e.bringUp = (.error (.error .alreadyOpen), e))
      ∧ (e.holdsStreams = false → ∃ calls r, e.bringUp.1 = r.mapError .error
        ∧ AllOrNothing e calls r e.bringUp.2) := by
  intro e
  have hupright : e.Upright := upright_afterTurns host config recovery noticeCapacity ts
  refine ⟨fun hheld => run_of_error (bringUp_of_holdsStreams hheld) hupright.alive, ?_⟩
  intro hunheld
  obtain ⟨r, hreply, ⟨calls, hcalls⟩, _⟩ := (bringUp_minutes hupright hunheld).run hupright.alive
  exact ⟨calls, r, hreply, hcalls⟩

/-- A mobile device that plays in stereo only, and whose input refuses to be closed. -/
def mismatched : MobileHost Handler :=
  { scripts := ⟨{ closeError := some .internal }, { channels := some .stereo }⟩ }

/-- An engine on such a device, fresh from its creation. -/
def mismatchedEngine : Engine (MinutedHost (MobileHost Handler)) :=
  afterTurns mismatched { sampleRate := 8000, periodMs := 1 } .manual 64 []

/-- Its output does not fit, and nothing is left of either stream. The answer is computed, and the
roll-back is the second half of the theorem at it. -/
theorem bringUp_all_or_nothing_mismatched :
    mismatchedEngine.holdsStreams = false
      ∧ mismatchedEngine.bringUp.1 = .error (.error (.channelCountMismatch .output 1 2))
      ∧ ∃ calls, RolledBack mismatchedEngine calls mismatchedEngine.bringUp.2 := by
  have hreply : mismatchedEngine.bringUp.1
      = .error (.error (.channelCountMismatch .output 1 2)) := rfl
  obtain ⟨calls, r, hr, hcalls⟩ := (bringUp_all_or_nothing mismatched
    { sampleRate := 8000, periodMs := 1 } .manual 64 []).2 rfl
  refine ⟨rfl, hreply, calls, ?_⟩
  cases r with
  | ok _ => cases hreply.symm.trans hr
  | error err => exact hcalls.nothing err rfl

end Engine

end Passthrough
