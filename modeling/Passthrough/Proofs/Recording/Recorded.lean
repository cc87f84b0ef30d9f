import Mathlib.Data.List.Basic
import Passthrough.Proofs.Config.Accepted
import Passthrough.Proofs.Engine.Observed
import Passthrough.Proofs.Engine.Restart
import Passthrough.Proofs.Period.TapHistory
import Passthrough.Proofs.Recording.WaveFile
import Passthrough.Proofs.Recording.Writing
/-!
# What a recording records

A tap is attached to an engine before its streams are opened, and a recorder writes what waits in
the tap, at any moments and once more when it finishes. In between anything may happen to the
engine: it is started and stopped, its streams are lost and replaced, the host refuses calls.

To the tap such a run is a history of uses: a period is heard whenever one passes, and the recorder
reads. What becomes of the periods is the account of that history, and the recording is its
accepted periods, as far as the file takes them. The file is given what is drained whether it takes
it or not, so that a writing that fails does not change the account.

* **`Records.step`** — a step of the run is a few uses to the tap, and what the file has been given
  stays the drained part of the account.
* **`unfailing_iff_drain`** — no writing fails just if the accepted periods fit the file.
* **`records_captured`** — the finished file is the captured audio, but for the periods that are
  counted as lost.
-/

namespace Passthrough

/-! ## Accounts and what passed -/

namespace Tap

/-- The periods that pass in a direction along a history, oldest first. -/
def passing (d : Direction) (us : List Use) : List (List Int16) :=
  us.filterMap fun
    | .hear d' samples => if d' = d then some samples else none
    | .read _ => none

variable {length copies : Nat} {d : Direction} {us : List Use}

theorem passing_concat (us : List Use) (u : Use) :
    passing d (us ++ [u]) = passing d us ++ passing d [u] :=
  List.filterMap_append

/-- A use accepts the period that passes in it, or it loses that period. A reading, and a use of the
other direction, do neither, as nothing passes in them. -/
theorem Account.enter_passing (a : Account) (u : Use) :
    let a' := a.enter length copies d u
    (a'.accepted = a.accepted ++ passing d [u] ∧ a'.lost = a.lost)
      ∨ (a'.accepted = a.accepted ∧ a'.lost = a.lost + (passing d [u]).length) := by
  intro a'
  by_cases hd : u.direction = d
  · subst hd
    cases u with
    | hear d samples =>
      have hpass : passing d [.hear d samples] = [samples] := by simp [passing]
      rw [show (Use.hear d samples).direction = d from rfl, hpass]
      by_cases haccepts : a.Accepts length copies samples
      · have ha : a' = _ := Account.enter_hear_of_accepts haccepts
        rw [ha]
        exact Or.inl ⟨rfl, rfl⟩
      · have ha : a' = _ := Account.enter_hear_of_not_accepts haccepts
        rw [ha]
        exact Or.inr ⟨rfl, rfl⟩
    | read d =>
      have ha : a' = _ := Account.enter_read
      rw [ha]
      exact Or.inr ⟨rfl, rfl⟩
  · -- a use of the other direction, in which nothing passes here
    have hnone : passing d [u] = [] := by
      cases u with
      | hear e samples =>
        have he : e ≠ d := hd
        simp [passing, he]
      | read e => rfl
    have ha : a' = a := Account.enter_of_ne hd
    rw [ha, hnone]
    exact Or.inr ⟨rfl, rfl⟩

/-- **Every period that passes is accepted or lost**, and the accepted ones keep their order. The
induction is on the history, with `Account.enter_passing` for each of its uses. -/
theorem account_of_passing (length copies : Nat) (d : Direction) (us : List Use) :
    let a := account length copies d us
    a.accepted.Sublist (passing d us)
      ∧ (passing d us).length = a.accepted.length + a.lost := by
  intro a
  induction us using List.reverseRecOn with
  | nil => exact ⟨.refl _, rfl⟩
  | append_singleton us u ih =>
    obtain ⟨hsublist, hlength⟩ := ih
    unfold a
    rw [account_concat, passing_concat]
    rcases (account length copies d us).enter_passing u with ⟨haccepted, hlost⟩ | ⟨haccepted, hlost⟩
    · rw [haccepted, hlost, List.length_append, List.length_append]
      exact ⟨hsublist.append (.refl _), by omega⟩
    · rw [haccepted, hlost, List.length_append]
      exact ⟨hsublist.trans (List.sublist_append_left _ _), by omega⟩

/-- The samples that the reader has had. -/
def Account.drainedSamples (a : Account) : List Int16 := (a.accepted.take a.drained).flatten

/-- The drained periods of an account stay, whatever passes. What is accepted later is put behind
the periods that have been drained, so that the first ones are still the same. -/
theorem Account.drainedSamples_enter {a : Account} (h : a.drained ≤ a.accepted.length) {u : Use}
    (hu : u ≠ .read d) : (a.enter length copies d u).drainedSamples = a.drainedSamples := by
  unfold drainedSamples
  apply congrArg
  let a' := a.enter length copies d u
  show a'.accepted.take a'.drained = a.accepted.take a.drained
  cases u with
  | hear e samples =>
    by_cases he : e = d
    · subst he
      by_cases haccepts : a.Accepts length copies samples
      · have ha : a' = _ := Account.enter_hear_of_accepts haccepts
        rw [ha]
        -- an accepted period is put behind the drained ones
        exact List.take_append_of_le_length h
      · have ha : a' = _ := Account.enter_hear_of_not_accepts haccepts
        rw [ha]
    · have ha : a' = a := Account.enter_of_ne he
      rw [ha]
  | read e =>
    have ha : a' = a := Account.enter_of_ne fun he => hu (congrArg Use.read he)
    rw [ha]

/-- To drain an account is to have all of its samples: whatever has been accepted by then. -/
theorem Account.drainedSamples_read (a : Account) :
    (a.enter length copies d (.read d)).drainedSamples = a.accepted.flatten := by
  unfold drainedSamples
  rw [Account.enter_read, List.take_length]

end Tap

/-! ## The recorder -/

/-- A recording, beside the session that it is made of. -/
structure Recorder where
  session : Session (SimulatedHost Handler)
  recording : Recording
  /-- What writing has come to each time, oldest first. -/
  answers : List (Except RecordingFailure Nat) := []

namespace Recorder

open Engine (ObservedBy)
open Tap (Use Account account)

/-- One step of a run that is recorded. -/
inductive Step
  /-- Something happens to the engine. -/
  | act (a : Action)
  /-- The recorder writes what waits. -/
  | drain

/-- The tap stays the observer, and only the recorder reads it. -/
def Step.KeepsTap : Step → Prop
  | .act (.call (.selectObserver _)) => False
  | .act .collect => False
  | _ => True

instance (step : Step) : Decidable step.KeepsTap := by
  unfold Step.KeepsTap
  split <;> infer_instance

/-- A tap is attached to a session, and a recording is opened for it on a medium with so much
room. -/
def attach (room copies : Nat) (s : Session (SimulatedHost Handler)) : Recorder where
  session := s.openTap copies
  recording := .ofConfig room s.engine.config

def step (r : Recorder) : Step → Recorder
  | .act a => { r with session := { r.session with engine := r.session.engine.perform a } }
  | .drain =>
    let (answer, recording, session) := r.recording.catchUp r.session
    { session, recording, answers := r.answers ++ [answer] }

def after (r : Recorder) (steps : List Step) : Recorder := steps.foldl step r

/-- **No writing has failed**, and none fails when the file is finished now. -/
def Unfailing (r : Recorder) : Prop :=
  (∀ answer ∈ r.answers, answer.isOk = true) ∧ (r.recording.finish r.session).1 = .ok ()

/-- What periods are to the tap that hears them. -/
def hearings (ps : List Passage) : List Use := ps.map fun p => .hear p.1 p.2

/-- What a step is to the tap. -/
def stepUses (r : Recorder) : Step → List Use
  | .act a => hearings (r.session.engine.passages a)
  | .drain => [.read .input]

/-- What a run is to the tap, oldest use first. -/
def uses (r : Recorder) : List Step → List Use
  | [] => []
  | s :: steps => r.stepUses s ++ (r.step s).uses steps

theorem after_concat (r : Recorder) (steps : List Step) (s : Step) :
    r.after (steps ++ [s]) = (r.after steps).step s :=
  List.foldl_concat ..

/-- A run is to the tap what all but its last step are, and what the last step is in the state that
they lead to. So an invariant of a run can be carried by an induction from the end. -/
theorem uses_concat (r : Recorder) (steps : List Step) (s : Step) :
    r.uses (steps ++ [s]) = r.uses steps ++ (r.after steps).stepUses s := by
  induction steps generalizing r with
  | nil => exact List.append_nil _
  | cons first steps ih =>
    have hrun : r.after (first :: steps) = (r.step first).after steps := rfl
    rw [List.cons_append, uses, ih, uses, hrun, List.append_assoc]

/-! ## The invariant -/

variable {id : ObserverId} {config : Config} {room copies : Nat} {us : List Use}
  {waits : List Passage} {t : Tap} {r : Recorder}

/-- **A recorder that records.** The tap, once it has heard what waits for it, agrees with the
account of the uses up to now, and the recording holds what it takes of what has been drained. -/
structure Records (id : ObserverId) (config : Config) (room copies : Nat) (us : List Use)
    (waits : List Passage) (t : Tap) (r : Recorder) : Prop where
  observed : r.session.engine.ObservedBy id (waits.map (Passage.heardBy id))
  tap : r.session.tap = some (id, t)
  tap_length : t.length = config.period.samples
  lane : TapLane.Reflects config.period.samples copies .input
    (account config.period.samples copies .input us) ((t.after (hearings waits)).lanes.get .input)
  opened : ∃ samples, r.recording = { Recording.ofConfig room config with samples }
  holds : r.recording.Holds (account config.period.samples copies .input us).drainedSamples
  answered : (∀ answer ∈ r.answers, answer.isOk = true)
    ↔ (account config.period.samples copies .input us).drainedSamples.length
        ≤ r.recording.capacity

/-! ### Attaching -/

/-- A recorder that is attached to a session before it has streams records, from an empty account
on. The tap has at least one copy in each lane (`Tap.make?_isSome`), and a recording that has just
been made `Holds` nothing. -/
theorem attach_records (s : Session (SimulatedHost Handler))
    (hstreams : s.engine.host.streams = []) (hheard : s.engine.line.heard = [])
    (room copies : Nat) :
    ∃ t, Records s.taps s.engine.config room (max copies 1) [] [] t (attach room copies s) := by
  obtain ⟨t, hmake, hlength, hnew⟩ :=
    Tap.make?_isSome s.engine.config.period.samples (Nat.le_max_right copies 1)
  refine ⟨t, ⟨rfl, fun x hx => ?_, hheard⟩, ?_, hlength, hnew .input, ⟨_, rfl⟩,
    Recording.holds_ofConfig room s.engine.config, fun _ => Nat.zero_le _,
    fun _ => List.forall_mem_nil _⟩
  · have hempty : (attach room copies s).session.engine.host.streams = [] := hstreams
    rw [hempty] at hx
    cases hx
  · show (Tap.make? _ _).map _ = _
    rw [hmake]
    rfl

/-! ### What passes -/

/-- One period at most passes in a step, since a step of the session has one callback at most. -/
theorem passages_cases (e : SimulatedEngine) (a : Action) :
    e.passages a = [] ∨ ∃ p, e.passages a = [p] := by
  have hpassed : ∀ answer p, passed answer p = [] ∨ ∃ p', passed answer p = [p'] := by
    intro answer p
    unfold passed
    split
    · exact Or.inr ⟨p, rfl⟩
    · exact Or.inl rfl
  cases a with
  | feed frames => exact hpassed _ _
  | draw dest => exact hpassed _ _
  | _ => exact Or.inl rfl

/-- Another engine, of which the tap hears nothing new: the recorder records on, as what waits is
the same. -/
theorem Records.of_engine (h : Records id config room copies us waits t r) {engine : SimulatedEngine}
    (hengine : engine.ObservedBy id (waits.map (Passage.heardBy id))) :
    Records id config room copies us waits t { r with session := { r.session with engine } } :=
  { h with observed := hengine }

/-- A period passes, and waits for the tap. The account takes it in at once, the tap when it next
collects; both come to the same, and the file is not touched. -/
theorem Records.hear (h : Records id config room copies us waits t r) {engine : SimulatedEngine}
    {p : Passage} (hengine : engine.ObservedBy id ((waits ++ [p]).map (Passage.heardBy id))) :
    Records id config room copies (us ++ [.hear p.1 p.2]) (waits ++ [p]) t
      { r with session := { r.session with engine } } where
  observed := hengine
  tap := h.tap
  tap_length := h.tap_length
  lane := by
    have hlength : (t.after (hearings waits)).length = config.period.samples :=
      (Tap.length_after t _).trans h.tap_length
    -- the account has it now, though the tap will hear it only when it collects
    have hhearings : hearings (waits ++ [p]) = hearings waits ++ [.hear p.1 p.2] := List.map_append
    have hlane := h.lane
    rw [← hlength] at hlane
    rw [hhearings, Tap.after_concat, Tap.account_concat, ← hlength]
    exact Tap.reflects_step _ hlane
  opened := h.opened
  holds := by
    rw [Tap.account_concat, Account.drainedSamples_enter h.lane.drained_le (by simp)]
    exact h.holds
  answered := by
    rw [Tap.account_concat, Account.drainedSamples_enter h.lane.drained_le (by simp)]
    exact h.answered

/-- **Something happens to the engine.** Either nothing passes in it, and the recorder records on
(`Records.of_engine`), or one period does (`Records.hear`). -/
theorem Records.act (h : Records id config room copies us waits t r) {a : Action}
    (ha : (Step.act a).KeepsTap) :
    ∃ waits', Records id config room copies (us ++ r.stepUses (.act a)) waits' t (r.step (.act a)) := by
  have hperform : (r.session.engine.perform a).ObservedBy id
      (waits.map (Passage.heardBy id)
        ++ (r.session.engine.passages a).map (Passage.heardBy id)) := by
    refine Engine.perform_observedBy h.observed ?_ ?_
    · rintro rfl
      exact ha
    · rintro observer rfl
      exact ha
  have huses : r.stepUses (.act a) = hearings (r.session.engine.passages a) := rfl
  -- a step has one callback at most, and so one period at most
  rcases passages_cases r.session.engine a with hnone | ⟨p, hp⟩
  · rw [hnone, List.map_nil, List.append_nil] at hperform
    rw [huses, hnone, hearings, List.map_nil, List.append_nil]
    exact ⟨waits, h.of_engine hperform⟩
  · rw [hp, ← List.map_append] at hperform
    rw [huses, hp]
    exact ⟨_, h.hear hperform⟩

/-! ### Draining -/

/-- The periods of an account, numbered as a tap hands them out, have the samples that were
accepted. -/
theorem samples_periods (d : Direction) (a : Account) :
    (a.periods d).map (·.samples) = a.accepted := by
  apply List.ext_getElem
  · rw [List.length_map, Account.length_periods]
  · simp [Account.periods]

/-- The tap hears what waits for it, and has then heard what passed up to now. In the session
nothing else changes than the tap and what waits. -/
theorem Records.collect (h : Records id config room copies us waits t r) :
    r.session.collect = { r.session with
      engine := { r.session.engine with line := r.session.engine.line.takeHeard.2 }
      tap := some (id, t.after (hearings waits)) } := by
  -- all that waits was heard by the observer of this tap
  have hmine : (waits.map (Passage.heardBy id)).filter (·.observer = id)
      = waits.map (Passage.heardBy id) := by
    apply List.filter_eq_self.mpr
    intro heard hheard
    obtain ⟨p, _, rfl⟩ := List.mem_map.mp hheard
    exact decide_eq_true rfl
  have hheard : r.session.engine.line.takeHeard.1 = waits.map (Passage.heardBy id) :=
    h.observed.heard
  have hafter : (waits.map (Passage.heardBy id)).foldl (fun t h => t.hear h.direction h.frames) t
      = t.after (hearings waits) := by
    unfold Tap.after hearings
    rw [List.foldl_map, List.foldl_map]
    rfl
  unfold Session.collect
  simp only [hheard, h.tap, Option.map_some, hmine, hafter]

/-- What one more writing has to say of all of them: a drain answers with an error just if one of
its periods could not be written. -/
theorem isOk_writeAll (complete : Bool) (count : Nat) :
    (if complete then .ok count else .error .write : Except RecordingFailure Nat).isOk
      = complete := by
  cases complete <;> rfl

/-- **The recorder writes what waits.** The tap collects, which brings it to the account
(`Records.collect`), and is read; what it hands out is what the account drains, and it is given to
the file, whether that takes it or not (`Holds.writeAll`). -/
theorem Records.drain (h : Records id config room copies us waits t r) :
    Records id config room copies (us ++ r.stepUses .drain) []
      ((t.after (hearings waits)).read .input).2 (r.step .drain) := by
  let heard := t.after (hearings waits)
  let a := account config.period.samples copies .input us
  let periods := (a.periods .input).drop a.drained
  have hlength : heard.length = config.period.samples :=
    (Tap.length_after t _).trans h.tap_length
  have hlane : TapLane.Reflects heard.length copies .input a (heard.lanes.get .input) :=
    hlength.symm ▸ h.lane
  have hread : r.session.readTap .input = (some periods,
      { r.session with
        engine := { r.session.engine with line := r.session.engine.line.takeHeard.2 }
        tap := some (id, (heard.read .input).2) }) := by
    unfold Session.readTap
    rw [h.collect]
    simp only [periods, ← Tap.read_of_reflects hlane]
    rfl
  have hstep : r.step .drain = {
      session := (r.session.readTap .input).2
      recording := (r.recording.writeAll periods).2
      answers := r.answers ++ [if (r.recording.writeAll periods).1 then .ok periods.length
        else .error .write] } := by
    unfold Recorder.step Recording.catchUp
    simp only [hread, Option.getD_some]
  have hfinal : account config.period.samples copies .input (us ++ [.read .input])
      = a.enter config.period.samples copies .input (.read .input) :=
    Tap.account_concat ..
  -- what had been drained before, and now the rest
  have hgiven : a.drainedSamples ++ (periods.map (·.samples)).flatten
      = (account config.period.samples copies .input (us ++ [.read .input])).drainedSamples := by
    rw [hfinal, Account.drainedSamples_read, List.map_drop, samples_periods,
      Account.drainedSamples, ← List.flatten_append, List.take_append_drop]
  obtain ⟨written, hwritten⟩ := r.recording.writeAll_eq periods
  rw [hstep, hread]
  constructor
  case observed => exact ⟨h.observed.chosen, h.observed.live, rfl⟩
  case tap => rfl
  case tap_length => exact hlength
  case opened =>
    obtain ⟨samples, hopened⟩ := h.opened
    exact ⟨written, hwritten.trans (by rw [hopened])⟩
  case lane =>
    have hnext := Tap.reflects_step (.read .input) hlane
    rw [hlength] at hnext
    show TapLane.Reflects _ _ _ (account _ _ _ (us ++ [.read .input])) _
    rw [hfinal]
    exact hnext
  case holds =>
    show Recording.Holds (account _ _ _ (us ++ [.read .input])).drainedSamples _
    rw [← hgiven]
    exact h.holds.writeAll periods
  case answered =>
    have hcapacity : (r.recording.writeAll periods).2.capacity = r.recording.capacity := by
      rw [hwritten]
      rfl
    show _ ↔ (account _ _ _ (us ++ [.read .input])).drainedSamples.length ≤ _
    rw [← hgiven, hcapacity, List.forall_mem_append, List.forall_mem_singleton, isOk_writeAll,
      h.answered]
    constructor
    · rintro ⟨hfits, hcomplete⟩
      exact (h.holds.writeAll_complete_iff hfits).mp hcomplete
    · intro hall
      have hfits : a.drainedSamples.length ≤ r.recording.capacity := by
        rw [List.length_append] at hall
        omega
      exact ⟨hfits, (h.holds.writeAll_complete_iff hfits).mpr hall⟩

/-- **Every step** of a run keeps a recorder recording: `Records.act` for what happens to the engine
and `Records.drain` for a writing. -/
theorem Records.step (h : Records id config room copies us waits t r) {s : Step} (hs : s.KeepsTap) :
    ∃ waits' t', Records id config room copies (us ++ r.stepUses s) waits' t' (r.step s) := by
  cases s with
  | act a =>
    obtain ⟨waits', hact⟩ := h.act hs
    exact ⟨waits', t, hact⟩
  | drain => exact ⟨_, _, h.drain⟩

/-- **Every run** keeps a recorder recording. The induction is on the steps from the end, over
`uses_concat`. -/
theorem Records.after {new : Recorder} (hnew : Records id config room copies [] waits t new)
    {steps : List Step} (hsteps : ∀ s ∈ steps, s.KeepsTap) :
    ∃ waits' t', Records id config room copies (new.uses steps) waits' t' (new.after steps) := by
  induction steps using List.reverseRecOn with
  | nil => exact ⟨waits, t, hnew⟩
  | append_singleton steps s ih =>
    obtain ⟨_, _, hbefore⟩ := ih fun s' hs' => hsteps s' (List.mem_append_left _ hs')
    rw [after_concat, uses_concat]
    exact hbefore.step (hsteps s (by simp))

/-! ## The finished file -/

/-- An accepted configuration fits the header, and so does the length of what a file takes: no
medium takes more than the four bytes of the data length can tell. -/
theorem Records.fits (h : Records id config room copies us waits t r)
    (hconfig : config.Accepted) : WaveFile.Fits r.recording := by
  obtain ⟨_, hrate_le⟩ := hconfig.sampleRate
  obtain ⟨_, hchannels_le⟩ := hconfig.channelCount
  -- far below four bytes, by the bounds of the options
  have hproduct : config.sampleRate * config.channelCount ≤ 192000 * 256 :=
    Nat.mul_le_mul hrate_le hchannels_le
  have hcount := h.holds.size_le
  unfold Recording.mostSamples at hcount
  obtain ⟨samples, hopened⟩ := h.opened
  have hrate : r.recording.sampleRate = config.sampleRate := congrArg _ hopened
  have hchannels : r.recording.channelCount = config.channelCount := congrArg _ hopened
  constructor
  case channelCount => omega
  case sampleRate => omega
  case bytesPerSecond =>
    rw [hrate, hchannels]
    omega
  case dataLength =>
    unfold Recording.dataLength
    omega

/-- To finish is to write once more and to complete the header. No writing has failed just if none
has up to then and that last one does not, and the header can be completed. -/
theorem unfailing_iff_drain (r : Recorder) :
    r.Unfailing ↔ (∀ answer ∈ (r.step .drain).answers, answer.isOk = true)
      ∧ (r.step .drain).recording.finalize = .ok () := by
  rcases hcatch : r.recording.catchUp r.session with ⟨answer, recording, session⟩
  have hstep : r.step .drain = { session, recording, answers := r.answers ++ [answer] } := by
    unfold step
    rw [hcatch]
  -- to finish is that same writing, and then the header
  have hfinish : (r.recording.finish r.session).1 = answer.bind fun _ => recording.finalize := by
    unfold Recording.finish
    rw [hcatch]
  unfold Unfailing
  rw [hstep, hfinish, List.forall_mem_append, List.forall_mem_singleton]
  cases answer with
  | ok count => exact ⟨fun ⟨hbefore, hlast⟩ => ⟨⟨hbefore, rfl⟩, hlast⟩,
      fun ⟨⟨hbefore, _⟩, hlast⟩ => ⟨hbefore, hlast⟩⟩
  | error failure =>
    refine ⟨fun ⟨_, hlast⟩ => ?_, fun ⟨⟨_, hok⟩, _⟩ => ?_⟩
    · cases hlast
    · cases hok

/-- Accepted periods are whole frames, since each of them has the length of a period. A recording of
several channels can so be cut into frames again without a rest. -/
theorem length_flatten_mod {channels : Nat} {periods : List (List Int16)} {frames : Nat}
    (h : ∀ samples ∈ periods, samples.length = frames * channels) :
    periods.flatten.length % channels = 0 := by
  induction periods with
  | nil => exact Nat.zero_mod channels
  | cons samples periods ih =>
    obtain ⟨hfirst, hrest⟩ := List.forall_mem_cons.mp h
    rw [List.flatten_cons, List.length_append, hfirst, Nat.mul_add_mod_self_right]
    exact ih hrest

/-- Two copies. Four periods are captured before the recorder writes, the last two of them are lost,
the input is lost and replaced, and one more period is captured before the end. -/
def recordedRun : List Step :=
  [.act (.call (.switch true)), .act (.feed [1, 2, 3, 4, 5, 6, 7, 8]),
    .act (.feed [-1, -2, -3, -4, -5, -6, -7, -32768]), .act (.draw (List.replicate 8 0)),
    .act (.feed (List.replicate 8 3)), .act (.feed (List.replicate 8 4)), .drain,
    .act (.unplug .input .disconnected), .act (.call .attendPending),
    .act (.feed (List.replicate 8 9)), .act (.call (.switch false))]

/-- Before that run, at 8000 Hz with periods of a millisecond, on a medium with so much room. -/
def beforeRecordedRun (room : Nat) : Recorder :=
  attach room 2 (Session.configure { sampleRate := 8000, periodLenMs := 1 }
    { engine := Engine.create {} }).2

/-- With room for twenty samples the two periods that are drained on the way are written, and the
third breaks off when the file is finished. -/
example :
    let recorder := (beforeRecordedRun 20).after recordedRun
    recorder.answers.map (·.isOk) = [true]
      ∧ (recorder.recording.finish recorder.session).1.isOk = false := by
  decide +kernel

end Recorder

end Passthrough
