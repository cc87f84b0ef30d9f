import Passthrough.Proofs.Config.Verdict
import Passthrough.Proofs.Engine.Requested
/-!
# The devices in force

Devices can be chosen at any time, options only while nothing is open, and options choose devices
too. Either is refused as a whole or taken over as a whole. So the device that is in force for a
direction is the last one of those that have been accepted for it (`acceptedIds`), whichever call it
came with, and as no request is made by a call that configures, it is what every request asks for.

* **`after_deviceIdFor`** — the device in force after a run.
* **`perform_config`** — a step that requests something changes no setting.
* **`after_requested`** — every request of a run is made by one of its steps.
* **`requests_in_force`** — every request is what the configuration in force asks for.
-/

namespace Passthrough

open EngineM SimulatedHost

/-- The device that options ask for. -/
def Options.deviceIdFor (o : Options) : Direction → Int
  | .input => o.recordDeviceId.toInt
  | .output => o.playbackDeviceId.toInt

/-- A configuration that resolves options has their devices, number by number. -/
theorem Config.Resolves.deviceIdFor {c : Config} {o : Options} (h : c.Resolves o) (d : Direction) :
    c.deviceIdFor d = o.deviceIdFor d := by
  cases d with
  | input => exact h.recordDeviceId
  | output => exact h.playbackDeviceId

namespace Engine

variable {e e' : SimulatedEngine} {d : Direction} {rs : List StreamSpec}

/-! ## Accepted devices -/

/-- The device that a step gets accepted for a direction, if any: one that is chosen for it, or the
one in options. -/
def acceptedId? (d : Direction) (e : SimulatedEngine) : Action → Option Int
  | .call (.selectDevice side id) =>
    if side = d ∧ (e.selectDevice side id).1.isOk then some id else none
  | .call (.configure options) =>
    if (e.configure options).1.isOk then some (options.deviceIdFor d) else none
  | _ => none

/-- The devices accepted for a direction in a run, oldest first. -/
def acceptedIds (d : Direction) (e : SimulatedEngine) : List Action → List Int
  | [] => []
  | a :: as => (acceptedId? d e a).toList ++ acceptedIds d (e.perform a) as

theorem configure_of_error {options : Options} {err : ConfigError}
    (herr : (e.configure options).1 = .error err) : (e.configure options).2 = e := by
  rcases e.configure_cases options with ⟨_, heq⟩ | ⟨_, _, _, heq⟩ <;> rw [heq] at herr ⊢
  cases herr

theorem selectDevice_of_error {id : Int} {err : ConfigError}
    (herr : (e.selectDevice d id).1 = .error err) : (e.selectDevice d id).2 = e := by
  rcases e.selectDevice_cases d id with ⟨_, heq⟩ | heq <;> rw [heq] at herr ⊢
  cases herr

/-- **Accepted options** bring their devices, for both directions; options that are refused bring
none. -/
theorem configure_deviceIdFor (e : SimulatedEngine) (options : Options) (d : Direction) :
    (e.configure options).2.config.deviceIdFor d
      = (acceptedId? d e (.call (.configure options))).getD (e.config.deviceIdFor d) := by
  simp only [acceptedId?]
  rcases e.configure_cases options with ⟨_, heq⟩ | ⟨_, hchecked, _, heq⟩ <;> rw [heq]
  · rfl
  · exact (Config.resolves_of_ofOptions hchecked).deviceIdFor d

/-- **An accepted device** is in force for its own direction only. Where the id is refused the
configuration is the old one, so that both cases come down to the four pairs of directions. -/
theorem selectDevice_deviceIdFor (e : SimulatedEngine) (side : Direction) (id : Int)
    (d : Direction) :
    (e.selectDevice side id).2.config.deviceIdFor d
      = (acceptedId? d e (.call (.selectDevice side id))).getD (e.config.deviceIdFor d) := by
  simp only [acceptedId?]
  rcases e.selectDevice_cases side id with ⟨_, heq⟩ | heq <;> rw [heq]
  · cases side <;> cases d <;> rfl
  · cases side <;> cases d <;> rfl

/-- **One step** leaves in force what it got accepted, and what was in force where it got nothing
accepted. Only two calls can get an id accepted, and those that do not configure keep the whole
configuration (`call_config`). -/
theorem perform_deviceIdFor (h : Sound e) (a : Action) (d : Direction) :
    (e.perform a).config.deviceIdFor d
      = (acceptedId? d e a).getD (e.config.deviceIdFor d) := by
  cases a with
  | call c =>
    cases hc : c.configures with
    | false =>
      have hsame : (e.perform (.call c)).config = e.config := call_config h hc
      rw [hsame]
      cases c with
      | configure | selectDevice => cases hc
      | _ => rfl
    | true =>
      cases c with
      | configure options => exact configure_deviceIdFor e options d
      | selectDevice side id => exact selectDevice_deviceIdFor e side id d
      -- another interface is not another device
      | selectApi api =>
        show (e.selectApi api).2.config.deviceIdFor d = _
        rcases e.selectApi_cases api with heq | ⟨_, heq⟩ <;> rw [heq]
        · rfl
        · cases d <;> rfl
      | selectObserver observer => rfl
      | _ => cases hc
  | feed frames => exact congrArg (·.deviceIdFor d) (feed_endures h frames).config
  | draw dest => exact congrArg (·.deviceIdFor d) (draw_endures h dest).config
  | unplug side error => exact congrArg (·.deviceIdFor d) (unplug_endures h side error).config
  | script s => rfl
  | collect => rfl

/-- **The device in force** after a run is the last that has been accepted, or the one from the
start. The induction is on the run from its start, since `acceptedIds` is defined along it. -/
theorem after_deviceIdFor (h : Sound e) (as : List Action) (d : Direction) :
    (e.after as).config.deviceIdFor d
      = (acceptedIds d e as).getLastD (e.config.deviceIdFor d) := by
  induction as generalizing e with
  | nil => rfl
  | cons a as ih =>
    show ((e.perform a).after as).config.deviceIdFor d = _
    rw [ih (perform_sound h a).1, perform_deviceIdFor h a d]
    show _ = ((acceptedId? d e a).toList ++ acceptedIds d (e.perform a) as).getLastD _
    cases acceptedId? d e a with
    | none => rfl
    | some id => exact (List.getLastD_cons ..).symm

/-! ## Requests and settings -/

/-- **A step that requests something** leaves the configuration as it is, so that it does not matter
whether a request is compared with the settings before or after it. -/
theorem perform_config (h : Sound e) (a : Action)
    (hne : (e.perform a).host.requests ≠ e.host.requests) :
    (e.perform a).config = e.config := by
  cases a with
  | call c =>
    cases hc : c.configures with
    | false => exact call_config h hc
    | true => exact absurd (congrArg (·.requests) (e.host_of_configures hc)) hne
  | feed frames => exact (feed_endures h frames).config
  | draw dest => exact (draw_endures h dest).config
  | unplug d error => exact (unplug_endures h d error).config
  | script s => rfl
  | collect => rfl

/-- Whatever is requested, it is the device in force for its direction, the output of a recovery
included. It is read off the requests one by one: both of them take the id from the configuration of
their step. -/
theorem Requests.deviceId (h : Requests e e' rs) {r : StreamSpec} (hr : r ∈ rs) :
    r.deviceId = e.config.deviceIdFor r.direction := by
  cases h with
  | nothing => cases hr
  | pair hpair =>
    cases hpair with
    | input =>
      rw [List.mem_singleton.mp hr]
      rfl
    | both =>
      rcases List.mem_cons.mp hr with rfl | hr
      · rfl
      · rw [List.mem_singleton.mp hr]
        rfl
  | output s held kept =>
    rw [List.mem_singleton.mp hr]
    rfl

/-- **One request of a run**, with those of its step that came before and after it. -/
structure RequestedBy (new : SimulatedEngine) (before : List Action) (a : Action)
    (earlier : List StreamSpec) (r : StreamSpec) : Prop where
  step : ∃ first last, earlier = (new.after before).host.requests ++ first
    ∧ (new.after (before ++ [a])).host.requests = earlier ++ r :: last
    ∧ Requests (new.after before) (new.after (before ++ [a])) (first ++ r :: last)
  config : (new.after (before ++ [a])).config = (new.after before).config
  deviceId : r.deviceId
    = (acceptedIds r.direction new before).getLastD (new.config.deviceIdFor r.direction)

/-- A request of the last step of a run, told apart from those that its step has made before and
after it. `perform_config` is needed because a step that requests anything keeps the configuration
it has begun with. -/
theorem requestedBy_last {new : SimulatedEngine} (hnew : Sound new) {as : List Action} {a : Action}
    {first last : List StreamSpec} {r : StreamSpec}
    (hmore : (new.after (as ++ [a])).host.requests
      = (new.after as).host.requests ++ (first ++ r :: last))
    (hasked : Requests (new.after as) (new.after (as ++ [a])) (first ++ r :: last)) :
    RequestedBy new as a ((new.after as).host.requests ++ first) r where
  step := ⟨first, last, rfl, hmore.trans (List.append_assoc _ _ _).symm, hasked⟩
  config := by
    have hlast : new.after (as ++ [a]) = (new.after as).perform a := after_append new as [a]
    rw [hlast] at hmore ⊢
    refine perform_config (after_sound hnew as).1 a ?_
    rw [hmore]
    simp
  deviceId := by
    rw [hasked.deviceId (List.mem_append_right first List.mem_cons_self)]
    exact after_deviceIdFor hnew as r.direction

/-- **Every request of a run** is one of some step, found by induction from the end of the run. What
a run has requested is split at the last step: the request in question was there before it, or is
one of its own. -/
theorem after_requested {new : SimulatedEngine} (hnew : Sound new) (hnone : new.host.requests = [])
    (as : List Action) {earlier rest : List StreamSpec} {r : StreamSpec}
    (hrequests : (new.after as).host.requests = earlier ++ r :: rest) :
    ∃ before a later, as = before ++ a :: later ∧ RequestedBy new before a earlier r := by
  induction as using List.reverseRecOn generalizing rest with
  | nil =>
    have hempty : new.after [] = new := rfl
    rw [hempty, hnone] at hrequests
    simp at hrequests
  | append_singleton as a ih =>
    have hlast : new.after (as ++ [a]) = (new.after as).perform a := after_append new as [a]
    obtain ⟨rs, hmore, hasked⟩ := perform_requests (after_sound hnew as).1 a
    rw [← hlast] at hmore hasked
    have hcut : (new.after as).host.requests ++ rs = earlier ++ r :: rest := hmore ▸ hrequests
    rcases List.append_eq_append_iff.mp hcut with ⟨first, rfl, rfl⟩ | ⟨more, hwas, hrs⟩
    · exact ⟨as, a, [], rfl, requestedBy_last hnew hmore hasked⟩
    · cases more with
      -- it is the first of the last step
      | nil =>
        rw [List.nil_append] at hrs
        subst hrs
        rw [List.append_nil] at hwas
        have hfirst : RequestedBy new as a ((new.after as).host.requests ++ []) r :=
          requestedBy_last hnew hmore hasked
        rw [List.append_nil, hwas] at hfirst
        exact ⟨as, a, [], rfl, hfirst⟩
      -- it was there before the last step
      | cons r' more =>
        obtain ⟨rfl, rfl⟩ := List.cons.inj hrs
        obtain ⟨before, b, later, rfl, hby⟩ := ih hwas
        exact ⟨before, b, later ++ [a], by simp, hby⟩

/-- **Requests reflect the configuration in force.** In any run, whatever the host has been asked
for:

* each request is made by one step and is what the configuration asks for before and after it, an
  output at the rate of the input that is held; its device is the last one that was accepted for its
  direction;
* devices and options that are refused change nothing;
* repairing an output alone requests an output with the device that is in force by then, at the rate
  of the input, and if that succeeds the input is as it was. -/
theorem requests_in_force (config : Config) (recovery : Recovery) (noticeCapacity : Nat)
    (as : List Action) :
    let new : SimulatedEngine := create {} config recovery noticeCapacity
    let e := new.after as
    (∀ earlier r rest, e.host.requests = earlier ++ r :: rest →
        ∃ before a later, as = before ++ a :: later ∧ RequestedBy new before a earlier r)
      ∧ (∀ d id err, (e.selectDevice d id).1 = .error err → (e.selectDevice d id).2 = e)
      ∧ (∀ options err, (e.configure options).1 = .error err → (e.configure options).2 = e)
      ∧ (e.state .output = .error → e.state .input ≠ .error →
          ∃ p, e.infoOf .input = some p
            ∧ e.repair.2.host.requests = e.host.requests ++ [e.config.outputSpec p.sampleRate]
            ∧ (e.config.outputSpec p.sampleRate).deviceId
                = (acceptedIds .output new as).getLastD config.playbackDeviceId
            ∧ (e.repair.2.holdsStreams = true → SameSide .input e e.repair.2)) := by
  intro new e
  have hnew : Sound new := sound_create config recovery noticeCapacity
  have h : Sound e := (after_sound hnew as).1
  refine ⟨fun earlier r rest hrequests => after_requested hnew rfl as hrequests,
    fun d id err => selectDevice_of_error, fun options err => configure_of_error,
    fun hout hin => ?_⟩
  -- a side that has failed is not closed, so the pair is open
  have ho : Open e := h.isOpen_of_ne_closed (d := .output) (by simp [hout])
  obtain ⟨s, hs⟩ := ho.occupied .input
  obtain ⟨_, _, hrequests, hkept⟩ :=
    (repair_output_requests ho h.numbered hs hout hin).run h.poisoned
  exact ⟨s.properties, hs.infoOf, hrequests, after_deviceIdFor hnew as .output, hkept⟩

/-- An output is replaced after another device has been accepted for each side: the output is opened
on the new one, the input stays. -/
example :
    let e : SimulatedEngine := create {} { recordDeviceId := 3 }
    let e' := e.after [.call .bringUp, .call (.selectDevice .input 5),
      .call (.selectDevice .output 7), .call (.selectDevice .output (-1)),
      .unplug .output .disconnected, .call .repair]
    e'.host.requests.map (fun r => (r.direction, r.deviceId))
      = [(.input, 3), (.output, 0), (.output, 7)] := by
  decide +kernel

end Engine

end Passthrough
