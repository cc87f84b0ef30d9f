import Passthrough.Host.Desktop.Negotiation
import Passthrough.Host.Simulated
import Passthrough.Proofs.Config.Accepted
import Passthrough.Proofs.Period.Words
/-!
# The verdict on options

What is checked of options, written down as a list: what each check objects to, if anything, in the
order of the checks. The verdict on options is the first objection in that list; options without any
are taken over as they are. A configuration that has come about in this way has a period whose
formulas agree with each other, and fit machine words.

A check decides over a part of the options (`Decides`), and checks that are made one after the other
decide as the first of them that objects (`Decides.bind`).

* **`Options.objection?_eq_none_iff`** — what options are like to which no check objects.
* **`Config.decides_ofOptions`** — the verdict is the first objection.
* **`Config.verdict_exact`** — both, and what can be computed from options that pass.
-/

namespace Passthrough

open Word

/-! ## Objections -/

namespace Options

/-- A number that has to be between two bounds. -/
def outside (field : String) (low high value : Int) : Option ConfigError :=
  if low ≤ value ∧ value ≤ high then none else some (.outOfRange field value)

/-- A number that has to reach a bound. -/
def below (field : String) (low value : Int) : Option ConfigError :=
  if low ≤ value then none else some (.outOfRange field value)

/-- A code that has to name what policy asks for. The codes of other things are refused, and all the
rest is no code at all. -/
def offPolicy (field : String) (policy others : List Int) (code : Int) : Option ConfigError :=
  if code ∈ policy then none
  else if code ∈ others then some (.policyFixed field code)
  else some (.outOfRange field code)

variable (o : Options)

/-- The rate that is meant: 0 stands for 16000. -/
def rate : Int := if o.sampleRate.toInt = 0 then 16000 else o.sampleRate.toInt

/-- The channels that are meant: 0 stands for one. -/
def channels : Int := if o.channelCount.toInt = 0 then 1 else o.channelCount.toInt

/-- **What there is to object to**, check by check. -/
def objections : List (Option ConfigError) :=
  [outside "periodLenMs" 1 1000 o.periodLenMs.toInt,
    if o.sampleRate.toInt = 0 then none else outside "sampleRate" 8000 192000 o.sampleRate.toInt,
    outside "channelCount" 0 256 o.channelCount.toInt,
    if o.rate * o.periodLenMs.toInt % 1000 = 0 then none
    else some (.periodNotIntegral o.rate.toNat o.periodLenMs.toInt.toNat),
    outside "nativeApi" 0 2 o.nativeApi.toInt,
    below "sessionId" (-1) o.sessionId.toInt,
    outside "rateConversionQuality" 0 5 o.rateConversionQuality.toInt,
    below "recordDeviceId" 0 o.recordDeviceId.toInt,
    below "playbackDeviceId" 0 o.playbackDeviceId.toInt,
    offPolicy "format" [0, 1] [2, 3, 4] o.format.toInt,
    offPolicy "sharingMode" [1] [0] o.sharingMode.toInt,
    offPolicy "performanceMode" [12] [10, 11] o.performanceMode.toInt,
    offPolicy "inputPreset" [7] [1, 5, 6, 9, 10] o.inputPreset.toInt,
    offPolicy "usage" [2] [1, 3, 4, 5, 6, 10, 11, 12, 13, 14, 16] o.usage.toInt]

/-- The first objection, if there is any. -/
def objection? : Option ConfigError := o.objections.findSome? id

/-- **Options that measure a period**: what the first three checks are about. -/
structure Measured : Prop where
  periodLenMs : 1 ≤ o.periodLenMs.toInt ∧ o.periodLenMs.toInt ≤ 1000
  sampleRate : o.sampleRate.toInt = 0 ∨ 8000 ≤ o.sampleRate.toInt ∧ o.sampleRate.toInt ≤ 192000
  channelCount : 0 ≤ o.channelCount.toInt ∧ o.channelCount.toInt ≤ 256

/-- **Acceptable options.** -/
structure Acceptable : Prop extends Measured o where
  integral : o.rate * o.periodLenMs.toInt % 1000 = 0
  nativeApi : 0 ≤ o.nativeApi.toInt ∧ o.nativeApi.toInt ≤ 2
  sessionId : -1 ≤ o.sessionId.toInt
  rateConversionQuality : 0 ≤ o.rateConversionQuality.toInt ∧ o.rateConversionQuality.toInt ≤ 5
  recordDeviceId : 0 ≤ o.recordDeviceId.toInt
  playbackDeviceId : 0 ≤ o.playbackDeviceId.toInt
  format : o.format.toInt = 0 ∨ o.format.toInt = 1
  sharingMode : o.sharingMode.toInt = 1
  performanceMode : o.performanceMode.toInt = 12
  inputPreset : o.inputPreset.toInt = 7
  usage : o.usage.toInt = 2

variable {o}

/-- There is nothing to object to a number exactly if it is between the bounds, both included. -/
theorem outside_eq_none_iff {field : String} {low high value : Int} :
    outside field low high value = none ↔ low ≤ value ∧ value ≤ high := by
  simp [outside]

/-- There is nothing to object to a number exactly if it reaches the bound. -/
theorem below_eq_none_iff {field : String} {low value : Int} :
    below field low value = none ↔ low ≤ value := by
  simp [below]

/-- There is nothing to object to a code exactly if it is one of those that name what policy asks
for. The codes of other choices (`others`) only decide which of two objections is made. -/
theorem offPolicy_eq_none_iff {field : String} {policy others : List Int} {code : Int} :
    offPolicy field policy others code = none ↔ code ∈ policy := by
  unfold offPolicy
  by_cases hpolicy : code ∈ policy
  · simp [hpolicy]
  · by_cases hothers : code ∈ others
    · simp [hpolicy, hothers]
    · simp [hpolicy, hothers]

/-- No check objects to acceptable options, and to no others. This is the reading of the list of
objections that a user of options needs. Each check is turned into its condition by a lemma of its
own (`outside_eq_none_iff` and its like), and the conditions are put together in the order of the
list. -/
theorem objection?_eq_none_iff : o.objection? = none ↔ o.Acceptable := by
  have hrate : (if o.sampleRate.toInt = 0 then none
        else outside "sampleRate" 8000 192000 o.sampleRate.toInt) = none
      ↔ o.sampleRate.toInt = 0 ∨ 8000 ≤ o.sampleRate.toInt ∧ o.sampleRate.toInt ≤ 192000 := by
    by_cases hzero : o.sampleRate.toInt = 0
    · simp [hzero]
    · simp [hzero, outside_eq_none_iff]
  -- the first objection is none just if all of them are
  have hall : o.objection? = none ↔ ∀ objection ∈ o.objections, objection = none := by
    unfold objection?
    exact List.findSome?_eq_none_iff
  -- each check in the list becomes its condition
  rw [hall]
  unfold objections
  simp only [List.forall_mem_cons, outside_eq_none_iff, below_eq_none_iff, offPolicy_eq_none_iff,
    hrate]
  simp only [List.mem_cons, List.not_mem_nil, or_false, ite_eq_left_iff, reduceCtorEq, imp_false,
    Decidable.not_not]
  constructor
  · rintro ⟨h₁, h₂, h₃, h₄, h₅, h₆, h₇, h₈, h₉, h₁₀, h₁₁, h₁₂, h₁₃, h₁₄, _⟩
    exact ⟨⟨h₁, h₂, h₃⟩, h₄, h₅, h₆, h₇, h₈, h₉, h₁₀, h₁₁, h₁₂, h₁₃, h₁₄⟩
  · intro h
    exact ⟨h.periodLenMs, h.sampleRate, h.channelCount, h.integral, h.nativeApi, h.sessionId,
      h.rateConversionQuality, h.recordDeviceId, h.playbackDeviceId, h.format, h.sharingMode,
      h.performanceMode, h.inputPreset, h.usage, fun _ hnone => hnone.elim⟩

end Options

/-! ## Codes -/

namespace Setting

variable {α : Type} [Setting α]

/-- A choice that has been found has the code under which it was looked for, so codes and choices
correspond. -/
theorem code_of_ofCode? {code : Int} {a : α} (h : ofCode? code = some a) :
    Setting.code a = code := by
  have hfound := List.find?_some (p := fun a : α => Setting.code a == code) h
  exact eq_of_beq hfound

/-- Exactly the codes of the list are codes of a choice; all others are refused. It is the half that
`decides_chosen` needs for a code beyond the list. -/
theorem ofCode?_eq_none_iff {code : Int} :
    ofCode? (α := α) code = none ↔ code ∉ (Setting.all : List α).map Setting.code := by
  unfold ofCode?
  rw [List.find?_eq_none, List.mem_map]
  constructor
  · rintro hnone ⟨a, ha, rfl⟩
    exact hnone a ha (beq_self_eq_true _)
  · intro hcodes a ha hfound
    exact hcodes ⟨a, ha, eq_of_beq hfound⟩

end Setting

/-- The code under which a session is found: -1, 0 or its number. -/
def SessionId.code : SessionId → Int
  | .none => -1
  | .allocate => 0
  | .id n => n

/-! ## Checks -/

namespace Config

open Options

variable {α β : Type} {objection : Option ConfigError} {rest : List (Option ConfigError)}
  {x : Except ConfigError α} {P : α → Prop}

/-- **A check decides over options**: without an objection it accepts them and leads to a value with
this property; else it refuses them with the objection. -/
structure Decides (objection : Option ConfigError) (x : Except ConfigError α) (P : α → Prop) :
    Prop where
  accepts : objection = none → ∃ a, x = .ok a ∧ P a
  refuses : ∀ err, objection = some err → x = .error err

/-- **Checks one after the other** decide as the first that objects. The later checks may assume
what the earlier ones have made sure of. With it `ofOptions` is followed check by check, each by a
lemma `decides_…` of this section, in place of one case analysis of all of them. -/
theorem Decides.bind {f : α → Except ConfigError β} {Q : β → Prop} (hx : Decides objection x P)
    (hf : ∀ a, P a → Decides (rest.findSome? id) (f a) Q) :
    Decides ((objection :: rest).findSome? id) (x >>= f) Q := by
  cases objection with
  | none =>
    obtain ⟨a, rfl, ha⟩ := hx.accepts rfl
    exact hf a ha
  | some err =>
    rw [hx.refuses err rfl]
    exact ⟨nofun, fun other hother => congrArg Except.error (Option.some.inj hother)⟩

theorem Decides.pure {a : α} (ha : P a) : Decides none (.ok a) P :=
  ⟨fun _ => ⟨a, rfl, ha⟩, nofun⟩

theorem Decides.error {err : ConfigError} : Decides (some err) (.error err : Except _ α) P :=
  ⟨nofun, fun _ hother => congrArg Except.error (Option.some.inj hother)⟩

/-- A number between bounds is taken as it is, and any other is refused with its field and its
value. All numbers without a default are checked so, and `decides_bounded` falls back on it for the
others. -/
theorem decides_within {field : String} {value : Int} {low high : Nat} :
    Decides (outside field low high value)
      (if (low : Int) ≤ value ∧ value ≤ high then .ok value.toNat
        else .error (.outOfRange field value))
      fun n : Nat => (n : Int) = value := by
  unfold outside
  by_cases hrange : (low : Int) ≤ value ∧ value ≤ high
  · rw [if_pos hrange, if_pos hrange]
    exact .pure (by omega)
  · rw [if_neg hrange, if_neg hrange]
    exact .error

/-- And 0, where it stands for a default, as that default; the bounds are not asked about it then.
The value that is resolved is told with `if`, as `Options.rate` and its like are. -/
theorem decides_bounded {field : String} {value : Int} {low high default : Nat} :
    Decides (if value = 0 then none else outside field low high value)
      (bounded field value low high (some default))
      fun n : Nat => (n : Int) = if value = 0 then (default : Int) else value := by
  show Decides _ (if value = 0 then .ok default else _) _
  by_cases hzero : value = 0
  · rw [if_pos hzero, if_pos hzero, if_pos hzero]
    exact .pure rfl
  · rw [if_neg hzero, if_neg hzero, if_neg hzero]
    exact decides_within

/-- Rate and period have to make a whole number of frames. The objection names both as they were
resolved, and not as they were given. The product is one of natural numbers in the check and one of
integers in the objection, which are the same since neither factor is negative. -/
theorem decides_checkIntegral {sampleRate periodMs : Nat} {rate milliseconds : Int}
    (hrate : (sampleRate : Int) = rate) (hperiod : (periodMs : Int) = milliseconds) :
    Decides (if rate * milliseconds % 1000 = 0 then none
        else some (.periodNotIntegral rate.toNat milliseconds.toNat))
      (checkIntegral sampleRate periodMs) fun _ => True := by
  subst hrate hperiod
  have hproduct : (sampleRate : Int) * periodMs % 1000 = 0 ↔ sampleRate * periodMs % 1000 = 0 := by
    rw [← Int.natCast_mul]
    omega
  unfold checkIntegral
  by_cases hintegral : sampleRate * periodMs % 1000 = 0
  · rw [if_pos hintegral, if_pos (hproduct.mpr hintegral)]
    exact .pure trivial
  · rw [if_neg hintegral, if_neg (hintegral ∘ hproduct.mp)]
    exact .error

/-- A choice is made freely among the codes of the list; a code beyond it is out of range. That the
codes of a choice are a range without gaps is a hypothesis, which `decide` settles for each of
them. -/
theorem decides_chosen [Setting α] {field : String} {low high code : Int}
    (hcodes : code ∈ (Setting.all : List α).map Setting.code ↔ low ≤ code ∧ code ≤ high) :
    Decides (outside field low high code) (chosen field code (Setting.ofCode? code))
      fun a : α => Setting.code a = code := by
  unfold outside
  by_cases hrange : low ≤ code ∧ code ≤ high
  · rw [if_pos hrange]
    obtain ⟨a, ha⟩ : ∃ a : α, Setting.ofCode? code = some a :=
      Option.ne_none_iff_exists'.mp fun hnone =>
        Setting.ofCode?_eq_none_iff.mp hnone (hcodes.mpr hrange)
    rw [ha]
    exact .pure (Setting.code_of_ofCode? ha)
  · rw [if_neg hrange, Setting.ofCode?_eq_none_iff.mpr (hrange ∘ hcodes.mp)]
    exact .error

/-- A session is chosen by -1, 0 or its number; there is no upper bound to that. The three forms of
a session have three kinds of codes, so this is not a case of `decides_chosen`. -/
theorem decides_sessionId {code : Int} :
    Decides (below "sessionId" (-1) code) (chosen "sessionId" code (SessionId.ofCode? code))
      fun session => session.code = code := by
  unfold below SessionId.ofCode?
  by_cases hnone : code = -1
  · subst hnone
    exact .pure rfl
  · by_cases hallocate : code = 0
    · subst hallocate
      exact .pure rfl
    · rw [if_neg hnone, if_neg hallocate]
      by_cases hpos : 0 < code
      · rw [if_pos hpos, if_pos (by omega)]
        exact .pure rfl
      · rw [if_neg hpos, if_neg (by omega)]
        exact .error

/-- A device is chosen by a number that is not negative, and whether it exists is asked when a
stream is opened on it. Both device ids are checked by it, each under its own field. -/
theorem decides_deviceId {field : String} {value : Int} :
    Decides (below field 0 value) (deviceId field value) fun id => id = value := by
  unfold below deviceId
  by_cases hneg : value < 0
  · rw [if_pos hneg, if_neg (by omega)]
    exact .error
  · rw [if_neg hneg, if_pos (by omega)]
    exact .pure rfl

/-- What policy asks for passes; what is something else is refused as such, what is nothing as a
number out of range. The three hypotheses say what a code can be: one that policy asks for, one of
another choice, or none at all. -/
theorem decides_required [DecidableEq α] {field : String} {codes others : List Int} {code : Int}
    {choice : Option α} {policy : α} (hpolicy : code ∈ codes → choice = some policy)
    (hothers : code ∉ codes → code ∈ others → ∃ a, choice = some a ∧ a ≠ policy)
    (hnothing : code ∉ codes → code ∉ others → choice = none) :
    Decides (offPolicy field codes others code) (required field code choice policy)
      fun a => a = policy := by
  unfold offPolicy required
  by_cases hcode : code ∈ codes
  · rw [if_pos hcode, hpolicy hcode]
    show Decides none (if policy = policy then _ else _) _
    rw [if_pos rfl]
    exact .pure rfl
  · rw [if_neg hcode]
    by_cases hother : code ∈ others
    · obtain ⟨a, rfl, ha⟩ := hothers hcode hother
      rw [if_pos hother]
      show Decides _ (if a = policy then _ else _) _
      rw [if_neg ha]
      exact .error
    · rw [if_neg hother, hnothing hcode hother]
      exact .error

/-- Where the codes are those of a list of choices, policy asks for one of them. The others are
choices that exist and are not supported, and the objection says so. -/
theorem decides_setting [Setting α] [DecidableEq α] {field : String} {own code : Int}
    {others : List Int} {policy : α} (hown : Setting.ofCode? own = some policy)
    (hcodes : ((Setting.all : List α).map Setting.code).Perm (own :: others)) :
    Decides (offPolicy field [own] others code)
      (required field code (Setting.ofCode? code) policy) fun a => a = policy := by
  refine decides_required ?_ ?_ ?_
  · intro hcode
    rw [List.mem_singleton.mp hcode]
    exact hown
  · intro hcode hother
    -- a code of the list is that of a choice, which is not the one that policy asks for
    obtain ⟨a, ha⟩ : ∃ a : α, Setting.ofCode? code = some a :=
      Option.ne_none_iff_exists'.mp fun hnone =>
        Setting.ofCode?_eq_none_iff.mp hnone (hcodes.mem_iff.mpr (.tail _ hother))
    refine ⟨a, ha, ?_⟩
    rintro rfl
    have hsame : code = own :=
      (Setting.code_of_ofCode? ha).symm.trans (Setting.code_of_ofCode? hown)
    exact hcode (List.mem_singleton.mpr hsame)
  · intro hcode hother
    refine Setting.ofCode?_eq_none_iff.mpr fun hmem => ?_
    rcases List.mem_cons.mp (hcodes.mem_iff.mp hmem) with hsame | hmem
    · exact hcode (List.mem_singleton.mpr hsame)
    · exact hother hmem

/-- The format alone has a second code for what policy asks for: 0, which stands for no format in
particular. Apart from that code it is a case of `decides_setting`. -/
theorem decides_format {code : Int} :
    Decides (offPolicy "format" [0, 1] [2, 3, 4] code)
      (required "format" code (SampleFormat.ofCode? code) .i16) fun format => format = .i16 := by
  by_cases hzero : code = 0
  · subst hzero
    exact .pure rfl
  · have hformat : Decides (offPolicy "format" [1] [2, 3, 4] code)
        (required "format" code (Setting.ofCode? code) SampleFormat.i16)
        fun format => format = .i16 :=
      decides_setting rfl (.refl _)
    have hcodes : offPolicy "format" [0, 1] [2, 3, 4] code
        = offPolicy "format" [1] [2, 3, 4] code := by
      simp [offPolicy, hzero]
    unfold SampleFormat.ofCode?
    rw [if_neg hzero, hcodes]
    exact hformat

/-! ## The verdict -/

variable {c : Config} {o : Options}

/-- **A configuration resolves options**: it says what they say, and where they leave something to
policy, what policy says. -/
structure Resolves (c : Config) (o : Options) : Prop where
  periodMs : (c.periodMs : Int) = o.periodLenMs.toInt
  sampleRate : (c.sampleRate : Int) = o.rate
  channelCount : (c.channelCount : Int) = o.channels
  audioApi : Setting.code c.audioApi = o.nativeApi.toInt
  sessionId : c.sessionId.code = o.sessionId.toInt
  rateConversionQuality : Setting.code c.rateConversionQuality = o.rateConversionQuality.toInt
  recordDeviceId : c.recordDeviceId = o.recordDeviceId.toInt
  playbackDeviceId : c.playbackDeviceId = o.playbackDeviceId.toInt
  format : c.format = .i16
  sharingMode : c.sharingMode = .shared
  performanceMode : c.performanceMode = .lowLatency
  inputPreset : c.inputPreset = .voiceCommunication
  usage : c.usage = .voiceCommunication
  channelConversionAllowed : c.channelConversionAllowed = o.channelConversionAllowed
  formatConversionAllowed : c.formatConversionAllowed = o.formatConversionAllowed

/-- The channels are checked like the rate; that 0 is between the bounds of the objection and not
between those of the check is no difference, since 0 stands for one. -/
theorem decides_channelCount {value : Int} :
    Decides (outside "channelCount" 0 256 value) (bounded "channelCount" value 1 256 (some 1))
      fun n : Nat => (n : Int) = if value = 0 then 1 else value := by
  have hobjection : outside "channelCount" 0 256 value
      = if value = 0 then none else outside "channelCount" 1 256 value := by
    unfold outside
    by_cases hzero : value = 0
    · subst hzero
      rfl
    · have hrange : (0 ≤ value ∧ value ≤ 256) ↔ (1 ≤ value ∧ value ≤ 256) := by omega
      simp only [hrange, hzero, if_false]
  rw [hobjection]
  exact decides_bounded

/-- **The checks decide** as the first of them that objects, in the order of `Options.objections`,
and options to which none objects are resolved field by field. -/
theorem decides_ofOptions : Decides o.objection? (ofOptions o) (Resolves · o) := by
  have hapi : ∀ code : Int, code ∈ (Setting.all : List AudioApi).map Setting.code
      ↔ 0 ≤ code ∧ code ≤ 2 := by
    intro code
    show code ∈ [0, 1, 2] ↔ _
    simp only [List.mem_cons, List.not_mem_nil, or_false]
    omega
  have hquality : ∀ code : Int, code ∈ (Setting.all : List RateQuality).map Setting.code
      ↔ 0 ≤ code ∧ code ≤ 5 := by
    intro code
    show code ∈ [0, 1, 2, 3, 4, 5] ↔ _
    simp only [List.mem_cons, List.not_mem_nil, or_false]
    omega
  -- the checks in the order in which they are made
  unfold ofOptions
  refine .bind decides_within fun periodMs hperiodMs => ?_
  refine .bind decides_bounded fun sampleRate hsampleRate => ?_
  refine .bind decides_channelCount fun channelCount hchannelCount => ?_
  refine .bind (decides_checkIntegral hsampleRate hperiodMs) fun _ _ => ?_
  refine .bind (decides_chosen (hapi _)) fun audioApi haudioApi => ?_
  refine .bind decides_sessionId fun sessionId hsessionId => ?_
  refine .bind (decides_chosen (hquality _)) fun quality hquality => ?_
  refine .bind decides_deviceId fun recordDeviceId hrecordDeviceId => ?_
  refine .bind decides_deviceId fun playbackDeviceId hplaybackDeviceId => ?_
  refine .bind decides_format fun format hformat => ?_
  refine .bind (decides_setting rfl (by decide)) fun sharingMode hsharingMode => ?_
  refine .bind (decides_setting rfl (by decide)) fun performanceMode hperformanceMode => ?_
  refine .bind (decides_setting rfl (by decide)) fun inputPreset hinputPreset => ?_
  refine .bind (decides_setting rfl (by decide)) fun usage husage => ?_
  exact .pure {
    periodMs := hperiodMs
    sampleRate := hsampleRate
    channelCount := hchannelCount
    audioApi := haudioApi
    sessionId := hsessionId
    rateConversionQuality := hquality
    recordDeviceId := hrecordDeviceId
    playbackDeviceId := hplaybackDeviceId
    format := hformat
    sharingMode := hsharingMode
    performanceMode := hperformanceMode
    inputPreset := hinputPreset
    usage := husage
    channelConversionAllowed := rfl
    formatConversionAllowed := rfl }

/-- There was nothing to object to options that led to a configuration. -/
theorem objection?_of_ofOptions (hc : ofOptions o = .ok c) : o.objection? = none := by
  cases hobjection : o.objection? with
  | none => rfl
  | some err =>
    rw [decides_ofOptions.refuses err hobjection] at hc
    cases hc

theorem resolves_of_ofOptions (hc : ofOptions o = .ok c) : c.Resolves o := by
  obtain ⟨c', hc', hresolves⟩ := decides_ofOptions.accepts (objection?_of_ofOptions hc)
  rw [hc] at hc'
  cases hc'
  exact hresolves

/-! ## What can be computed from options that pass -/

/-- **The formulas of a period agree**: it is exactly as long as configured, at least eight frames,
and whichever way its bytes are counted, they are the same. -/
structure Agreeing (c : Config) : Prop where
  exact : c.period.frames * 1000 = c.sampleRate * c.periodMs
  eight_le_frames : 8 ≤ c.period.frames
  bytesAt : c.period.bytes = c.period.bytesAt c.sampleRate c.channelCount
  bufferBytes : c.period.bytes = c.period.bufferBytes c.period.frames

/-- **A configuration fits machine words**: no formula of its period outgrows them. What counts
bytes does so in addresses of at least 32 bits; where it is asked about any stream, in those of
64. -/
structure InWords (c : Config) : Prop where
  frames : c.period.frames? = some c.period.frames
  doubleFrames : c.period.doubleFrames? = some c.period.doubleFrames
  samples : ∀ size, limit ≤ size → c.period.samples? size = some c.period.samples
  bytes : ∀ size, limit ≤ size → c.period.bytes? size = some c.period.bytes
  bytesAt_own : ∀ size, limit ≤ size → c.period.bytesAt? size c.sampleRate c.channelCount
    = some (c.period.bytesAt c.sampleRate c.channelCount)
  bytesAt : ∀ sampleRate < limit, ∀ channelCount < 65536,
    c.period.bytesAt? wideLimit sampleRate channelCount
      = some (c.period.bytesAt sampleRate channelCount)
  bufferBytes_periods : ∀ size, limit ≤ size → ∀ periods ≤ 4,
    c.period.bufferBytes? size (c.period.frames * periods)
      = some (c.period.bufferBytes (c.period.frames * periods))
  bufferBytes : ∀ frames < limit,
    c.period.bufferBytes? wideLimit frames = some (c.period.bufferBytes frames)
  desktopCapacity : ∀ (plan : Desktop.BuildPlan) (d : Direction) (sampleRate : Nat),
    mul? limit (c.spec d sampleRate).framesPerCallback 2
      = some (plan.properties (c.spec d sampleRate)).bufferCapacityFrames
  simulatedCapacity : ∀ {κ : Type} (h : SimulatedHost κ) (d : Direction) (sampleRate : Nat),
    (h.substitutes.get d).bufferCapacityFrames = none →
      mul? limit (c.spec d sampleRate).framesPerCallback 4
        = some (h.granted (c.spec d sampleRate)).bufferCapacityFrames

/-- The formulas of a period agree for every accepted configuration, because its frames are a whole
number. That there are eight frames at least comes from the lowest rate and the shortest period. -/
theorem Accepted.agreeing (h : c.Accepted) : c.Agreeing := by
  have hproduct : 8000 * 1 ≤ c.sampleRate * c.periodMs :=
    Nat.mul_le_mul h.sampleRate.1 h.periodMs.1
  have hintegral := h.integral
  -- no frame is left out, so that a thousand times the quotient is the product again
  exact {
    exact := show c.sampleRate * c.periodMs / 1000 * 1000 = _ by omega
    eight_le_frames := show 8 ≤ c.sampleRate * c.periodMs / 1000 by omega
    bytesAt := Nat.mul_right_comm _ _ _
    bufferBytes := rfl }

/-- Every formula of an accepted configuration stays within the words that it is computed in, so
nothing wraps where the model computes without bounds. -/
theorem Accepted.inWords (h : c.Accepted) : c.InWords where
  frames := h.modest.frames?_eq
  doubleFrames := h.modest.doubleFrames?_eq
  samples _ hsize := h.modest.samples?_eq hsize
  bytes _ hsize := h.modest.bytes?_eq hsize
  bytesAt_own _ hsize := h.modest.bytesAt?_eq hsize
  bytesAt _ hrate _ hchannels := h.modest.bytesAt?_wide hrate hchannels
  bufferBytes_periods _ hsize _ hperiods := h.modest.bufferBytes?_eq hsize hperiods
  bufferBytes _ hframes := h.modest.bufferBytes?_wide hframes
  desktopCapacity _ d sampleRate :=
    (h.modest.mul?_frames (by omega)).trans
      (congrArg some (periodFrames_spec h.modest d sampleRate (by omega)).symm)
  simulatedCapacity host d sampleRate hnone := by
    -- a host that substitutes nothing grants four periods
    have hgranted : (host.granted (c.spec d sampleRate)).bufferCapacityFrames
        = c.period.frames * 4 := by
      show (host.substitutes.get d).bufferCapacityFrames.getD _ = _
      rw [hnone]
      exact periodFrames_spec h.modest d sampleRate (Nat.le_refl 4)
    rw [hgranted]
    exact h.modest.mul?_frames (Nat.le_refl 4)

/-- The product that the check of a whole number of frames is about is made in words, for options
that have passed the checks before it. It is at most 192000 times 1000, which is less than `limit`;
so the check in words and the one in natural numbers are the same. -/
theorem mul?_of_measured (h : o.Measured) :
    mul? limit o.rate.toNat o.periodLenMs.toInt.toNat
      = some (o.rate.toNat * o.periodLenMs.toInt.toNat) := by
  have hrate : o.rate.toNat ≤ 192000 := by
    have hsampleRate := h.sampleRate
    unfold Options.rate
    split <;> omega
  have hperiod : o.periodLenMs.toInt.toNat ≤ 1000 := by
    have hperiodLenMs := h.periodLenMs
    omega
  have hproduct := Nat.mul_le_mul hrate hperiod
  exact mul?_of_lt (by unfold limit; omega)

/-- **The verdict on options is exact.** Options pass just if they are acceptable, and are refused
with the first objection otherwise; no product outgrows its word while they are checked. A
configuration that they lead to says what they say, has a period whose formulas agree, and fits
machine words. -/
theorem verdict_exact (o : Options) :
    ((∃ c, ofOptions o = .ok c) ↔ o.Acceptable)
      ∧ (∀ err, ofOptions o = .error err ↔ o.objection? = some err)
      ∧ (o.Measured → mul? limit o.rate.toNat o.periodLenMs.toInt.toNat
          = some (o.rate.toNat * o.periodLenMs.toInt.toNat))
      ∧ ∀ c, ofOptions o = .ok c → c.Resolves o ∧ c.Agreeing ∧ c.InWords := by
  have hdecides := decides_ofOptions (o := o)
  -- an error is the first objection, as options without one are accepted
  have hrefused : ∀ err, ofOptions o = .error err ↔ o.objection? = some err := by
    intro err
    refine ⟨fun herr => ?_, hdecides.refuses err⟩
    cases hobjection : o.objection? with
    | none =>
      obtain ⟨c, hc, _⟩ := hdecides.accepts hobjection
      rw [hc] at herr
      cases herr
    | some other =>
      rw [hdecides.refuses other hobjection] at herr
      exact congrArg some (Except.error.inj herr)
  refine ⟨⟨?_, ?_⟩, hrefused, mul?_of_measured, ?_⟩
  · rintro ⟨c, hc⟩
    exact objection?_eq_none_iff.mp (objection?_of_ofOptions hc)
  · intro hacceptable
    obtain ⟨c, hc, _⟩ := hdecides.accepts (objection?_eq_none_iff.mpr hacceptable)
    exact ⟨c, hc⟩
  · intro c hc
    exact ⟨resolves_of_ofOptions hc, (accepted_of_ofOptions hc).agreeing,
      (accepted_of_ofOptions hc).inWords⟩

/-- Options that leave everything as it is pass, those that fix a known code to another value than
policy does are refused for it, and a period in doubt is refused before that. -/
theorem verdict_on_usage :
    ({} : Options).Acceptable
      ∧ ofOptions { usage := 1 } = .error (.policyFixed "usage" 1)
      ∧ ofOptions { usage := 1, sampleRate := 11025, periodLenMs := 1 }
          = .error (.periodNotIntegral 11025 1) :=
  ⟨(verdict_exact {}).1.mp ⟨_, rfl⟩, ((verdict_exact _).2.1 _).mpr rfl,
    ((verdict_exact _).2.1 _).mpr rfl⟩

end Config

end Passthrough
