import Passthrough.Host.Desktop.Negotiation
/-!
# Which range a stream is built from

A device lists the ranges of configurations that it supports, in an order of its own. A range suits a
request when it has the channels asked for, in a format that samples are converted to, and it serves
the request when it contains the rate as well. Three things are decided from the list: whether a
range suits at all, whether one serves, and which of those that serve is taken. Sixteen-bit samples
come first, wherever they stand; among the ranges of one format the order of the list decides, and
whether a buffer can be asked for is left out of the choice (`Taken`).

* **`planFor_of_unsuited`**, **`planFor_of_unserved`**, **`planFor_of_served`** — the three answers,
  each where it is given.
* **`planFor_answers`** — when each of them is given, and what the plan holds.
-/

namespace Passthrough.Desktop

variable {ranges : List ConfigRange} {request : StreamSpec} {r : ConfigRange}

/-! ## Ranges that suit and ranges that serve -/

namespace ConfigRange

/-- A range with the channels asked for, in a format that samples can be converted to. -/
structure Suits (r : ConfigRange) (request : StreamSpec) : Prop where
  channels : r.channels = request.channelCount
  format : r.format = .i16 ∨ r.format = .f32

/-- A range that suits and has the rate asked for between its bounds. -/
structure Serves (r : ConfigRange) (request : StreamSpec) : Prop extends Suits r request where
  minRate : r.minRate ≤ request.sampleRate
  maxRate : request.sampleRate ≤ r.maxRate

theorem matchesRequest_iff : r.matchesRequest request = true ↔ r.Suits request := by
  unfold matchesRequest
  rw [Bool.and_eq_true, decide_eq_true_iff, Bool.or_eq_true, decide_eq_true_iff,
    decide_eq_true_iff]
  exact ⟨fun ⟨hchannels, hformat⟩ => ⟨hchannels, hformat⟩, fun h => ⟨h.channels, h.format⟩⟩

theorem containsRate_iff {rate : Nat} :
    r.containsRate rate = true ↔ r.minRate ≤ rate ∧ rate ≤ r.maxRate := by
  unfold containsRate
  rw [Bool.and_eq_true, decide_eq_true_iff, decide_eq_true_iff]

theorem serves_iff :
    r.Serves request ↔ r.Suits request ∧ r.minRate ≤ request.sampleRate
      ∧ request.sampleRate ≤ r.maxRate :=
  ⟨fun h => ⟨h.toSuits, h.minRate, h.maxRate⟩, fun ⟨hsuits, hmin, hmax⟩ => ⟨hsuits, hmin, hmax⟩⟩

instance : Decidable (r.Serves request) :=
  decidable_of_iff (r.matchesRequest request = true ∧ r.containsRate request.sampleRate = true)
    (by rw [matchesRequest_iff, containsRate_iff, serves_iff])

/-- The two filters of a list leave the ranges that serve. -/
theorem filter_filter_serves (ranges : List ConfigRange) (request : StreamSpec) :
    (ranges.filter (·.matchesRequest request)).filter (·.containsRate request.sampleRate)
      = ranges.filter (·.Serves request) := by
  rw [List.filter_filter]
  refine List.filter_congr fun x _ => Bool.eq_iff_iff.mpr ?_
  rw [Bool.and_eq_true, and_comm, matchesRequest_iff, containsRate_iff, decide_eq_true_iff,
    serves_iff]

/-- A size can be asked for if the range has limits and the size is between them. A range whose
limits are not known allows none, and its device is then left its own size. -/
theorem allowsBuffer_iff {frames : Nat} :
    r.allowsBuffer frames = true
      ↔ ∃ low high, r.buffer = some (low, high) ∧ low ≤ frames ∧ frames ≤ high := by
  unfold allowsBuffer
  rcases r.buffer with _ | ⟨low, high⟩
  · exact ⟨nofun, nofun⟩
  · simp only [Bool.and_eq_true, decide_eq_true_iff]
    refine ⟨fun h => ⟨low, high, rfl, h⟩, ?_⟩
    rintro ⟨_, _, ⟨rfl, rfl⟩, h⟩
    exact h

/-- The size that a plan asks of a device is the one of the request, within the limits. In every
other case `fixedBuffer` is empty and the device chooses. -/
theorem fixedBuffer_plan_eq_some_iff {frames : Nat} :
    (r.plan request).fixedBuffer = some frames
      ↔ frames = request.framesPerCallback
        ∧ ∃ low high, r.buffer = some (low, high) ∧ low ≤ frames ∧ frames ≤ high := by
  rw [← allowsBuffer_iff]
  unfold plan
  by_cases hallows : r.allowsBuffer request.framesPerCallback = true
  · rw [if_pos hallows, Option.some.injEq]
    exact ⟨fun heq => ⟨heq.symm, heq ▸ hallows⟩, fun h => h.1.symm⟩
  · rw [if_neg hallows]
    exact ⟨nofun, fun h => absurd (h.1 ▸ h.2) hallows⟩

end ConfigRange

/-! ## The range that is taken -/

/-- The first range of a list that has a property. -/
def IsFirst (P : ConfigRange → Prop) (ranges : List ConfigRange) (r : ConfigRange) : Prop :=
  ∃ before after, ranges = before ++ r :: after ∧ P r ∧ ∀ x ∈ before, ¬ P x

theorem IsFirst.mem {P : ConfigRange → Prop} (h : IsFirst P ranges r) : r ∈ ranges ∧ P r := by
  obtain ⟨before, after, rfl, hr, _⟩ := h
  exact ⟨by simp, hr⟩

theorem isFirst_of_find? {P : ConfigRange → Prop} [DecidablePred P]
    (hfind : ranges.find? (P ·) = some r) : IsFirst P ranges r := by
  obtain ⟨hr, before, after, hsplit, hbefore⟩ := List.find?_eq_some_iff_append.mp hfind
  refine ⟨before, after, hsplit, of_decide_eq_true hr, fun x hx hx' => ?_⟩
  simpa [hx'] using hbefore x hx

/-- **The range that is taken** for a request: the first that serves it in its format, which is the
one with sixteen bits if any range that serves has it. -/
structure Taken (ranges : List ConfigRange) (request : StreamSpec) (r : ConfigRange) : Prop where
  first : IsFirst (fun x => x.Serves request ∧ x.format = r.format) ranges r
  sixteen : r.format = .i16 ↔ ∃ x ∈ ranges, x.Serves request ∧ x.format = .i16

theorem Taken.serves (h : Taken ranges request r) : r.Serves request := h.first.mem.2.1

/-- Of the ranges that serve, the preferred one is the one to take. The search goes for sixteen bits
first and takes the first range in any format only if there is none (`isFirst_of_find?` for each of
the two). -/
theorem preferred?_of_served (h : ∃ x ∈ ranges, x.Serves request) :
    ∃ r, Taken ranges request r ∧ preferred? (ranges.filter (·.Serves request)) = some r := by
  have hsearch : (ranges.filter (·.Serves request)).find? (·.format = .i16)
      = ranges.find? fun x => decide (x.Serves request ∧ x.format = .i16) := by
    rw [List.find?_filter]
    simp only [decide_eq_true_iff]
  unfold preferred?
  rw [hsearch, List.head?_filter]
  cases hsixteen : ranges.find? fun x => decide (x.Serves request ∧ x.format = .i16) with
  | some r =>
    have hfirst := isFirst_of_find? hsixteen
    have hformat : r.format = .i16 := hfirst.mem.2.2
    exact ⟨r, ⟨hformat ▸ hfirst, fun _ => ⟨r, hfirst.mem⟩, fun _ => hformat⟩, rfl⟩
  | none =>
    -- no range that serves has sixteen bits, so any format will do
    have hwide : ∀ x ∈ ranges, x.Serves request → x.format ≠ .i16 := fun x hx hx' hformat =>
      List.find?_eq_none.mp hsixteen x hx (decide_eq_true ⟨hx', hformat⟩)
    cases hany : ranges.find? fun x => decide (x.Serves request) with
    | none =>
      obtain ⟨x, hx, hx'⟩ := h
      exact absurd (decide_eq_true hx') (List.find?_eq_none.mp hany x hx)
    | some r =>
      obtain ⟨before, after, hsplit, hr, hbefore⟩ := isFirst_of_find? hany
      refine ⟨r, ⟨⟨before, after, hsplit, ⟨hr, rfl⟩, fun x hx hx' => hbefore x hx hx'.1⟩, ?_⟩, rfl⟩
      exact ⟨fun hformat => absurd hformat (hwide r (hsplit ▸ by simp) hr),
        fun ⟨x, hx, hx', hformat⟩ => absurd hformat (hwide x hx hx')⟩

/-! ## The answers -/

theorem planFor_of_unsuited (h : ∀ x ∈ ranges, ¬ x.Suits request) :
    planFor ranges request = .error .invalidFormat := by
  have hnone : ranges.filter (·.matchesRequest request) = [] :=
    List.filter_eq_nil_iff.mpr fun x hx hx' => h x hx (ConfigRange.matchesRequest_iff.mp hx')
  exact if_pos hnone

/-- Where a range suits, the answer is up to those that serve. The two filters of `planFor` are one
(`ConfigRange.filter_filter_serves`), so from here on only those that serve are looked at. -/
theorem planFor_of_suited (h : ∃ x ∈ ranges, x.Suits request) :
    planFor ranges request
      = match preferred? (ranges.filter (·.Serves request)) with
        | none => .error .invalidRate
        | some range => .ok (range.plan request) := by
  obtain ⟨x, hx, hx'⟩ := h
  have hsome : ranges.filter (·.matchesRequest request) ≠ [] := fun hnone =>
    List.filter_eq_nil_iff.mp hnone x hx (ConfigRange.matchesRequest_iff.mpr hx')
  rw [← ConfigRange.filter_filter_serves]
  exact if_neg hsome

theorem planFor_of_unserved (hsuits : ∃ x ∈ ranges, x.Suits request)
    (h : ∀ x ∈ ranges, ¬ x.Serves request) : planFor ranges request = .error .invalidRate := by
  have hnone : ranges.filter (·.Serves request) = [] :=
    List.filter_eq_nil_iff.mpr fun x hx hx' => h x hx (of_decide_eq_true hx')
  rw [planFor_of_suited hsuits, hnone]
  rfl

/-- A range serves: there is a plan, and it is the one of the range to take. -/
theorem planFor_of_served (h : ∃ x ∈ ranges, x.Serves request) :
    ∃ r, Taken ranges request r ∧ planFor ranges request = .ok (r.plan request) := by
  obtain ⟨r, htaken, hpreferred⟩ := preferred?_of_served h
  obtain ⟨x, hx, hx'⟩ := h
  exact ⟨r, htaken, by rw [planFor_of_suited ⟨x, hx, hx'.toSuits⟩, hpreferred]⟩

/-- One of the three is the case. No range suits, or some suit and none serves, or one is `Taken`:
so `planFor` answers every list and every request in exactly one of three ways. -/
theorem planFor_cases (ranges : List ConfigRange) (request : StreamSpec) :
    ((∀ x ∈ ranges, ¬ x.Suits request) ∧ planFor ranges request = .error .invalidFormat)
      ∨ ((∃ x ∈ ranges, x.Suits request) ∧ (∀ x ∈ ranges, ¬ x.Serves request)
        ∧ planFor ranges request = .error .invalidRate)
      ∨ ∃ r, Taken ranges request r ∧ planFor ranges request = .ok (r.plan request) := by
  by_cases hsuits : ∃ x ∈ ranges, x.Suits request
  · by_cases hserves : ∃ x ∈ ranges, x.Serves request
    · exact .inr (.inr (planFor_of_served hserves))
    · have hunserved : ∀ x ∈ ranges, ¬ x.Serves request := fun x hx hx' => hserves ⟨x, hx, hx'⟩
      exact .inr (.inl ⟨hsuits, hunserved, planFor_of_unserved hsuits hunserved⟩)
  · have hunsuited : ∀ x ∈ ranges, ¬ x.Suits request := fun x hx hx' => hsuits ⟨x, hx, hx'⟩
    exact .inl ⟨hunsuited, planFor_of_unsuited hunsuited⟩

theorem performanceMode_properties_iff (n : BuildPlan) (request : StreamSpec) :
    (n.properties request).performanceMode = .lowLatency ↔ n.fixedBuffer ≠ none := by
  unfold BuildPlan.properties
  cases n.fixedBuffer with
  | none => simp
  | some frames => simp

/-- **What a request is answered with**, for every list of ranges:

* the format is refused where no range suits;
* the rate is refused where some suit, but none of these contains the rate;
* where a range serves there is a plan. It has the rate and the channels asked for and the format of
  the range that is taken, with sixteen bits if any range that serves has them and as floats
  otherwise. A buffer is asked for where the limits of that range contain its size, which is the
  size of the request, and it is in this case that low latency is reported. -/
theorem planFor_answers (ranges : List ConfigRange) (request : StreamSpec) :
    (planFor ranges request = .error .invalidFormat ↔ ∀ x ∈ ranges, ¬ x.Suits request)
      ∧ (planFor ranges request = .error .invalidRate
          ↔ (∃ x ∈ ranges, x.Suits request) ∧ ∀ x ∈ ranges, ¬ x.Serves request)
      ∧ ((∃ x ∈ ranges, x.Serves request) →
          ∃ r n, Taken ranges request r ∧ planFor ranges request = .ok n
            ∧ n.sampleRate = request.sampleRate ∧ n.channels = request.channelCount
            ∧ n.format = r.format ∧ (n.format = .i16 ∨ n.format = .f32)
            ∧ (∀ frames, n.fixedBuffer = some frames
                ↔ frames = request.framesPerCallback
                  ∧ ∃ low high, r.buffer = some (low, high) ∧ low ≤ frames ∧ frames ≤ high)
            ∧ ((n.properties request).performanceMode = .lowLatency ↔ n.fixedBuffer ≠ none)) := by
  refine ⟨⟨fun hplan => ?_, planFor_of_unsuited⟩,
    ⟨fun hplan => ?_, fun h => planFor_of_unserved h.1 h.2⟩, fun hserves => ?_⟩
  · -- the other two answers are no refusal of the format
    rcases planFor_cases ranges request with ⟨hunsuited, _⟩ | ⟨_, _, hrate⟩ | ⟨r, _, hok⟩
    · exact hunsuited
    · rw [hrate] at hplan
      cases hplan
    · rw [hok] at hplan
      cases hplan
  · -- nor are they one of the rate
    rcases planFor_cases ranges request with ⟨_, hformat⟩ | ⟨hsuits, hunserved, _⟩ | ⟨r, _, hok⟩
    · rw [hformat] at hplan
      cases hplan
    · exact ⟨hsuits, hunserved⟩
    · rw [hok] at hplan
      cases hplan
  · obtain ⟨r, htaken, hok⟩ := planFor_of_served hserves
    exact ⟨r, r.plan request, htaken, hok, rfl, rfl, rfl, htaken.serves.format,
      fun frames => r.fixedBuffer_plan_eq_some_iff,
      performanceMode_properties_iff (r.plan request) request⟩

/-- Of three ranges that serve, the one with sixteen bits is taken, though it stands last and is the
only one that promises no buffer of the size asked for. -/
example :
    let request : StreamSpec :=
      { direction := .input, deviceId := 0, sampleRate := 48000, channelCount := 1, format := .i16,
        framesPerCallback := 960, audioApi := .unspecified, sharingMode := .exclusive,
        performanceMode := .lowLatency, inputPreset := .voiceRecognition, usage := .media,
        sessionId := .none, channelConversionAllowed := true, formatConversionAllowed := true,
        rateConversionQuality := .medium }
    (planFor [⟨1, 8000, 48000, .f32, some (64, 960)⟩, ⟨1, 48000, 96000, .f32, some (960, 960)⟩,
        ⟨1, 48000, 48000, .i16, some (64, 512)⟩] request).toOption
      = some ⟨1, 48000, .i16, none⟩ := by
  decide

end Passthrough.Desktop
