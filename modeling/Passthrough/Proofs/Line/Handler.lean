import Passthrough.Line.Handler
/-!
# What the callbacks do to the line

The data callbacks of a stream whose period fits the stream and the channel. A callback that is
given a period of the right size passes it on; any other stops its stream and, for a capture,
empties the channel. A callback in a state that takes no audio changes nothing.

The period fits a stream that the format *admits* (`PeriodFormat.Admits`); with that, the check that
a callback makes is on the length of its buffer alone (`PeriodFormat.check_of_admits`). A callback
that is given whole periods only tells the engine nothing, whatever the state of its stream
(`Handler.capture_undisturbed`, `Handler.render_undisturbed`).
-/

namespace Passthrough

/-! ## Streams that fit -/

/-- A stream that exchanges exactly the periods of a format: at its rate, with its channels, and
with room for one period. -/
structure PeriodFormat.Admits (f : PeriodFormat) (p : StreamInfo) : Prop where
  sampleRate : p.sampleRate = f.sampleRate
  channelCount : p.channelCount = f.channelCount
  capacity : f.bytes ≤ f.bufferBytes p.bufferCapacityFrames

namespace PeriodFormat

/-- **In step**: this stream exchanges as many bytes in a period as the format has. -/
def InStep (f : PeriodFormat) (p : StreamInfo) : Prop :=
  f.bytesAt p.sampleRate p.channelCount = f.bytes

instance (f : PeriodFormat) (p : StreamInfo) : Decidable (f.InStep p) :=
  inferInstanceAs (Decidable (_ = _))

/-- A channel, if there is one, takes the periods of a format. -/
def TakenBy (f : PeriodFormat) (channel : Option Channel) : Prop :=
  ∀ c, channel = some c → c.length = f.samples

variable {f : PeriodFormat} {p : StreamInfo}

/-- A buffer of whole periods has room for one, as long as there is at least one of them. It is what
a granted stream shows for `PeriodFormat.Admits`. -/
theorem bytes_le_bufferBytes (f : PeriodFormat) {n : Nat} (h : 0 < n) :
    f.bytes ≤ f.bufferBytes (f.frames * n) := by
  have hframes : f.frames ≤ f.frames * n := Nat.le_mul_of_pos_right _ h
  exact Nat.mul_le_mul_right _ (Nat.mul_le_mul_right _ hframes)

/-- An admitted stream is in step: it has the rate and the channels of the format, so its bytes in a
period are those of the format. -/
theorem inStep_of_admits (h : f.Admits p) : f.InStep p := by
  show f.bytesAt p.sampleRate p.channelCount = f.bytes
  unfold bytesAt bytes samples frames
  rw [h.sampleRate, h.channelCount]
  exact Nat.mul_right_comm _ _ _

/-- On a stream that is in step, only the length of the buffer is left to check. The check itself
counts bytes by the rate of the stream, which is why `Drift` asks what happens on streams that are
not. -/
theorem check_of_inStep (h : f.InStep p) (n : Nat) :
    f.check p n = if n = f.samples then .ok () else .error (n * sampleBytes) := by
  have hlen : n * sampleBytes = f.bytes ↔ n = f.samples := by
    unfold bytes
    exact Nat.mul_left_inj (by decide)
  unfold check
  rw [h]
  by_cases hn : n = f.samples
  · simp [hn, bytes]
  · simp [hn, hlen]

/-- On an admitted stream the check is on the length alone, by `inStep_of_admits`; all that follows
about captures and playbacks rests on this. -/
theorem check_of_admits (h : f.Admits p) (n : Nat) :
    f.check p n = if n = f.samples then .ok () else .error (n * sampleBytes) :=
  check_of_inStep (inStep_of_admits h) n

end PeriodFormat

/-! ## States and reports -/

namespace StreamState

/-- A fault strikes a stream that is open or runs, and one that has failed stays so. These are the
states of an occupied side. -/
theorem afterFault_of_occupied {s : StreamState} (h : s = .opened ∨ s = .running ∨ s = .error) :
    s.afterFault = .error := by
  rcases h with rfl | rfl | rfl <;> rfl

/-- A fault does not close a stream: only its owner does that, so a handle is never lost to a
callback. -/
theorem afterFault_ne_closed {s : StreamState} (h : s ≠ .closed) : s.afterFault ≠ .closed := by
  cases s with
  | closed => exact absurd rfl h
  | _ => decide

end StreamState

namespace Link

/-- Reporting an event, kept or dropped, leaves the link attached as it was; `report_listening` says
the same of the listener. -/
@[simp] theorem report_attached (l : Link) (event : Event) :
    (l.report event).attached = l.attached := by
  unfold report
  split <;> rfl

@[simp] theorem report_listening (l : Link) (event : Event) :
    (l.report event).listening = l.listening := by
  unfold report
  split <;> rfl

/-- On a link that accepts events, a report waits behind those that waited before it. -/
theorem pending_report {l : Link} (h : l.accepts = true) (event : Event) :
    (l.report event).pending = l.pending ++ [event] := by
  simp [report, h]

/-- Whether or not the link accepts it, a report adds no event but its own. -/
theorem mem_pending_report {l : Link} {event news : Event}
    (h : event ∈ (l.report news).pending) : event ∈ l.pending ∨ event = news := by
  unfold report at h
  split at h
  · exact (List.mem_append.mp h).imp_right List.mem_singleton.mp
  · exact Or.inl h

end Link

/-! ## Lines before and after -/

/-- **Nothing to report.** The states stay, the engine is told nothing, and the channel takes as
long a period as before. -/
structure Line.Undisturbed (l l' : Line) : Prop where
  states : l'.states = l.states
  link : l'.link = l.link
  channel : l'.channel.map Channel.length = l.channel.map Channel.length

namespace Line.Undisturbed

variable {l l' l'' : Line}

theorem refl (l : Line) : l.Undisturbed l := ⟨rfl, rfl, rfl⟩

theorem trans (h : l.Undisturbed l') (h' : l'.Undisturbed l'') : l.Undisturbed l'' where
  states := h'.states.trans h.states
  link := h'.link.trans h.link
  channel := h'.channel.trans h.channel

/-- A channel that takes the periods of a format does so afterwards, for its length is what
counts. -/
theorem takes (h : l.Undisturbed l') {f : PeriodFormat} (hc : f.TakenBy l.channel) :
    f.TakenBy l'.channel := by
  intro c' hc'
  have hmap : some c'.length = l.channel.map Channel.length := by rw [← h.channel, hc']; rfl
  obtain ⟨c, hchannel, hlen⟩ := Option.map_eq_some_iff.mp hmap.symm
  exact hlen.symm.trans (hc c hchannel)

end Line.Undisturbed

/-- **A loss at most.** No stream is closed, the channel stays, and no fault is reported. -/
structure Line.Loses (l l' : Line) : Prop where
  state : ∀ d, l.state d ≠ .closed → l'.state d ≠ .closed
  channel : l'.channel = l.channel
  untold : ∀ event ∈ l'.link.pending, event ∈ l.link.pending ∨ event.isFault = false

theorem Line.Loses.refl (l : Line) : l.Loses l := ⟨fun _ => id, rfl, fun _ => Or.inl⟩

namespace Handler

variable {h : Handler} {p : StreamInfo} {l : Line} {c : Channel}

/-! ## Faults -/

/-- A fault stops its own stream, if it can strike it where it stands (`StreamState.afterFault`). -/
theorem state_fault (h : Handler) (l : Line) (actualBytes : Nat) :
    (h.fault actualBytes l).state h.direction = (l.state h.direction).afterFault := by
  unfold fault
  split <;> exact Line.state_setState l _ _

/-- **The line after a fault**, of a stream that a fault can strike: the side has failed, a faulted
capture has emptied the channel, and the event with the two numbers of bytes is reported. -/
theorem fault_eq (hs : l.state h.direction = .opened ∨ l.state h.direction = .running
      ∨ l.state h.direction = .error) (actualBytes : Nat) :
    h.fault actualBytes l = { l with
      states := l.states.set h.direction .error
      channel := if h.direction = .input then l.channel.map Channel.reset else l.channel
      link := l.link.report (.fault h.direction h.period.bytes actualBytes) } := by
  have hstate : (l.state h.direction).afterFault = .error :=
    StreamState.afterFault_of_occupied hs
  unfold fault Line.markFaulted
  rw [hstate]
  cases h.direction <;> rfl

/-! ## What fits -/

/-- The number of bytes that a callback meets where its stream, its slice and the channel do not all
take a period of one size. -/
def misfit? (h : Handler) (p : StreamInfo) (n : Nat) (l : Line) : Option Nat :=
  l.channel.bind fun c =>
    match h.period.check p n with
    | .error actual => some actual
    | .ok () => if n = c.length then none else some (n * sampleBytes)

/-- Where the check on the slice fails, its number of bytes is the one that is reported; the channel
is not looked at any more. -/
theorem misfit?_of_error (hc : l.channel = some c) {n actual : Nat}
    (hcheck : h.period.check p n = .error actual) : h.misfit? p n l = some actual := by
  unfold misfit?
  rw [hc, Option.bind_some, hcheck]

/-- **A capture that does not fit** is a fault, unless it is refused, and nothing of it gets into
the channel. The count that the fault is reported with is the one that `misfit?` met, be it of bytes
or of samples. -/
theorem capture_of_misfit (hs : (l.state h.direction).refusesAudio = false) {frames : List Int16}
    {actual : Nat} (hmisfit : h.misfit? p frames.length l = some actual) :
    h.capture p frames l = (.stop, h.fault actual l) := by
  obtain ⟨c, hc, hmet⟩ := Option.bind_eq_some_iff.mp hmisfit
  unfold capture
  rw [hs, hc]
  cases hcheck : h.period.check p frames.length with
  | error met =>
    simp only [hcheck, Option.some.injEq] at hmet
    subst hmet
    rfl
  -- the bytes agree, so the misfit is one of the length
  | ok =>
    simp only [hcheck] at hmet
    by_cases hlen : frames.length = c.length
    · simp [hlen] at hmet
    · simp only [hlen, if_false, Option.some.injEq] at hmet
      subst hmet
      simp [Channel.publish, hlen]

/-- **A playback that does not fit** is one, too, and its destination gets silence. The two
callbacks check alike (`misfit?`), so what is a fault for the one is a fault for the other. -/
theorem render_of_misfit (hs : (l.state h.direction).refusesAudio = false) {n actual : Nat}
    (hmisfit : h.misfit? p n l = some actual) :
    h.render p n l = (.stop, silence n, h.fault actual l) := by
  obtain ⟨c, hc, hmet⟩ := Option.bind_eq_some_iff.mp hmisfit
  unfold render
  rw [hs, hc]
  cases hcheck : h.period.check p n with
  | error met =>
    simp only [hcheck, Option.some.injEq] at hmet
    subst hmet
    rfl
  -- as for a capture, the length is what does not fit
  | ok =>
    simp only [hcheck] at hmet
    by_cases hlen : n = c.length
    · simp [hlen] at hmet
    · simp only [hlen, if_false, Option.some.injEq] at hmet
      subst hmet
      simp [Channel.consume, hlen]

/-- A buffer fits exactly if it passes the check and is as long as what the channel holds. -/
theorem misfit?_eq_none_iff (hc : l.channel = some c) (n : Nat) :
    h.misfit? p n l = none ↔ h.period.check p n = .ok () ∧ n = c.length := by
  unfold misfit?
  rw [hc, Option.bind_some]
  cases hcheck : h.period.check p n with
  | error actual => simp
  | ok => by_cases hlen : n = c.length <;> simp [hlen]

/-- **A capture that fits** replaces what the channel holds, in whatever state that takes audio. The
observer is told afterwards, which changes only what has been `heard`. -/
theorem capture_of_fit (hs : (l.state h.direction).refusesAudio = false) (hc : l.channel = some c)
    {frames : List Int16} (hfits : h.misfit? p frames.length l = none) :
    ∃ c' heard, c'.samples = frames
      ∧ h.capture p frames l = (.proceed, { l with channel := some c', heard }) := by
  obtain ⟨hcheck, hlen⟩ := (misfit?_eq_none_iff hc _).mp hfits
  obtain ⟨c', hpublish, hsamples⟩ := Channel.publish_of_length hlen
  obtain ⟨heard, hheard⟩ :=
    Line.notify_eq { l with channel := some c' } h.observer .input frames
  refine ⟨c', heard, hsamples, ?_⟩
  unfold capture
  rw [hs, hc]
  simp only [hcheck, hpublish, hheard]
  rfl

/-- **A playback that fits** plays what the channel holds, which stays and is played again unless
another capture comes in between. -/
theorem render_of_fit (hs : (l.state h.direction).refusesAudio = false) (hc : l.channel = some c)
    {n : Nat} (hfits : h.misfit? p n l = none) :
    ∃ c' heard, c'.samples = c.samples
      ∧ h.render p n l = (.proceed, c.samples, { l with channel := some c', heard }) := by
  obtain ⟨hcheck, hlen⟩ := (misfit?_eq_none_iff hc _).mp hfits
  obtain ⟨c', hconsume, hsamples⟩ := Channel.consume_of_length hlen
  obtain ⟨heard, hheard⟩ :=
    Line.notify_eq { l with channel := some c' } h.observer .output c.samples
  refine ⟨c', heard, hsamples, ?_⟩
  unfold render
  rw [hs, hc]
  simp only [hcheck, hconsume, hheard]
  rfl

/-! ## Capturing -/

/-- A capture in a state that takes no audio changes nothing and stops its stream. It comes first,
so a refused buffer is not even measured. -/
theorem capture_of_refuses (hs : (l.state h.direction).refusesAudio = true)
    (frames : List Int16) : h.capture p frames l = (.stop, l) := by
  unfold capture
  rw [hs]
  rfl

/-- **A captured period** goes into the channel and to the observer that the stream was opened
with. -/
theorem capture_of_publish (hs : l.state h.direction = .running) (hp : h.period.Admits p)
    (hc : l.channel = some c) {frames : List Int16} (hframes : frames.length = h.period.samples)
    {n : Nat} {c' : Channel} (hpublish : c.publish frames = .ok (n, c')) :
    h.capture p frames l
      = (.proceed, { l with channel := some c' }.notify h.observer .input frames) := by
  unfold capture
  rw [hs, hc, PeriodFormat.check_of_admits hp, if_pos hframes]
  simp only [hpublish]
  rfl

/-- A running input that captures a period of the right length proceeds, and the channel holds
those samples. It is the form of `capture_of_publish` that does not speak of the counters of the
channel. -/
theorem capture_of_length (hs : l.state h.direction = .running) (hp : h.period.Admits p)
    (hc : l.channel = some c) (hlen : c.length = h.period.samples) {frames : List Int16}
    (hframes : frames.length = h.period.samples) :
    ∃ c' heard, c'.samples = frames
      ∧ h.capture p frames l = (.proceed, { l with channel := some c', heard }) := by
  refine capture_of_fit (by rw [hs]; rfl) hc ((misfit?_eq_none_iff hc _).mpr ⟨?_, ?_⟩)
  · rw [PeriodFormat.check_of_admits hp, if_pos hframes]
  · exact hframes.trans hlen.symm

/-- **A capture of the wrong length** is a fault, reported with the bytes that came. -/
theorem capture_of_length_ne (hs : l.state h.direction = .running) (hp : h.period.Admits p)
    (hc : l.channel = some c) {frames : List Int16} (hframes : frames.length ≠ h.period.samples) :
    h.capture p frames l = (.stop, h.fault (frames.length * sampleBytes) l) := by
  refine capture_of_misfit (by rw [hs]; rfl) (misfit?_of_error hc ?_)
  rw [PeriodFormat.check_of_admits hp, if_neg hframes]

/-! ## Playing -/

/-- A playback in a state that takes no audio plays silence and changes nothing. -/
theorem render_of_refuses (hs : (l.state h.direction).refusesAudio = true) (n : Nat) :
    h.render p n l = (.stop, silence n, l) := by
  unfold render
  rw [hs]
  rfl

/-- **A period to play** is what the channel holds, and the observer is given it as well, fresh or
repeated. -/
theorem render_of_consume (hs : l.state h.direction = .running) (hp : h.period.Admits p)
    (hc : l.channel = some c) {n : Nat} (hn : n = h.period.samples) {freshness : Freshness}
    {frames : List Int16} {c' : Channel} (hconsume : c.consume n = .ok (freshness, frames, c')) :
    h.render p n l
      = (.proceed, frames, { l with channel := some c' }.notify h.observer .output frames) := by
  unfold render
  rw [hs, hc, PeriodFormat.check_of_admits hp, if_pos hn]
  simp only [hconsume]
  rfl

/-- A running output that is asked for one period plays what the channel holds. It is the form of
`render_of_consume` that does not speak of the counters of the channel. -/
theorem render_of_length (hs : l.state h.direction = .running) (hp : h.period.Admits p)
    (hc : l.channel = some c) (hlen : c.length = h.period.samples) {n : Nat}
    (hn : n = h.period.samples) :
    ∃ c' heard, c'.samples = c.samples
      ∧ h.render p n l = (.proceed, c.samples, { l with channel := some c', heard }) := by
  refine render_of_fit (by rw [hs]; rfl) hc ((misfit?_eq_none_iff hc _).mpr ⟨?_, ?_⟩)
  · rw [PeriodFormat.check_of_admits hp, if_pos hn]
  · exact hn.trans hlen.symm

/-- **A destination of the wrong length** is a fault, and gets silence, so that nothing stale is
heard. -/
theorem render_of_length_ne (hs : l.state h.direction = .running) (hp : h.period.Admits p)
    (hc : l.channel = some c) {n : Nat} (hn : n ≠ h.period.samples) :
    h.render p n l = (.stop, silence n, h.fault (n * sampleBytes) l) := by
  refine render_of_misfit (by rw [hs]; rfl) (misfit?_of_error hc ?_)
  rw [PeriodFormat.check_of_admits hp, if_neg hn]

/-- A callback fills its whole destination, whatever it answers. Hosts rely on this when they copy
the frames to a device. -/
theorem length_render (h : Handler) (p : StreamInfo) (n : Nat) (l : Line) :
    (h.render p n l).2.1.length = n := by
  have hsilence : (silence n).length = n := List.length_replicate
  unfold render
  split
  · exact hsilence
  · cases hchannel : l.channel with
    | none => exact hsilence
    | some c =>
      simp only
      split
      · exact hsilence
      · split
        · exact hsilence
        · next hconsume => exact Channel.length_of_consume hconsume

/-! ## Streams that differ in nothing that matters -/

/-- Of what a stream runs at, a callback looks at its rate and its channels only, so that streams of
different buffers or devices may be exchanged for each other. -/
theorem capture_congr {p' : StreamInfo} (hrate : p.sampleRate = p'.sampleRate)
    (hchannels : p.channelCount = p'.channelCount) (h : Handler) : h.capture p = h.capture p' := by
  funext frames l
  unfold capture PeriodFormat.check
  rw [hrate, hchannels]

theorem render_congr {p' : StreamInfo} (hrate : p.sampleRate = p'.sampleRate)
    (hchannels : p.channelCount = p'.channelCount) (h : Handler) : h.render p = h.render p' := by
  funext n l
  unfold render PeriodFormat.check
  rw [hrate, hchannels]

/-! ## Whole periods -/

/-- A channel that is exchanged for one of the same length, and an observer that is given a period,
disturb nobody. -/
theorem undisturbed_exchange {c' : Channel} (hc : l.channel = some c) (hlen : c'.length = c.length)
    (observer : Option ObserverId) (d : Direction) (frames : List Int16) :
    l.Undisturbed ({ l with channel := some c' }.notify observer d frames) := by
  obtain ⟨heard, hheard⟩ := Line.notify_eq { l with channel := some c' } observer d frames
  rw [hheard]
  refine ⟨rfl, rfl, ?_⟩
  rw [hc]
  exact congrArg some hlen

/-- **A captured period disturbs nobody**, whether it is taken or refused: no state moves, and the
engine is told nothing. -/
theorem capture_undisturbed (hp : h.period.Admits p) (hc : h.period.TakenBy l.channel)
    {frames : List Int16} (hframes : frames.length = h.period.samples) :
    l.Undisturbed (h.capture p frames l).2 := by
  unfold capture
  split
  · exact .refl l
  · cases hchannel : l.channel with
    | none => exact .refl l
    | some c =>
      obtain ⟨c', hpublish, hsamples⟩ :=
        Channel.publish_of_length (hframes.trans (hc c hchannel).symm)
      have hlen : c'.length = c.length :=
        (congrArg List.length hsamples).trans (hframes.trans (hc c hchannel).symm)
      simp only [PeriodFormat.check_of_admits hp, if_pos hframes, hpublish]
      exact undisturbed_exchange hchannel hlen _ _ _

/-- **A period to play disturbs nobody**, whether it is played or silence is. Consuming changes the
counts of the channel and leaves it as long as it was. -/
theorem render_undisturbed (hp : h.period.Admits p) (hc : h.period.TakenBy l.channel)
    {n : Nat} (hn : n = h.period.samples) : l.Undisturbed (h.render p n l).2.2 := by
  unfold render
  split
  · exact .refl l
  · cases hchannel : l.channel with
    | none => exact .refl l
    | some c =>
      obtain ⟨c', hconsume, hsamples⟩ := Channel.consume_of_length (hn.trans (hc c hchannel).symm)
      simp only [PeriodFormat.check_of_admits hp, if_pos hn, hconsume]
      exact undisturbed_exchange hchannel (congrArg List.length hsamples) _ _ _

/-! ## Losing a stream -/

/-- **The line after the loss of a stream** that a fault can strike: the side has failed, and the
loss is reported. What has been captured stays. -/
theorem afterClose_eq (hs : l.state h.direction = .opened ∨ l.state h.direction = .running
      ∨ l.state h.direction = .error) (error : HostError) :
    h.afterClose p error l = { l with
      states := l.states.set h.direction .error
      link := l.link.report (.disconnected p.direction error) } := by
  have hstate : (l.state h.direction).afterFault = .error :=
    StreamState.afterFault_of_occupied hs
  unfold afterClose Line.markFaulted
  rw [hstate]
  rfl

/-- Whatever the state of its stream, a loss faults nothing else and is reported as a loss. -/
theorem afterClose_loses (h : Handler) (p : StreamInfo) (error : HostError) (l : Line) :
    l.Loses (h.afterClose p error l) where
  state d hd := by
    show (l.states.set h.direction (l.state h.direction).afterFault).get d ≠ .closed
    by_cases hdirection : d = h.direction
    · rw [hdirection, Duplex.get_set]
      exact StreamState.afterFault_ne_closed (hdirection ▸ hd)
    · rw [Duplex.get_set_ne _ _ hdirection]
      exact hd
  channel := rfl
  untold event hevent := by
    rcases Link.mem_pending_report hevent with hold | rfl
    · exact Or.inl hold
    · exact Or.inr rfl

end Handler

end Passthrough
