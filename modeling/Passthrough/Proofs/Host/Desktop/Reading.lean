import Passthrough.Proofs.Host.Desktop.Diary
/-!
# Reading a diary

A diary alone says whether its stream is on, and what waits in the framer, sample by sample and with
where each of them comes from. It is read from its first entry on, one entry at a time (`read`), and
an entry is right if it fits what the diary has said before (`Sound`).

That a diary is right about a framer (`Matches`) is kept by every entry that is written, which is
one lemma for each kind of entry, and so by every buffer that the framer is given.

* **`CaptureFramer.push_matches`** — a captured buffer is cut into periods that begin with what
  waits.
* **`PlaybackFramer.pull_matches`** — a buffer is served from what waits, then from what the
  callback gives, then with silence.
-/

namespace Passthrough

open DesktopHost

namespace Desktop

/-! ## Reading a diary -/

/-- The last start, by its answer, unless the stream has been turned off since. -/
def Entry.standing (before : Option (Except HostError Unit)) :
    Entry → Option (Except HostError Unit)
  | .started answer => some answer
  | .stopped _ => none
  | .closed _ => none
  | .handed _ .stop => none
  | .obtained _ .stop => none
  | _ => before

def standing? (es : List Entry) : Option (Except HostError Unit) := es.foldl Entry.standing none

/-- A callback that answers stop to a captured period turns its stream off. -/
theorem Entry.standing_handed (before : Option (Except HostError Unit)) (frames : List Int16)
    (verdict : Verdict) :
    Entry.standing before (.handed frames verdict)
      = if verdict = .stop then none else before := by
  cases verdict <;> rfl

/-- So does one that answers stop when it is asked for a period to play. -/
theorem Entry.standing_obtained (before : Option (Except HostError Unit)) (frames : List Int16)
    (verdict : Verdict) :
    Entry.standing before (.obtained frames verdict)
      = if verdict = .stop then none else before := by
  cases verdict <;> rfl

/-- What is in force after an entry is the start that the entry tells of, or it was in force before.
Stops, closes and an answer of stop put nothing in force, and every other entry leaves it alone. -/
theorem Entry.standing_eq_some {before : Option (Except HostError Unit)} {e : Entry}
    {answer : Except HostError Unit} (h : e.standing before = some answer) :
    e = .started answer ∨ before = some answer := by
  cases e with
  | started a => exact Or.inl (congrArg Entry.started (Option.some.inj h))
  | stopped a => cases h
  | closed a => cases h
  | arrived samples => exact Or.inr h
  | played buffer => exact Or.inr h
  | handed frames verdict =>
    rw [standing_handed] at h
    exact Or.inr (Option.ite_none_left_eq_some.mp h).2
  | obtained frames verdict =>
    rw [standing_obtained] at h
    exact Or.inr (Option.ite_none_left_eq_some.mp h).2

/-- What is in force after some entries was in force before them, or one of them is the start. The
induction is on the entries, with `Entry.standing_eq_some` for the first of them. -/
theorem started_mem_of_foldl {es : List Entry} {answer : Except HostError Unit}
    {before : Option (Except HostError Unit)} (h : es.foldl Entry.standing before = some answer) :
    before = some answer ∨ .started answer ∈ es := by
  induction es generalizing before with
  | nil => exact Or.inl h
  | cons e es ih =>
    rcases ih h with hstanding | hmem
    · rcases Entry.standing_eq_some hstanding with rfl | hbefore
      · exact Or.inr List.mem_cons_self
      · exact Or.inl hbefore
    · exact Or.inr (List.mem_cons_of_mem _ hmem)

/-- A start is in force only if there was one, with this answer: a diary begins with nothing in
force. -/
theorem started_mem_of_standing? {es : List Entry} {answer : Except HostError Unit}
    (h : standing? es = some answer) : .started answer ∈ es := by
  rcases started_mem_of_foldl h with hnone | hmem
  · cases hnone
  · exact hmem

/-- Where a sample that waits in a framer comes from. -/
inductive Origin
  /-- Nobody: the stream is off, and a buffer has to be filled. -/
  | silence
  | audio
  /-- Audio, and the stream has been stopped since. -/
  | halted
  /-- Audio, and the stream has been stopped and started again since. -/
  | carried
  deriving DecidableEq

namespace Origin

def halt : Origin → Origin
  | .audio => .halted
  | o => o

def resume : Origin → Origin
  | .halted => .carried
  | o => o

end Origin

/-- A sample that waits in a framer. -/
structure Waiting where
  sample : Int16
  origin : Origin
  deriving DecidableEq

namespace Waiting

def halt (w : Waiting) : Waiting := { w with origin := w.origin.halt }

def resume (w : Waiting) : Waiting := { w with origin := w.origin.resume }

/-- Where a sample comes from may change when a stream is halted, but not the sample. -/
@[simp] theorem sample_comp_halt : Waiting.sample ∘ halt = Waiting.sample := rfl

@[simp] theorem sample_comp_resume : Waiting.sample ∘ resume = Waiting.sample := rfl

@[simp] theorem sample_comp_mk (o : Origin) : Waiting.sample ∘ (Waiting.mk · o) = id := rfl

end Waiting

/-- How much silence is left of a period when so much of it has been played: whenever it is used up,
there is another period of it. -/
def silentRest (period : Nat) : Nat → Nat
  | 0 => 0
  | n + 1 => if silentRest period n = 0 then period - 1 else silentRest period n - 1

section Serving

variable {α β : Type} (silence : α) (held : List α) (period n : Nat)

/-- What is served when a buffer of `n` samples is filled from what waits: that, and silence beyond
it. -/
def served : List α := held.take n ++ List.replicate (n - held.length) silence

/-- What is left of it, and of the last period of silence. -/
def leftover : List α :=
  held.drop n ++ List.replicate (silentRest period (n - held.length)) silence

variable {silence held period n}

@[simp] theorem served_zero : served silence held 0 = [] := by simp [served]

@[simp] theorem leftover_zero : leftover silence held period 0 = held := by
  simp [leftover, silentRest]

@[simp] theorem length_served : (served silence held n).length = n := by
  rw [served, List.length_append, List.length_take, List.length_replicate]
  omega

/-- What is served can be told sample by sample, so that origins are served as the samples are. -/
theorem map_served (f : α → β) :
    (served silence held n).map f = served (f silence) (held.map f) n := by
  simp [served]

theorem map_leftover (f : α → β) :
    (leftover silence held period n).map f = leftover (f silence) (held.map f) period n := by
  simp [leftover]

/-- As long as something waits, that is served next. -/
theorem served_succ_of_lt (h : n < held.length) :
    served silence held (n + 1) = served silence held n ++ [held[n]] := by
  have hsucc : n + 1 - held.length = 0 := by omega
  have hn : n - held.length = 0 := by omega
  simp [served, hsucc, hn]

/-- And it is the first of what was left before. -/
theorem leftover_of_lt (h : n < held.length) :
    leftover silence held period n = held[n] :: leftover silence held period (n + 1) := by
  have hsucc : n + 1 - held.length = 0 := by omega
  have hn : n - held.length = 0 := by omega
  unfold leftover
  rw [hsucc, hn, List.drop_eq_getElem_cons h]
  rfl

theorem served_succ_of_le (h : held.length ≤ n) :
    served silence held (n + 1) = served silence held n ++ [silence] := by
  have hsucc : n + 1 - held.length = n - held.length + 1 := by omega
  simp [served, hsucc, List.take_of_length_le h, List.take_of_length_le (Nat.le_succ_of_le h),
    List.replicate_succ']

theorem leftover_of_le (h : held.length ≤ n) :
    leftover silence held period n
      = List.replicate (silentRest period (n - held.length)) silence := by
  simp [leftover, List.drop_of_length_le h]

/-- A period of silence that has begun is served to its end. -/
theorem leftover_of_begun (h : held.length ≤ n)
    (hrest : silentRest period (n - held.length) ≠ 0) :
    leftover silence held period n = silence :: leftover silence held period (n + 1) := by
  have hsucc : n + 1 - held.length = n - held.length + 1 := by omega
  rw [leftover_of_le h, leftover_of_le (by omega), hsucc, silentRest, if_neg hrest,
    ← List.replicate_succ, Nat.sub_add_cancel (Nat.pos_of_ne_zero hrest)]

/-- When it is used up, another one begins, of which the next sample is served at once. -/
theorem leftover_of_used (h : held.length ≤ n) (hrest : silentRest period (n - held.length) = 0) :
    leftover silence held period (n + 1) = List.replicate (period - 1) silence := by
  have hsucc : n + 1 - held.length = n - held.length + 1 := by omega
  rw [leftover_of_le (by omega), hsucc, silentRest, if_pos hrest]

end Serving

/-- What a diary says of a stream. -/
structure Reading where
  standing : Option (Except HostError Unit) := none
  /-- What waits in the framer, the next sample first. -/
  waiting : List Waiting := []

namespace Reading

def samples (r : Reading) : List Int16 := r.waiting.map Waiting.sample

/-- What waits in the framer after one more entry. -/
def waitingAfter (period : Nat) (r : Reading) : Entry → List Waiting
  | .started _ => r.waiting.map Waiting.resume
  | .stopped _ => r.waiting.map Waiting.halt
  | .closed _ => r.waiting
  | .arrived samples =>
    if r.standing.isSome then r.waiting ++ samples.map (Waiting.mk · .audio) else r.waiting
  | .handed frames .proceed => r.waiting.drop frames.length
  | .handed _ .stop => []
  | .obtained frames _ => r.waiting ++ frames.map (Waiting.mk · .audio)
  | .played buffer => leftover ⟨0, .silence⟩ r.waiting period (bufferSize buffer)

def enter (period : Nat) (r : Reading) (e : Entry) : Reading where
  standing := e.standing r.standing
  waiting := r.waitingAfter period e

/-- Somebody has started the stream, while it was open, and nothing has turned it off since. -/
def Runs (r : Reading) : Prop := ∃ answer, r.standing = some answer ∧ answer ≠ .error .closed

/-- **An entry that fits** what the diary has said before. -/
def Fits (r : Reading) (period : Nat) (format : DeviceFormat) : Entry → Prop
  | .handed frames _ => r.Runs ∧ frames.length = period ∧ frames = r.samples.take period
  | .obtained frames _ => r.Runs ∧ frames.length = period
  | .played buffer => buffer = .ofSamples format (served 0 r.samples (bufferSize buffer))
  | _ => True

variable (r : Reading) (period : Nat)

/-- An entry turns a stream on or off as `Entry.standing` has it, whatever waits in the framer. -/
@[simp] theorem standing_enter (e : Entry) : (r.enter period e).standing = e.standing r.standing :=
  rfl

@[simp] theorem samples_started (answer : Except HostError Unit) :
    (r.enter period (.started answer)).samples = r.samples := by
  simp [samples, enter, waitingAfter]

@[simp] theorem samples_stopped (answer : Except HostError Unit) :
    (r.enter period (.stopped answer)).samples = r.samples := by
  simp [samples, enter, waitingAfter]

/-- A buffer that has been captured waits behind the others, if the stream is on. -/
@[simp] theorem samples_arrived (frames : List Int16) :
    (r.enter period (.arrived frames)).samples
      = if r.standing.isSome then r.samples ++ frames else r.samples := by
  simp only [samples, enter, waitingAfter]
  split <;> simp

@[simp] theorem samples_handed (frames : List Int16) :
    (r.enter period (.handed frames .proceed)).samples = r.samples.drop frames.length := by
  simp [samples, enter, waitingAfter]

@[simp] theorem samples_handed_stop (frames : List Int16) :
    (r.enter period (.handed frames .stop)).samples = [] := rfl

/-- A period that the callback has given waits behind the others, also when it is the last. -/
@[simp] theorem samples_obtained (frames : List Int16) (verdict : Verdict) :
    (r.enter period (.obtained frames verdict)).samples = r.samples ++ frames := by
  simp [samples, enter, waitingAfter]

@[simp] theorem samples_played (buffer : Buffer) :
    (r.enter period (.played buffer)).samples
      = leftover 0 r.samples period (bufferSize buffer) :=
  map_leftover Waiting.sample

end Reading

def read (period : Nat) (es : List Entry) : Reading := es.foldl (Reading.enter period) {}

/-- **Every entry fits** those before it. -/
def Sound (period : Nat) (format : DeviceFormat) (es : List Entry) : Prop :=
  ∀ before e since, es = before ++ e :: since → (read period before).Fits period format e

variable {period : Nat} {format : DeviceFormat} {es : List Entry} {e : Entry}

@[simp] theorem read_concat (period : Nat) (es : List Entry) (e : Entry) :
    read period (es ++ [e]) = (read period es).enter period e := by
  simp [read]

/-- Whether a stream is on does not depend on what waits, so that both can be read apart from each
other. -/
theorem standing_foldl (period : Nat) (es : List Entry) (r : Reading) :
    (es.foldl (Reading.enter period) r).standing = es.foldl Entry.standing r.standing := by
  induction es generalizing r with
  | nil => rfl
  | cons e es ih => exact ih (r.enter period e)

theorem standing_read (period : Nat) (es : List Entry) :
    (read period es).standing = standing? es :=
  standing_foldl period es {}

theorem sound_nil (period : Nat) (format : DeviceFormat) : Sound period format [] := by
  intro before e since h
  simp at h

/-- One entry more that fits keeps a diary sound. A split of the longer diary is either at its last
entry, which `Fits`, or a split of the shorter one. -/
theorem Sound.concat (h : Sound period format es) (he : (read period es).Fits period format e) :
    Sound period format (es ++ [e]) := by
  intro before e' since hsplit
  rcases List.eq_nil_or_concat since with rfl | ⟨since', last, rfl⟩
  · obtain ⟨rfl, hlast⟩ := List.append_inj' hsplit rfl
    cases hlast
    exact he
  · rw [List.concat_eq_append, ← List.cons_append, ← List.append_assoc] at hsplit
    obtain ⟨rfl, _⟩ := List.append_inj' hsplit rfl
    exact h before e' since' rfl

/-! ## Diaries that are right -/

/-- **A diary that is right** about a framer: about the past in every entry, and about the present
in what it says of the framer. A framer whose period has no samples never gets as far as to exchange
any, and what it holds is nobody's business. -/
structure Matches (period : Nat) (format : DeviceFormat) (es : List Entry) (stopped : Bool)
    (held : List Int16) : Prop where
  sound : Sound period format es
  stopped : (read period es).standing.isNone = stopped
  unclosed : (read period es).standing ≠ some (.error .closed)
  held : 0 < period → (read period es).samples = held

namespace Matches

variable {stopped : Bool} {held frames : List Int16}

/-- A diary that is right about a framer that is on says that the stream runs. -/
theorem runs (h : Matches period format es false held) : (read period es).Runs := by
  cases hstanding : (read period es).standing with
  | none =>
    have hstopped := h.stopped
    rw [hstanding] at hstopped
    cases hstopped
  | some answer => exact ⟨answer, hstanding, fun hclosed => h.unclosed (hclosed ▸ hstanding)⟩

theorem nil (period : Nat) (format : DeviceFormat) : Matches period format [] true [] :=
  ⟨sound_nil period format, rfl, by simp [read], fun _ => rfl⟩

/-- After a start the framer is on, with what waited before. The answer may be an error of the
device, but not that the stream is closed: the framer is turned on before the device is asked. -/
theorem started (h : Matches period format es stopped held) {answer : Except HostError Unit}
    (hanswer : answer ≠ .error .closed) :
    Matches period format (es ++ [.started answer]) false held where
  sound := h.sound.concat trivial
  stopped := by simp [Entry.standing]
  unclosed := by simpa [Entry.standing] using hanswer
  held hperiod := by simpa using h.held hperiod

theorem halted (h : Matches period format es stopped held) (answer : Except HostError Unit) :
    Matches period format (es ++ [.stopped answer]) true held where
  sound := h.sound.concat trivial
  stopped := by simp [Entry.standing]
  unclosed := by simp [Entry.standing]
  held hperiod := by simpa using h.held hperiod

/-- A buffer that arrives waits behind the others, or it is left out by a framer that is off: nobody
wants what a device captures while the stream is off. -/
theorem arrived (h : Matches period format es stopped held) (frames : List Int16) :
    Matches period format (es ++ [.arrived frames]) stopped
      (if stopped then held else held ++ frames) where
  sound := h.sound.concat trivial
  stopped := by simpa [Entry.standing] using h.stopped
  unclosed := by simpa [Entry.standing] using h.unclosed
  held hperiod := by
    have hstopped := h.stopped
    cases stopped <;> simp_all [h.held hperiod]

/-- A callback that is called while the stream is on leaves it on, unless it answers stop. Both
fields of `Matches` that speak about what stands are settled by this, for a period handed over as
for one given. -/
theorem answered (h : Matches period format es false held) (verdict : Verdict) :
    (if verdict = .stop then none else (read period es).standing).isNone
        = decide (verdict = .stop)
      ∧ (if verdict = .stop then none else (read period es).standing)
        ≠ some (.error .closed) := by
  cases verdict with
  | proceed => exact ⟨h.stopped, h.unclosed⟩
  | stop => simp

/-- A period that is handed over is the first of what waits, and is whole. If the callback answers
stop, the framer is off and empty. That it is whole is what the framer checks before it calls, and
that it is the first of what waits is `Matches.held`. -/
theorem handed (h : Matches period format es false (frames ++ held)) (hperiod : 0 < period)
    (hframes : frames.length = period) (verdict : Verdict) :
    Matches period format (es ++ [.handed frames verdict]) (verdict = .stop)
      (if verdict = .stop then [] else held) where
  sound := by
    apply h.sound.concat
    refine ⟨h.runs, hframes, ?_⟩
    rw [h.held hperiod, ← hframes, List.take_left']
    rfl
  stopped := by
    rw [read_concat, Reading.standing_enter, Entry.standing_handed]
    exact (h.answered verdict).1
  unclosed := by
    rw [read_concat, Reading.standing_enter, Entry.standing_handed]
    exact (h.answered verdict).2
  held _ := by
    cases verdict <;> simp [h.held hperiod]

/-- A period that the callback gives waits behind the others, and the framer is off if it answers
stop. What the diary reads as waiting grows by exactly `frames`, whatever the answer. -/
theorem obtained (h : Matches period format es false held) (hframes : frames.length = period)
    (verdict : Verdict) :
    Matches period format (es ++ [.obtained frames verdict]) (verdict = .stop)
      (held ++ frames) where
  sound := h.sound.concat ⟨h.runs, hframes⟩
  stopped := by
    rw [read_concat, Reading.standing_enter, Entry.standing_obtained]
    exact (h.answered verdict).1
  unclosed := by
    rw [read_concat, Reading.standing_enter, Entry.standing_obtained]
    exact (h.answered verdict).2
  held hperiod := by simp [h.held hperiod]

/-- A buffer that has been played fits what waited before it (`served`), and leaves what it did not
take (`leftover`). With a period without samples, silence could not be counted, so that nothing may
be played then. -/
theorem played (h : Matches period format es stopped held) {n : Nat} (hn : 0 < period ∨ n = 0) :
    Matches period format (es ++ [.played (.ofSamples format (served 0 held n))]) stopped
      (leftover 0 held period n) where
  sound := by
    apply h.sound.concat
    rcases hn with hperiod | rfl
    · simp [Reading.Fits, h.held hperiod]
    · simp [Reading.Fits, served]
  stopped := by simpa [Entry.standing] using h.stopped
  unclosed := by simpa [Entry.standing] using h.unclosed
  held hperiod := by simp [h.held hperiod]

end Matches

/-! ## Framers -/

variable {σ : Type} {d : Diary σ}

namespace CaptureFramer

variable {call : List Int16 → Diary σ → Verdict × Diary σ}

/-- **A callback that hears** a period, and writes it down. -/
structure Hears (call : List Int16 → Diary σ → Verdict × Diary σ) : Prop where
  entries (frames : List Int16) (d : Diary σ) :
    (call frames d).2.entries = d.entries ++ [.handed frames (call frames d).1]

/-- **Collecting.** A diary that is right about a buffer to come, and about what the framer holds
before it, is right about the framer after the buffer has been cut into periods. -/
theorem take_matches (hcall : Hears call)
    {f : CaptureFramer} {data : List Int16}
    (h : Matches f.period format d.entries false (f.filled.toList ++ data))
    (hrunning : f.stopped = false) :
    ∃ f' d', f.take call data d = (f', d') ∧ f'.period = f.period
      ∧ Matches f.period format d'.entries f'.stopped f'.filled.toList := by
  induction data generalizing f d with
  | nil =>
    refine ⟨f, d, rfl, rfl, ?_⟩
    simpa [hrunning] using h
  | cons x rest ih =>
    have hheld : f.filled.toList ++ x :: rest = (f.filled.push x).toList ++ rest := by simp
    rw [hheld] at h
    unfold take
    simp only
    split
    · -- with this sample the period is whole, and is handed over
      next hfull =>
      have hperiod : 0 < f.period := by
        rw [← hfull, Array.size_push]
        omega
      have hnext := h.handed hperiod hfull (call (f.filled.push x).toList d).1
      rw [← hcall.entries] at hnext
      rcases hrun : call (f.filled.push x).toList d with ⟨verdict, d'⟩
      rw [hrun] at hnext
      cases verdict with
      | proceed => exact ih hnext hrunning
      | stop => exact ⟨_, _, rfl, rfl, hnext⟩
    · exact ih h hrunning

/-- A buffer arrives, as the diary says before anything else. Then the framer cuts it into periods,
each of which begins with what waits and is handed over (`handed`), until it runs out of samples. -/
theorem push_matches (hcall : Hears call)
    {f : CaptureFramer} (h : Matches f.period format d.entries f.stopped f.filled.toList)
    (data : List Int16) :
    ∃ f' d', f.push call data (d.write (.arrived data)) = (f', d') ∧ f'.period = f.period
      ∧ Matches f.period format d'.entries f'.stopped f'.filled.toList := by
  have harrived := h.arrived data
  unfold push
  split
  · next hstopped =>
    rw [hstopped] at harrived
    exact ⟨f, _, rfl, rfl, hstopped ▸ harrived⟩
  · next hrunning =>
    have hrunning : f.stopped = false := by simpa using hrunning
    rw [hrunning] at harrived
    exact take_matches hcall harrived hrunning

end CaptureFramer

namespace PlaybackFramer

variable {call : Nat → Diary σ → Verdict × List Int16 × Diary σ}

/-- **A callback that gives** as many samples as it is asked for, and writes them down. -/
structure Gives (call : Nat → Diary σ → Verdict × List Int16 × Diary σ) : Prop where
  entries (n : Nat) (d : Diary σ) :
    (call n d).2.2.entries = d.entries ++ [.obtained (call n d).2.1 (call n d).1]
  length (n : Nat) (d : Diary σ) : (call n d).2.1.length = n

/-- **In the middle of a buffer**, of which `n` samples have been served. The diary still counts
those among what waits, since the device has not got the buffer yet. -/
structure Serving (f : PlaybackFramer) (format : DeviceFormat) (es : List Entry)
    (held : List Int16) (n : Nat) : Prop where
  matched : Matches f.period format es f.stopped held
  pending : f.pending = leftover 0 held f.period n
  /-- There is no silence as long as somebody is asked. -/
  running : f.stopped = false → n ≤ held.length

/-- The period of a framer that has nothing left: silence, if the framer is off, or what the
callback gives. In both cases the next sample is the first of that period, and the rest of it
waits. -/
theorem refill_matches (hcall : Gives call)
    {f : PlaybackFramer} {held : List Int16} {n : Nat} (hperiod : 0 < f.period)
    (h : f.Serving format d.entries held n) (hle : held.length ≤ n) (hpending : f.pending = []) :
    ∃ held' f' d' x rest, f.refill call d = (f', d') ∧ f'.period = f.period
      ∧ f'.pending = x :: rest ∧ served 0 held' (n + 1) = served 0 held n ++ [x]
      ∧ ({ f' with pending := rest } : PlaybackFramer).Serving format d'.entries held' (n + 1) := by
  unfold refill
  split
  · -- the last period of silence is used up, and another one begins
    next hstopped =>
    have hrest : silentRest f.period (n - held.length) = 0 := by
      have hleft := h.pending
      rw [hpending, leftover_of_le hle] at hleft
      simpa using hleft.symm
    have hsilence : List.replicate f.period (0 : Int16) = 0 :: List.replicate (f.period - 1) 0 := by
      rw [← List.replicate_succ, Nat.sub_add_cancel hperiod]
    exact ⟨held, _, d, 0, _, rfl, rfl, hsilence, served_succ_of_le hle, h.matched,
      (leftover_of_used hle hrest).symm, fun hrunning => absurd (hstopped.symm.trans hrunning)
        (by decide)⟩
  · next hrunning =>
    have hrunning : f.stopped = false := by simpa using hrunning
    -- on and with nothing left, exactly what was held has been served
    have hn : n = held.length := Nat.le_antisymm (h.running hrunning) hle
    have hmatch := (hrunning ▸ h.matched).obtained (hcall.length f.period d) (call f.period d).1
    rw [← hcall.entries] at hmatch
    have hlength := hcall.length f.period d
    rcases hrun : call f.period d with ⟨verdict, frames, d'⟩
    rw [hrun] at hmatch hlength
    cases frames with
    | nil => exact absurd hlength (Nat.ne_of_lt hperiod)
    | cons x rest =>
      have hmore : n < (held ++ x :: rest).length := by simp [hn]
      have hnext : (held ++ x :: rest)[n] = x := by simp [hn]
      have hserved : served 0 (held ++ x :: rest) (n + 1) = served 0 held n ++ [x] := by
        rw [served_succ_of_lt hmore, hnext]
        simp [served, hn]
      have hleft : rest = leftover 0 (held ++ x :: rest) f.period (n + 1) := by
        simp [leftover, hn, silentRest]
      cases verdict with
      | proceed =>
        exact ⟨_, _, d', x, rest, rfl, rfl, rfl, hserved, by simpa [hrunning] using hmatch, hleft,
          fun _ => hmore⟩
      | stop => exact ⟨_, _, d', x, rest, rfl, rfl, rfl, hserved, hmatch, hleft, fun _ => hmore⟩

/-- **Serving one sample**: what waits, or the first sample of a period that the callback is asked
for, or silence. In each case `served` grows by the sample that goes out and `Serving` holds again
with one more served. Which case it is depends on how many are out: fewer than were held, or all of
them with or without a period of silence begun. -/
theorem ready_matches (hcall : Gives call)
    {f : PlaybackFramer} {held : List Int16} {n : Nat} (hperiod : 0 < f.period)
    (h : f.Serving format d.entries held n) :
    ∃ held' f' d' x rest, f.ready call d = (f', d') ∧ f'.period = f.period ∧ f'.pending = x :: rest
      ∧ served 0 held' (n + 1) = served 0 held n ++ [x]
      ∧ ({ f' with pending := rest } : PlaybackFramer).Serving format d'.entries held' (n + 1) := by
  have hpending := h.pending
  unfold ready
  by_cases hmore : n < held.length
  · rw [leftover_of_lt hmore] at hpending
    rw [if_neg (by simp [hpending])]
    exact ⟨held, f, d, _, _, rfl, rfl, hpending, served_succ_of_lt hmore, h.matched, rfl,
      fun _ => hmore⟩
  · have hle : held.length ≤ n := by omega
    by_cases hrest : silentRest f.period (n - held.length) = 0
    · have hnone : f.pending = [] := by rw [hpending, leftover_of_le hle, hrest]; rfl
      rw [if_pos hnone]
      exact refill_matches hcall hperiod h hle hnone
    · -- a period of silence has begun, so nobody is asked any more
      have hstopped : f.stopped ≠ false := by
        intro hrunning
        rw [Nat.sub_eq_zero_of_le (h.running hrunning)] at hrest
        exact hrest rfl
      rw [leftover_of_begun hle hrest] at hpending
      rw [if_neg (by simp [hpending])]
      exact ⟨held, f, d, _, _, rfl, rfl, hpending, served_succ_of_le hle, h.matched, rfl,
        fun hrunning => absurd hrunning hstopped⟩

/-- **Serving a buffer**, of which `k` samples have been served. The induction is on the samples
that are still to be served, with `refill_matches` wherever nothing is left. -/
theorem serve_matches (hcall : Gives call) (n : Nat) {out : Array Int16}
    {f : PlaybackFramer} {held : List Int16} {k : Nat} (hperiod : 0 < f.period)
    (h : f.Serving format d.entries held k) (hout : out.toList = served 0 held k) :
    ∃ held' out' f' d', serve call n out f d = (out', f', d') ∧ f'.period = f.period
      ∧ out'.toList = served 0 held' (k + n) ∧ f'.Serving format d'.entries held' (k + n) := by
  induction n generalizing out f d held k with
  | zero => exact ⟨held, out, f, d, rfl, rfl, hout, h⟩
  | succ n ih =>
    -- one sample, which may have made the callback give a period
    obtain ⟨held', f', d', x, rest, hready, hf', hpending, hserved, h'⟩ :=
      ready_matches hcall hperiod h
    have hout' : (out.push x).toList = served 0 held' (k + 1) := by
      rw [Array.toList_push, hout, hserved]
    obtain ⟨held'', out'', f'', d'', hserve, hf'', hout'', h''⟩ :=
      ih (by rwa [← hf'] at hperiod) h' hout'
    rw [serve_succ, hready]
    simp only [hpending, List.headD_cons, List.tail_cons]
    refine ⟨held'', out'', f'', d'', hserve, hf''.trans hf', ?_, ?_⟩
    · rw [hout'', Nat.add_right_comm, Nat.add_assoc]
    · rwa [Nat.add_right_comm, Nat.add_assoc] at h''

/-- A buffer has been served, which the diary says last. It is `length` times `ready_matches`, put
together by `serve_matches`, from `Serving` with nothing served to the entry that tells of the whole
buffer. -/
theorem pull_matches (hcall : Gives call)
    {f : PlaybackFramer} (h : Matches f.period format d.entries f.stopped f.pending) {length : Nat}
    (hlength : 0 < f.period ∨ length = 0) :
    ∃ frames f' d', f.pull call length d = (frames, f', d') ∧ f'.period = f.period
      ∧ Matches f.period format (d'.entries ++ [.played (.ofSamples format frames)]) f'.stopped
        f'.pending := by
  rcases hlength with hperiod | rfl
  · have hstart : f.Serving format d.entries f.pending 0 :=
      ⟨h, leftover_zero.symm, fun _ => Nat.zero_le _⟩
    have hempty : (#[] : Array Int16).toList = served 0 f.pending 0 := served_zero.symm
    obtain ⟨held, out, f', d', hserve, hf', hout, hend⟩ :=
      serve_matches hcall length hperiod hstart hempty
    refine ⟨_, f', d', by rw [pull, hserve], hf', ?_⟩
    -- the entry of the whole buffer comes behind those of the periods
    have hplayed := hend.matched.played (Or.inl (hf' ▸ hperiod) : 0 < f'.period ∨ 0 + length = 0)
    rwa [← hout, ← hend.pending, hf'] at hplayed
  · have hplayed := h.played (Or.inr rfl)
    rw [served_zero, leftover_zero] at hplayed
    exact ⟨[], f, d, rfl, rfl, hplayed⟩

/-- A framer whose period has no samples asks for one all the same. It gets none, and the diary
stays right about it as nothing is played. `Matches.held` asks for nothing at such a period, so any
two lists may stand for what is held. -/
theorem refill_matches_of_no_period (hcall : Gives call)
    {f : PlaybackFramer} (h : Matches f.period format d.entries f.stopped f.pending)
    (hperiod : f.period = 0) :
    (f.refill call d).1.period = f.period
      ∧ Matches f.period format (f.refill call d).2.entries (f.refill call d).1.stopped
        (f.refill call d).1.pending := by
  -- what is held is of no account where a period has no samples
  have hvacuous : ∀ {es stopped held held'}, Matches f.period format es stopped held →
      Matches f.period format es stopped held' :=
    fun hmatch => ⟨hmatch.sound, hmatch.stopped, hmatch.unclosed,
      fun hpos => absurd hperiod (Nat.ne_of_gt hpos)⟩
  unfold refill
  split
  · exact ⟨rfl, hvacuous h⟩
  · next hrunning =>
    have hrunning : f.stopped = false := by simpa using hrunning
    have hmatch := (hrunning ▸ h).obtained (hcall.length f.period d) (call f.period d).1
    rw [← hcall.entries] at hmatch
    rcases hrun : call f.period d with ⟨verdict, frames, d'⟩
    rw [hrun] at hmatch
    cases verdict with
    | proceed => exact ⟨rfl, hvacuous (by simpa [hrunning] using hmatch)⟩
    | stop => exact ⟨rfl, hvacuous hmatch⟩

end PlaybackFramer

end Desktop

end Passthrough
