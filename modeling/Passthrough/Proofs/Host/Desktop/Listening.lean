import Passthrough.Proofs.Host.Desktop.Gate
import Passthrough.Proofs.Host.Desktop.Regrouping
/-!
# A stream that listens

What the callback of a captured stream has been given can be read in its diary (`Diary.ledger`). A
stream that is on makes the same of any buffers as of one buffer with all their samples: it hands
over the whole periods in them, joined to what it held before, until the callback answers stop. From
then on it holds nothing, and nothing more is handed over before the next start.

* **`Listening.perform`** — what survives being switched off and every buffer is so of the framer
  as long as the stream is there.
* **`Bench.buffers_regrouped`** — what comes of buffers of any size, in every run.
-/

namespace Passthrough

open DesktopHost

namespace Desktop

variable {κ σ : Type}

/-! ## Ledgers -/

/-- The period that the callback was given, and its verdict. -/
def Entry.handed? : Entry → Option (List Int16 × Verdict)
  | .handed frames verdict => some (frames, verdict)
  | _ => none

/-- What a callback has been given, and what it has answered, the first period first. -/
def handings (es : List Entry) : List (List Int16 × Verdict) := es.filterMap Entry.handed?

theorem handings_concat (es : List Entry) (frames : List Int16) (verdict : Verdict) :
    handings (es ++ [.handed frames verdict]) = handings es ++ [(frames, verdict)] := by
  simp [handings, Entry.handed?]

theorem handed?_of_isAnswer {e : Entry} (he : e.isAnswer = true) : e.handed? = none := by
  cases e with
  | handed frames verdict => cases he
  | _ => rfl

/-- What a diary says of the callback. -/
def Diary.ledger (d : Diary σ) : σ × List (List Int16 × Verdict) := (d.state, handings d.entries)

theorem Diary.ledger_write (d : Diary σ) {e : Entry} (he : e.handed? = none) :
    (d.write e).ledger = d.ledger := by
  simp [ledger, write, handings, he]

/-- The callback that writes down what it is given, and nothing else. -/
def recording (call : List Int16 → σ → Verdict × σ) (frames : List Int16)
    (l : σ × List (List Int16 × Verdict)) : Verdict × σ × List (List Int16 × Verdict) :=
  ((call frames l.1).1, (call frames l.1).2, l.2 ++ [(frames, (call frames l.1).1)])

/-- The ledger of a diary is kept by a callback that writes down what it is given and nothing else.
So what a framer makes of a buffer can be told with ledgers in place of diaries (`push_through`). -/
theorem recording_ledger (owner : StreamOwner κ σ) (callback : κ) (properties : StreamInfo)
    (frames : List Int16) (d : Diary σ) :
    recording (owner.capture callback properties) frames d.ledger
      = (((Diary.keeping owner).capture callback properties frames d).1,
          ((Diary.keeping owner).capture callback properties frames d).2.ledger) := by
  rw [Diary.ledger, Diary.ledger, Diary.entries_capture, handings_concat]
  rfl

section Recording

variable {call : List Int16 → σ → Verdict × σ} {blocks : List (List Int16)}
  {l : σ × List (List Int16 × Verdict)}

theorem verdicts_recording : verdicts (recording call) blocks l = verdicts call blocks l.1 := by
  induction blocks generalizing l with
  | nil => rfl
  | cons frames rest ih => exact congrArg _ (ih (l := (recording call frames l).2))

theorem stopCall_recording : stopCall (recording call) blocks l = stopCall call blocks l.1 := by
  rw [stopCall, verdicts_recording, stopCall]

/-- Behind what was there, a ledger has the periods with the answers to them. The induction is on
the periods. Each push of the framer calls `recording` once for a period, so this is what a run of
pushes adds to `Diary.ledger`. -/
theorem stateAfter_recording :
    stateAfter (recording call) blocks l
      = (stateAfter call blocks l.1, l.2 ++ blocks.zip (verdicts call blocks l.1)) := by
  induction blocks generalizing l with
  | nil => simp [stateAfter]
  | cons frames rest ih =>
    have hnext := ih (l := (recording call frames l).2)
    unfold stateAfter at hnext ⊢
    rw [List.foldl_cons, hnext]
    simp [recording, verdicts]

/-- The answers to the first periods do not depend on those behind them. A framer that stops at the
`stopCall`-th period has given only those before it, and the answers to them are these. -/
theorem verdicts_take (n : Nat) {s : σ} :
    verdicts call (blocks.take n) s = (verdicts call blocks s).take n := by
  induction blocks generalizing n s with
  | nil => simp [verdicts]
  | cons frames rest ih =>
    cases n with
    | zero => rfl
    | succ n => simp [verdicts, ih]

/-- The callback that writes down what it is given makes the same of samples, and the ledger says
which periods it was given: the whole ones, up to the call that answers stop. -/
theorem regrouped_recording (f : CaptureFramer) (samples : List Int16)
    (l : σ × List (List Int16 × Verdict)) :
    let blocks := wholePeriods f.period samples
    f.regrouped (recording call) samples l
      = ((f.regrouped call samples l.1).1, (f.regrouped call samples l.1).2,
          l.2 ++ (blocks.zip (verdicts call blocks l.1)).take (stopCall call blocks l.1)) := by
  simp only [CaptureFramer.regrouped, verdicts_recording, stopCall_recording, stateAfter_recording,
    verdicts_take, List.zip_eq_zipWith, List.take_zipWith]

end Recording

/-- Whether the owner asks for a start. -/
def Move.isStart : Move → Bool
  | .start _ => true
  | _ => false

/-! ## Streams that listen -/

namespace DeviceStream

variable {x y : DeviceStream κ}

theorem stopped_of_input (hside : x.side = .input) : x.stopped = x.input.stopped := by
  rw [stopped, hside]

theorem held_of_input (hside : x.side = .input) : x.held = x.input.filled.toList := by
  rw [held, hside]

/-- A stream that captures is on if its framer is, and holds what that holds. So the two numbers
that a reader of the bench sees, `stopped` and `held`, determine the framer of a capturing stream,
whose period never changes (`Alike.input`). -/
theorem input_eq {stopped : Bool} (halike : Alike x y) (hside : x.side = .input)
    (hstopped : y.stopped = stopped) (hheld : y.held = x.held) :
    y.input = { x.input with stopped } := by
  have hperiod := halike.input
  rw [stopped_of_input (halike.side.trans hside)] at hstopped
  rw [held_of_input (halike.side.trans hside), held_of_input hside] at hheld
  rcases y with ⟨_, _, _, _, _, ⟨period, filled, stopped'⟩⟩
  cases hperiod
  cases hstopped
  cases Array.toList_inj.mp hheld
  rfl

end DeviceStream

namespace Bench

variable {opened : DeviceStream κ} {b : Bench κ σ} {f : CaptureFramer}

/-- **The stream that was opened is there**, and listens by this framer. -/
def Listens (opened : DeviceStream κ) (b : Bench κ σ) (f : CaptureFramer) : Prop :=
  ∃ x, b.host.Alone b.handle x ∧ Alike opened x ∧ x.side = .input ∧ x.input = f

/-- **As long as it is there**, this is so of its framer. -/
inductive Listening (opened : DeviceStream κ) (P : CaptureFramer → Prop) (b : Bench κ σ) : Prop
  | live (f : CaptureFramer) (listens : b.Listens opened f) (framer : P f)
  | gone (closed : b.handle.closed = true) (streams : b.host.streams = [])

/-- A stream that has just been opened is off and holds nothing. This is what `openStream_cases`
says of a stream that captures, and where `Listens` begins. -/
theorem listens_of_openStream {r : StreamSpec} {callback : κ} {h h' : DesktopHost κ}
    {s : StreamHandle} (hnone : h.streams = [])
    (hopen : openStream .input r callback h = (.opened s, h')) (state : σ) :
    ∃ opened, (ofOpened s h' state).Listens opened
        { period := r.framesPerCallback * r.channelCount }
      ∧ opened.callback = callback ∧ opened.properties = s.properties
      ∧ opened.input.period = r.framesPerCallback * r.channelCount := by
  rcases openStream_cases .input r callback h with ⟨source, hrefused⟩ | ⟨s', x, h'', hopens, hx⟩
  · rw [hrefused] at hopen
    cases hopen
  · rw [hopens] at hopen
    cases hopen
    obtain ⟨hstreams, hx⟩ := hx
    rw [hnone] at hstreams
    refine ⟨x, ⟨x, ⟨hstreams, hx.number, hx.unclosed⟩, .refl x, hx.side, ?_⟩, hx.callback,
      hx.properties.symm, hx.input⟩
    rw [hx.unused.1, hx.input]

variable [owner : StreamOwner κ σ]

/-- A start turns the framer on, whatever the device answers to it. Nothing that waits is thrown
away, which is how audio can cross a stop and a start. -/
theorem Listens.start (h : b.Listens opened f) (refusal : Option String) :
    (b.perform (.start refusal)).Listens opened { f with stopped := false } := by
  obtain ⟨x, halone, halike, hside, rfl⟩ := h
  obtain ⟨host, y, hstart, hy, hxy, hstopped, hheld⟩ := halone.start refusal
  refine ⟨y, ?_, halike.trans hxy, hxy.side.trans hside,
    DeviceStream.input_eq hxy hside hstopped hheld⟩
  unfold perform
  simpa only [hstart] using hy

/-- A stop turns it off, whatever the device answers. What it holds it keeps. Like `Listens.start`
it needs only what the host says of the stream that stands alone (`Alone.stop`). -/
theorem Listens.stop (h : b.Listens opened f) (refusal : Option String) :
    (b.perform (.stop refusal)).Listens opened { f with stopped := true } := by
  obtain ⟨x, halone, halike, hside, rfl⟩ := h
  obtain ⟨host, y, hstop, hy, hxy, hstopped, hheld⟩ := halone.stop refusal
  refine ⟨y, ?_, halike.trans hxy, hxy.side.trans hside,
    DeviceStream.input_eq hxy hside hstopped hheld⟩
  unfold perform
  simpa only [hstop] using hy

/-- A stream that captures has nothing to play, and no other stream is there. -/
theorem Listens.render (h : b.Listens opened f) (length : Nat) :
    b.perform (.render length) = b := by
  obtain ⟨x, halone, _, hside, _⟩ := h
  unfold perform DesktopHost.render
  simp [halone.newest?, hside]

/-- **A captured buffer** is pushed into the framer, or cannot be exchanged at all: it is not in the
format of the stream, or it has samples where a period has none. -/
theorem Listens.capture (h : b.Listens opened f) (buffer : Buffer) :
    let call := recording (owner.capture opened.callback opened.properties)
    let b' := b.perform (.capture buffer)
    (b' = b ∧ (buffer.format = opened.format → f.period = 0))
      ∨ b'.Listens opened (f.push call buffer.samples b.diary.ledger).1
        ∧ b'.diary.ledger = (f.push call buffer.samples b.diary.ledger).2 := by
  obtain ⟨x, halone, halike, hside, rfl⟩ := h
  intro call b'
  -- the push over the diary is the same push over its ledger
  have hthrough := CaptureFramer.push_through (π := Diary.ledger)
    (recording_ledger owner x.callback x.properties) x.input buffer.samples
    (b.diary.write (.arrived buffer.samples))
  rw [Diary.ledger_write _ rfl, halike.callback, halike.properties] at hthrough
  rcases @Alone.capture κ _ b.host x b.handle (Diary.keeping owner) halone hside buffer
      (b.diary.write (.arrived buffer.samples)) with
    ⟨answer, hask, hnot, hformat⟩ | ⟨host, y, input, diary, hpush, hask, hy, hxy, hinput⟩
  · refine Or.inl ⟨?_, fun heq => hformat (heq.trans halike.format.symm)⟩
    simp only [b', perform, hask]
    cases answer with
    | done _ => exact absurd rfl hnot
    | _ => rfl
  · rw [halike.callback, halike.properties] at hpush
    have hperform : b' = { b with host, diary } := by
      simp only [b', perform, hask]
    rw [hpush] at hthrough
    rw [hperform, hthrough]
    exact Or.inr ⟨⟨y, hy, halike.trans hxy, hxy.side.trans hside, hinput⟩, rfl⟩

/-- Once closed, a stream does not come back, and its callback is given nothing. -/
theorem Listening.perform_of_gone {P : CaptureFramer → Prop} (hclosed : b.handle.closed = true)
    (hnone : b.host.streams = []) (m : Move) :
    (b.perform m).Listening opened P ∧ (b.perform m).diary.ledger = b.diary.ledger := by
  obtain ⟨hclosed', hnone', hsame | ⟨e, hwrite, he⟩⟩ := Bench.perform_of_gone hclosed hnone m
  · exact ⟨.gone hclosed' hnone', by rw [hsame]⟩
  · refine ⟨.gone hclosed' hnone', ?_⟩
    rw [hwrite, Diary.ledger_write _ (handed?_of_isAnswer he)]

/-- To close the stream takes it away, and nothing has to be said of its framer. -/
theorem Listens.close (h : b.Listens opened f) {P : CaptureFramer → Prop} :
    (b.perform .close).Listening opened P := by
  obtain ⟨x, halone, _⟩ := h
  obtain ⟨hclosed, hstreams⟩ := halone.closeStream
  exact .gone hclosed hstreams

/-- **What survives** being turned off, and every buffer, and being turned on by the moves that do
so. A close makes the bench `gone`, and a buffer is either refused, which changes nothing, or one
push of the framer. -/
theorem Listening.perform {P : CaptureFramer → Prop} {m : Move}
    (hstart : m.isStart = true → ∀ f, P f → P { f with stopped := false })
    (hstop : ∀ f, P f → P { f with stopped := true })
    (hpush : ∀ f data l, P f →
      P (f.push (recording (owner.capture opened.callback opened.properties)) data l).1)
    (h : b.Listening opened P) : (b.perform m).Listening opened P := by
  cases h with
  | gone closed streams => exact (perform_of_gone closed streams m).1
  | live f listens framer =>
    cases m with
    | start refusal => exact .live _ (listens.start refusal) (hstart rfl f framer)
    | stop refusal => exact .live _ (listens.stop refusal) (hstop f framer)
    | close => exact listens.close
    -- a buffer that cannot be exchanged changes nothing
    | capture buffer =>
      rcases listens.capture buffer with ⟨hsame, _⟩ | ⟨hnext, _⟩
      · rw [hsame]
        exact .live f listens framer
      · exact .live _ hnext (hpush f _ _ framer)
    | render length =>
      rw [listens.render]
      exact .live f listens framer

/-- What survives a start, a stop and every buffer is so after every run, by induction on the moves.
With `hstart` asked for only at the moves that are starts, a property that no start keeps can still
be followed through a run without one. -/
theorem Listening.after {P : CaptureFramer → Prop} {ms : List Move}
    (hstart : ∀ m ∈ ms, m.isStart = true → ∀ f, P f → P { f with stopped := false })
    (hstop : ∀ f, P f → P { f with stopped := true })
    (hpush : ∀ f data l, P f →
      P (f.push (recording (owner.capture opened.callback opened.properties)) data l).1)
    (h : b.Listening opened P) : (b.after ms).Listening opened P := by
  induction ms generalizing b with
  | nil => exact h
  | cons m ms ih =>
    exact ih (fun m' hm' => hstart m' (List.mem_cons_of_mem _ hm'))
      (h.perform (hstart m List.mem_cons_self) hstop hpush)

/-- **There is room** for another sample in the framer, whatever happens. -/
theorem Listening.room (h : b.Listening opened fun f => f.filled.size < f.period) (ms : List Move) :
    (b.after ms).Listening opened fun f => f.filled.size < f.period :=
  h.after (fun _ _ _ _ hroom => hroom) (fun _ hroom => hroom)
    fun _ data l hroom => CaptureFramer.room_push hroom data l

/-- **A stream that is off** and holds nothing stays so, until it is started; what is captured
meanwhile is left out. -/
theorem Listening.idle (h : b.Listening opened fun f => f.stopped = true ∧ f.filled = #[])
    {ms : List Move} (hms : ∀ m ∈ ms, m.isStart = false) :
    (b.after ms).Listening opened fun f => f.stopped = true ∧ f.filled = #[] := by
  refine h.after (fun m hm hstart => ?_) (fun f hidle => ⟨rfl, hidle.2⟩) fun f data l hidle => ?_
  · rw [hms m hm] at hstart
    cases hstart
  · rwa [CaptureFramer.push_of_stopped hidle.1]

/-- Its callback is given nothing: a framer that is off leaves out what is captured
(`push_of_stopped`). The entries that starts, stops and closes write are no handings, so those leave
the ledger alone too (`Diary.ledger_write`). -/
theorem Listening.ledger_perform
    (h : b.Listening opened fun f => f.stopped = true ∧ f.filled = #[]) (m : Move) :
    (b.perform m).diary.ledger = b.diary.ledger := by
  cases h with
  | gone closed streams =>
    have hgone : (b.perform m).Listening opened (fun _ => True) ∧ _ :=
      perform_of_gone closed streams m
    exact hgone.2
  | live f listens framer =>
    cases m with
    | start refusal => exact b.diary.ledger_write rfl
    | stop refusal => exact b.diary.ledger_write rfl
    | close => exact b.diary.ledger_write rfl
    | capture buffer =>
      rcases listens.capture buffer with ⟨hsame, _⟩ | ⟨_, hledger⟩
      · rw [hsame]
      · rw [hledger, CaptureFramer.push_of_stopped framer.1]
    | render length => rw [listens.render]

/-- So it is given nothing in any run without a start. Being off and empty survives such a run
(`Listening.idle`), and each of its moves leaves the ledger as it is
(`Listening.ledger_perform`). -/
theorem Listening.ledger_after
    (h : b.Listening opened fun f => f.stopped = true ∧ f.filled = #[]) {ms : List Move}
    (hms : ∀ m ∈ ms, m.isStart = false) : (b.after ms).diary.ledger = b.diary.ledger := by
  induction ms generalizing b with
  | nil => rfl
  | cons m ms ih =>
    have hm : ∀ m' ∈ [m], m'.isStart = false := by
      simpa using hms m List.mem_cons_self
    have hrest := ih (h.idle hm) fun m' hm' => hms m' (List.mem_cons_of_mem _ hm')
    exact hrest.trans (h.ledger_perform m)

/-! ## Many buffers -/

/-- **Buffers of any size**, in the format of the stream, are one push of all their samples. By
induction on the buffers: two pushes one after the other are one push of both
(`CaptureFramer.push_append`), so how the samples were cut into buffers is not seen. -/
theorem Listens.captures (h : b.Listens opened f) (hpos : 0 < f.period) {buffers : List Buffer}
    (hformat : ∀ buffer ∈ buffers, buffer.format = opened.format) :
    let call := recording (owner.capture opened.callback opened.properties)
    let b' := b.after (buffers.map .capture)
    b'.Listens opened (f.push call (buffers.flatMap Buffer.samples) b.diary.ledger).1
      ∧ b'.diary.ledger = (f.push call (buffers.flatMap Buffer.samples) b.diary.ledger).2 := by
  intro call b'
  induction buffers generalizing b f with
  | nil => simpa only [List.flatMap_nil, CaptureFramer.push_nil] using ⟨h, rfl⟩
  | cons buffer rest ih =>
    rcases h.capture buffer with ⟨_, hnot⟩ | ⟨hnext, hledger⟩
    · exact absurd (hnot (hformat buffer List.mem_cons_self)) (Nat.ne_of_gt hpos)
    · have hrest := ih hnext (by rwa [CaptureFramer.period_push])
        fun buffer' h' => hformat buffer' (List.mem_cons_of_mem _ h')
      rw [hledger] at hrest
      rw [List.flatMap_cons, CaptureFramer.push_append]
      exact hrest

/-- **What has become of samples** between two moments: of the whole periods in them, and of the
rest. -/
structure Regrouped (call : List Int16 → σ → Verdict × σ) (blocks : List (List Int16))
    (rest : List Int16) (b b' : Bench κ σ) (x : DeviceStream κ) : Prop where
  /-- The callback has been given one period after the other, up to the call that answered stop. -/
  handed : handings b'.entries = handings b.entries
    ++ (blocks.zip (verdicts call blocks b.diary.state)).take (stopCall call blocks b.diary.state)
  count : (handings b'.entries).length
    = (handings b.entries).length + min (stopCall call blocks b.diary.state) blocks.length
  state : b'.diary.state
    = stateAfter call (blocks.take (stopCall call blocks b.diary.state)) b.diary.state
  /-- Where none did, the stream is on, and holds the rest. -/
  proceeds : .stop ∉ verdicts call blocks b.diary.state → x.stopped = false ∧ x.held = rest
  /-- Where one did, it is off and holds nothing, and the callback is given nothing more before the
  next start. -/
  stops : .stop ∈ verdicts call blocks b.diary.state → x.stopped = true ∧ x.held = []
    ∧ ∀ ms, (∀ m ∈ ms, Move.isStart m = false) → (b'.after ms).diary.ledger = b'.diary.ledger

/-- Only what had been given by the first moment counts. A start writes an entry but hands nothing
over, so `Regrouped` may be read from before the start as well as from behind it. -/
theorem Regrouped.of_ledger {call : List Int16 → σ → Verdict × σ} {blocks : List (List Int16)}
    {rest : List Int16} {b₀ b' : Bench κ σ} {x : DeviceStream κ}
    (hsame : b₀.diary.ledger = b.diary.ledger) (h : Regrouped call blocks rest b₀ b' x) :
    Regrouped call blocks rest b b' x := by
  have hstate : b₀.diary.state = b.diary.state := congrArg Prod.fst hsame
  have hhanded : handings b₀.entries = handings b.entries := congrArg Prod.snd hsame
  obtain ⟨hgiven, hcount, howner, hproceeds, hstops⟩ := h
  rw [hstate] at hgiven hcount howner hproceeds hstops
  rw [hhanded] at hgiven hcount
  exact ⟨hgiven, hcount, howner, hproceeds, hstops⟩

/-- **A stream that is on** regroups buffers of any size, and has a place for every sample. All the
buffers are one push (`Listens.captures`), and a push of a framer with room is
`CaptureFramer.regrouped` over what waited and what came. -/
theorem Listens.regroups (h : b.Listens opened f) (hrunning : f.stopped = false)
    (hroom : f.filled.size < f.period) {buffers : List Buffer}
    (hformat : ∀ buffer ∈ buffers, buffer.format = opened.format) :
    let call := owner.capture opened.callback opened.properties
    let samples := f.filled.toList ++ buffers.flatMap Buffer.samples
    let b' := b.after (buffers.map .capture)
    ∃ x, b'.host.streams = [x]
      ∧ Regrouped call (wholePeriods f.period samples) (remainder f.period samples) b b' x
      ∧ ∀ p : SlotFramer, p.Shows f →
          ∃ p', p.pushAll? call (buffers.map Buffer.samples) b.diary.state
            = some (p', b'.diary.state) ∧ p'.Shows x.input := by
  intro call samples b'
  obtain ⟨hlistens, hledger⟩ := h.captures (Nat.zero_lt_of_lt hroom) hformat
  have hpush : ∀ {τ : Type} (call : List Int16 → τ → Verdict × τ) (t : τ),
      f.push call (buffers.flatMap Buffer.samples) t = f.regrouped call samples t := by
    intro τ call t
    rw [CaptureFramer.push_of_running hrunning, CaptureFramer.take_eq_regrouped hroom]
  rw [hpush, regrouped_recording] at hlistens hledger
  obtain ⟨x, halone, halike, hside, hinput⟩ := id hlistens
  let blocks := wholePeriods f.period samples
  have hframer : x.input = (f.regrouped call samples b.diary.state).1 := hinput
  have hstate : b'.diary.state = (f.regrouped call samples b.diary.state).2 :=
    congrArg Prod.fst hledger
  have hhanded : handings b'.entries = handings b.entries
      ++ (blocks.zip (verdicts call blocks b.diary.state)).take
        (stopCall call blocks b.diary.state) :=
    congrArg Prod.snd hledger
  have hstopped := DeviceStream.stopped_of_input hside
  have hheld := DeviceStream.held_of_input hside
  -- the framer's two fields are read off the branch that `regrouped` takes
  refine ⟨x, halone.streams, ⟨hhanded, ?_, hstate, fun hnone => ?_, fun hstop => ?_⟩,
    fun p hp => ?_⟩
  · rw [hhanded]
    simp [blocks]
  · have hleft : x.input = { f with filled := (remainder f.period samples).toArray } :=
      hframer.trans (if_neg hnone)
    rw [hstopped, hheld, hleft]
    exact ⟨hrunning, rfl⟩
  · have hleft : x.input = { f with filled := #[], stopped := true } :=
      hframer.trans (if_pos hstop)
    rw [hstopped, hheld, hleft]
    have hidle : b'.Listening opened fun f => f.stopped = true ∧ f.filled = #[] :=
      .live _ ⟨x, halone, halike, hside, hleft⟩ ⟨rfl, rfl⟩
    exact ⟨rfl, rfl, fun ms hms => hidle.ledger_after hms⟩
  · rw [hstate, hframer, ← hpush, List.flatMap_def]
    exact SlotFramer.pushAll?_shows hp (buffers.map Buffer.samples) b.diary.state

/-! ## Every run -/

/-- **What comes of buffers of any size.** A stream that captures is opened, and anything happens to
it (`before`). Then it is started, whatever the device says, and captures these buffers.

Together with what the stream held before, which is nothing unless it had been started, they are so
many samples. The callback is given the whole periods in them, the first one first, up to the call
in which it answers stop. If it does not, the stream holds the rest. If it does, the stream holds
nothing, and its callback is given nothing more before the next start. And there is a place for
every sample: a framer that writes them into one period of slots, and has no answer where the next
slot is missing, does the same. -/
theorem buffers_regrouped {r : StreamSpec} {callback : κ} {h h' : DesktopHost κ} {s : StreamHandle}
    (hnone : h.streams = []) (hopen : openStream .input r callback h = (.opened s, h'))
    (hperiod : 0 < r.framesPerCallback * r.channelCount) (state : σ) (before : List Move)
    {x : DeviceStream κ} (hx : ((ofOpened s h' state).after before).host.streams = [x])
    (refusal : Option String) {buffers : List Buffer}
    (hformat : ∀ buffer ∈ buffers, buffer.format = x.format) :
    let period := r.framesPerCallback * r.channelCount
    let b := (ofOpened s h' state).after before
    let b' := b.after (.start refusal :: buffers.map .capture)
    let call := owner.capture callback s.properties
    let samples := x.held ++ buffers.flatMap Buffer.samples
    ((∀ m ∈ before, m.isStart = false) → x.held = [])
      ∧ ∃ x', b'.host.streams = [x']
        ∧ Regrouped call (wholePeriods period samples) (remainder period samples) b b' x'
        ∧ (∃ p : SlotFramer, p.Shows { x.input with stopped := false })
        ∧ ∀ p : SlotFramer, p.Shows { x.input with stopped := false } →
            ∃ p', p.pushAll? call (buffers.map Buffer.samples) b.diary.state
              = some (p', b'.diary.state) ∧ p'.Shows x'.input := by
  intro period b b' call samples
  obtain ⟨opened, hopened, hcallback, hproperties, hopenedPeriod⟩ :=
    listens_of_openStream hnone hopen state
  constructor
  · -- up to the first start the framer is off and empty
    intro hbefore
    have hfresh : (ofOpened s h' state).Listening opened
        fun f => f.stopped = true ∧ f.filled = #[] := .live _ hopened ⟨rfl, rfl⟩
    cases hfresh.idle hbefore with
    | gone closed streams => cases hx.symm.trans streams
    | live f listens framer =>
      obtain ⟨y, halone, _, hside, rfl⟩ := listens
      cases hx.symm.trans halone.streams
      rw [DeviceStream.held_of_input hside, framer.2]
  · -- and at any time there is room for a sample in it, so that a start leaves room as well
    have hfresh : (ofOpened s h' state).Listening opened
        fun f => f.filled.size < f.period := .live _ hopened hperiod
    cases hfresh.room before with
    | gone closed streams => cases hx.symm.trans streams
    | live f listens hroom =>
      have hstart := listens.start refusal
      obtain ⟨y, halone, halike, hside, rfl⟩ := listens
      cases hx.symm.trans halone.streams
      have hsame : (b.perform (.start refusal)).diary.ledger = b.diary.ledger :=
        b.diary.ledger_write rfl
      obtain ⟨x', hstreams, hregrouped, hplaces⟩ := hstart.regroups rfl hroom
        fun buffer hbuffer => (hformat buffer hbuffer).trans halike.format
      simp only [hcallback, hproperties] at hregrouped hplaces
      simp only [halike.input, hopenedPeriod, ← DeviceStream.held_of_input hside] at hregrouped
      exact ⟨x', hstreams, hregrouped.of_ledger hsame, SlotFramer.exists_shows hroom, hplaces⟩

/-- Two buffers of nine samples in all, of which eight make a period. The period is handed over
across the border between the two buffers, and the ninth sample is held. -/
theorem buffers_regrouped_two :
    let r := ({ sampleRate := 8000, periodMs := 1 } : Config).inputSpec
    let callback : Handler := ⟨.input, ⟨8000, 1, 1⟩, none, 1⟩
    let buffers : List Buffer := [.i16 [1, 2, 3, 4, 5], .i16 [6, 7, 8, 9]]
    ∃ s h x, openStream .input r callback { world := microphone } = (.opened s, h)
      ∧ 0 < r.framesPerCallback * r.channelCount
      ∧ let b := (ofOpened s h openLine).after []
        b.host.streams = [x] ∧ (∀ buffer ∈ buffers, buffer.format = x.format)
          ∧ let b' := b.after (.start none :: buffers.map .capture)
            handings b'.entries = [([1, 2, 3, 4, 5, 6, 7, 8], .proceed)]
              ∧ ∃ x', b'.host.streams = [x'] ∧ x'.held = [9] := by
  intro r callback buffers
  have hopen : openStream .input r callback { world := microphone } = (.opened _, _) := rfl
  have hformat : ∀ buffer ∈ buffers, buffer.format = .i16 := by decide
  obtain ⟨_, x', hstreams, hx', _⟩ :=
    buffers_regrouped rfl hopen (by decide) openLine [] rfl none hformat
  refine ⟨_, _, _, hopen, by decide, rfl, hformat, ?_, x', hstreams, ?_⟩
  · exact hx'.handed.trans (by decide +kernel)
  · exact (hx'.proceeds (by decide +kernel)).2.trans (by decide +kernel)

end Bench

end Desktop

end Passthrough
