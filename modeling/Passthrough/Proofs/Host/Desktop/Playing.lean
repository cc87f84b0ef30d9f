import Mathlib.Data.List.SplitLengths
import Passthrough.Proofs.Host.Desktop.Gate
import Passthrough.Proofs.Host.Desktop.Places
/-!
# A stream that plays

What the callback of a stream that plays has given can be read in its diary (`Diary.account`), and
so can the buffers that the device has got. A stream that is on makes the same of buffers of any
length as of one buffer of as many samples: they are filled from what it held before and from the
periods that the callback gives, as far as it takes them to cover the buffers, up to the call that
answers stop, and then with silence.

* **`Playing.after`** — what survives the switch and every buffer is so of the framer as long as the
  stream is there.
* **`Bench.periods_served`** — what comes of buffers of any length, in every run.
-/

namespace Passthrough

open DesktopHost

namespace Desktop

variable {κ σ : Type}

/-! ## Accounts -/

/-- The period that the callback gave, and its verdict. -/
def Entry.obtained? : Entry → Option (List Int16 × Verdict)
  | .obtained frames verdict => some (frames, verdict)
  | _ => none

def Entry.played? : Entry → Option Buffer
  | .played buffer => some buffer
  | _ => none

/-- What a callback has given, and what it has answered, the first period first. -/
def obtainings (es : List Entry) : List (List Int16 × Verdict) := es.filterMap Entry.obtained?

theorem obtainings_concat (es : List Entry) (frames : List Int16) (verdict : Verdict) :
    obtainings (es ++ [.obtained frames verdict]) = obtainings es ++ [(frames, verdict)] := by
  simp [obtainings, Entry.obtained?]

/-- The buffers that the device has got. -/
def playedBuffers (es : List Entry) : List Buffer := es.filterMap Entry.played?

/-- What a diary says of the callback. -/
def Diary.account (d : Diary σ) : σ × List (List Int16 × Verdict) := (d.state, obtainings d.entries)

theorem Diary.account_write (d : Diary σ) {e : Entry} (he : e.obtained? = none) :
    (d.write e).account = d.account := by
  simp [account, write, obtainings, he]

/-- The callback that writes down what it gives, and nothing else. -/
def noting (call : Nat → σ → Verdict × List Int16 × σ) (n : Nat)
    (l : σ × List (List Int16 × Verdict)) :
    Verdict × List Int16 × σ × List (List Int16 × Verdict) :=
  ((call n l.1).1, (call n l.1).2.1, (call n l.1).2.2, l.2 ++ [((call n l.1).2.1, (call n l.1).1)])

/-- The account of a diary is kept by a callback that writes down what it gives and nothing else, so
that what a framer serves can be told with accounts in place of diaries (`pull_through`). -/
theorem noting_account (owner : StreamOwner κ σ) (callback : κ) (properties : StreamInfo) (n : Nat)
    (d : Diary σ) :
    noting (owner.render callback properties) n d.account
      = (((Diary.keeping owner).render callback properties n d).1,
          ((Diary.keeping owner).render callback properties n d).2.1,
          ((Diary.keeping owner).render callback properties n d).2.2.account) := by
  rw [Diary.account, Diary.account, Diary.entries_render, obtainings_concat]
  rfl

/-- To ask a callback plays nothing: the buffer is entered once it is full. -/
theorem playedBuffers_keeping (owner : StreamOwner κ σ) (callback : κ) (properties : StreamInfo)
    (n : Nat) (d : Diary σ) :
    playedBuffers ((Diary.keeping owner).render callback properties n d).2.2.entries
      = playedBuffers d.entries := by
  rw [Diary.entries_render]
  simp [playedBuffers, Entry.played?]

section Noting

variable {call : Nat → σ → Verdict × List Int16 × σ} {period n : Nat}
  {l : σ × List (List Int16 × Verdict)}

theorem givings_noting : givings (noting call) period n l = givings call period n l.1 := by
  induction n generalizing l with
  | zero => rfl
  | succ n ih => exact congrArg _ (ih (l := (noting call period l).2.2))

theorem askings_noting : askings (noting call) period n l = askings call period n l.1 := by
  rw [askings, givings_noting, askings]

/-- Behind what was there, an account has the periods that were given since, with the answers.
`noting` is the callback with a note of what it gave, so this is what the pulls of a framer add to
`Diary.account`. -/
theorem ownerAfter_noting :
    ownerAfter (noting call) period n l
      = (ownerAfter call period n l.1, l.2 ++ givings call period n l.1) := by
  induction n generalizing l with
  | zero => simp [ownerAfter, givings]
  | succ n ih =>
    rw [ownerAfter, ih]
    simp [noting, ownerAfter, givings]

/-- What a framer that is on serves, and what its callback gives for it: as many periods as it takes
to cover the buffer, up to the call that answers stop. -/
theorem pull_noting {f : PlaybackFramer} (hrunning : f.stopped = false) (hpos : 0 < f.period)
    (hfills : ∀ s, (call f.period s).2.1.length = f.period) :
    let source := f.source call (f.wanted n) l.1
    let drained := f.drained call (f.wanted n) n l.1
    f.pull (noting call) n l
      = (served 0 source n, drained.1, drained.2,
          l.2 ++ givings call f.period (askings call f.period (f.wanted n) l.1) l.1) := by
  rw [PlaybackFramer.pull_eq_served hrunning hpos fun l => hfills l.1]
  simp only [PlaybackFramer.drained, PlaybackFramer.source, askings_noting, givings_noting,
    ownerAfter_noting]

/-- The callback that edits its period in place gives the same, if it does not go by what was left
in it. -/
theorem pull_inPlace (f : PlaybackFramer) (n : Nat) (e : PeriodFramer.Editing σ) :
    let edited := f.pull (PeriodFramer.inPlace fun n _ => call n) n e
    f.pull (noting call) n (e.state, e.given)
      = (edited.1, edited.2.1, edited.2.2.state, edited.2.2.given) :=
  PlaybackFramer.pull_through (π := fun e : PeriodFramer.Editing σ => (e.state, e.given))
    (fun _ _ => rfl) f n e

end Noting

/-- **A framer with places** has an answer for buffers of these lengths: it fills them with these
samples, and asks for these periods, each of them in time. -/
def Placed (call : Nat → σ → Verdict × List Int16 × σ) (lengths : List Nat)
    (waiting samples : List Int16) (gs : List (List Int16 × Verdict)) (p : PeriodFramer) (s : σ)
    (f : PlaybackFramer) (s' : σ) : Prop :=
  ∃ acts p', p.serveAll? (fun n _ => call n) lengths s = some (acts, p', s') ∧ p'.Shows f
    ∧ written acts = samples ∧ askedFor acts = gs ∧ Timely waiting acts

/-- **Every place is there**, and every period is asked for in time. `PeriodFramer.serveAll?_shows`
tracks a pull in place, `pull_inPlace` makes that a pull of what is noted, and `pull_noting` says
how that ends. -/
theorem placed_of_shows {call : Nat → σ → Verdict × List Int16 × σ} {f : PlaybackFramer}
    {p : PeriodFramer} (hp : p.Shows f) (hrunning : f.stopped = false) (hpos : 0 < f.period)
    (hfills : ∀ n s, (call n s).2.1.length = n) (lengths : List Nat) (s : σ) :
    let wanted := f.wanted lengths.sum
    let drained := f.drained call wanted lengths.sum s
    Placed call lengths f.pending (served 0 (f.source call wanted s) lengths.sum)
      (givings call f.period (askings call f.period wanted s) s) p s drained.1 drained.2 := by
  have hedit : ∀ n (frames : List Int16) s, (call n s).2.1.length = n := fun n _ s => hfills n s
  obtain ⟨acts, p', hserve, htracks⟩ := PeriodFramer.serveAll?_shows hedit hpos hp lengths s
  have hpulled : f.pull (noting call) lengths.sum (s, []) = _ :=
    pull_inPlace f lengths.sum ⟨p.slots.toList, s, []⟩
  rw [pull_noting hrunning hpos (hfills _)] at hpulled
  obtain ⟨hsamples, hframer, hstate, hgiven⟩ := by simpa only [Prod.mk.injEq] using hpulled
  refine ⟨acts, p', by rw [hserve, ← hstate], hframer ▸ htracks.shows,
    htracks.written.trans hsamples.symm, ?_, htracks.timely⟩
  -- `Tracks` tells of what was asked for, which the note has as what was given
  have hasked := htracks.given
  rw [← hgiven] at hasked
  simpa using hasked.symm

/-- Whether the device asks for a buffer. -/
def Move.isRender : Move → Bool
  | .render _ => true
  | _ => false

/-! ## Streams that play -/

namespace DeviceStream

variable {x y : DeviceStream κ}

theorem stopped_of_output (hside : x.side = .output) : x.stopped = x.output.stopped := by
  rw [stopped, hside]

theorem held_of_output (hside : x.side = .output) : x.held = x.output.pending := by
  rw [held, hside]

/-- A stream that plays is on if its framer is, and holds what that holds. This is `input_eq` for
the other direction, and the period is again kept by `Alike`. -/
theorem output_eq {stopped : Bool} (halike : Alike x y) (hside : x.side = .output)
    (hstopped : y.stopped = stopped) (hheld : y.held = x.held) :
    y.output = { x.output with stopped } := by
  have hperiod := halike.output
  rw [stopped_of_output (halike.side.trans hside)] at hstopped
  rw [held_of_output (halike.side.trans hside), held_of_output hside] at hheld
  rcases y with ⟨_, _, _, _, _, _, ⟨period, pending, stopped'⟩⟩
  cases hperiod
  cases hstopped
  cases hheld
  rfl

end DeviceStream

/-- **Playing** pulls a buffer out of the framer. The stream stays alone and alike, and only the
framer in it moves on. A period without samples is excluded, since a device then gives nothing
back. -/
theorem alone_render [owner : StreamOwner κ σ] {h : DesktopHost κ} {s : StreamHandle}
    {x : DeviceStream κ} (hx : h.Alone s x) (hside : x.side = .output) (hpos : 0 < x.output.period)
    (length : Nat) (line : σ) :
    ∃ h' y frames output line',
      x.output.pull (owner.render x.callback x.properties) length line = (frames, output, line')
        ∧ h.render length line = (.done (.ofSamples x.format frames), h', line')
        ∧ h'.Alone s y ∧ Alike x y ∧ y.output = output := by
  have hperiod : (x.output.pull (owner.render x.callback x.properties) length line).2.1.period
      = x.output.period :=
    (x.output.pull_keeps (P := fun _ => True) length trivial fun _ _ => trivial).1
  rcases hpull : x.output.pull (owner.render x.callback x.properties) length line
    with ⟨frames, output, line'⟩
  rw [hpull] at hperiod
  -- a device gets a buffer unless a period has no samples and it wants some
  have hplace : ¬(x.output.period = 0 ∧ 0 < length) := fun hnone => Nat.ne_of_gt hpos hnone.1
  unfold DesktopHost.render
  simp only [hx.newest?, if_pos hside, if_neg hplace, hpull]
  exact ⟨_, _, frames, output, line', rfl, rfl, hx.update rfl,
    ⟨rfl, rfl, rfl, rfl, rfl, rfl, hperiod⟩, rfl⟩

namespace Bench

variable {opened : DeviceStream κ} {b : Bench κ σ} {f : PlaybackFramer}

/-- **The stream that was opened is there**, and plays by this framer. -/
def Plays (opened : DeviceStream κ) (b : Bench κ σ) (f : PlaybackFramer) : Prop :=
  ∃ x, b.host.Alone b.handle x ∧ Alike opened x ∧ x.side = .output ∧ x.output = f

/-- **As long as it is there**, this is so of its framer, which has the period that it was opened
with. -/
inductive Playing (opened : DeviceStream κ) (P : PlaybackFramer → Prop) (b : Bench κ σ) : Prop
  | live (f : PlaybackFramer) (plays : b.Plays opened f) (framer : P f)
  | gone (closed : b.handle.closed = true) (streams : b.host.streams = [])

/-- A stream that has just been opened is off and holds nothing. This is what `openStream_cases`
says of a stream that plays, and where `Plays` begins. -/
theorem plays_of_openStream {r : StreamSpec} {callback : κ} {h h' : DesktopHost κ}
    {s : StreamHandle} (hnone : h.streams = [])
    (hopen : openStream .output r callback h = (.opened s, h')) (state : σ) :
    ∃ opened, (ofOpened s h' state).Plays opened
        { period := r.framesPerCallback * r.channelCount }
      ∧ opened.callback = callback ∧ opened.properties = s.properties
      ∧ opened.output.period = r.framesPerCallback * r.channelCount := by
  rcases openStream_cases .output r callback h with ⟨source, hrefused⟩ | ⟨s', x, h'', hopens, hx⟩
  · rw [hrefused] at hopen
    cases hopen
  · rw [hopens] at hopen
    cases hopen
    obtain ⟨hstreams, hx⟩ := hx
    rw [hnone] at hstreams
    refine ⟨x, ⟨x, ⟨hstreams, hx.number, hx.unclosed⟩, .refl x, hx.side, ?_⟩, hx.callback,
      hx.properties.symm, hx.output⟩
    rw [hx.unused.2, hx.output]

theorem Plays.period (h : b.Plays opened f) : f.period = opened.output.period := by
  obtain ⟨x, _, halike, _, rfl⟩ := h
  exact halike.output

variable [owner : StreamOwner κ σ]

/-- A start turns the framer on, whatever the device answers to it. What waits to be played stays in
front of what will be asked for. -/
theorem Plays.start (h : b.Plays opened f) (refusal : Option String) :
    (b.perform (.start refusal)).Plays opened { f with stopped := false } := by
  obtain ⟨x, halone, halike, hside, rfl⟩ := h
  obtain ⟨host, y, hstart, hy, hxy, hstopped, hheld⟩ := halone.start refusal
  refine ⟨y, ?_, halike.trans hxy, hxy.side.trans hside,
    DeviceStream.output_eq hxy hside hstopped hheld⟩
  unfold perform
  simpa only [hstart] using hy

/-- A stop turns it off, whatever the device answers. What waits in it stays. `Alone.stop` says both
of the stream, and `output_eq` of its framer. -/
theorem Plays.stop (h : b.Plays opened f) (refusal : Option String) :
    (b.perform (.stop refusal)).Plays opened { f with stopped := true } := by
  obtain ⟨x, halone, halike, hside, rfl⟩ := h
  obtain ⟨host, y, hstop, hy, hxy, hstopped, hheld⟩ := halone.stop refusal
  refine ⟨y, ?_, halike.trans hxy, hxy.side.trans hside,
    DeviceStream.output_eq hxy hside hstopped hheld⟩
  unfold perform
  simpa only [hstop] using hy

/-- A stream that plays has no use for what is captured, and no other stream is there. -/
theorem Plays.capture (h : b.Plays opened f) (buffer : Buffer) :
    b.perform (.capture buffer) = b := by
  obtain ⟨x, halone, _, hside, _⟩ := h
  unfold perform DesktopHost.capture
  simp [halone.newest?, hside]

/-- To close the stream takes it away, and nothing has to be said of its framer. -/
theorem Plays.close (h : b.Plays opened f) {P : PlaybackFramer → Prop} :
    (b.perform .close).Playing opened P := by
  obtain ⟨x, halone, _⟩ := h
  obtain ⟨hclosed, hstreams⟩ := halone.closeStream
  exact .gone hclosed hstreams

/-- **A buffer** is pulled out of the framer. The diary is the state that the host hands to the
callback here, so a pull over it is first brought down to the account
(`PlaybackFramer.pull_through`), and then the buffer is written behind what was played. -/
theorem Plays.render (h : b.Plays opened f) (hpos : 0 < f.period) (length : Nat) :
    let call := noting (owner.render opened.callback opened.properties)
    let b' := b.perform (.render length)
    let pulled := f.pull call length b.diary.account
    b'.Plays opened pulled.2.1 ∧ b'.diary.account = pulled.2.2
      ∧ playedBuffers b'.entries
        = playedBuffers b.entries ++ [.ofSamples opened.format pulled.1] := by
  obtain ⟨x, halone, halike, hside, rfl⟩ := h
  intro call b' pulled
  obtain ⟨host, y, frames, output, diary, hpull, hask, hy, hxy, houtput⟩ :=
    @alone_render κ _ (Diary.keeping owner) b.host b.handle x halone hside hpos length b.diary
  have hthrough := PlaybackFramer.pull_through (π := Diary.account)
    (noting_account owner x.callback x.properties) x.output length b.diary
  -- the callback plays nothing itself
  have hcall : ∀ d : Diary σ, playedBuffers d.entries = playedBuffers b.entries →
      playedBuffers
          ((Diary.keeping owner).render x.callback x.properties x.output.period d).2.2.entries
        = playedBuffers b.entries :=
    fun d hd => (playedBuffers_keeping owner x.callback x.properties _ d).trans hd
  have hkept := (x.output.pull_keeps length (s := b.diary)
    (P := fun d => playedBuffers d.entries = playedBuffers b.entries) rfl hcall).2
  rw [hpull] at hthrough hkept
  rw [halike.callback, halike.properties] at hthrough
  have hpulled : pulled = (frames, output, diary.account) := hthrough
  have hperform : b'
      = { b with host, diary := diary.write (.played (.ofSamples x.format frames)) } := by
    simp only [b', perform, hask]
  rw [hperform, hpulled, ← halike.format]
  refine ⟨⟨y, hy, halike.trans hxy, hxy.side.trans hside, houtput⟩, diary.account_write rfl, ?_⟩
  simpa [Bench.entries, Diary.write, playedBuffers, Entry.played?] using hkept

/-- **What survives** the switch, and every buffer that is asked for. Unlike `Listening.perform` it
needs the period not to be empty, since otherwise a buffer is not served at all. -/
theorem Playing.perform {P : PlaybackFramer → Prop} {m : Move} (hpos : 0 < opened.output.period)
    (hturn : ∀ f stopped, P f → P { f with stopped })
    (hpull : m.isRender = true → ∀ f n l, P f →
      P (f.pull (noting (owner.render opened.callback opened.properties)) n l).2.1)
    (h : b.Playing opened P) : (b.perform m).Playing opened P := by
  cases h with
  | gone closed streams =>
    obtain ⟨hclosed, hnone, _⟩ := perform_of_gone closed streams m
    exact .gone hclosed hnone
  | live f plays framer =>
    cases m with
    | start refusal => exact .live _ (plays.start refusal) (hturn f false framer)
    | stop refusal => exact .live _ (plays.stop refusal) (hturn f true framer)
    | close => exact plays.close
    | capture buffer =>
      rw [plays.capture]
      exact .live f plays framer
    | render length =>
      exact .live _ (plays.render (plays.period ▸ hpos) length).1
        (hpull rfl f length _ framer)

/-- What survives the switch and every buffer is so after every run, by induction on the moves. With
`hpull` asked for only at the moves that render, a property that no pull keeps can still be followed
through a run without one. -/
theorem Playing.after {P : PlaybackFramer → Prop} {ms : List Move}
    (hpos : 0 < opened.output.period) (hturn : ∀ f stopped, P f → P { f with stopped })
    (hpull : ∀ m ∈ ms, m.isRender = true → ∀ f n l, P f →
      P (f.pull (noting (owner.render opened.callback opened.properties)) n l).2.1)
    (h : b.Playing opened P) : (b.after ms).Playing opened P := by
  induction ms generalizing b with
  | nil => exact h
  | cons m ms ih =>
    exact ih (fun m' hm' => hpull m' (List.mem_cons_of_mem _ hm'))
      (h.perform hpos hturn (hpull m List.mem_cons_self))

/-- **No more than a period** waits, whatever happens. -/
theorem Playing.room (hpos : 0 < opened.output.period)
    (hfills : ∀ n state, (owner.render opened.callback opened.properties n state).2.1.length = n)
    (h : b.Playing opened fun f => f.pending.length ≤ f.period) (ms : List Move) :
    (b.after ms).Playing opened fun f => f.pending.length ≤ f.period :=
  h.after hpos (fun _ _ hroom => hroom) fun _ _ _ _ _ _ hroom =>
    PlaybackFramer.room_pull (fun l => hfills _ l.1) hroom _ _

/-- Nothing waits until the device asks for a buffer. -/
theorem Playing.idle (hpos : 0 < opened.output.period)
    (h : b.Playing opened fun f => f.pending = []) {ms : List Move}
    (hms : ∀ m ∈ ms, m.isRender = false) :
    (b.after ms).Playing opened fun f => f.pending = [] := by
  refine h.after hpos (fun _ _ hidle => hidle) fun m hm hrender => ?_
  rw [hms m hm] at hrender
  cases hrender

/-! ## Many buffers -/

/-- **Buffers of any length** are one pull of as many samples. By induction on the lengths:
`PlaybackFramer.pull_add` cuts the pull at the end of the first buffer, and `splitLengths` cuts the
samples there. -/
theorem Plays.renders (h : b.Plays opened f) (hpos : 0 < f.period) (lengths : List Nat) :
    let call := noting (owner.render opened.callback opened.properties)
    let b' := b.after (lengths.map .render)
    let pulled := f.pull call lengths.sum b.diary.account
    b'.Plays opened pulled.2.1 ∧ b'.diary.account = pulled.2.2
      ∧ playedBuffers b'.entries
        = playedBuffers b.entries
          ++ (lengths.splitLengths pulled.1).map (.ofSamples opened.format) := by
  intro call b' pulled
  induction lengths generalizing b f with
  | nil => exact ⟨h, rfl, by simp [b', after]⟩
  | cons length rest ih =>
    obtain ⟨hnext, haccount, hplayed⟩ := h.render hpos length
    obtain ⟨hplays, haccount', hplayed'⟩ := ih hnext (hnext.period ▸ h.period ▸ hpos)
    rw [haccount] at hplays haccount' hplayed'
    have hpulled : pulled = _ := PlaybackFramer.pull_add call f length rest.sum b.diary.account
    rw [hpulled]
    refine ⟨hplays, haccount', ?_⟩
    simp only
    -- the first pull gives as many samples as the buffer is long, which is where the split cuts
    rw [List.splitLengths_cons, List.take_left' PlaybackFramer.length_pull,
      List.drop_left' PlaybackFramer.length_pull, List.map_cons]
    have hrest : b' = (b.perform (.render length)).after (rest.map .render) := rfl
    rw [hrest, hplayed', hplayed, List.append_assoc]
    rfl

/-- **What has become of buffers** of these lengths between two moments: which periods were asked
for, and what the buffers were filled with from there. -/
structure Served (call : Nat → σ → Verdict × List Int16 × σ) (period count : Nat)
    (source : List Int16) (format : DeviceFormat) (lengths : List Nat) (b b' : Bench κ σ)
    (x : DeviceStream κ) : Prop where
  /-- The callback has been asked so many times. -/
  obtained : obtainings b'.entries
    = obtainings b.entries ++ givings call period count b.diary.state
  state : b'.diary.state = ownerAfter call period count b.diary.state
  /-- The buffers are filled with the samples, one buffer after the other, and with silence behind
  them. -/
  played : playedBuffers b'.entries = playedBuffers b.entries
    ++ (lengths.splitLengths (served 0 source lengths.sum)).map (.ofSamples format)
  /-- The stream is off if the callback has answered stop. -/
  stopped : x.stopped = hasStopped (givings call period count b.diary.state)
  /-- It holds what is left of the last period. -/
  held : x.held = leftover 0 source period lengths.sum

/-- A start asks for nothing and plays nothing. So `Served` may be read from before the start as
well as from behind it. -/
theorem Served.of_started {call : Nat → σ → Verdict × List Int16 × σ} {period count : Nat}
    {source : List Int16} {format : DeviceFormat} {lengths : List Nat} {b' : Bench κ σ}
    {x : DeviceStream κ} {refusal : Option String}
    (h : Served call period count source format lengths (b.perform (.start refusal)) b' x) :
    Served call period count source format lengths b b' x := by
  have hgiven : obtainings (b.perform (.start refusal)).entries = obtainings b.entries := by
    simp [perform, entries, Diary.write, obtainings, Entry.obtained?]
  have hplayed : playedBuffers (b.perform (.start refusal)).entries = playedBuffers b.entries := by
    simp [perform, entries, Diary.write, playedBuffers, Entry.played?]
  exact ⟨hgiven ▸ h.obtained, h.state, hplayed ▸ h.played, h.stopped, h.held⟩

/-- **A stream that is on** fills buffers of any length. All the buffers are one pull
(`Plays.renders`), `pull_noting` says what a pull of a framer that is on takes and gives, and
`placed_of_shows` gives every sample its place. -/
theorem Plays.serves (h : b.Plays opened f) (hrunning : f.stopped = false) (hpos : 0 < f.period)
    (hfills : ∀ n state, (owner.render opened.callback opened.properties n state).2.1.length = n)
    (lengths : List Nat) :
    let call := owner.render opened.callback opened.properties
    let count := askings call f.period (f.wanted lengths.sum) b.diary.state
    let source := f.source call (f.wanted lengths.sum) b.diary.state
    let b' := b.after (lengths.map .render)
    ∃ x, b'.host.streams = [x] ∧ Served call f.period count source opened.format lengths b b' x
      ∧ ∀ p : PeriodFramer, p.Shows f →
          Placed call lengths f.pending (served 0 source lengths.sum)
            (givings call f.period count b.diary.state) p b.diary.state x.output
            b'.diary.state := by
  intro call count source b'
  have hpull := fun l => pull_noting (n := lengths.sum) (l := l) hrunning hpos fun s => hfills _ s
  obtain ⟨⟨x, halone, halike, hside, houtput⟩, haccount, hplayed⟩ := h.renders hpos lengths
  rw [hpull] at houtput haccount hplayed
  have hstopped := DeviceStream.stopped_of_output hside
  have hheld := DeviceStream.held_of_output hside
  refine ⟨x, halone.streams,
    ⟨congrArg Prod.snd haccount, congrArg Prod.fst haccount, hplayed, ?_, ?_⟩, fun p hp => ?_⟩
  · rw [hstopped, houtput]
    rfl
  · rw [hheld, houtput]
    rfl
  · -- the framer and the owner are where the pull has left them
    have hframer : x.output = (f.drained call (f.wanted lengths.sum) lengths.sum b.diary.state).1 :=
      houtput
    have howner : b'.diary.state
        = (f.drained call (f.wanted lengths.sum) lengths.sum b.diary.state).2 :=
      congrArg Prod.fst haccount
    rw [hframer, howner]
    exact placed_of_shows hp hrunning hpos hfills lengths b.diary.state

/-! ## Every run -/

/-- **What comes of buffers of any length.** A stream that plays is opened, and anything happens to
it (`before`). Then it is started, whatever the device says, and the device asks for buffers of
these lengths.

What the stream held before, which is nothing unless the device had asked for a buffer, is played
first. To cover the samples beyond that, so many periods are wanted. The callback is asked for them,
one after the other, up to the call in which it answers stop, if there is one. The buffers are
filled with what was held, then with these periods, the one that came with the stop included, and
then with silence. How the samples are cut into buffers makes no difference. And there is a place
for every sample: a framer that has its period edited in one period of slots, and has no answer
where the next slot is missing, does the same, and asks for a period only when all the samples
before it have been written. -/
theorem periods_served {r : StreamSpec} {callback : κ} {h h' : DesktopHost κ} {s : StreamHandle}
    (hnone : h.streams = []) (hopen : openStream .output r callback h = (.opened s, h'))
    (hperiod : 0 < r.framesPerCallback * r.channelCount)
    (hfills : ∀ n state, (owner.render callback s.properties n state).2.1.length = n) (state : σ)
    (before : List Move) {x : DeviceStream κ}
    (hx : ((ofOpened s h' state).after before).host.streams = [x]) (refusal : Option String)
    (lengths : List Nat) :
    let period := r.framesPerCallback * r.channelCount
    let b := (ofOpened s h' state).after before
    let b' := b.after (.start refusal :: lengths.map .render)
    let call := owner.render callback s.properties
    let wanted := (lengths.sum - x.held.length) ⌈/⌉ period
    let count := askings call period wanted b.diary.state
    let gs := givings call period count b.diary.state
    let source := x.held ++ givenSamples gs
    ((∀ m ∈ before, m.isRender = false) → x.held = [])
      ∧ (∀ k, FirstStop call period k b.diary.state → count = min k wanted)
      ∧ (NeverStops call period b.diary.state → count = wanted)
      ∧ ∃ x', b'.host.streams = [x'] ∧ Served call period count source x.format lengths b b' x'
        ∧ (∃ p : PeriodFramer, p.Shows { x.output with stopped := false })
        ∧ ∀ p : PeriodFramer, p.Shows { x.output with stopped := false } →
            Placed call lengths x.held (served 0 source lengths.sum) gs p b.diary.state x'.output
              b'.diary.state := by
  intro period b b' call wanted count gs source
  obtain ⟨opened, hopened, hcallback, hproperties, hopenedPeriod⟩ :=
    plays_of_openStream hnone hopen state
  have hpos : 0 < opened.output.period := hopenedPeriod ▸ hperiod
  have hfills' : ∀ n state,
      (owner.render opened.callback opened.properties n state).2.1.length = n := by
    rwa [hcallback, hproperties]
  refine ⟨?_, fun k hstop => askings_of_firstStop hstop, askings_of_neverStops, ?_⟩
  · -- up to the first buffer the framer is empty
    intro hbefore
    have hfresh : (ofOpened s h' state).Playing opened fun f => f.pending = [] :=
      .live _ hopened rfl
    cases hfresh.idle hpos hbefore with
    | gone closed streams => cases hx.symm.trans streams
    | live f plays framer =>
      obtain ⟨y, halone, _, hside, rfl⟩ := plays
      cases hx.symm.trans halone.streams
      rw [DeviceStream.held_of_output hside, framer]
  · -- and at any time it holds no more than a period
    have hfresh : (ofOpened s h' state).Playing opened fun f => f.pending.length ≤ f.period :=
      .live _ hopened (Nat.zero_le _)
    cases hfresh.room hpos hfills' before with
    | gone closed streams => cases hx.symm.trans streams
    | live f plays hroom =>
      have hstart := plays.start refusal
      obtain ⟨y, halone, halike, hside, rfl⟩ := plays
      cases hx.symm.trans halone.streams
      have hlast : x.output.period = period := halike.output.trans hopenedPeriod
      have hheld := DeviceStream.held_of_output hside
      obtain ⟨x', hstreams, hserved, hplaces⟩ :=
        hstart.serves rfl (hlast ▸ hperiod) hfills' lengths
      simp only [hcallback, hproperties, PlaybackFramer.source, hlast, ← hheld, ← halike.format]
        at hserved
      refine ⟨x', hstreams, hserved.of_started, PeriodFramer.exists_shows hroom, fun p hp => ?_⟩
      have hplaced := hplaces p hp
      simp only [hcallback, hproperties, PlaybackFramer.source, hlast, ← hheld] at hplaced
      exact hplaced

/-- One loudspeaker, mono at 8000 Hz. -/
def loudspeaker : World where
  devices := ⟨[], [{ isDefault := true, ranges := [⟨1, 8000, 8000, .i16, none⟩] }]⟩

/-- A line whose streams are open, over a channel that holds a period. -/
def heardLine : Line :=
  { states := .both .opened
    channel := some { samples := [1, 2, 3, 4, 5, 6, 7, 8], sequence := 1 } }

/-- Two buffers of fourteen samples in all, which it takes two periods to fill. The first sixteen
samples that the callback gives fill both, and two are left over for the next buffer. -/
theorem periods_served_two :
    let r := ({ sampleRate := 8000, periodMs := 1 } : Config).outputSpec 8000
    let callback : Handler := ⟨.output, ⟨8000, 1, 1⟩, none, 1⟩
    ∃ s h x, openStream .output r callback { world := loudspeaker } = (.opened s, h)
      ∧ 0 < r.framesPerCallback * r.channelCount
      ∧ (∀ n (l : Line), (StreamOwner.render callback s.properties n l).2.1.length = n)
      ∧ let b := (ofOpened s h heardLine).after []
        b.host.streams = [x]
          ∧ let b' := b.after (.start none :: [5, 9].map .render)
            (obtainings b'.entries).length = 2
              ∧ playedBuffers b'.entries
                = [.i16 [1, 2, 3, 4, 5], .i16 [6, 7, 8, 1, 2, 3, 4, 5, 6]]
              ∧ ∃ x', b'.host.streams = [x'] ∧ x'.held = [7, 8] := by
  intro r callback
  have hopen : openStream .output r callback { world := loudspeaker } = (.opened _, _) := rfl
  have hfills : ∀ p n (l : Line), (StreamOwner.render callback p n l).2.1.length = n :=
    Handler.length_render callback
  obtain ⟨_, _, _, x', hstreams, hserved, _⟩ :=
    periods_served rfl hopen (by decide) (hfills _) heardLine [] rfl none [5, 9]
  refine ⟨_, _, _, hopen, by decide, hfills _, rfl, ?_, ?_, x', hstreams, ?_⟩
  · exact (congrArg List.length hserved.obtained).trans (by decide +kernel)
  · exact hserved.played.trans (by decide +kernel)
  · exact hserved.held.trans (by decide +kernel)

end Bench

end Desktop

end Passthrough
