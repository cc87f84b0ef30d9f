import Passthrough.Config.Basic
import Passthrough.Proofs.Host.Desktop.Reading
import Passthrough.Proofs.Line.Handler
/-!
# Who gets to call

A device calls back whether or not its stream has been started, so that a flag in the framer is all
that keeps it from the callback. Starts, stops and closes write that flag, and so do the framers
when the callback answers stop. The flag is set before the device has agreed to a start, and is not
taken back when it refuses.

* **`Bench.after_inOrder`** — whatever happens to a stream, its diary stays right about it.
* **`Bench.gated`** — the callback is called only while a start is in force.
-/

namespace Passthrough

open DesktopHost

namespace Desktop

variable {κ σ : Type}

theorem period_of_alike {x y : DeviceStream κ} (h : DesktopHost.Alike x y) :
    y.period = x.period := by
  unfold DeviceStream.period
  rw [h.side, h.input, h.output]

/-- A diary is right about a stream if it is right about the framer of its side: here, the capture
framer. -/
theorem matches_iff_of_input {x y : DeviceStream κ} {es : List Entry}
    (h : DesktopHost.Alike x y) (hside : x.side = .input) :
    Matches x.period x.format es y.stopped y.held
      ↔ Matches x.input.period x.format es y.input.stopped y.input.filled.toList := by
  rw [DeviceStream.period, DeviceStream.stopped, DeviceStream.held, h.side, hside]

theorem matches_iff_of_output {x y : DeviceStream κ} {es : List Entry}
    (h : DesktopHost.Alike x y) (hside : x.side = .output) :
    Matches x.period x.format es y.stopped y.held
      ↔ Matches x.output.period x.format es y.output.stopped y.output.pending := by
  rw [DeviceStream.period, DeviceStream.stopped, DeviceStream.held, h.side, hside]

namespace Bench

/-- **A bench in order**: as long as the stream is there, it is the one that was opened, and the
diary is right about it. -/
inductive InOrder (opened : DeviceStream κ) (b : Bench κ σ) : Prop
  | live (x : DeviceStream κ) (alone : b.host.Alone b.handle x) (alike : Alike opened x)
    (matched : Matches opened.period opened.format b.entries x.stopped x.held)
  | gone (closed : b.handle.closed = true) (streams : b.host.streams = [])
    (sound : Sound opened.period opened.format b.entries)

variable {b : Bench κ σ} {opened : DeviceStream κ}

theorem InOrder.sound (h : b.InOrder opened) : Sound opened.period opened.format b.entries := by
  cases h with
  | live x alone alike matched => exact matched.sound
  | gone closed streams sound => exact sound

/-- **A bench of one stream** that has just been opened for a request. It is off and holds nothing,
so that an empty diary is right about it (`Matches.nil`). -/
theorem inOrder_of_openStream {side : Direction} {r : StreamSpec} {callback : κ}
    {h h' : DesktopHost κ} {s : StreamHandle} (hnone : h.streams = [])
    (hopen : openStream side r callback h = (.opened s, h')) (state : σ) :
    ∃ x, (ofOpened s h' state).InOrder x ∧ x.side = side ∧ x.callback = callback
      ∧ x.properties = s.properties ∧ x.period = r.framesPerCallback * r.channelCount := by
  rcases openStream_cases side r callback h with ⟨source, hrefused⟩ | ⟨s', x, h'', hopens, hx⟩
  · rw [hrefused] at hopen
    cases hopen
  · rw [hopens] at hopen
    cases hopen
    obtain ⟨hstreams, hx⟩ := hx
    rw [hnone] at hstreams
    have hperiod : x.period = r.framesPerCallback * r.channelCount := by
      unfold DeviceStream.period
      split
      · exact hx.input
      · exact hx.output
    -- whichever direction it is for, both of its framers are new
    have hunused : x.stopped = true ∧ x.held = [] := by
      unfold DeviceStream.stopped DeviceStream.held
      rw [hx.unused.1, hx.unused.2]
      split <;> exact ⟨rfl, rfl⟩
    refine ⟨x, .live x ⟨hstreams, hx.number, hx.unclosed⟩ (.refl x) ?_, hx.side, hx.callback,
      hx.properties.symm, hperiod⟩
    rw [hunused.1, hunused.2]
    exact Matches.nil x.period x.format

variable [owner : StreamOwner κ σ]

/-! ## Closed streams -/

theorem newest?_of_no_streams {host : DesktopHost κ} (h : host.streams = []) (d : Direction) :
    host.newest? d = none := by
  simp [newest?, live, h]

/-- **Once its stream is closed**, a bench stays as it is, except for what its owner is answered.
The owner is told that the handle is closed, and the device finds no stream for its buffers. -/
theorem perform_of_gone (hclosed : b.handle.closed = true) (hnone : b.host.streams = [])
    (m : Move) :
    (b.perform m).handle.closed = true ∧ (b.perform m).host.streams = []
      ∧ ((b.perform m).diary = b.diary
        ∨ ∃ e, (b.perform m).diary = b.diary.write e ∧ e.isAnswer = true) := by
  -- the owner is refused by the handle, and the device by the empty table
  cases m with
  | start refusal =>
    unfold perform startStream withStream
    simp only [hclosed, if_true]
    exact ⟨trivial, by simp [scriptPlay, hnone], Or.inr ⟨_, rfl, rfl⟩⟩
  | stop refusal =>
    unfold perform stopStream withStream
    simp only [hclosed, if_true]
    exact ⟨trivial, by simp [scriptPause, hnone], Or.inr ⟨_, rfl, rfl⟩⟩
  | close =>
    unfold perform closeStream withStream
    simp only [hclosed, if_true]
    exact ⟨trivial, hnone, Or.inr ⟨_, rfl, rfl⟩⟩
  | capture buffer =>
    unfold perform DesktopHost.capture
    simp only [newest?_of_no_streams hnone]
    exact ⟨hclosed, hnone, Or.inl trivial⟩
  | render length =>
    unfold perform DesktopHost.render
    simp only [newest?_of_no_streams hnone]
    exact ⟨hclosed, hnone, Or.inl trivial⟩

/-- What an owner is answered fits any diary: it says nothing of a callback. -/
theorem fits_of_isAnswer {period : Nat} {format : DeviceFormat} {es : List Entry} {e : Entry}
    (he : e.isAnswer = true) : (read period es).Fits period format e := by
  cases e with
  | started answer => trivial
  | stopped answer => trivial
  | closed answer => trivial
  | _ => cases he

/-- Where the stream is gone and its handle closed, every move is answered with that, and no
callback is called. An answer to the owner fits any diary (`fits_of_isAnswer`), and other moves
write none. -/
theorem inOrder_of_gone (hclosed : b.handle.closed = true) (hnone : b.host.streams = [])
    (hsound : Sound opened.period opened.format b.entries) (m : Move) :
    (b.perform m).InOrder opened := by
  obtain ⟨hclosed', hnone', hsame | ⟨e, hwrite, he⟩⟩ := perform_of_gone hclosed hnone m
  · exact .gone hclosed' hnone' (by rwa [entries, hsame])
  · refine .gone hclosed' hnone' ?_
    rw [entries, hwrite]
    exact hsound.concat (fits_of_isAnswer he)

/-! ## What the owner does -/

/-- A start turns the framer on and is entered with its answer (`Matches.started`), which may be a
refusal. The device decides only what is answered; the framer is on in either case. -/
theorem perform_start (h : b.InOrder opened) (refusal : Option String) :
    (b.perform (.start refusal)).InOrder opened := by
  cases h with
  | live x alone alike matched =>
    obtain ⟨host, y, hstart, halone, halike, hstopped, hheld⟩ := alone.start refusal
    have hmatch := matched.started (ofDevice_ne_closed refusal)
    rw [← hstopped, ← hheld] at hmatch
    unfold perform
    simp only [hstart]
    exact .live y halone (alike.trans halike) hmatch
  | gone closed streams sound => exact inOrder_of_gone closed streams sound _

/-- A stop turns the framer off and is entered with its answer (`Matches.halted`). Here too the
framer does not depend on what the device answers. -/
theorem perform_stop (h : b.InOrder opened) (refusal : Option String) :
    (b.perform (.stop refusal)).InOrder opened := by
  cases h with
  | live x alone alike matched =>
    obtain ⟨host, y, hstop, halone, halike, hstopped, hheld⟩ := alone.stop refusal
    have hmatch := matched.halted (ofDevice refusal)
    rw [← hstopped, ← hheld] at hmatch
    unfold perform
    simp only [hstop]
    exact .live y halone (alike.trans halike) hmatch
  | gone closed streams sound => exact inOrder_of_gone closed streams sound _

theorem perform_close (h : b.InOrder opened) : (b.perform .close).InOrder opened := by
  cases h with
  | live x alone alike matched =>
    obtain ⟨hclosed, hstreams⟩ := alone.closeStream
    exact .gone hclosed hstreams (matched.sound.concat trivial)
  | gone closed streams sound => exact inOrder_of_gone closed streams sound _

/-! ## What the device does -/

/-- A buffer is captured and the diary stays right about the stream: entries are written for its
arrival and for each period that is handed over (`CaptureFramer.push_matches`). Nothing is captured
by a stream that plays. -/
theorem capture_matches {host host' : DesktopHost κ} {s : StreamHandle} {x : DeviceStream κ}
    {d d' : Diary σ} {buffer : Buffer} (hx : host.Alone s x)
    (hmatch : Matches x.period x.format d.entries x.stopped x.held)
    (hcapture : @DesktopHost.capture κ _ (Diary.keeping owner) buffer host
      (d.write (.arrived buffer.samples)) = (.done (), host', d')) :
    ∃ y, host'.Alone s y ∧ Alike x y ∧ Matches x.period x.format d'.entries y.stopped y.held := by
  by_cases hside : x.side = .input
  · obtain ⟨input, diary, hpush, _, hinput⟩ := CaptureFramer.push_matches
      ⟨Diary.entries_capture owner x.callback x.properties⟩
      ((matches_iff_of_input (.refl x) hside).mp hmatch) buffer.samples
    -- the host was asked with the diary as its state, and pushes what the reading says
    rcases @Alone.capture κ _ host x s (Diary.keeping owner) hx hside buffer
        (d.write (.arrived buffer.samples)) with
      ⟨answer, hask, hnot, _⟩ | ⟨_, y, _, _, hpush', hask, halone, halike, rfl⟩
    · rw [hask] at hcapture
      cases hcapture
      exact absurd rfl hnot
    · rw [hask] at hcapture
      cases hcapture
      cases hpush.symm.trans hpush'
      exact ⟨y, halone, halike, (matches_iff_of_input halike hside).mpr hinput⟩
  · unfold DesktopHost.capture at hcapture
    simp only [hx.newest?, if_neg hside] at hcapture
    cases hcapture

/-- A captured buffer keeps the bench in order. If it cannot be exchanged nothing is entered. Where
the stream is gone there is nothing to capture for. -/
theorem perform_capture (h : b.InOrder opened) (buffer : Buffer) :
    (b.perform (.capture buffer)).InOrder opened := by
  cases h with
  | live x alone alike matched =>
    rcases hcapture : @DesktopHost.capture κ _ (Diary.keeping owner) buffer b.host
      (b.diary.write (.arrived buffer.samples)) with ⟨answer, host, diary⟩
    unfold perform
    simp only [hcapture]
    cases answer with
    | done a =>
      rw [← period_of_alike alike, ← alike.format] at matched
      obtain ⟨y, halone, halike, hmatch⟩ := capture_matches alone matched hcapture
      rw [period_of_alike alike, alike.format] at hmatch
      exact .live y halone (alike.trans halike) hmatch
    | _ => exact .live x alone alike matched
  | gone closed streams sound => exact inOrder_of_gone closed streams sound _

/-- What the diary says after a buffer has been asked for. -/
def entriesAfter (answer : Exchange Buffer) (es : List Entry) : List Entry :=
  match answer with
  | .done buffer => es ++ [.played buffer]
  | _ => es

/-- A buffer is played and the diary stays right about the stream, with an entry for each period
that is asked for and a last one for the buffer (`PlaybackFramer.pull_matches`). The callback has to
give as many samples as it is asked for. -/
theorem render_matches {host host' : DesktopHost κ} {s : StreamHandle} {x : DeviceStream κ}
    {d d' : Diary σ} {length : Nat} {answer : Exchange Buffer} (hx : host.Alone s x)
    (hfills : ∀ n s, (owner.render x.callback x.properties n s).2.1.length = n)
    (hmatch : Matches x.period x.format d.entries x.stopped x.held)
    (hrender : @DesktopHost.render κ _ (Diary.keeping owner) length host d
      = (answer, host', d')) :
    ∃ y, host'.Alone s y ∧ Alike x y
      ∧ Matches x.period x.format (entriesAfter answer d'.entries) y.stopped y.held := by
  unfold DesktopHost.render at hrender
  by_cases hside : x.side = .output
  · simp only [hx.newest?, if_pos hside] at hrender
    have houtput := (matches_iff_of_output (.refl x) hside).mp hmatch
    have hgives : PlaybackFramer.Gives ((Diary.keeping owner).render x.callback x.properties) :=
      ⟨Diary.entries_render owner x.callback x.properties, fun n d => hfills n d.state⟩
    split at hrender
    · -- a period of no samples: the callback is asked, and the device gets nothing
      next hnone =>
      let output := (x.output.refill ((Diary.keeping owner).render x.callback x.properties) d).1
      obtain ⟨hperiod, hrefilled⟩ :=
        PlaybackFramer.refill_matches_of_no_period hgives houtput hnone.1
      cases hrender
      have halike : Alike x { x with output } := ⟨rfl, rfl, rfl, rfl, rfl, rfl, hperiod⟩
      exact ⟨_, hx.update rfl, halike, (matches_iff_of_output halike hside).mpr hrefilled⟩
    · next hsome =>
      obtain ⟨frames, output, diary, hpull, hperiod, hpulled⟩ :=
        PlaybackFramer.pull_matches hgives houtput (by omega : 0 < x.output.period ∨ length = 0)
      simp only [hpull] at hrender
      cases hrender
      have halike : Alike x
          { x with input := { x.input with stopped := output.stopped }, output } :=
        ⟨rfl, rfl, rfl, rfl, rfl, rfl, hperiod⟩
      exact ⟨_, hx.update rfl, halike, (matches_iff_of_output halike hside).mpr hpulled⟩
  · simp only [hx.newest?, if_neg hside] at hrender
    cases hrender
    exact ⟨x, hx, .refl x, hmatch⟩

/-- A played buffer keeps the bench in order, by `render_matches` for a stream that is there; it is
entered last, after the periods that were asked for. -/
theorem perform_render (hfills : ∀ n s,
      (owner.render opened.callback opened.properties n s).2.1.length = n)
    (h : b.InOrder opened) (length : Nat) : (b.perform (.render length)).InOrder opened := by
  cases h with
  | live x alone alike matched =>
    rcases hrender : @DesktopHost.render κ _ (Diary.keeping owner) length b.host b.diary
      with ⟨answer, host, diary⟩
    rw [← period_of_alike alike, ← alike.format] at matched
    rw [← alike.callback, ← alike.properties] at hfills
    obtain ⟨y, halone, halike, hmatch⟩ := render_matches alone hfills matched hrender
    rw [period_of_alike alike, alike.format] at hmatch
    unfold perform
    simp only [hrender]
    cases answer with
    | done buffer => exact .live y halone (alike.trans halike) hmatch
    | _ => exact .live y halone (alike.trans halike) hmatch
  | gone closed streams sound => exact inOrder_of_gone closed streams sound _

/-- **Every move** keeps the bench in order. The first three are those of the owner, and the
callback is called in the other two alone. -/
theorem perform_inOrder (hfills : ∀ n s,
      (owner.render opened.callback opened.properties n s).2.1.length = n)
    (h : b.InOrder opened) (m : Move) : (b.perform m).InOrder opened := by
  cases m with
  | start refusal => exact perform_start h refusal
  | stop refusal => exact perform_stop h refusal
  | close => exact perform_close h
  | capture buffer => exact perform_capture h buffer
  | render length => exact perform_render hfills h length

theorem after_inOrder (hfills : ∀ n s,
      (owner.render opened.callback opened.properties n s).2.1.length = n)
    (h : b.InOrder opened) (ms : List Move) : (b.after ms).InOrder opened := by
  induction ms generalizing b with
  | nil => exact h
  | cons m ms ih => exact ih (perform_inOrder hfills h m)

/-! ## The gate -/

/-- **Who gets to call.** A stream is opened, its owner starts, stops and closes it in any order,
the device may refuse each start and each stop, and it exchanges buffers of any size meanwhile.

The callback is called only while a start is in force: the owner has started the stream, while it
was open, and has not stopped or closed it since, nor has the callback answered stop. So where no
start is refused, the owner has been told that the stream runs. But a start is in force even if the
device has refused it, for the stream is then on all the same. -/
theorem gated {side : Direction} {r : StreamSpec} {callback : κ} {h h' : DesktopHost κ}
    {s : StreamHandle} (hnone : h.streams = [])
    (hopen : openStream side r callback h = (.opened s, h'))
    (hfills : ∀ n state, (owner.render callback s.properties n state).2.1.length = n)
    (state : σ) (ms : List Move) :
    let b := (ofOpened s h' state).after ms
    (∀ before e since, b.entries = before ++ e :: since → e.isCall →
        ∃ answer, standing? before = some answer ∧ .started answer ∈ before
          ∧ answer ≠ .error .closed)
      ∧ ∀ x ∈ b.host.streams, x.stopped = (standing? b.entries).isNone := by
  obtain ⟨opened, horder, _, hcallback, hproperties, _⟩ :=
    inOrder_of_openStream hnone hopen state
  have hb := after_inOrder (by rwa [hcallback, hproperties]) horder ms
  refine ⟨fun before e since hsplit hcall => ?_, fun x hx => ?_⟩
  · have hfits := hb.sound before e since hsplit
    -- both kinds of call fit only a stream that runs
    have hruns : (read opened.period before).Runs := by
      cases e with
      | handed frames verdict => exact hfits.1
      | obtained frames verdict => exact hfits.1
      | _ => cases hcall
    obtain ⟨answer, hstanding, hanswer⟩ := hruns
    rw [standing_read] at hstanding
    exact ⟨answer, hstanding, started_mem_of_standing? hstanding, hanswer⟩
  · rw [← standing_read opened.period]
    cases hb with
    | live y alone alike matched =>
      rw [alone.streams, List.mem_singleton] at hx
      rw [hx]
      exact matched.stopped.symm
    | gone closed streams sound =>
      rw [streams] at hx
      cases hx

/-- One microphone, mono at 8000 Hz. -/
def microphone : World where
  devices := ⟨[{ isDefault := true, ranges := [⟨1, 8000, 8000, .i16, none⟩] }], []⟩

/-- A line whose streams are open, over a channel of eight samples. -/
def openLine : Line := { states := .both .opened, channel := some (.ofLength 8) }

/-- A device that refuses the start, and captures a period all the same. The period is handed over
after a start that was refused, and the standing start is that refusal. -/
theorem gated_refusedStart :
    let r := ({ sampleRate := 8000, periodMs := 1 } : Config).inputSpec
    let callback : Handler := ⟨.input, ⟨8000, 1, 1⟩, none, 1⟩
    let refused := ofDevice (some "busy")
    let frames : List Int16 := [1, 2, 3, 4, 5, 6, 7, 8]
    ∃ s h, openStream .input r callback { world := microphone } = (.opened s, h)
      ∧ (∀ n (l : Line), (StreamOwner.render callback s.properties n l).2.1.length = n)
      ∧ ((ofOpened s h openLine).after [.start (some "busy"), .capture (.i16 frames)]).entries
        = [.started refused, .arrived frames, .handed frames .proceed]
      ∧ ∃ answer, standing? [.started refused, .arrived frames] = some answer
        ∧ .started answer ∈ [Entry.started refused, .arrived frames]
        ∧ answer ≠ .error .closed := by
  intro r callback refused frames
  have hopen : openStream .input r callback { world := microphone } = (.opened _, _) := rfl
  have hfills : ∀ p n (l : Line), (StreamOwner.render callback p n l).2.1.length = n :=
    Handler.length_render callback
  refine ⟨_, _, hopen, hfills _, by decide +kernel, ?_⟩
  obtain ⟨hcalls, _⟩ :=
    gated rfl hopen (hfills _) openLine [.start (some "busy"), .capture (.i16 frames)]
  -- the handing over is the last of the three entries
  exact hcalls _ (.handed frames .proceed) [] (by decide +kernel) rfl

end Bench

end Desktop

end Passthrough
