import Passthrough.Config.Basic
import Passthrough.Host.Mobile.Basic
import Passthrough.Proofs.Line.Handler
/-!
# What becomes of the frames of a buffer

An adapter that is asked to fill a buffer asks its callback for samples once, into its scratch, and
writes the frames that these make over the front of the buffer. How far they reach is arithmetic:
the scratch holds two periods of what was asked for, and the callback is asked for one sample per
frame and channel *negotiated*, where the frames of the stream have the channels *asked for*.

* **`Adapter.reach_eq_iff`** — when the samples reach the end of the buffer.
* **`Adapter.render_eq`** — the frames that are reached are those of the callback, and the others
  keep what they had.
* **`MobileHost.exchange_written`** — so it is for every buffer of every stream that opens.

A captured buffer is handed on as far as it fits into the scratch (**`Adapter.capture_eq`**).
-/

namespace Passthrough

namespace Mobile

namespace FrameLayout

theorem width_of_ofChannels? {n : Nat} {layout : FrameLayout} (h : ofChannels? n = some layout) :
    layout.width = n := by
  unfold ofChannels? at h
  split at h <;> cases h <;> rfl

/-- Samples are written over as many frames as they make, and not over more than there are.
Behind them the buffer keeps its content, which is what a device plays where a callback gives too
little. -/
theorem writeOver_eq (layout : FrameLayout) (samples : List Int16) (buffer : List layout.Frame) :
    layout.writeOver samples buffer
      = (layout.frames samples).take (min buffer.length (samples.length / layout.width))
        ++ buffer.drop (min buffer.length (samples.length / layout.width)) := by
  have hwritten : ((layout.frames samples).take buffer.length).length
      = min buffer.length (samples.length / layout.width) := by simp
  have hcut : (layout.frames samples).take buffer.length
      = (layout.frames samples).take (min buffer.length (samples.length / layout.width)) := by
    rw [← length_frames, ← List.take_take, List.take_length]
  simp only [writeOver]
  rw [hwritten, hcut]

end FrameLayout

namespace Adapter

variable {σ : Type} {a : Adapter} {period width : Nat}

/-- **The adapter of a stream** that was asked for periods of so many frames of this width,
whatever earlier buffers have left in its scratch. -/
structure Serves (a : Adapter) (period width : Nat) : Prop where
  layout : FrameLayout.ofChannels? width = some a.layout
  room : a.scratch.size = period * width * 2

theorem serves_of_ofRequest? {r : StreamSpec} (h : ofRequest? r = some a) :
    a.Serves r.framesPerCallback r.channelCount := by
  obtain ⟨layout, hlayout, rfl⟩ := Option.map_eq_some_iff.mp h
  exact ⟨hlayout, rfl⟩

theorem Serves.width_eq (h : a.Serves period width) : a.layout.width = width :=
  FrameLayout.width_of_ofChannels? h.layout

theorem Serves.width_pos (h : a.Serves period width) : 0 < width :=
  h.width_eq ▸ a.layout.width_pos

theorem Serves.size_eq (h : a.Serves period width) : a.scratch.size = 2 * period * width := by
  rw [h.room, Nat.mul_comm _ 2, Nat.mul_assoc]

/-! ## Capturing -/

/-- **Handing on.** The callback gets the frames of no more than two periods. The scratch has room
for two periods (`Adapter.Serves`), and a device that captures more at once loses the rest. -/
theorem capture_eq (h : a.Serves period width) (call : List Int16 → σ → Verdict × σ)
    (buffer : List a.layout.Frame) (s : σ) :
    let samples := a.layout.samples (buffer.take (2 * period))
    a.capture call buffer s
      = ((call samples s).1, { a with scratch := a.scratch.write samples },
          (call samples s).2) := by
  have hroom : a.scratch.size / a.layout.width = 2 * period := by
    rw [h.size_eq, h.width_eq, Nat.mul_div_cancel _ h.width_pos]
  unfold capture
  simp only [hroom, Scratch.front_write]

/-! ## Playing -/

/-- How many frames of a buffer are written over. -/
def reach (a : Adapter) (channelCount frames : Nat) : Nat :=
  min frames (a.wantedSamples channelCount frames / a.layout.width)

/-- **Reaching the end.** The samples fill a buffer of no more than two periods, if the stream was
given at least the channels that were asked for. -/
theorem reach_eq_iff (h : a.Serves period width) (channelCount frames : Nat) :
    a.reach channelCount frames = frames
      ↔ frames = 0 ∨ frames ≤ 2 * period ∧ width ≤ max channelCount 1 := by
  -- the samples wanted are the fewer of what the buffer takes and what the scratch holds
  have hend : a.reach channelCount frames = frames
      ↔ frames * width ≤ frames * max channelCount 1 ∧ frames ≤ 2 * period := by
    calc a.reach channelCount frames = frames
        ↔ frames ≤ a.wantedSamples channelCount frames / a.layout.width := by
          unfold reach
          omega
      _ ↔ frames * width ≤ a.wantedSamples channelCount frames := by
          rw [h.width_eq, Nat.le_div_iff_mul_le h.width_pos]
      _ ↔ _ := by
          rw [wantedSamples, h.size_eq, Nat.le_min, Nat.mul_le_mul_right_iff h.width_pos]
  rw [hend]
  cases frames with
  | zero => simp
  | succ n =>
    rw [Nat.mul_le_mul_left_iff n.succ_pos]
    simp [and_comm]

/-- **Filling.** The frames that are reached are those of the callback, if that fills the slice it
is given; the others keep what they had. -/
theorem render_eq {channelCount : Nat} {call : Nat → σ → Verdict × List Int16 × σ}
    {verdict : Verdict} {samples : List Int16} {s s' : σ} (buffer : List a.layout.Frame)
    (hcall : call (a.wantedSamples channelCount buffer.length) s = (verdict, samples, s'))
    (hfills : samples.length = a.wantedSamples channelCount buffer.length) :
    a.render channelCount call buffer s
      = (verdict, (a.layout.frames samples).take (a.reach channelCount buffer.length)
          ++ buffer.drop (a.reach channelCount buffer.length),
        { a with scratch := a.scratch.write samples }, s') := by
  have hwhole : samples.take (a.wantedSamples channelCount buffer.length) = samples :=
    List.take_of_length_le (Nat.le_of_eq hfills)
  unfold render
  simp only [hcall, hwhole, Scratch.front_write hfills]
  rw [FrameLayout.writeOver_eq, hfills]
  rfl

end Adapter

end Mobile

open Mobile

namespace MobileHost

variable {κ σ : Type} {h : MobileHost κ} {d d' : Direction} {x y : MobileStream κ}
  {r : StreamSpec} {period width : Nat}

/-! ## The newest stream -/

/-- The newest stream of a direction is one of its side behind which none of that side has been
opened. In this form a change to the table can be followed by where the stream stands in it. -/
theorem newest?_eq_some_iff :
    h.newest? d = some x
      ↔ ∃ older younger, h.streams = older ++ x :: younger ∧ x.side = d
          ∧ ∀ t ∈ younger, t.side ≠ d := by
  unfold newest? live
  rw [List.getLast?_eq_some_iff]
  constructor
  · rintro ⟨older, hstreams⟩
    obtain ⟨front, back, hsplit, _, hback⟩ := List.filter_eq_append_iff.mp hstreams
    obtain ⟨between, younger, hsplit', _, hside, hyounger⟩ := List.filter_eq_cons_iff.mp hback
    refine ⟨front ++ between, younger, ?_, of_decide_eq_true hside, ?_⟩
    · rw [hsplit, hsplit', List.append_assoc]
    · simpa using List.filter_eq_nil_iff.mp hyounger
  · rintro ⟨older, younger, hsplit, hside, hyounger⟩
    have hnone : younger.filter (·.side = d) = [] :=
      List.filter_eq_nil_iff.mpr (by simpa using hyounger)
    exact ⟨older.filter (·.side = d), by simp [hsplit, hside, hnone]⟩

theorem newest?_of_appended {h' : MobileHost κ} (hstreams : h'.streams = h.streams ++ [y])
    (hside : y.side = d) : h'.newest? d = some y :=
  newest?_eq_some_iff.mpr ⟨h.streams, [], hstreams, hside, by simp⟩

theorem newest?_of_appended_ne {h' : MobileHost κ} (hstreams : h'.streams = h.streams ++ [y])
    (hside : y.side ≠ d) : h'.newest? d = h.newest? d := by
  simp [newest?, live, hstreams, hside]

/-- What is put in the place of the newest stream is the newest one. It keeps its number, by which
the place is found, and its side. -/
theorem newest?_update (hx : h.newest? d = some x) (hnumber : y.number = x.number)
    (hside : y.side = d) : (h.update y).newest? d = some y := by
  obtain ⟨older, younger, hsplit, _, hyounger⟩ := newest?_eq_some_iff.mp hx
  let replaced := fun t : MobileStream κ => if t.number = y.number then y else t
  have hstreams : (h.update y).streams
      = older.map replaced ++ y :: younger.map replaced := by
    simp [update, hsplit, hnumber, replaced]
  -- a younger stream that is on the side now has been replaced, and is this one too
  have hsame : ∀ t ∈ y :: (younger.map replaced).filter (·.side = d), t = y := by
    intro t ht
    rcases List.mem_cons.mp ht with rfl | ht
    · rfl
    · obtain ⟨hmem, htside⟩ := List.mem_filter.mp ht
      obtain ⟨u, hu, rfl⟩ := List.mem_map.mp hmem
      by_cases hnumber : u.number = y.number
      · exact if_pos hnumber
      · rw [show replaced u = u from if_neg hnumber] at htside
        exact absurd (of_decide_eq_true htside) (hyounger u hu)
  unfold newest? live
  rw [hstreams, List.filter_append, List.filter_cons_of_pos (by simpa using hside),
    List.getLast?_append, List.getLast?_eq_some_getLast (List.cons_ne_nil _ _), Option.some_or,
    hsame _ (List.getLast_mem _)]

/-- It takes the place of no stream of the other side that has another number. So an exchange with
one direction does not change which stream the other direction reaches. -/
theorem newest?_update_ne (hx : h.newest? d = some x) (hnumber : x.number ≠ y.number)
    (hside : y.side ≠ d) : (h.update y).newest? d = some x := by
  obtain ⟨older, younger, hsplit, hxside, hyounger⟩ := newest?_eq_some_iff.mp hx
  let replaced := fun t : MobileStream κ => if t.number = y.number then y else t
  refine newest?_eq_some_iff.mpr
    ⟨older.map replaced, younger.map replaced, ?_, hxside, fun t ht => ?_⟩
  · simp [update, hsplit, hnumber, replaced]
  · obtain ⟨u, hu, rfl⟩ := List.mem_map.mp ht
    by_cases hsame : u.number = y.number
    · rwa [show replaced u = y from if_pos hsame]
    · rw [show replaced u = u from if_neg hsame]
      exact hyounger u hu

/-! ## Opening and exchanging -/

/-- A buffer that is exchanged while its stream is still being opened only uses the scratch. -/
theorem serves_earlyExchange [StreamOwner κ σ] {a : Adapter} (ha : a.Serves period width)
    (d : Direction) (r : StreamSpec) (callback : κ) (data : List Int16) (s : σ) :
    (earlyExchange d a r callback data s).1.Serves period width := by
  cases d <;> exact ⟨ha.layout, ha.room⟩

/-- **A stream that has opened** comes after all others, under the next number, and its adapter is
made for the request. What a device does to it before the handle is there (`earlyExchange`) writes
its scratch only. -/
theorem streams_of_openStream [StreamOwner κ σ] {callback : κ} {h' : MobileHost κ} {s s' : σ}
    {handle : StreamHandle} (hopen : openStream d r callback h s = (.opened handle, h', s')) :
    ∃ x, h'.streams = h.streams ++ [x] ∧ x.number = h.opened + 1 ∧ h'.opened = h.opened + 1
      ∧ x.side = d ∧ x.callback = callback ∧ x.properties = handle.properties
      ∧ x.adapter.Serves r.framesPerCallback r.channelCount := by
  unfold openStream at hopen
  cases hadapter : Adapter.ofRequest? r with
  | none => simp [hadapter] at hopen
  | some adapter =>
    have hserves := Adapter.serves_of_ofRequest? hadapter
    simp only [hadapter] at hopen
    cases herror : (h.scripts.get d).openError with
    | some e => simp [herror] at hopen
    | none =>
      simp only [herror] at hopen
      obtain ⟨hhandle, hhost, _⟩ := hopen
      refine ⟨_, rfl, rfl, rfl, rfl, rfl, rfl, ?_⟩
      -- the device may use the stream before its owner has the handle
      cases (h.scripts.get d).early with
      | none => exact hserves
      | some data => exact serves_earlyExchange hserves d r callback data s

/-- The device of a direction has exchanged these buffers, one after the other. -/
def exchanged [StreamOwner κ σ] (d : Direction) (buffers : List (List Int16)) (h : MobileHost κ)
    (s : σ) : MobileHost κ × σ :=
  buffers.foldl (fun (h, s) data => (h.exchange d data s).2) (h, s)

/-- A playback leaves its stream as it was, but for what is in the scratch. The stream is still the
newest of its side, by `newest?_update`, and its adapter still serves the same periods. -/
theorem newest?_exchange_output [StreamOwner κ σ] (hx : h.newest? .output = some x)
    (hside : x.side = .output) (ha : x.adapter.Serves period width) (data : List Int16) (s : σ) :
    ∃ y, (h.exchange .output data s).2.1.newest? .output = some y ∧ y.side = .output
      ∧ y.callback = x.callback ∧ y.properties = x.properties
      ∧ y.adapter.Serves period width := by
  refine ⟨{ x with adapter := (x.adapter.render x.properties.channelCount
    (StreamOwner.render x.callback x.properties) (x.adapter.layout.frames data) s).2.2.1 },
    ?_, hside, rfl, rfl, ha.layout, ha.room⟩
  unfold exchange
  simp only [hx]
  exact newest?_update hx rfl hside

/-- After any buffers that are played, it is still there. By induction on the buffers, with
`newest?_exchange_output` for each of them. -/
theorem newest?_exchanged_output [StreamOwner κ σ] (hx : h.newest? .output = some x)
    (hside : x.side = .output) (ha : x.adapter.Serves period width) (earlier : List (List Int16))
    (s : σ) :
    ∃ y, (exchanged .output earlier h s).1.newest? .output = some y
      ∧ y.callback = x.callback ∧ y.properties = x.properties
      ∧ y.adapter.Serves period width := by
  induction earlier generalizing h x s with
  | nil => exact ⟨x, hx, rfl, rfl, ha⟩
  | cons data earlier ih =>
    obtain ⟨y, hy, hyside, hcallback, hproperties, hyserves⟩ :=
      newest?_exchange_output hx hside ha data s
    obtain ⟨z, hz, hcallback', hproperties', hzserves⟩ := ih hy hyside hyserves _
    exact ⟨z, hz, hcallback'.trans hcallback, hproperties'.trans hproperties, hzserves⟩

/-- **What a device plays.** A stream is opened for any request, on hardware that grants it what it
likes, and has played any buffers since. The next buffer of the device asks the callback for samples
once. If the callback fills the slice it is given, the buffer is written over with its frames as far
as they reach, and keeps what it had beyond.

They reach the end of a buffer of up to two periods of the request, provided that the stream was
granted at least the channels that were asked for, and of no other but the empty one. -/
theorem exchange_written [StreamOwner κ σ] {callback : κ} {h₀ h₁ : MobileHost κ} {s₀ s₁ : σ}
    {handle : StreamHandle}
    (hopen : openStream .output r callback h₀ s₀ = (.opened handle, h₁, s₁))
    (hfills : ∀ n (s : σ),
      (StreamOwner.render callback handle.properties n s).2.1.length = n)
    (earlier : List (List Int16)) :
    let (h, s) := exchanged .output earlier h₁ s₁
    let granted := handle.properties.channelCount
    ∃ x, h.newest? .output = some x ∧ ∀ buffer : List x.adapter.layout.Frame,
      let asked := x.adapter.wantedSamples granted buffer.length
      let reached := x.adapter.reach granted buffer.length
      ∃ verdict samples s',
        StreamOwner.render callback handle.properties asked s = (verdict, samples, s')
          ∧ (h.exchange .output (x.adapter.layout.samples buffer) s).1
            = some (verdict, x.adapter.layout.samples
                ((x.adapter.layout.frames samples).take reached ++ buffer.drop reached))
          ∧ (reached = buffer.length
            ↔ buffer.length = 0
              ∨ buffer.length ≤ 2 * r.framesPerCallback ∧ r.channelCount ≤ max granted 1) := by
  obtain ⟨x₁, hstreams, _, _, hside, hcallback, hproperties, hserves₁⟩ :=
    streams_of_openStream hopen
  obtain ⟨x, hx, hcallback', hproperties', hserves⟩ :=
    newest?_exchanged_output (newest?_of_appended hstreams hside) hside hserves₁ earlier s₁
  rcases hnow : exchanged .output earlier h₁ s₁ with ⟨h, s⟩
  rw [hnow] at hx
  dsimp only
  refine ⟨x, hx, fun buffer => ?_⟩
  rcases hcall : StreamOwner.render callback handle.properties
      (x.adapter.wantedSamples handle.properties.channelCount buffer.length) s
    with ⟨verdict, samples, s'⟩
  -- how far the samples reach is counted from what the callback has given
  have hlength : samples.length
      = x.adapter.wantedSamples handle.properties.channelCount buffer.length := by
    have hfilled := hfills (x.adapter.wantedSamples handle.properties.channelCount buffer.length) s
    rwa [hcall] at hfilled
  refine ⟨verdict, samples, s', rfl, ?_, Adapter.reach_eq_iff hserves _ _⟩
  unfold exchange
  simp only [hx, FrameLayout.frames_samples]
  rw [hcallback', hcallback, hproperties', hproperties, Adapter.render_eq buffer hcall hlength]

/-- A mono stream at 8000 Hz is opened for periods of eight frames. Its device plays twenty frames,
four more than two periods. Those four keep what they had, and all others are silent, since the line
takes no audio. -/
theorem exchange_written_overlong :
    let r := ({ sampleRate := 8000, periodMs := 1 } : Config).outputSpec 8000
    let callback : Handler := ⟨.output, ⟨8000, 1, 1⟩, none, 1⟩
    ∃ handle h l,
      openStream .output r callback ({} : MobileHost Handler) {} = (.opened handle, h, l)
        ∧ (∀ n (l : Line), (StreamOwner.render callback handle.properties n l).2.1.length = n)
        ∧ (h.exchange .output (List.replicate 20 9) l).1
          = some (.stop, List.replicate 16 0 ++ List.replicate 4 9) := by
  intro r callback
  have hfills : ∀ p n (l : Line), (StreamOwner.render callback p n l).2.1.length = n :=
    Handler.length_render callback
  have hopen : openStream .output r callback ({} : MobileHost Handler) {} = (.opened _, _, _) := rfl
  refine ⟨_, _, _, hopen, hfills _, ?_⟩
  -- nothing has been played before
  obtain ⟨x, hx, hwritten⟩ := exchange_written hopen (hfills _) []
  obtain rfl := Option.some.inj hx
  obtain ⟨verdict, samples, l, hcall, hplayed, _⟩ := hwritten (List.replicate 20 (9 : Int16))
  cases hcall
  exact hplayed.trans (by decide +kernel)

end MobileHost

end Passthrough
