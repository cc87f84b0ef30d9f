import Passthrough.Config.Basic
import Passthrough.Proofs.Host.Simulated.Bench
/-!
# The simulated host keeps its books

Handles, entries of the table, planted faults and the runs of callbacks change independently, with
several live streams in a direction. Whatever is done to them, the books of the host stay sound, and
with the table in order.

* **`perform_inOrder`** — every move keeps a bench in order.
* **`after_faithful`** — what the books of any run say about the host, and about whom it called.
-/

namespace Passthrough

open SimulatedHost

namespace Bookkeeping

namespace Bench

variable {κ σ : Type} {b : Bench κ σ}

/-! ## What the books tell -/

/-- **Books that are faithful** to a host on which streams have been opened, closed and lost. -/
structure Faithful (b : Bench κ σ) : Prop where
  /-- The live streams of a direction are those that were opened by a request for it and have not
  been closed, dropped or lost. -/
  live : ∀ d, b.host.liveCount d = (liveIn b.pages d).length
  /-- Every page is right, whatever was asked. -/
  right : Sound b.pages
  /-- A device that is unplugged takes the newest live stream of its direction with it, if any, and
  no other; the stream is told before and after. -/
  unplugged : ∀ before p later d answer, b.pages = before ++ p :: later →
    p.dealing = .unplugged d answer →
      (answer = false ∧ liveIn before d = [] ∧ p.summons = [])
        ∨ (answer = true ∧ ∃ i, (liveIn before d).getLast? = some i
          ∧ p.summons = [.beforeClose i, .afterClose i]
          ∧ ∀ d', liveIn (before ++ [p]) d' = (liveIn before d').filter (· ≠ i))
  /-- In its whole life a stream is told nothing, or once that it is lost. -/
  told : ∀ i, notices i b.pages = [] ∨ notices i b.pages = [.beforeClose i, .afterClose i]
  /-- A stream that its owner has closed or dropped, or that is lost, is told nothing any more. -/
  untold : ∀ before p later i, b.pages = before ++ p :: later → p.ends i = true →
    notices i later = []
  /-- The data callback that is called is the newest running stream's, and no other callback is
  called meanwhile. The stream has been started since anything turned it off. -/
  called : ∀ before p later i v, b.pages = before ++ p :: later → .data i v ∈ p.summons →
    ∃ d, p = ⟨.pumped d (some i) (some v), [.data i v]⟩ ∧ i ∈ liveIn before d
      ∧ (∀ j ∈ liveIn before d, i < j → runs before j = false)
      ∧ ∃ earlier start since, before = earlier ++ start :: since
        ∧ start.dealing = .started i (.ok ()) ∧ ∀ q ∈ since, q.turned? i = none
  /-- A closing is recorded for every stream that was closed, -/
  closes : ∀ d, b.host.calls.count ⟨d, .close⟩ = (closings b.pages).countP (isIn b.pages d)
  /-- and none is closed twice. -/
  once : (closings b.pages).Nodup

/-- What `Faithful` says of a bench is read off one in order: the table by `Kept`, the callbacks and
the notices by the soundness of the books. -/
theorem InOrder.faithful (h : b.InOrder) : b.Faithful where
  live := h.kept.liveCount_eq
  right := h.sound
  unplugged before p later d answer hsplit hp := (hsplit ▸ h.sound).unplugged hp
  told i := (h.sound.notices_cases i).imp_right And.left
  untold before p later i hsplit hends := (hsplit ▸ h.sound).notices_of_gone hends
  called before p later i v hsplit hcalled := by
    obtain ⟨d, hp, hnewest⟩ := (hsplit ▸ h.sound).called hcalled
    obtain ⟨hlive, hruns, hnewer⟩ := newestRunning?_spec hnewest
    exact ⟨d, hp, hlive, hnewer, started_of_runs hruns⟩
  closes := h.closes
  once := h.sound.nodup_closings

/-! ## The moves -/

variable [StreamOwner κ σ]

/-! ### What the owner does -/

/-- A start keeps the books in order. It fails by a fault or because the stream is gone, and then
nothing changes; it succeeds just if the stream is live (`Kept.contains_iff`), which is then turned
on. -/
theorem perform_start (h : b.InOrder) (i : Nat) : (b.perform (.start i)).InOrder := by
  cases hs : b.handle? i with
  | none => simpa only [perform, hs]
  | some s =>
    have hheld := h.held i s hs
    have hmove : b.perform (.start i)
        = b.turn (.started i (startStream s b.host).1) (startStream s b.host).2
            { state := b.state } := by
      simp only [perform, hs]
      rfl
    -- a start is on record, but it is no closing
    have hcalls (d : Direction) : (startStream s b.host).2.calls.count ⟨d, .close⟩
        = b.host.calls.count ⟨d, .close⟩ := by
      rw [calls_startStream, count_close_append (by simp)]
    rw [hmove]
    rcases startStream_cases s b.host with
      ⟨source, host, hask, hstreams, hopened⟩ | ⟨hask, hcontains⟩
    · rw [hask] at hcalls ⊢
      exact h.enter b.state rfl rfl (h.kept.still rfl (fun _ => rfl) hopened hstreams)
        (.notStarted i source) hcalls
    · rw [hask] at hcalls ⊢
      rw [hheld.number] at hcontains
      -- the host has it in the table just if the books have it live
      refine h.enter b.state rfl rfl ?_ (.started i (h.kept.contains_iff.mp hcontains)) hcalls
      refine h.kept.turned true rfl hheld.lt (fun j => rfl) (fun j => rfl) rfl ?_
      rw [hheld.number]
      rfl

/-- A stop keeps the books in order. It fails by a fault or because the handle is closed, and then
nothing changes; a stream that is gone can be stopped, and the page that turns it off is right all
the same. -/
theorem perform_stop (h : b.InOrder) (i : Nat) : (b.perform (.stop i)).InOrder := by
  cases hs : b.handle? i with
  | none => simpa only [perform, hs]
  | some s =>
    have hheld := h.held i s hs
    have hmove : b.perform (.stop i)
        = b.turn (.stopped i (stopStream s b.host).1) (stopStream s b.host).2
            { state := b.state } := by
      simp only [perform, hs]
      rfl
    -- neither is a stop
    have hcalls (d : Direction) : (stopStream s b.host).2.calls.count ⟨d, .close⟩
        = b.host.calls.count ⟨d, .close⟩ := by
      rw [calls_stopStream, count_close_append (by simp)]
    rw [hmove]
    rcases stopStream_cases s b.host with ⟨source, host, hask, hstreams, hopened⟩ | hask
    · rw [hask] at hcalls ⊢
      exact h.enter b.state rfl rfl (h.kept.still rfl (fun _ => rfl) hopened hstreams)
        (.stopped i (.error source)) hcalls
    · rw [hask] at hcalls ⊢
      refine h.enter b.state rfl rfl ?_ (.stopped i (.ok ())) hcalls
      refine h.kept.turned false rfl hheld.lt (fun j => rfl) (fun j => rfl) rfl ?_
      rw [hheld.number]
      rfl

/-- A handle that is dropped takes its stream with it, unless the stream was closed before. In both
cases the table is the one without the stream, as a closed one does not stand in it
(`Kept.remove_of_not_live`). -/
theorem perform_drop (h : b.InOrder) (i : Nat) : (b.perform (.drop i)).InOrder := by
  cases hs : b.handle? i with
  | none => simpa only [perform, hs]
  | some s =>
    have hheld := h.held i s hs
    have hmove : b.perform (.drop i)
        = { b.turn (.dropped i) (discard s b.host).2 { state := b.state } with
            handles := b.handles.set i none } := by
      simp only [perform, hs]
      rfl
    -- removed now, or gone since it was closed
    have hstreams : (discard s b.host).2.streams = (b.host.remove (i + 1)).streams := by
      show (if s.closed = true then b.host else b.host.remove s.id).streams = _
      split
      · next hclosed =>
        exact (h.kept.remove_of_not_live (not_mem_live_of_mem_closings (hheld.closed.mp hclosed))).symm
      · rw [hheld.number]
    have hopened : (discard s b.host).2.opened = b.host.opened := by
      show (if s.closed = true then b.host else b.host.remove s.id).opened = _
      split <;> rfl
    rw [hmove]
    refine InOrder.setHandle (b := b.turn (.dropped i) (discard s b.host).2 { state := b.state }) ?_
      (Nat.lt_of_lt_of_eq hheld.lt h.handles.symm) nofun
    refine h.enter b.state rfl rfl ?_ (.dropped i) fun d => by rw [calls_discard]
    refine h.kept.ended rfl hheld.lt (fun j => ?_) (fun j => rfl) hopened hstreams
    show (if (i == j) = true then some false else none) = _
    simp

/-- A closing keeps the books in order. A handle that is closed already says so and nothing happens;
any other is marked from then on, and its stream is gone (`InOrder.close`). -/
theorem perform_close (h : b.InOrder) (i : Nat) : (b.perform (.close i)).InOrder := by
  cases hs : b.handle? i with
  | none => simpa only [perform, hs]
  | some s =>
    have hheld := h.held i s hs
    have hmove : b.perform (.close i)
        = { b.turn (.closed i (closeStream s b.host).1.1) (closeStream s b.host).2
              { state := b.state } with
            handles := b.handles.set i (some (closeStream s b.host).1.2) } := by
      simp only [perform, hs]
      rfl
    rw [hmove]
    cases hclosed : s.closed with
    | true =>
      rw [closeStream_of_closed hclosed]
      -- the handle says closed, and so do the books
      have hturn : InOrder (b.turn (.closed i (.error .closed)) b.host { state := b.state }) :=
        h.enter b.state rfl rfl (h.kept.still rfl (fun _ => rfl) rfl rfl)
          (.closedAlready i (hheld.closed.mp hclosed)) fun d => rfl
      refine hturn.setHandle (Nat.lt_of_lt_of_eq hheld.lt h.handles.symm) fun s' hs' => ?_
      cases hs'
      exact hheld.concat rfl
    | false =>
      rw [closeStream_of_unclosed hclosed]
      exact h.close hs hclosed

/-- An opening keeps the books in order: it is refused, and the page names no stream, or a stream is
handed out that comes last in the table, in the books and among the handles (`InOrder.opened`). -/
theorem perform_open (h : b.InOrder) (side : Direction) (r : StreamSpec) (callback : κ) :
    (b.perform (.openStream side r callback)).InOrder := by
  have hcalls (d : Direction) :
      (SimulatedHost.openStream side r ⟨b.handles.length, callback⟩ b.host).2.calls.count ⟨d, .close⟩
        = b.host.calls.count ⟨d, .close⟩ := by
    rw [calls_openStream, count_close_append (by simp)]
  rcases openStream_cases side r (⟨b.handles.length, callback⟩ : Labelled κ) b.host with
    ⟨source, host, hask, hstreams, hopened⟩ | ⟨host, hask, hstreams, hopened⟩
  · -- refused: the page names no stream
    have hmove : b.perform (.openStream side r callback)
        = b.turn (.refused r.direction) host { state := b.state } := by
      have hrefused : StreamHost.openStream side r (⟨b.handles.length, callback⟩ : Labelled κ)
          b.host ({ state := b.state } : Tally σ) = (.refused source, host, { state := b.state }) :=
        congrArg (fun a => (a.1, a.2, ({ state := b.state } : Tally σ))) hask
      simp only [perform, hrefused]
    rw [hask] at hcalls
    rw [hmove]
    exact h.enter b.state rfl rfl (h.kept.still rfl (fun _ => rfl) hopened hstreams)
      (.refused r.direction) hcalls
  · -- granted: the same handle is handed out and put behind the others
    let s : StreamHandle := { id := b.host.opened + 1, properties := b.host.granted r }
    have hmove : b.perform (.openStream side r callback)
        = { b.turn (.opened r.direction side) host { state := b.state } with
            handles := b.handles ++ [some s] } := by
      have hopens : StreamHost.openStream side r (⟨b.handles.length, callback⟩ : Labelled κ)
          b.host ({ state := b.state } : Tally σ) = (.opened s, host, { state := b.state }) :=
        congrArg (fun a => (a.1, a.2, ({ state := b.state } : Tally σ))) hask
      simp only [perform, hopens]
    rw [hask] at hcalls
    rw [hmove]
    exact h.opened side r callback hopened hstreams hcalls

/-! ### What the devices do -/

/-- An input buffer keeps the books in order: no stream runs and it is lost, or the newest one that
runs gets it, whose callback may be one for the other side (`InOrder.misled`). -/
theorem perform_feed (h : b.InOrder) (frames : List Int16) : (b.perform (.feed frames)).InOrder := by
  unfold perform SimulatedHost.feed reached?
  cases hx : b.host.newestRunning? .input with
  | none => exact h.idle hx
  | some x =>
    cases hside : x.side with
    | input =>
      simp only [hside]
      exact h.reached hx hside _ _
    | output =>
      simp only [hside]
      exact h.misled hx (by rw [hside]; simp)

/-- An output buffer keeps the books in order, in the same three cases as an input buffer. Nobody
runs, or the newest running stream is reached, or it turns out to be on the other side and is
refused. -/
theorem perform_draw (h : b.InOrder) (dest : List Int16) : (b.perform (.draw dest)).InOrder := by
  unfold perform SimulatedHost.draw reached?
  cases hx : b.host.newestRunning? .output with
  | none => exact h.idle hx
  | some x =>
    cases hside : x.side with
    | output =>
      simp only [hside]
      exact h.reached hx hside _ _
    | input =>
      simp only [hside]
      exact h.misled hx (by rw [hside]; simp)

/-- A device that is unplugged keeps the books in order: it has no live stream, or its newest one is
lost and told of that before and after (`InOrder.lost`). -/
theorem perform_unplug (h : b.InOrder) (d : Direction) (e : HostError) :
    (b.perform (.unplug d e)).InOrder := by
  cases hx : (b.host.live d).getLast? with
  | none =>
    have hempty : liveIn b.pages d = [] := by
      rw [← h.kept.labels_live, List.getLast?_eq_none_iff.mp hx]
      rfl
    simp only [perform, SimulatedHost.unplug, hx]
    exact h.enter b.state rfl rfl (h.kept.still rfl (fun _ => rfl) rfl rfl) (.absent d hempty)
      fun _ => rfl
  | some x =>
    simp only [perform, SimulatedHost.unplug, hx]
    exact h.lost hx _

/-- **Every move** keeps the books in order. The cases are the moves of the owner, those of the
devices, and the planting of a fault, which no page tells of. -/
theorem perform_inOrder (h : b.InOrder) (m : Move κ) : (b.perform m).InOrder := by
  cases m with
  | plantOpenFault d e => exact h.plant rfl rfl rfl
  | plantStartFault d e => exact h.plant rfl rfl rfl
  | plantStopFault d e => exact h.plant rfl rfl rfl
  | openStream side r callback => exact perform_open h side r callback
  | start i => exact perform_start h i
  | stop i => exact perform_stop h i
  | close i => exact perform_close h i
  | drop i => exact perform_drop h i
  | feed frames => exact perform_feed h frames
  | draw dest => exact perform_draw h dest
  | unplug d e => exact perform_unplug h d e

theorem after_inOrder (h : b.InOrder) (ms : List (Move κ)) : (b.after ms).InOrder := by
  induction ms generalizing b with
  | nil => exact h
  | cons m ms ih => exact ih (perform_inOrder h m)

/-- **The books are faithful** after any moves on any number of streams of one host. The books begin
empty and in order, `after_inOrder` keeps them so by induction over the moves, and being in order is
being `Faithful`. -/
theorem after_faithful (state : σ) (ms : List (Move κ)) :
    (({ state } : Bench κ σ).after ms).Faithful := by
  refine InOrder.faithful (after_inOrder ?_ ms)
  exact {
    kept := ⟨rfl, nofun, rfl, nofun⟩
    handles := rfl
    held := nofun
    closes := fun d => rfl
    sound := fun before p later hsplit => by simp at hsplit }

/-- Three streams are opened by requests for input, the last of them with a callback for output: it
is reached first, is not called and rests from then on. It is the one that is lost when the device
is unplugged; by the second time the others have been closed and dropped. -/
example :
    let r := ({ sampleRate := 8000, periodMs := 1 } : Config).inputSpec
    let callback : Handler := ⟨.input, ⟨8000, 1, 1⟩, none, 1⟩
    let line : Line := { states := .both .opened, channel := some (.ofLength 8) }
    let frames : List Int16 := [1, 2, 3, 4, 5, 6, 7, 8]
    let b := ({ state := line } : Bench Handler Line).after [.openStream .input r callback,
      .openStream .input r callback, .openStream .output r callback, .start 0, .start 1, .start 2,
      .feed frames, .feed frames, .close 1, .feed frames, .unplug .input .disconnected, .drop 0,
      .unplug .input .disconnected]
    b.pages.flatMap (·.summons)
      = [.data 1 .proceed, .data 0 .proceed, .beforeClose 2, .afterClose 2] := by
  decide +kernel

end Bench

end Bookkeeping

end Passthrough
