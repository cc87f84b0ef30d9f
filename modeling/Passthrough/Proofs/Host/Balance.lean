import Passthrough.Proofs.Host.Journaled
/-!
# The balance of a journal

The books of a host balance if every stream that it opened has been closed again, but for the one
that somebody has in hand in either direction. A call is seen by what it does to the streams in
hand: opening one puts it there, closing it takes it away, and nothing else makes a difference.

* **`BalancedIn.frame`**, **`BalancedIn.opened`**, **`BalancedIn.closed`** — what leaves the books of
  one direction alone, and what goes into them.
* **`Balanced.opened`**, **`Balanced.closed`** — the calls that put a stream in hand and take it away.
* **`Balanced.thinned`** — everything else, on the side of the host and of the hardware.
-/

namespace Passthrough

open SimulatedHost

/-- **Books of one direction that balance.** Every stream that was opened has been closed in its
turn, but for the one in hand; no two had one number; every closing is a call on record, and nothing
is live but what is in hand. -/
structure BalancedIn (h : JournaledHost) (d : Direction) (held : Option Nat) : Prop where
  balance : closedIn d h.deeds ++ held.toList = openedIn d h.deeds
  ordered : (openedIn d h.deeds).Pairwise (· < ·)
  numbered : ∀ id ∈ openedIn d h.deeds, id ≤ h.inner.opened
  calls : h.inner.calls.count ⟨d, .close⟩ = (closedIn d h.deeds).length
  live : (h.inner.liveIds d).Sublist held.toList

/-- **Books that balance**, in both directions. No stream was opened off the books, and there never
was more than one live stream in a direction. -/
structure Balanced (h : JournaledHost) (held : Direction → Option Nat) : Prop where
  side : ∀ d, BalancedIn h d (held d)
  counted : (openedIn .input h.deeds).length + (openedIn .output h.deeds).length = h.inner.opened
  passed : ∀ p ∈ h.passed, ∀ d, p.liveCount d ≤ 1

/-! ## One direction -/

namespace BalancedIn

variable {h h' : JournaledHost} {d : Direction} {held : Option Nat} {id : Nat}

/-- Where the books balance there is at most one live stream, the one in hand. The hardware may have
taken even that. -/
theorem liveCount_le (hb : BalancedIn h d held) : h.inner.liveCount d ≤ 1 := by
  rw [liveCount_eq]
  refine Nat.le_trans hb.live.length_le ?_
  cases held <;> simp

/-- **What is left alone.** Other directions may open and close, and streams may be lost, as long as
this direction has opened and closed nothing. -/
theorem frame (hb : BalancedIn h d held) (hopenedIn : openedIn d h'.deeds = openedIn d h.deeds)
    (hclosedIn : closedIn d h'.deeds = closedIn d h.deeds)
    (hopened : h.inner.opened ≤ h'.inner.opened)
    (hcalls : h'.inner.calls.count ⟨d, .close⟩ = h.inner.calls.count ⟨d, .close⟩)
    (hlive : (h'.inner.liveIds d).Sublist (h.inner.liveIds d)) : BalancedIn h' d held where
  balance := by
    rw [hopenedIn, hclosedIn]
    exact hb.balance
  ordered := by
    rw [hopenedIn]
    exact hb.ordered
  numbered id hid := by
    rw [hopenedIn] at hid
    exact Nat.le_trans (hb.numbered id hid) hopened
  calls := by
    rw [hclosedIn]
    exact hcalls.trans hb.calls
  live := hlive.trans hb.live

/-- **A stream that is opened** is in hand. It has a number that no stream of the books has had,
because numbers are given out in order. For the balance it is at the end of what was opened, and
what was closed has not changed. -/
theorem opened (hb : BalancedIn h d none) (hnext : h'.inner.opened = h.inner.opened + 1)
    (hopenedIn : openedIn d h'.deeds = openedIn d h.deeds ++ [h'.inner.opened])
    (hclosedIn : closedIn d h'.deeds = closedIn d h.deeds)
    (hcalls : h'.inner.calls.count ⟨d, .close⟩ = h.inner.calls.count ⟨d, .close⟩)
    (hlive : h'.inner.liveIds d = h.inner.liveIds d ++ [h'.inner.opened]) :
    BalancedIn h' d (some h'.inner.opened) where
  balance := by
    have hbefore : closedIn d h.deeds ++ [] = openedIn d h.deeds := hb.balance
    rw [List.append_nil] at hbefore
    rw [hopenedIn, hclosedIn, hbefore]
    rfl
  ordered := by
    rw [hopenedIn]
    -- the next number is above every number that was given out
    refine List.pairwise_append.mpr ⟨hb.ordered, List.pairwise_singleton _ _, fun x hx y hy => ?_⟩
    rw [List.mem_singleton.mp hy, hnext]
    exact Nat.lt_succ_of_le (hb.numbered x hx)
  numbered x hx := by
    rw [hopenedIn] at hx
    rcases List.mem_append.mp hx with hold | hnew
    · rw [hnext]
      exact Nat.le_succ_of_le (hb.numbered x hold)
    · exact Nat.le_of_eq (List.mem_singleton.mp hnew)
  calls := by
    rw [hclosedIn]
    exact hcalls.trans hb.calls
  live := by
    rw [hlive]
    exact hb.live.append (.refl [h'.inner.opened])

/-- **A stream that is closed** is no longer in hand, nor live: what was owed for it has been paid,
once. Closed streams stand in the order of their opening too, since no more than one is in hand at a
time. -/
theorem closed (hb : BalancedIn h d (some id)) (hopened : h'.inner.opened = h.inner.opened)
    (hopenedIn : openedIn d h'.deeds = openedIn d h.deeds)
    (hclosedIn : closedIn d h'.deeds = closedIn d h.deeds ++ [id])
    (hcalls : h'.inner.calls.count ⟨d, .close⟩ = h.inner.calls.count ⟨d, .close⟩ + 1)
    (hlive : h'.inner.liveIds d = (h.inner.liveIds d).filter (· ≠ id)) :
    BalancedIn h' d none where
  balance := by
    rw [hopenedIn, hclosedIn]
    exact (List.append_nil _).trans hb.balance
  ordered := by
    rw [hopenedIn]
    exact hb.ordered
  numbered x hx := by
    rw [hopenedIn] at hx
    rw [hopened]
    exact hb.numbered x hx
  calls := by
    rw [hclosedIn, hcalls, hb.calls, List.length_append, List.length_singleton]
  live := by
    rw [hlive]
    -- nothing but this stream was live
    have hfiltered := hb.live.filter (· ≠ id)
    simpa using hfiltered

end BalancedIn

/-! ## Both directions -/

namespace Balanced

variable {h host : JournaledHost} {held held' : Direction → Option Nat} {d : Direction}
  {s : StreamHandle} {inner : SimulatedHost Handler} {new : List Deed}

/-- Books in which nothing is written yet balance with empty hands. It is where the induction over a
run begins (`accounted_create`). -/
theorem empty : Balanced { inner := {} } fun _ => none where
  side _ := {
    balance := rfl
    ordered := .nil
    numbered := fun _ hid => nomatch hid
    calls := rfl
    live := .refl _ }
  counted := rfl
  passed _ hp := nomatch hp

/-- The books that go on with a new state of the host. Each direction is shown apart, and `hcounted`
says that no stream was opened off the books. -/
theorem enter (hb : Balanced h held) (hside : ∀ d, BalancedIn (h.enter new inner) d (held' d))
    (hcounted : (openedIn .input (h.enter new inner).deeds).length
      + (openedIn .output (h.enter new inner).deeds).length = inner.opened) :
    Balanced (h.enter new inner) held' := by
  refine ⟨hside, hcounted, fun p hp d => ?_⟩
  rcases List.mem_append.mp hp with hold | hnew
  · exact hb.passed p hold d
  · rw [List.mem_singleton.mp hnew]
    exact (hside d).liveCount_le

/-- **Nothing is opened or closed.** Whatever else the host or the hardware does leaves the books
balanced, and those in hand in hand. Streams may be lost meanwhile: a live stream that is gone is
still in hand until it is closed. -/
theorem thinned (hb : Balanced h held)
    (hnew : ∀ d, openedIn d new = [] ∧ closedIn d new = []) (hthins : Thins h.inner inner)
    (hcalls : ∀ d, inner.calls.count ⟨d, .close⟩ = h.inner.calls.count ⟨d, .close⟩) :
    Balanced (h.enter new inner) held := by
  have hopenedIn : ∀ d, openedIn d (h.enter new inner).deeds = openedIn d h.deeds := fun d => by
    rw [JournaledHost.enter, openedIn_append, (hnew d).1, List.append_nil]
  have hclosedIn : ∀ d, closedIn d (h.enter new inner).deeds = closedIn d h.deeds := fun d => by
    rw [JournaledHost.enter, closedIn_append, (hnew d).2, List.append_nil]
  refine hb.enter (fun d => (hb.side d).frame (hopenedIn d) (hclosedIn d)
    (Nat.le_of_eq hthins.opened.symm) (hcalls d) (hthins.live d)) ?_
  rw [hopenedIn, hopenedIn]
  exact hb.counted.trans hthins.opened.symm

/-- A stop leaves the books balanced, granted or refused. What is entered for it is at most the
refusal of the stop (`Deed.ofStop`). -/
theorem stopped (hb : Balanced h held) (s : StreamHandle) :
    Balanced (h.stopStream s).2 held := by
  rw [JournaledHost.stopStream_eq]
  refine hb.thinned (fun d => ?_) (thins_stopStream s h.inner) fun d => ?_
  · unfold Deed.ofStop
    split <;> exact ⟨rfl, rfl⟩
  · rw [calls_stopStream]
    exact count_close_append (by simp)

theorem started (hb : Balanced h held) (s : StreamHandle) :
    Balanced (h.startStream s).2 held := by
  rw [JournaledHost.startStream_eq]
  refine hb.thinned (fun _ => ⟨rfl, rfl⟩) (thins_startStream s h.inner) fun d => ?_
  rw [calls_startStream]
  exact count_close_append (by simp)

theorem sized (hb : Balanced h held) (s : StreamHandle) (frames : Nat) :
    Balanced (h.setBufferSize s frames).2 held := by
  rw [JournaledHost.setBufferSize_eq]
  refine hb.thinned (fun _ => ⟨rfl, rfl⟩) (thins_setBufferSize s frames h.inner) fun d => ?_
  rw [calls_setBufferSize]

/-- Letting go of a handle that is closed changes nothing, for what was owed for it has been
paid. -/
theorem discarded (hb : Balanced h held) (hs : s.closed = true) :
    Balanced (h.discard s).2 held := by
  have hsame : (SimulatedHost.discard s h.inner).2 = h.inner := if_pos hs
  rw [JournaledHost.discard_eq, hsame]
  exact hb.thinned (fun _ => ⟨rfl, rfl⟩) (.refl _) fun _ => rfl

/-- A request that is refused has opened nothing, although it is on record as an opening. The record
of the host counts the asking, and the books count streams. -/
theorem refused (hb : Balanced h held) {side : Direction} {r : StreamSpec} {callback : Handler}
    {source : HostError} (hask : h.openStream side r callback = (.refused source, host)) :
    Balanced host held := by
  rw [JournaledHost.openStream_eq] at hask
  rcases openStream_cases side r callback h.inner with
    ⟨_, inner, hcase, hstreams, hopened⟩ | ⟨inner, hcase, _⟩
  · have hcalls := calls_openStream side r callback h.inner
    rw [hcase] at hask hcalls
    cases hask
    refine hb.thinned (fun _ => ⟨rfl, rfl⟩) (.of_streams hopened hstreams) fun d => ?_
    rw [hcalls]
    exact count_close_append (by simp)
  · rw [hcase] at hask
    cases hask

/-- A stream that has come to life is in hand. This is the part of `Balanced.opened` that does not
depend on how the host came to open it. The books of the other direction are kept as they are, by
the numbers of which it has none new. -/
theorem come {x : SimulatedStream Handler} (hb : Balanced h held)
    (hnext : inner.opened = h.inner.opened + 1) (hstreams : inner.streams = h.inner.streams ++ [x])
    (hid : x.id = inner.opened) (hdir : x.properties.direction = d)
    (hcalls : ∀ d, inner.calls.count ⟨d, .close⟩ = h.inner.calls.count ⟨d, .close⟩)
    (hnone : held d = none) (hheld : held' d = some inner.opened)
    (hother : ∀ d', d' ≠ d → held' d' = held d') :
    Balanced (h.enter [.opened d inner.opened] inner) held' := by
  have hclosedIn : ∀ d', closedIn d' (h.deeds ++ [.opened d inner.opened]) = closedIn d' h.deeds :=
    fun d' => (closedIn_append d' h.deeds _).trans (List.append_nil _)
  have hnew : openedIn d (h.deeds ++ [.opened d inner.opened])
      = openedIn d h.deeds ++ [inner.opened] := by
    rw [openedIn_append, openedIn_opened]
  have hold : ∀ d', d' ≠ d →
      openedIn d' (h.deeds ++ [.opened d inner.opened]) = openedIn d' h.deeds := fun d' hd => by
    rw [openedIn_append, openedIn_opened_ne hd, List.append_nil]
  -- each direction keeps its own books: the new stream is in one of them
  refine hb.enter (fun d' => ?_) ?_
  · have hlive := liveIds_append hstreams d'
    by_cases hd : d' = d
    · subst hd
      have hside := hb.side d'
      rw [hnone] at hside
      rw [if_pos hdir, hid] at hlive
      rw [hheld]
      exact hside.opened hnext hnew (hclosedIn d') (hcalls d') hlive
    · rw [if_neg fun heq => hd (heq.symm.trans hdir)] at hlive
      rw [hother d' hd]
      exact (hb.side d').frame (hold d' hd) (hclosedIn d') (hnext ▸ Nat.le_succ _) (hcalls d')
        (hlive ▸ .refl _)
  · show (openedIn .input (h.deeds ++ _)).length + (openedIn .output (h.deeds ++ _)).length = _
    have hcounted := hb.counted
    -- one opening more in this direction makes one more in both together
    cases d with
    | input =>
      rw [hnew, hold .output (by simp), List.length_append, List.length_singleton]
      omega
    | output =>
      rw [hnew, hold .input (by simp), List.length_append, List.length_singleton]
      omega

/-- **Opening** puts a stream in hand where there was none, and the handle is open and of the
direction that was asked for. That its number is the next one is what makes it different from all
that have been closed. -/
theorem opened (hb : Balanced h held) {side : Direction} {r : StreamSpec} {callback : Handler}
    (hask : h.openStream side r callback = (.opened s, host)) (hnone : held r.direction = none)
    (hheld : held' r.direction = some s.id) (hother : ∀ d, d ≠ r.direction → held' d = held d) :
    s.closed = false ∧ s.properties.direction = r.direction ∧ Balanced host held' := by
  rw [JournaledHost.openStream_eq] at hask
  rcases openStream_cases side r callback h.inner with
    ⟨_, inner, hcase, _⟩ | ⟨inner, hcase, hstreams, hopened⟩
  · rw [hcase] at hask
    cases hask
  have hcalls : inner.calls = h.inner.calls ++ [⟨r.direction, .openStream⟩] := by
    have hrecorded := calls_openStream side r callback h.inner
    rwa [hcase] at hrecorded
  -- the call on record is an opening, so the closings are as many as before
  have hcount : ∀ d, inner.calls.count ⟨d, .close⟩ = h.inner.calls.count ⟨d, .close⟩ := fun d => by
    rw [hcalls]
    exact count_close_append (by simp)
  rw [hcase] at hask
  cases hask
  have hcome := hb.come hopened hstreams hopened.symm rfl hcount hnone
    (hheld.trans (congrArg some hopened.symm)) hother
  rw [hopened] at hcome
  exact ⟨rfl, rfl, hcome⟩

/-- A stream that is closed is no longer in hand, and one closing is on record for it. In the other
direction nothing has this number, so nothing is removed there. -/
theorem gone {id : Nat} (hb : Balanced h held) (hheld : held d = some id) (hnone : held' d = none)
    (hother : ∀ d', d' ≠ d → held' d' = held d') :
    Balanced (h.enter [.closed d id] ((h.inner.record d .close).remove id)) held' := by
  have hopenedIn : ∀ d', openedIn d' (h.deeds ++ [.closed d id]) = openedIn d' h.deeds :=
    fun d' => (openedIn_append d' h.deeds _).trans (List.append_nil _)
  refine hb.enter (fun d' => ?_) ?_
  · by_cases hd : d' = d
    · subst hd
      rw [hnone]
      have hside := hb.side d'
      rw [hheld] at hside
      -- the closing is on record both among the deeds and among the calls
      refine hside.closed rfl (hopenedIn d') ?_ ?_ (liveIds_remove _ id d')
      · rw [JournaledHost.enter, closedIn_append, closedIn_closed]
      · show (h.inner.calls ++ [(⟨d', .close⟩ : CallRecord)]).count ⟨d', .close⟩ = _
        rw [List.count_append, List.count_singleton_self]
    · rw [hother d' hd]
      refine (hb.side d').frame (hopenedIn d') ?_ (Nat.le_refl _) ?_
        ((thins_remove (h.inner.record d .close) id).live d')
      · rw [JournaledHost.enter, closedIn_append, closedIn_closed_ne hd, List.append_nil]
      · exact count_close_append fun heq => hd (congrArg CallRecord.direction heq).symm
  · show (openedIn .input (h.deeds ++ _)).length + (openedIn .output (h.deeds ++ _)).length
      = h.inner.opened
    rw [hopenedIn, hopenedIn]
    exact hb.counted

/-- **Closing** takes a stream out of hand, and letting go of its handle changes nothing more. The
answer of the host is free, but an unclosed handle is never refused. -/
theorem closed {host' : JournaledHost} {s' : StreamHandle} {answer : Except HostError Unit}
    (hb : Balanced h held) (hs : s.closed = false) (hdir : s.properties.direction = d)
    (hask : h.closeStream s = ((answer, s'), host)) (hdiscard : host.discard s' = ((), host'))
    (hheld : held d = some s.id) (hnone : held' d = none)
    (hother : ∀ d', d' ≠ d → held' d' = held d') : Balanced host' held' := by
  subst hdir
  rw [JournaledHost.closeStream_eq, closeStream_of_unclosed hs] at hask
  cases hask
  have hdiscarded := discarded (hb.gone hheld hnone hother)
    (s := { s with closed := true }) rfl
  rw [show host' = _ from (congrArg Prod.snd hdiscard).symm]
  exact hdiscarded

end Balanced

end Passthrough
