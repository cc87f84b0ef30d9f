import Mathlib.Data.List.Find
import Passthrough.Proofs.Host.Logged
import Passthrough.Proofs.Host.Simulated.Books
/-!
# A host on a bench

Any number of streams on one simulated host, in both directions. Their owner opens, starts, stops,
closes and drops them in any order, with planted faults among it, and opens a stream with a callback
for the wrong side if it likes; the devices exchange buffers and are unplugged. Every move is entered
into the books, with the callbacks that were called meanwhile, which have the number of their stream
with them (`Labelled`).

A host that is in order with its books (`Kept`) has the live streams in its table, and those run that
should. A page that opens nothing acts on the table in one way (`Page.applied`), whatever it says, so
that a move is right about the host once its page is right and has been applied.

* **`Kept.page`**, **`Kept.opening`** — a host that has done what a page says is in order with it.
* **`Kept.labels_live`**, **`Kept.label_newestRunning?`** — what the table shows of the books.
-/

namespace Passthrough

open SimulatedHost

namespace Bookkeeping

variable {κ σ : Type}

/-! ## The bench -/

/-- A callback with the number of the stream that it was left for. -/
structure Labelled (κ : Type) where
  label : Nat
  callback : κ

/-- The state of an owner, and which of its callbacks have been called, oldest first. -/
structure Tally (σ : Type) where
  state : σ
  summons : List Summons := []

/-- The owner counts the calls of its callbacks, and is otherwise as it was. -/
instance [StreamOwner κ σ] : StreamOwner (Labelled κ) (Tally σ) where
  capture c properties frames t :=
    let (verdict, state) := StreamOwner.capture c.callback properties frames t.state
    (verdict, { state, summons := t.summons ++ [.data c.label verdict] })
  render c properties length t :=
    let (verdict, frames, state) := StreamOwner.render c.callback properties length t.state
    (verdict, frames, { state, summons := t.summons ++ [.data c.label verdict] })
  beforeClose c properties error t :=
    { state := StreamOwner.beforeClose c.callback properties error t.state
      summons := t.summons ++ [.beforeClose c.label] }
  afterClose c properties error t :=
    { state := StreamOwner.afterClose c.callback properties error t.state
      summons := t.summons ++ [.afterClose c.label] }

inductive Move (κ : Type)
  | plantOpenFault (d : Direction) (e : HostError)
  | plantStartFault (d : Direction) (e : HostError)
  | plantStopFault (d : Direction) (e : HostError)
  | openStream (side : Direction) (r : StreamSpec) (callback : κ)
  | start (i : Nat)
  | stop (i : Nat)
  | close (i : Nat)
  | drop (i : Nat)
  | feed (frames : List Int16)
  | draw (dest : List Int16)
  | unplug (d : Direction) (e : HostError)

/-- A host with the handles of its streams, in the order of their opening, and its books. A handle
that has been dropped is gone. -/
structure Bench (κ σ : Type) where
  host : SimulatedHost (Labelled κ) := {}
  handles : List (Option StreamHandle) := []
  state : σ
  pages : List Page := []

/-- The handle of a stream, if it has not been dropped. -/
def handleAt (handles : List (Option StreamHandle)) (i : Nat) : Option StreamHandle :=
  handles[i]?.join

namespace Bench

def handle? (b : Bench κ σ) (i : Nat) : Option StreamHandle := handleAt b.handles i

/-- A page is entered once a move is over. -/
def turn (b : Bench κ σ) (dealing : Dealing) (host : SimulatedHost (Labelled κ)) (t : Tally σ) :
    Bench κ σ :=
  { b with host, state := t.state, pages := b.pages ++ [⟨dealing, t.summons⟩] }

/-- The number of the stream that a buffer would go to. -/
def reached? (b : Bench κ σ) (d : Direction) : Option Nat :=
  (b.host.newestRunning? d).map (·.callback.label)

/-- The bench after a move. A move on a stream that has no handle does nothing. -/
def perform [StreamOwner κ σ] (b : Bench κ σ) : Move κ → Bench κ σ
  | .plantOpenFault d e => { b with host := b.host.plantOpenFault d e }
  | .plantStartFault d e => { b with host := b.host.plantStartFault d e }
  | .plantStopFault d e => { b with host := b.host.plantStopFault d e }
  | .openStream side r callback =>
    match StreamHost.openStream side r ⟨b.handles.length, callback⟩ b.host { state := b.state } with
    | (.opened s, host, t) =>
      { b.turn (.opened r.direction side) host t with handles := b.handles ++ [some s] }
    | (_, host, t) => b.turn (.refused r.direction) host t
  | .start i =>
    match b.handle? i with
    | none => b
    | some s =>
      let (answer, host, t) := StreamHost.startStream s b.host { state := b.state }
      b.turn (.started i answer) host t
  | .stop i =>
    match b.handle? i with
    | none => b
    | some s =>
      let (answer, host, t) := StreamHost.stopStream s b.host { state := b.state }
      b.turn (.stopped i answer) host t
  | .close i =>
    match b.handle? i with
    | none => b
    | some s =>
      let ((answer, s), host, t) := StreamHost.closeStream s b.host { state := b.state }
      { b.turn (.closed i answer) host t with handles := b.handles.set i (some s) }
  | .drop i =>
    match b.handle? i with
    | none => b
    | some s =>
      let ((), host, t) := StreamHost.discard s b.host { state := b.state }
      { b.turn (.dropped i) host t with handles := b.handles.set i none }
  | .feed frames =>
    let (result, host, t) := b.host.feed frames { state := b.state }
    b.turn (.pumped .input (b.reached? .input) result) host t
  | .draw dest =>
    let (result, _, host, t) := b.host.draw dest { state := b.state }
    b.turn (.pumped .output (b.reached? .output) result) host t
  | .unplug d e =>
    let (answer, host, t) := b.host.unplug d e { state := b.state }
    b.turn (.unplugged d answer) host t

def after [StreamOwner κ σ] (b : Bench κ σ) (ms : List (Move κ)) : Bench κ σ := ms.foldl perform b

end Bench

/-! ## Pages and tables -/

namespace Page

variable {p : Page} {i : Nat} {host : SimulatedHost (Labelled κ)}

/-- The table of a host after a page that opens nothing. -/
def applied (p : Page) (xs : List (SimulatedStream (Labelled κ))) :
    List (SimulatedStream (Labelled κ)) :=
  (xs.filter fun x => !p.ends x.callback.label).map fun x =>
    { x with running := (p.turned? x.callback.label).getD x.running }

/-- A page that does not turn a stream does not end it, since what ends a stream turns it off. -/
theorem ends_of_turned?_eq_none (h : p.turned? i = none) : p.ends i = false := by
  cases hends : p.ends i with
  | false => rfl
  | true =>
    rw [turned?_of_ends hends] at h
    cases h

theorem applied_of_still (h : ∀ i, p.turned? i = none) (xs : List (SimulatedStream (Labelled κ))) :
    p.applied xs = xs := by
  unfold applied
  simp [h, fun i => ends_of_turned?_eq_none (h i)]

/-- The numbers that a host gives out count from 1. -/
def Numbering (host : SimulatedHost (Labelled κ)) : Prop :=
  ∀ x ∈ host.streams, x.id = x.callback.label + 1

/-- A page that turns one stream, and ends none, acts on the table as `setRunning` does. The numbers
of the host count from 1 and those of the books from 0. -/
theorem applied_of_turned {on : Bool} (hnumbers : Numbering host)
    (hturned : ∀ j, p.turned? j = if i = j then some on else none) (hends : ∀ j, p.ends j = false) :
    p.applied host.streams = (host.setRunning (i + 1) on).streams := by
  unfold applied setRunning
  rw [List.filter_eq_self.mpr (by simp [hends])]
  refine List.map_congr_left fun x hx => ?_
  have hnumber := hnumbers x hx
  by_cases hi : i = x.callback.label
  · rw [hturned, if_pos hi, if_pos (by omega)]
    rfl
  · rw [hturned, if_neg hi, if_neg (by omega)]
    rfl

/-- A page that ends one stream acts on the table as `remove` does. The page tells of places, which
count from zero, and `remove` of numbers, which count from one: `Numbering` makes them the same
streams. -/
theorem applied_of_ended (hnumbers : Numbering host)
    (hturned : ∀ j, p.turned? j = if i = j then some false else none)
    (hends : ∀ j, p.ends j = (i == j)) :
    p.applied host.streams = (host.remove (i + 1)).streams := by
  unfold applied remove
  have hfilter : host.streams.filter (fun x => !p.ends x.callback.label)
      = host.streams.filter (·.id ≠ i + 1) := by
    refine List.filter_congr fun x hx => ?_
    rw [hends, hnumbers x hx]
    by_cases hi : i = x.callback.label
    · simp [hi]
    · simp [hi, Ne.symm hi]
  rw [hfilter]
  -- of those that are left none is turned on or off
  refine Eq.trans (List.map_congr_left fun x hx => ?_) (List.map_id _)
  obtain ⟨hmem, hne⟩ := List.mem_filter.mp hx
  have hnumber := hnumbers x hmem
  have hi : i ≠ x.callback.label := fun hi => by simp [hnumber, hi] at hne
  rw [hturned, if_neg hi]
  rfl

end Page

/-- What the table says of a stream is what the books say. -/
structure Entered (pages : List Page) (x : SimulatedStream (Labelled κ)) : Prop where
  number : x.id = x.callback.label + 1
  booked : (bookings pages)[x.callback.label]? = some ⟨x.properties.direction, x.side⟩
  running : x.running = runs pages x.callback.label

/-- **A host in order with its books.** -/
structure Kept (pages : List Page) (host : SimulatedHost (Labelled κ)) : Prop where
  opened : host.opened = (bookings pages).length
  named : Named pages
  labels : host.streams.map (·.callback.label) = live pages
  entered : ∀ x ∈ host.streams, Entered pages x

namespace Kept

variable {pages : List Page} {p : Page} {host host' : SimulatedHost (Labelled κ)} {d : Direction}
  {i : Nat} {x : SimulatedStream (Labelled κ)}

/-- In a host that is in order every number in its table is one more than that of the books. -/
theorem numbering (h : Kept pages host) : Page.Numbering host := fun x hx => (h.entered x hx).number

theorem mem_live (h : Kept pages host) (hx : x ∈ host.streams) : x.callback.label ∈ live pages :=
  h.labels ▸ List.mem_map_of_mem hx

theorem label_lt (h : Kept pages host) (hx : x ∈ host.streams) :
    x.callback.label < (bookings pages).length :=
  (Bookkeeping.mem_live.mp (h.mem_live hx)).1

/-- The host has the stream with this number just while the books have it live. So what a host
answers to a start can be told from its books. -/
theorem contains_iff (h : Kept pages host) : host.contains (i + 1) = true ↔ i ∈ live pages := by
  unfold contains
  rw [List.any_eq_true, ← h.labels, List.mem_map]
  constructor
  · rintro ⟨x, hx, hid⟩
    have hnumber := h.numbering x hx
    exact ⟨x, hx, by rw [beq_iff_eq] at hid; omega⟩
  · rintro ⟨x, hx, rfl⟩
    exact ⟨x, hx, by rw [beq_iff_eq]; exact h.numbering x hx⟩

/-! ### What the table shows -/

/-- The direction of a stream in the table is the one it was booked for. -/
theorem isIn_label (h : Kept pages host) (hx : x ∈ host.streams) :
    isIn pages d x.callback.label = decide (x.properties.direction = d) := by
  unfold isIn
  rw [(h.entered x hx).booked]
  rfl

/-- **The live streams** of a direction, as the table has them, are those of the books, in the same
order. -/
theorem labels_live (h : Kept pages host) (d : Direction) :
    (host.live d).map (·.callback.label) = liveIn pages d := by
  unfold liveIn SimulatedHost.live
  rw [← h.labels, List.filter_map]
  exact congrArg _ (List.filter_congr fun x hx => (h.isIn_label hx).symm)

theorem liveCount_eq (h : Kept pages host) (d : Direction) :
    host.liveCount d = (liveIn pages d).length := by
  rw [← h.labels_live, List.length_map]
  rfl

/-- **The stream that a buffer goes to** is the newest that runs. Table and books go through the
same streams from the newest on, and agree on each of them whether it runs. -/
theorem label_newestRunning? (h : Kept pages host) (d : Direction) :
    (host.newestRunning? d).map (·.callback.label) = Bookkeeping.newestRunning? pages d := by
  unfold SimulatedHost.newestRunning? Bookkeeping.newestRunning?
  rw [← h.labels_live, ← List.map_reverse, List.find?_map]
  refine congrArg _ (List.find?_congr fun x hx => ?_)
  exact (h.entered x (SimulatedHost.mem_live.mp (List.mem_reverse.mp hx)).1).running

theorem mem_of_newestRunning? (hx : host.newestRunning? d = some x) : x ∈ host.streams :=
  (SimulatedHost.mem_live.mp (List.mem_reverse.mp (List.mem_of_find?_eq_some hx))).1

/-! ### One more page -/

/-- A host that has done what a page says is in order with it. For a page that opens nothing this
comes down to one equation, `hstreams`: the table is the one that `Page.applied` makes of the table
before. -/
theorem page (h : Kept pages host) (hopen : p.opened? = none)
    (hnamed : ∀ i, p.turned? i ≠ none → i < (bookings pages).length)
    (hopened : host'.opened = host.opened) (hstreams : host'.streams = p.applied host.streams) :
    Kept (pages ++ [p]) host' := by
  have hbookings : bookings (pages ++ [p]) = bookings pages := by
    rw [bookings_concat, hopen, Option.toList_none, List.append_nil]
  refine ⟨?_, ?_, ?_, ?_⟩
  · rw [hbookings, hopened, h.opened]
  · intro q hq i hturned
    rw [hbookings]
    rcases List.mem_append.mp hq with hq | hq
    · exact h.named q hq i hturned
    · exact hnamed i (List.mem_singleton.mp hq ▸ hturned)
  · -- the page takes out of the table the streams that it ends, and turns the others
    rw [live_concat hopen, ← h.labels, hstreams, List.filter_map, Page.applied, List.map_map]
    rfl
  · intro x hx
    rw [hstreams] at hx
    obtain ⟨y, hy, rfl⟩ := List.mem_map.mp hx
    have hentered := h.entered y (List.mem_filter.mp hy).1
    refine ⟨hentered.number, ?_, ?_⟩
    · rw [hbookings]
      exact hentered.booked
    · rw [runs_concat, ← hentered.running]

/-- A stream that has been opened is the last in the table, and rests. Its label is the number of
streams that have been opened before, so that nothing in the books has spoken of it yet. -/
theorem opening (h : Kept pages host) {direction side : Direction}
    (hopen : p.opened? = some ⟨direction, side⟩) (hturned : ∀ i, p.turned? i = none)
    (hopened : host'.opened = host.opened + 1)
    (hstreams : host'.streams = host.streams ++ [x]) (hlabel : x.callback.label = host.opened)
    (hnumber : x.id = host.opened + 1) (hdirection : x.properties.direction = direction)
    (hside : x.side = side) (hrests : x.running = false) : Kept (pages ++ [p]) host' := by
  have hbookings : bookings (pages ++ [p]) = bookings pages ++ [⟨direction, side⟩] := by
    rw [bookings_concat, hopen, Option.toList_some]
  refine ⟨?_, ?_, ?_, ?_⟩
  · rw [hbookings, hopened, h.opened, List.length_append, List.length_singleton]
  · intro q hq i hi
    rw [hbookings, List.length_append, List.length_singleton]
    rcases List.mem_append.mp hq with hq | hq
    · exact Nat.lt_succ_of_lt (h.named q hq i hi)
    · rw [List.mem_singleton.mp hq, hturned i] at hi
      exact absurd rfl hi
  · rw [live_opening h.named hopen, hstreams, List.map_append, h.labels, List.map_singleton, hlabel,
      h.opened]
  · intro y hy
    rw [hstreams] at hy
    rcases List.mem_append.mp hy with hy | hy
    · have hentered := h.entered y hy
      refine ⟨hentered.number, ?_, ?_⟩
      · rw [getElem?_bookings_concat (h.label_lt hy)]
        exact hentered.booked
      · rw [runs_concat, hturned]
        exact hentered.running
    · -- the new stream, of which the books say nothing but where it was opened
      rw [List.mem_singleton.mp hy]
      refine ⟨?_, ?_, ?_⟩
      · rw [hnumber, hlabel]
      · rw [hbookings, hlabel, h.opened, List.getElem?_concat_length, hdirection, hside]
      · rw [runs_concat, hturned, hlabel, hrests]
        exact (h.named.runs_eq_false (Nat.le_of_eq h.opened.symm)).symm

/-- What changes nothing about any stream leaves a host in order with the same books, as when a
fault is planted. -/
theorem of_streams (h : Kept pages host) (hopened : host'.opened = host.opened)
    (hstreams : host'.streams = host.streams) : Kept pages host' where
  opened := hopened.trans h.opened
  named := h.named
  labels := hstreams ▸ h.labels
  entered x hx := h.entered x (hstreams ▸ hx)

/-- A page that changes nothing about any stream is entered, and the host is in order with it as it
is. -/
theorem still (h : Kept pages host) (hopen : p.opened? = none) (hturned : ∀ j, p.turned? j = none)
    (hopened : host'.opened = host.opened) (hstreams : host'.streams = host.streams) :
    Kept (pages ++ [p]) host' :=
  h.page hopen (fun j hj => absurd (hturned j) hj) hopened
    (hstreams.trans (Page.applied_of_still hturned host.streams).symm)

/-- A stream that is turned on or off, by a page that says so and ends nothing. The table changes as
the page tells (`Page.applied_of_turned`), and `Kept.page` needs no more. -/
theorem turned (h : Kept pages host) (on : Bool) (hopen : p.opened? = none)
    (hi : i < (bookings pages).length)
    (hturned : ∀ j, p.turned? j = if i = j then some on else none) (hends : ∀ j, p.ends j = false)
    (hopened : host'.opened = host.opened)
    (hstreams : host'.streams = (host.setRunning (i + 1) on).streams) :
    Kept (pages ++ [p]) host' := by
  refine h.page hopen (fun j hj => ?_) hopened
    (hstreams.trans (Page.applied_of_turned h.numbering hturned hends).symm)
  by_cases hij : i = j
  · exact hij ▸ hi
  · exact absurd ((hturned j).trans (if_neg hij)) hj

/-- A stream that is gone, by a page that says so: it is off, and not in the table any more. -/
theorem ended (h : Kept pages host) (hopen : p.opened? = none) (hi : i < (bookings pages).length)
    (hturned : ∀ j, p.turned? j = if i = j then some false else none)
    (hends : ∀ j, p.ends j = (i == j)) (hopened : host'.opened = host.opened)
    (hstreams : host'.streams = (host.remove (i + 1)).streams) : Kept (pages ++ [p]) host' := by
  refine h.page hopen (fun j hj => ?_) hopened
    (hstreams.trans (Page.applied_of_ended h.numbering hturned hends).symm)
  by_cases hij : i = j
  · exact hij ▸ hi
  · exact absurd ((hturned j).trans (if_neg hij)) hj

/-- What is not there can be removed: the handle of a stream that was lost may still be dropped. -/
theorem remove_of_not_live (h : Kept pages host) (hi : i ∉ live pages) :
    (host.remove (i + 1)).streams = host.streams := by
  refine List.filter_eq_self.mpr fun x hx => ?_
  have hnumber := h.numbering x hx
  have hne : x.callback.label ≠ i := fun heq => hi (heq ▸ h.mem_live hx)
  simpa using by omega

end Kept

/-! ## A bench in order -/

/-- A handle that is as the books have its stream. -/
structure Held (pages : List Page) (i : Nat) (s : StreamHandle) : Prop where
  number : s.id = i + 1
  booked : (bookings pages)[i]?.map Booking.direction = some s.properties.direction
  closed : s.closed = true ↔ i ∈ closings pages

namespace Held

variable {pages : List Page} {p : Page} {i : Nat} {s : StreamHandle}

/-- A handle is that of a stream that has been opened. -/
theorem lt (h : Held pages i s) : i < (bookings pages).length := by
  have hbooked := h.booked
  cases hi : (bookings pages)[i]? with
  | none =>
    rw [hi] at hbooked
    cases hbooked
  | some booking => exact (List.getElem?_eq_some_iff.mp hi).1

/-- The direction that a handle shows is the one its stream was booked for. `Held.booked` ties the
two together, and a direction never changes afterwards. -/
theorem isIn (h : Held pages i s) (d : Direction) :
    Bookkeeping.isIn pages d i = decide (s.properties.direction = d) := by
  have hbooked := h.booked
  unfold Bookkeeping.isIn
  cases hi : (bookings pages)[i]? with
  | none =>
    rw [hi] at hbooked
    cases hbooked
  | some booking =>
    rw [hi] at hbooked
    rw [← Option.some.inj hbooked]
    rfl

/-- A handle stays in order with one page more, unless that page closes a stream. -/
theorem concat (h : Held pages i s) (hclosed : p.closed? = none) : Held (pages ++ [p]) i s where
  number := h.number
  booked := by
    rw [getElem?_bookings_concat h.lt]
    exact h.booked
  closed := by
    rw [closings_concat, hclosed, Option.toList_none, List.append_nil]
    exact h.closed

/-- The handle of a stream that has just been closed. Its own page is where the books have it
closed, and the handle shows it from then on. -/
theorem close (h : Held pages i s) :
    Held (pages ++ [⟨.closed i (.ok ()), []⟩]) i { s with closed := true } where
  number := h.number
  booked := by
    rw [getElem?_bookings_concat h.lt]
    exact h.booked
  closed := by
    rw [closings_concat]
    simp [Page.closed?]

/-- The handle of another. The closing is entered for another place, so that what the books and this
handle say of this one stays the same. -/
theorem close_other (h : Held pages i s) {j : Nat} (hij : j ≠ i) :
    Held (pages ++ [⟨.closed j (.ok ()), []⟩]) i s where
  number := h.number
  booked := by
    rw [getElem?_bookings_concat h.lt]
    exact h.booked
  closed := by
    rw [closings_concat, h.closed, List.mem_append]
    exact ⟨.inl, fun hmem => hmem.resolve_right fun hi => hij (List.mem_singleton.mp hi).symm⟩

end Held

section Handles

variable {handles : List (Option StreamHandle)} {handle : Option StreamHandle} {i j : Nat}
  {s s' : StreamHandle}

/-- A handle that is put into the place of another. -/
theorem handleAt_set (hi : i < handles.length) :
    handleAt (handles.set i handle) j = if i = j then handle else handleAt handles j := by
  unfold handleAt
  rw [List.getElem?_set]
  by_cases hij : i = j
  · rw [if_pos hij, if_pos hij, if_pos hi]
    rfl
  · rw [if_neg hij, if_neg hij]

/-- A handle that is put behind the others. -/
theorem handleAt_concat (h : handleAt (handles ++ [some s]) j = some s') :
    handleAt handles j = some s' ∨ (j = handles.length ∧ s' = s) := by
  unfold handleAt at h ⊢
  rw [List.getElem?_append] at h
  split at h
  · exact .inl h
  · next hj =>
    cases hk : j - handles.length with
    | zero =>
      rw [hk] at h
      cases h
      exact .inr ⟨by omega, rfl⟩
    | succ k =>
      rw [hk] at h
      cases h

end Handles

/-- **A bench in order.** The host, the handles and the calls recorded are as the books have it, and
the books are sound. -/
structure Bench.InOrder (b : Bench κ σ) : Prop where
  kept : Kept b.pages b.host
  handles : b.handles.length = (bookings b.pages).length
  held : ∀ i s, b.handle? i = some s → Held b.pages i s
  closes : ∀ d, b.host.calls.count ⟨d, .close⟩ = (closings b.pages).countP (isIn b.pages d)
  sound : Sound b.pages

namespace Bench

variable {b : Bench κ σ} {i : Nat} {s : StreamHandle} {p : Page}
  {host : SimulatedHost (Labelled κ)}

/-- A page that neither opens nor closes leaves the handles as they are. So it is enough that the
host is in order with it (`Kept`), that the page is `Right`, and that no closing has been
recorded. -/
theorem InOrder.enter (h : b.InOrder) (state : σ) (hopen : p.opened? = none)
    (hclosed : p.closed? = none) (hkept : Kept (b.pages ++ [p]) host) (hright : Right b.pages p)
    (hcalls : ∀ d, host.calls.count ⟨d, .close⟩ = b.host.calls.count ⟨d, .close⟩) :
    InOrder { b with host, state, pages := b.pages ++ [p] } where
  kept := hkept
  handles := by
    rw [bookings_concat, hopen, Option.toList_none, List.append_nil]
    exact h.handles
  held i s hs := (h.held i s hs).concat hclosed
  closes d := by
    rw [hcalls, h.closes, isIn_concat hopen, closings_concat, hclosed, Option.toList_none,
      List.append_nil]
  sound := h.sound.concat hright

/-- Another handle of the same stream, or none, in the place of one. A start, a stop and a close
give back the handle that they were called with, changed, and it goes to where it was. -/
theorem InOrder.setHandle (h : b.InOrder) (hi : i < b.handles.length) {handle : Option StreamHandle}
    (hheld : ∀ s, handle = some s → Held b.pages i s) :
    InOrder { b with handles := b.handles.set i handle } where
  kept := h.kept
  handles := by
    rw [List.length_set]
    exact h.handles
  held j s hs := by
    change handleAt (b.handles.set i handle) j = some s at hs
    rw [handleAt_set hi] at hs
    split at hs
    · next hij => exact hij ▸ hheld s hs
    · exact h.held j s hs
  closes := h.closes
  sound := h.sound

/-- A fault that is planted waits. Neither the table of streams nor the log of calls is touched by
that, so there is no page for it. -/
theorem InOrder.plant (h : b.InOrder) (hopened : host.opened = b.host.opened)
    (hstreams : host.streams = b.host.streams) (hcalls : host.calls = b.host.calls) :
    InOrder { b with host } where
  kept := h.kept.of_streams hopened hstreams
  handles := h.handles
  held := h.held
  closes d := by
    rw [hcalls]
    exact h.closes d
  sound := h.sound

theorem InOrder.idle (h : b.InOrder) {d : Direction} (hnone : b.host.newestRunning? d = none) :
    InOrder (b.turn (.pumped d none none) b.host { state := b.state }) := by
  refine h.enter b.state rfl rfl (h.kept.still rfl (fun _ => rfl) rfl rfl) (.idle d ?_) fun d => rfl
  rw [← h.kept.label_newestRunning?, hnone]
  rfl

section Pumps

variable {d : Direction} {x : SimulatedStream (Labelled κ)}

/-- A stream that a buffer went to. It may have answered stop, and is off from then on; else nothing
changes. `Right` asks for the callback to be that of the newest running stream, which is where the
host took it from. -/
theorem InOrder.answer (h : b.InOrder) (hx : b.host.newestRunning? d = some x) {v : Verdict}
    {summons : List Summons} (state : σ)
    (hright : Right b.pages ⟨.pumped d (some x.callback.label) (some v), summons⟩) :
    InOrder (b.turn (.pumped d (some x.callback.label) (some v)) (b.host.answered x.id v)
      { state, summons }) := by
  have hmem := Kept.mem_of_newestRunning? hx
  refine h.enter state rfl rfl ?_ hright fun d' => by rw [calls_answered]
  cases v with
  | proceed => exact h.kept.still rfl (fun _ => rfl) rfl rfl
  | stop =>
    refine h.kept.turned false rfl (h.kept.label_lt hmem) (fun j => ?_) (fun j => rfl) rfl ?_
    · show (if some x.callback.label = some j then some false else none) = _
      simp
    · rw [← h.kept.numbering x hmem]
      rfl

theorem InOrder.newestRunning? (h : b.InOrder) (hx : b.host.newestRunning? d = some x) :
    Bookkeeping.newestRunning? b.pages d = some x.callback.label := by
  rw [← h.kept.label_newestRunning?, hx]
  rfl

/-- Whether its callback is for the right side is what the books say of it. -/
theorem InOrder.hasSide (h : b.InOrder) (hx : b.host.newestRunning? d = some x) :
    Bookkeeping.hasSide b.pages d x.callback.label = decide (x.side = d) := by
  unfold Bookkeeping.hasSide
  rw [(h.kept.entered x (Kept.mem_of_newestRunning? hx)).booked]
  rfl

theorem InOrder.reached (h : b.InOrder) (hx : b.host.newestRunning? d = some x) (hside : x.side = d)
    (v : Verdict) (state : σ) :
    InOrder (b.turn (.pumped d (some x.callback.label) (some v)) (b.host.answered x.id v)
      { state, summons := [.data x.callback.label v] }) :=
  h.answer hx state (.reached d _ v (h.newestRunning? hx) (by rw [h.hasSide hx, decide_eq_true hside]))

theorem InOrder.misled (h : b.InOrder) (hx : b.host.newestRunning? d = some x) (hside : x.side ≠ d) :
    InOrder (b.turn (.pumped d (some x.callback.label) (some .stop)) (b.host.answered x.id .stop)
      { state := b.state }) :=
  h.answer hx b.state (.misled d _ (h.newestRunning? hx) (by rw [h.hasSide hx, decide_eq_false hside]))

/-- The newest stream of a direction is lost, and has been told. It is taken out of the table
between the two notices, and one page tells of all of that. -/
theorem InOrder.lost (h : b.InOrder) (hx : (b.host.live d).getLast? = some x) (state : σ) :
    InOrder (b.turn (.unplugged d true) (b.host.remove x.id)
      { state, summons := [.beforeClose x.callback.label, .afterClose x.callback.label] }) := by
  have hmem : x ∈ b.host.streams := (SimulatedHost.mem_live.mp (List.mem_of_getLast? hx)).1
  have hlast : (liveIn b.pages d).getLast? = some x.callback.label := by
    rw [← h.kept.labels_live, List.getLast?_map, hx]
    rfl
  refine h.enter state rfl rfl ?_ (.lost d _ hlast) fun _ => rfl
  refine h.kept.ended rfl (h.kept.label_lt hmem) (fun j => ?_) (Page.ends_lost d _) rfl ?_
  · show (if Page.ends _ j = true then some false else none) = _
    rw [Page.ends_lost]
    simp
  · exact congrArg (fun id => (b.host.remove id).streams) (h.kept.numbering x hmem)

end Pumps

/-- A stream that has been opened is the last of the books, too. Its handle has the number that
comes next, and no closing in the books can be one of it. -/
theorem InOrder.opened (h : b.InOrder) (side : Direction) (r : StreamSpec) (callback : κ)
    (hopened : host.opened = b.host.opened + 1)
    (hstreams : host.streams
      = b.host.streams ++ [b.host.nextStream side r ⟨b.handles.length, callback⟩])
    (hcalls : ∀ d, host.calls.count ⟨d, .close⟩ = b.host.calls.count ⟨d, .close⟩) :
    InOrder { b.turn (.opened r.direction side) host { state := b.state } with
      handles := b.handles ++ [some { id := b.host.opened + 1, properties := b.host.granted r }] } := by
  let p : Page := ⟨.opened r.direction side, []⟩
  have hlength : b.handles.length = b.host.opened := h.handles.trans h.kept.opened.symm
  have hbookings : bookings (b.pages ++ [p]) = bookings b.pages ++ [⟨r.direction, side⟩] :=
    bookings_concat b.pages p
  -- nothing is closed by this page
  have hclosings : closings (b.pages ++ [p]) = closings b.pages := by
    rw [closings_concat]
    exact List.append_nil _
  refine ⟨?_, ?_, ?_, ?_, h.sound.concat (.opened _ _)⟩
  · exact h.kept.opening rfl (fun _ => rfl) hopened hstreams hlength rfl rfl rfl rfl
  · show (b.handles ++ [_]).length = (bookings (b.pages ++ [p])).length
    rw [hbookings, List.length_append, List.length_append, h.handles]
    rfl
  · intro j s' hs'
    show Held (b.pages ++ [p]) j s'
    rcases handleAt_concat hs' with hwas | ⟨rfl, rfl⟩
    · exact (h.held j s' hwas).concat rfl
    · refine ⟨congrArg (· + 1) hlength.symm, ?_, nofun, fun hmem => ?_⟩
      · rw [hbookings, h.handles, List.getElem?_concat_length]
        rfl
      · rw [hclosings] at hmem
        have hlt := h.kept.named.lt_of_mem_closings hmem
        rw [h.handles] at hlt
        exact absurd hlt (Nat.lt_irrefl _)
  · intro d
    show host.calls.count ⟨d, .close⟩ = (closings (b.pages ++ [p])).countP (isIn (b.pages ++ [p]) d)
    rw [hcalls, h.closes, hclosings]
    refine List.countP_congr fun i hi => ?_
    unfold isIn
    rw [getElem?_bookings_concat (h.kept.named.lt_of_mem_closings hi)]

/-- The handle of a stream that is closed says so from then on, and the books have one closing more
of its direction. That it has not been closed before is known from the handle, which the books agree
with. -/
theorem InOrder.close (h : b.InOrder) (hs : b.handle? i = some s) (hclosed : s.closed = false) :
    InOrder { b.turn (.closed i (.ok ()))
        ((b.host.record s.properties.direction .close).remove s.id) { state := b.state } with
      handles := b.handles.set i (some { s with closed := true }) } := by
  have hheld := h.held i s hs
  have hi : i < b.handles.length := Nat.lt_of_lt_of_eq hheld.lt h.handles.symm
  let p : Page := ⟨.closed i (.ok ()), []⟩
  have hclosings : closings (b.pages ++ [p]) = closings b.pages ++ [i] := closings_concat b.pages p
  -- a handle that is not marked as closed is that of a stream not closed yet
  have hnew : i ∉ closings b.pages := fun hmem => by
    rw [hheld.closed.mpr hmem] at hclosed
    cases hclosed
  have hbookings : bookings (b.pages ++ [p]) = bookings b.pages := by
    rw [bookings_concat]
    exact List.append_nil _
  refine ⟨?_, ?_, ?_, ?_, h.sound.concat (.closed i hnew)⟩
  · refine h.kept.ended rfl hheld.lt (fun j => ?_) (fun j => rfl) rfl ?_
    · show (if (i == j) = true then some false else none) = _
      simp
    · rw [hheld.number]
      rfl
  · rw [List.length_set]
    exact h.handles.trans (congrArg List.length hbookings.symm)
  · intro j s' hs'
    change handleAt (b.handles.set i (some { s with closed := true })) j = some s' at hs'
    rw [handleAt_set hi] at hs'
    split at hs'
    · next hij =>
      cases hs'
      exact hij ▸ hheld.close
    · next hij => exact (h.held j s' hs').close_other hij
  · intro d
    show List.count ⟨d, .close⟩ (b.host.calls ++ [⟨s.properties.direction, .close⟩])
      = (closings (b.pages ++ [p])).countP (isIn (b.pages ++ [p]) d)
    rw [isIn_concat rfl, hclosings, List.countP_append, List.count_append, h.closes,
      List.countP_singleton, hheld.isIn, List.count_singleton]
    by_cases hd : s.properties.direction = d <;> simp [hd]

end Bench

end Bookkeeping

end Passthrough
