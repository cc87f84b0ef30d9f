import Passthrough.Host.Simulated
/-!
# The streams of the simulated host

What the calls of the simulated host do to its table of live streams, seen one direction at a time
through `live`, and what no call does: a stream keeps its number and its properties, and a new one
gets a number that no other stream ever had (`Follows`).
-/

namespace Passthrough

namespace SimulatedHost

variable {κ : Type}

/-! ## The live streams of a direction -/

/-- A stream is live in the direction of its properties, which are those that it was requested with.
The side that its callback serves does not come into it. -/
theorem mem_live {h : SimulatedHost κ} {d : Direction} {x : SimulatedStream κ} :
    x ∈ h.live d ↔ x ∈ h.streams ∧ x.properties.direction = d := by
  simp [live]

@[simp] theorem live_record (h : SimulatedHost κ) (d e : Direction) (op : CallKind) :
    (h.record d op).live e = h.live e := rfl

/-- Removing a stream by its number removes it from its own direction, and leaves the order of the
others as it was. -/
theorem live_remove (h : SimulatedHost κ) (id : Nat) (d : Direction) :
    (h.remove id).live d = (h.live d).filter (·.id ≠ id) := by
  unfold live remove
  simp only [List.filter_filter, Bool.and_comm]

/-- Switching a stream by its number changes the mark of that one stream. No stream joins a
direction or leaves it, so `liveIds_setRunning` needs no more than this. -/
theorem live_setRunning (h : SimulatedHost κ) (id : Nat) (running : Bool) (d : Direction) :
    (h.setRunning id running).live d
      = (h.live d).map fun s => if s.id = id then { s with running } else s := by
  unfold live setRunning
  simp only [List.filter_map]
  congr 1
  apply List.filter_congr
  intro s _
  by_cases hs : s.id = id <;> simp [hs]

/-- The live streams are read off the table alone: whatever else a host has recorded or has been
told to do makes no difference. -/
theorem live_eq_of_streams {h h' : SimulatedHost κ} (hs : h'.streams = h.streams)
    (d : Direction) : h'.live d = h.live d := by
  unfold live
  rw [hs]

/-- A table with one more stream at its end has it at the end of its own direction, and nowhere
else. -/
theorem live_append {h h' : SimulatedHost κ} {x : SimulatedStream κ}
    (hs : h'.streams = h.streams ++ [x]) (d : Direction) :
    h'.live d = if x.properties.direction = d then h.live d ++ [x] else h.live d := by
  unfold live
  rw [hs, List.filter_append]
  split
  · next hd => simp [hd]
  · next hd => simp [hd]

/-- Numbers that no stream of a direction has may be removed without effect on it. `Occupied.id_ne`
provides the hypothesis for the other side of an engine. -/
theorem live_remove_of_ne {h : SimulatedHost κ} {id : Nat} {d : Direction}
    (hne : ∀ x ∈ h.live d, x.id ≠ id) : (h.remove id).live d = h.live d := by
  rw [live_remove]
  apply List.filter_eq_self.mpr
  intro x hx
  simpa using hne x hx

/-- Numbers that no stream of a direction has may be switched without effect on it, as they may be
removed (`live_remove_of_ne`). -/
theorem live_setRunning_of_ne {h : SimulatedHost κ} {id : Nat} {running : Bool} {d : Direction}
    (hne : ∀ x ∈ h.live d, x.id ≠ id) : (h.setRunning id running).live d = h.live d := by
  rw [live_setRunning]
  calc (h.live d).map (fun s => if s.id = id then { s with running } else s)
      = (h.live d).map (fun s => s) := List.map_congr_left fun x hx => if_neg (hne x hx)
    _ = h.live d := List.map_id' (h.live d)

/-! ## Numbers stay -/

/-- The numbers of the live streams have been given out. -/
def Numbered (h : SimulatedHost κ) : Prop := ∀ x ∈ h.streams, x.id ≤ h.opened

/-- **One state of the host after another.** The number of streams opened only grows, and every
live stream is either new, with a new number, or was live before with the same properties. -/
structure Follows (h h' : SimulatedHost κ) : Prop where
  opened : h.opened ≤ h'.opened
  streams : ∀ x ∈ h'.streams,
    (h.opened < x.id ∧ x.id ≤ h'.opened)
      ∨ ∃ y ∈ h.streams, y.id = x.id ∧ y.properties = x.properties

theorem Follows.refl (h : SimulatedHost κ) : Follows h h where
  opened := Nat.le_refl _
  streams x hx := Or.inr ⟨x, hx, rfl, rfl⟩

/-- A host that follows a host that follows has followed. A stream that is new in the first part has
a number beyond those given out before, and keeps it in the second. -/
theorem Follows.trans {h₁ h₂ h₃ : SimulatedHost κ} (h : Follows h₁ h₂) (h' : Follows h₂ h₃) :
    Follows h₁ h₃ where
  opened := Nat.le_trans h.opened h'.opened
  streams := by
    intro x hx
    rcases h'.streams x hx with ⟨hlow, hhigh⟩ | ⟨y, hy, hid, hprops⟩
    · exact Or.inl ⟨Nat.lt_of_le_of_lt h.opened hlow, hhigh⟩
    · rcases h.streams y hy with ⟨hlow, hhigh⟩ | ⟨z, hz, hid', hprops'⟩
      · exact Or.inl (hid ▸ ⟨hlow, Nat.le_trans hhigh h'.opened⟩)
      · exact Or.inr ⟨z, hz, hid'.trans hid, hprops'.trans hprops⟩

/-- Numbers that have been given out stay so, since `Follows` lets that count only grow. -/
theorem Numbered.of_follows {h h' : SimulatedHost κ} (hn : Numbered h) (hf : Follows h h') :
    Numbered h' := by
  intro x hx
  rcases hf.streams x hx with ⟨_, hhigh⟩ | ⟨y, hy, hid, _⟩
  · exact hhigh
  · exact hid ▸ Nat.le_trans (hn y hy) hf.opened

/-- The number of the next stream is new: no live stream of any direction has it. -/
theorem Numbered.id_ne_next {h : SimulatedHost κ} (hn : Numbered h) {d : Direction} :
    ∀ x ∈ h.live d, x.id ≠ h.opened + 1 := by
  intro x hx hid
  have hle : x.id ≤ h.opened := hn x (mem_live.mp hx).1
  omega

/-- A host with the same streams has followed, whatever else it has recorded or has been told to
do. -/
theorem Follows.of_streams {h h' : SimulatedHost κ} (hopened : h'.opened = h.opened)
    (hstreams : h'.streams = h.streams) : Follows h h' where
  opened := Nat.le_of_eq hopened.symm
  streams x hx := Or.inr ⟨x, hstreams ▸ hx, rfl, rfl⟩

theorem follows_record (h : SimulatedHost κ) (d : Direction) (op : CallKind) :
    Follows h (h.record d op) := .of_streams rfl rfl

/-- Removing a stream makes none and renames none. It is what a close and the loss of a device
do. -/
theorem follows_remove (h : SimulatedHost κ) (id : Nat) : Follows h (h.remove id) where
  opened := Nat.le_refl _
  streams x hx := Or.inr ⟨x, (List.mem_filter.mp hx).1, rfl, rfl⟩

/-- Switching a stream on or off makes none and renames none. It is what a start, a stop and a
verdict of a callback do. -/
theorem follows_setRunning (h : SimulatedHost κ) (id : Nat) (running : Bool) :
    Follows h (h.setRunning id running) where
  opened := Nat.le_refl _
  streams := by
    intro x hx
    obtain ⟨y, hy, rfl⟩ := List.mem_map.mp hx
    refine Or.inr ⟨y, hy, ?_, ?_⟩ <;> split <;> rfl

/-- One new stream under the next number, which is what an opening adds to the table. -/
theorem follows_append {h h' : SimulatedHost κ} {x : SimulatedStream κ}
    (hstreams : h'.streams = h.streams ++ [x]) (hopened : h'.opened = h.opened + 1)
    (hx : x.id = h.opened + 1) : Follows h h' where
  opened := by omega
  streams := by
    intro y hy
    rw [hstreams] at hy
    rcases List.mem_append.mp hy with hold | hnew
    · exact Or.inr ⟨y, hold, rfl, rfl⟩
    · rw [List.mem_singleton.mp hnew]
      exact Or.inl (by omega)

/-! ## The live streams by their numbers -/

def liveIds (h : SimulatedHost κ) (d : Direction) : List Nat := (h.live d).map (·.id)

/-- The number of live streams of a direction, as a protocol of the host reports it, is that of
their numbers. -/
theorem liveCount_eq (h : SimulatedHost κ) (d : Direction) :
    h.liveCount d = (h.liveIds d).length :=
  (List.length_map _).symm

@[simp] theorem liveIds_record (h : SimulatedHost κ) (d e : Direction) (op : CallKind) :
    (h.record d op).liveIds e = h.liveIds e := rfl

/-- A stream that is switched keeps its number, so that starts and stops are invisible in
`liveIds`. -/
theorem liveIds_setRunning (h : SimulatedHost κ) (id : Nat) (running : Bool) (d : Direction) :
    (h.setRunning id running).liveIds d = h.liveIds d := by
  unfold liveIds
  rw [live_setRunning, List.map_map]
  refine List.map_congr_left fun x _ => ?_
  show (if x.id = id then { x with running } else x).id = x.id
  split <;> rfl

theorem liveIds_remove (h : SimulatedHost κ) (id : Nat) (d : Direction) :
    (h.remove id).liveIds d = (h.liveIds d).filter (· ≠ id) := by
  unfold liveIds
  rw [live_remove, List.filter_map]
  rfl

/-- A new stream adds its number at the end of its own direction. -/
theorem liveIds_append {h h' : SimulatedHost κ} {x : SimulatedStream κ}
    (hs : h'.streams = h.streams ++ [x]) (d : Direction) :
    h'.liveIds d
      = if x.properties.direction = d then h.liveIds d ++ [x.id] else h.liveIds d := by
  unfold liveIds
  rw [live_append hs]
  split
  · exact List.map_append
  · rfl

/-- **What is left when nothing is opened.** No number is given out, and no stream comes to life. -/
structure Thins (h h' : SimulatedHost κ) : Prop where
  opened : h'.opened = h.opened
  live : ∀ d, (h'.liveIds d).Sublist (h.liveIds d)

theorem Thins.refl (h : SimulatedHost κ) : Thins h h := ⟨rfl, fun _ => .refl _⟩

/-- A host that has given out no number, and has the same streams by their numbers, has only
thinned. -/
theorem Thins.of_ids {h h' : SimulatedHost κ} (hopened : h'.opened = h.opened)
    (hids : ∀ d, h'.liveIds d = h.liveIds d) : Thins h h' :=
  ⟨hopened, fun d => hids d ▸ .refl _⟩

theorem Thins.of_streams {h h' : SimulatedHost κ} (hopened : h'.opened = h.opened)
    (hstreams : h'.streams = h.streams) : Thins h h' :=
  .of_ids hopened fun d => congrArg (List.map SimulatedStream.id) (live_eq_of_streams hstreams d)

/-- Recording a call and switching a stream opens nothing, so a start and a stop only thin a
host. -/
theorem thins_switch (h : SimulatedHost κ) (d : Direction) (op : CallKind) (id : Nat)
    (running : Bool) : Thins h ((h.record d op).setRunning id running) :=
  .of_ids rfl fun d' => liveIds_setRunning (h.record d op) id running d'

theorem thins_remove (h : SimulatedHost κ) (id : Nat) : Thins h (h.remove id) where
  opened := rfl
  live d := by
    rw [liveIds_remove]
    exact List.filter_sublist

/-! ## The calls -/

/-- The stream that opens next for this request. -/
def nextStream (h : SimulatedHost κ) (side : Direction) (r : StreamSpec) (callback : κ) :
    SimulatedStream κ :=
  ⟨h.opened + 1, h.granted r, side, callback, false⟩

/-- **Opening.** A planted fault refuses the request and is used up; otherwise the next stream
opens, and its handle has its number and its properties. -/
theorem openStream_cases (side : Direction) (r : StreamSpec) (callback : κ) (h : SimulatedHost κ) :
    (∃ source h', openStream side r callback h = (.refused source, h')
        ∧ h'.streams = h.streams ∧ h'.opened = h.opened)
      ∨ (∃ h', openStream side r callback h
            = (.opened { id := h.opened + 1, properties := h.granted r }, h')
          ∧ h'.streams = h.streams ++ [h.nextStream side r callback]
          ∧ h'.opened = h.opened + 1) := by
  unfold openStream
  simp only [record]
  cases hf : (h.faults.get r.direction).openStream with
  | some source => exact Or.inl ⟨source, _, rfl, rfl, rfl⟩
  | none => exact Or.inr ⟨_, rfl, rfl, rfl⟩

/-- **Starting.** The call succeeds and the stream runs, or it fails and the streams stay as they
are. It cannot succeed for a stream that is gone. -/
theorem startStream_cases (s : StreamHandle) (h : SimulatedHost κ) :
    (∃ source h', startStream s h = (.error source, h')
        ∧ h'.streams = h.streams ∧ h'.opened = h.opened)
      ∨ (startStream s h = (.ok (), (h.record s.properties.direction .start).setRunning s.id true)
          ∧ h.contains s.id = true) := by
  unfold startStream
  dsimp only
  split
  · exact Or.inl ⟨_, _, rfl, rfl, rfl⟩
  · split
    · next source _ => exact Or.inl ⟨source, _, rfl, rfl, rfl⟩
    · split
      · next hc => exact Or.inr ⟨rfl, hc⟩
      · exact Or.inl ⟨_, _, rfl, rfl, rfl⟩

/-- A live stream starts, if no fault waits for it: the call is on record, and the stream runs. -/
theorem startStream_of_live {s : StreamHandle} {h : SimulatedHost κ} (hs : s.closed = false)
    (hlive : h.contains s.id = true) (hfault : (h.faults.get s.properties.direction).start = none) :
    startStream s h = (.ok (), (h.record s.properties.direction .start).setRunning s.id true) := by
  have hlive' : (h.record s.properties.direction .start).contains s.id = true := hlive
  have hfault' : ((h.record s.properties.direction .start).faults.get
      s.properties.direction).start = none := hfault
  unfold startStream
  simp only [hs, hfault', hlive', Bool.false_eq_true, if_false, if_true]

/-- A fault that waits is answered, and used up, so that the next start of that direction finds
none. The stream stays as it is. -/
theorem startStream_of_fault {s : StreamHandle} {source : HostError} {h : SimulatedHost κ}
    (hs : s.closed = false)
    (hfault : (h.faults.get s.properties.direction).start = some source) :
    startStream s h = (.error source, { h.record s.properties.direction .start with
      faults := h.faults.modify s.properties.direction ({ · with start := none }) }) := by
  have hfault' : ((h.record s.properties.direction .start).faults.get
      s.properties.direction).start = some source := hfault
  unfold startStream
  simp only [hs, hfault', Bool.false_eq_true, if_false]
  rfl

/-- A stop is refused with all streams as they were, or the stream rests. Which of the two depends
on the faults that were planted, and no caller has to know that. -/
theorem stopStream_cases (s : StreamHandle) (h : SimulatedHost κ) :
    (∃ source h', stopStream s h = (.error source, h')
        ∧ h'.streams = h.streams ∧ h'.opened = h.opened)
      ∨ stopStream s h
          = (.ok (), (h.record s.properties.direction .stop).setRunning s.id false) := by
  unfold stopStream
  dsimp only
  split
  · exact Or.inl ⟨_, _, rfl, rfl, rfl⟩
  · split
    · next source _ => exact Or.inl ⟨source, _, rfl, rfl, rfl⟩
    · exact Or.inr rfl

/-- A handle that is closed is not closed again: the answer is an error, and the host does not even
record the call. -/
theorem closeStream_of_closed {s : StreamHandle} (hs : s.closed = true) (h : SimulatedHost κ) :
    closeStream s h = ((.error .closed, s), h) := by
  unfold closeStream
  rw [hs]
  rfl

/-- A handle that is not closed is closed whatever the hardware has done: the call is on record, and
the stream, if it is still there, is gone. -/
theorem closeStream_of_unclosed {s : StreamHandle} (hs : s.closed = false) (h : SimulatedHost κ) :
    closeStream s h = ((.ok (), { s with closed := true }),
      (h.record s.properties.direction .close).remove s.id) := by
  unfold closeStream
  rw [hs]
  rfl

/-! What is not opened or closed at most runs or rests afterwards. -/

/-- Sizing a buffer changes no stream in a way that its number or its direction would show. -/
theorem thins_setBufferSize (s : StreamHandle) (frames : Nat) (h : SimulatedHost κ) :
    Thins h (setBufferSize s frames h).2 := by
  unfold setBufferSize
  split <;> exact .refl h

/-- A start opens nothing, granted or refused. -/
theorem thins_startStream (s : StreamHandle) (h : SimulatedHost κ) :
    Thins h (startStream s h).2 := by
  rcases startStream_cases s h with ⟨source, h', hask, hstreams, hopened⟩ | ⟨hask, _⟩
  · rw [hask]
    exact .of_streams hopened hstreams
  · rw [hask]
    exact thins_switch _ _ _ _ _

/-- A stop opens nothing either, granted or refused. -/
theorem thins_stopStream (s : StreamHandle) (h : SimulatedHost κ) :
    Thins h (stopStream s h).2 := by
  rcases stopStream_cases s h with ⟨source, h', hask, hstreams, hopened⟩ | hask
  · rw [hask]
    exact .of_streams hopened hstreams
  · rw [hask]
    exact thins_switch _ _ _ _ _

/-! ## The hardware -/

theorem thins_answered (h : SimulatedHost κ) (id : Nat) (v : Verdict) :
    Thins h (h.answered id v) := by
  cases v with
  | proceed => exact .refl h
  | stop => exact .of_ids rfl fun d => liveIds_setRunning h id false d

variable {σ : Type} [StreamOwner κ σ]

/-- A capture opens nothing: what the callback answers decides whether its stream goes on. -/
theorem thins_feed (frames : List Int16) (h : SimulatedHost κ) (line : σ) :
    Thins h (h.feed frames line).2.1 := by
  unfold feed
  cases h.newestRunning? .input with
  | none => exact .refl h
  | some stream => exact thins_answered _ _ _

theorem thins_draw (dest : List Int16) (h : SimulatedHost κ) (line : σ) :
    Thins h (h.draw dest line).2.2.1 := by
  unfold draw
  cases h.newestRunning? .output with
  | none => exact .refl h
  | some stream => exact thins_answered _ _ _

/-- A device that goes away takes its stream with it, and the handle of that stream stays behind; no
other stream comes in its place by itself. -/
theorem thins_unplug (d : Direction) (error : HostError) (h : SimulatedHost κ) (line : σ) :
    Thins h (h.unplug d error line).2.1 := by
  unfold unplug
  cases (h.live d).getLast? with
  | none => exact .refl h
  | some stream => exact thins_remove h stream.id

end SimulatedHost

end Passthrough
