import Mathlib.Data.List.DropRight
import Passthrough.Period.Channel
/-!
# The channel and its history

A channel keeps one period and two numbers, and is used in three ways: a period is published, the
period held is consumed, or all is forgotten. What it answers is determined by how it has been used.

The history is a list of uses, with slices of any length. From it alone are read the periods
published since the last reset (`published`), whether one of them is still to be read (`unread`),
what a reader gets (`latest`) and how fresh that is (`freshness`).

* **`Reflects`** — what the channel holds is what its history says.
* **`reflects_after`** — it holds so after any use of a new channel.
* **`answers_from_history`** — every answer, and every count, from the history.
-/

namespace Passthrough

namespace Freshness

def isFresh : Freshness → Bool
  | .fresh _ => true
  | _ => false

def isRepeated : Freshness → Bool
  | .repeated _ => true
  | _ => false

def isSilence : Freshness → Bool
  | .silence => true
  | _ => false

end Freshness

namespace Channel

/-! ## Uses -/

/-- One use of a channel, by its writer, its reader or its owner. -/
inductive Use
  | publish (frames : List Int16)
  | consume (dest : List Int16)
  | reset
  deriving DecidableEq

/-- What a writer is answered, and the channel afterwards. -/
def write (frames : List Int16) (c : Channel) : Except WrongLength Nat × Channel :=
  match c.publish frames with
  | .ok (sequence, c) => (.ok sequence, c)
  | .error mismatch => (.error mismatch, c)

/-- What a reader is answered, what is in its destination afterwards, and the channel. -/
def read (dest : List Int16) (c : Channel) :
    Except WrongLength Freshness × List Int16 × Channel :=
  match c.consume dest.length with
  | .ok (freshness, frames, c) => (.ok freshness, frames, c)
  | .error mismatch => (.error mismatch, dest, c)

/-- The channel after one use. -/
def step (u : Use) (c : Channel) : Channel :=
  match u with
  | .publish frames => (c.write frames).2
  | .consume dest => (c.read dest).2.2
  | .reset => c.reset

/-- The channel after a history of uses, oldest first. -/
def after (c : Channel) (us : List Use) : Channel := us.foldl (fun c u => c.step u) c

/-- What the reader is told by one use, if it is told anything. -/
def report? (u : Use) (c : Channel) : Option Freshness :=
  match u with
  | .consume dest => (c.read dest).1.toOption
  | _ => none

/-- What the reader is told along a history. -/
def reports (c : Channel) : List Use → List Freshness
  | [] => []
  | u :: us => (c.report? u).toList ++ (c.step u).reports us

/-- A history with one more use at its end, which is the direction in which `reflects_after`
goes. -/
theorem after_concat (c : Channel) (us : List Use) (u : Use) :
    c.after (us ++ [u]) = (c.after us).step u :=
  List.foldl_concat ..

variable {c : Channel} {n : Nat} {frames dest : List Int16} {us : List Use} {u : Use}

/-- A writer whose slice is one period long is answered the next number, and the channel holds the
slice. -/
theorem write_of_length (h : frames.length = c.length) :
    c.write frames = (.ok (c.sequence + 1), { c with
      samples := frames
      sequence := c.sequence + 1
      counts := { c.counts with written := c.counts.written + 1 } }) := by
  simp [write, publish, h]

/-- A writer whose slice has another length is refused with both lengths, and the channel stays. -/
theorem write_of_length_ne (h : frames.length ≠ c.length) :
    c.write frames = (.error ⟨c.length, frames.length⟩, c) := by
  simp [write, publish, h]

/-- A reader whose destination is one period long is told how fresh the period is, and gets what the
channel holds. With `read_of_length_ne` this is all that reading does. -/
theorem read_of_length (h : dest.length = c.length) :
    c.read dest = (.ok c.nextFreshness, c.samples, { c with
      lastConsumed := c.sequence
      counts := c.counts.count c.nextFreshness }) := by
  simp [read, consume, h]

/-- A reader whose destination has another length is refused, and the destination keeps its
content. -/
theorem read_of_length_ne (h : dest.length ≠ c.length) :
    c.read dest = (.error ⟨c.length, dest.length⟩, dest, c) := by
  simp [read, consume, h]

/-! ## What a history says -/

namespace Use

/-- The period that a use publishes into a channel of this length. -/
def published? (n : Nat) : Use → Option (List Int16)
  | .publish frames => if frames.length = n then some frames else none
  | _ => none

def publishes (n : Nat) (u : Use) : Bool := (u.published? n).isSome

/-- Whether a use reads from a channel of this length. -/
def reads (n : Nat) : Use → Bool
  | .consume dest => dest.length = n
  | _ => false

def isReset : Use → Bool
  | .reset => true
  | _ => false

end Use

/-- The periods published since the last reset, oldest first. -/
def published (n : Nat) (us : List Use) : List (List Int16) :=
  (us.rtakeWhile fun u => !u.isReset).filterMap (Use.published? n)

/-- Whether a period has been published since the last read and the last reset. -/
def unread (n : Nat) (us : List Use) : Bool :=
  (us.rtakeWhile fun u => !u.isReset && !u.reads n).any (Use.publishes n)

/-- What a reader gets: the period published last, or zeros if there is none. -/
def latest (n : Nat) (us : List Use) : List Int16 :=
  (published n us).getLast?.getD (List.replicate n 0)

/-- What a reader is told. -/
def freshness (n : Nat) (us : List Use) : Freshness :=
  if published n us = [] then .silence
  else if unread n us then .fresh (published n us).length
  else .repeated (published n us).length

theorem published_reset (n : Nat) (us : List Use) : published n (us ++ [.reset]) = [] := by
  simp [published, Use.isReset]

/-- A use that is no reset adds what it publishes, if anything. Slices of another length publish
nothing. -/
theorem published_concat (h : u.isReset = false) :
    published n (us ++ [u]) = published n us ++ (u.published? n).toList := by
  cases hu : u.published? n <;> simp [published, h, hu]

theorem unread_reset (n : Nat) (us : List Use) : unread n (us ++ [.reset]) = false := by
  simp [unread, Use.isReset]

/-- After a read nothing is unread, however many periods had been published before it. -/
theorem unread_of_reads (h : u.reads n = true) : unread n (us ++ [u]) = false := by
  simp [unread, h]

theorem unread_concat (h : u.isReset = false) (h' : u.reads n = false) :
    unread n (us ++ [u]) = (unread n us || u.publishes n) := by
  simp [unread, h, h']

/-- Everything that is held fills a destination of the length of the channel, the zeros of a new one
included. -/
theorem length_latest (n : Nat) (us : List Use) : (latest n us).length = n := by
  unfold latest
  cases hlast : (published n us).getLast? with
  | none => exact List.length_replicate
  | some frames =>
    obtain ⟨u, _, hu⟩ := List.mem_filterMap.mp (List.mem_of_getLast? hlast)
    unfold Use.published? at hu
    split at hu
    · split at hu
      · next hlen =>
        cases hu
        exact hlen
      · cases hu
    · cases hu

/-! ## Counting -/

/-- The counts after one use. They are never taken back, not even by a reset, so each is the old
count and what this use adds to it. -/
theorem counts_step (c : Channel) (u : Use) :
    (c.step u).counts.written = c.counts.written + (if u.publishes c.length then 1 else 0)
      ∧ (c.step u).counts.fresh
          = c.counts.fresh + (c.report? u).toList.countP Freshness.isFresh
      ∧ (c.step u).counts.repeated
          = c.counts.repeated + (c.report? u).toList.countP Freshness.isRepeated
      ∧ (c.step u).counts.silent
          = c.counts.silent + (c.report? u).toList.countP Freshness.isSilence := by
  cases u with
  | reset => exact ⟨rfl, rfl, rfl, rfl⟩
  | publish frames =>
    by_cases h : frames.length = c.length
    · simp [step, report?, write_of_length h, Use.publishes, Use.published?, h]
    · simp [step, report?, write_of_length_ne h, Use.publishes, Use.published?, h]
  | consume dest =>
    by_cases h : dest.length = c.length
    · simp only [step, report?, read_of_length h, Use.publishes, Use.published?]
      -- what is counted is the freshness that the reader has been told
      cases c.nextFreshness <;> exact ⟨rfl, rfl, rfl, rfl⟩
    · simp [step, report?, read_of_length_ne h, Use.publishes, Use.published?, Except.toOption]

/-- No use changes the length of a channel. A write is taken only at this length, a read only
copies, and a reset fills with as many zeros. -/
theorem length_step (c : Channel) (u : Use) : (c.step u).length = c.length := by
  cases u with
  | reset => exact length_reset c
  | publish frames =>
    by_cases h : frames.length = c.length
    · rw [step, write_of_length h]
      exact h
    · simp [step, write_of_length_ne h]
  | consume dest =>
    by_cases h : dest.length = c.length
    · simp [step, read_of_length h, length]
    · simp [step, read_of_length_ne h]

/-- **The counts after a history** are those from before and the uses of each kind since, by
induction with `counts_step`. -/
theorem counts_after (c : Channel) (us : List Use) :
    (c.after us).counts.written = c.counts.written + us.countP (Use.publishes c.length)
      ∧ (c.after us).counts.fresh
          = c.counts.fresh + (c.reports us).countP Freshness.isFresh
      ∧ (c.after us).counts.repeated
          = c.counts.repeated + (c.reports us).countP Freshness.isRepeated
      ∧ (c.after us).counts.silent
          = c.counts.silent + (c.reports us).countP Freshness.isSilence := by
  -- by induction on the history, for any channel that it may start from
  induction us generalizing c with
  | nil => exact ⟨rfl, rfl, rfl, rfl⟩
  | cons u us ih =>
    obtain ⟨hwritten, hfresh, hrepeated, hsilent⟩ := ih (c.step u)
    obtain ⟨hwritten₁, hfresh₁, hrepeated₁, hsilent₁⟩ := counts_step c u
    have hrun : c.after (u :: us) = (c.step u).after us := rfl
    rw [length_step] at hwritten
    rw [hrun, hwritten, hfresh, hrepeated, hsilent, hwritten₁, hfresh₁, hrepeated₁, hsilent₁]
    simp only [reports, List.countP_append, List.countP_cons]
    refine ⟨?_, ?_, ?_, ?_⟩ <;> omega

/-! ## The channel reflects its history -/

/-- **A channel and its history.** The two numbers of the channel differ exactly while something is
unread; and what has been read fresh, with what is unread, has been written. -/
structure Reflects (n : Nat) (us : List Use) (c : Channel) : Prop where
  samples : c.samples = latest n us
  sequence : c.sequence = (published n us).length
  lastConsumed_le : c.lastConsumed ≤ c.sequence
  lastConsumed_eq_iff : c.lastConsumed = c.sequence ↔ unread n us = false
  read_le_written : c.counts.fresh + (unread n us).toNat ≤ c.counts.written

theorem reflects_new (n : Nat) : Reflects n [] (ofLength n) :=
  ⟨rfl, rfl, Nat.le_refl _, by simp [ofLength, unread], Nat.le_refl _⟩

theorem Reflects.length (h : Reflects n us c) : c.length = n := by
  unfold Channel.length
  rw [h.samples]
  exact length_latest n us

/-- The reader is told what the history says: silence where nothing was published since the last
reset, fresh where something is unread, and repeated otherwise. -/
theorem Reflects.nextFreshness (h : Reflects n us c) : c.nextFreshness = freshness n us := by
  have hzero : c.sequence = 0 ↔ published n us = [] := by
    rw [h.sequence, List.length_eq_zero_iff]
  have hread : c.sequence = c.lastConsumed ↔ unread n us = false :=
    eq_comm.trans h.lastConsumed_eq_iff
  unfold Channel.nextFreshness freshness
  simp only [hzero, hread, ← h.sequence]
  cases unread n us <;> simp

/-- A use that the channel refuses is none, to the channel and to its history alike. So one of a
wrong length leaves no trace in what is held, in the numbers or in what is unread. -/
theorem Reflects.ignored (h : Reflects n us c) (hreset : u.isReset = false)
    (hreads : u.reads n = false) (hpublishes : u.published? n = none) :
    Reflects n (us ++ [u]) c := by
  have hpublished : published n (us ++ [u]) = published n us := by
    rw [published_concat hreset, hpublishes, Option.toList_none, List.append_nil]
  have hunread : unread n (us ++ [u]) = unread n us := by
    rw [unread_concat hreset hreads, Use.publishes, hpublishes]
    exact Bool.or_false _
  refine ⟨?_, ?_, h.lastConsumed_le, ?_, ?_⟩
  · rw [latest, hpublished]
    exact h.samples
  · rw [hpublished]
    exact h.sequence
  · rw [hunread]
    exact h.lastConsumed_eq_iff
  · rw [hunread]
    exact h.read_le_written

/-- A period that is published is the last of the history, and unread. The number of the channel
goes up by one, so that it differs from the one read last, and a differing number is what makes the
next read fresh. -/
theorem Reflects.publish (h : Reflects n us c) (hlen : frames.length = n) :
    Reflects n (us ++ [.publish frames]) (c.step (.publish frames)) := by
  have hpublished? : (Use.publish frames).published? n = some frames := if_pos hlen
  have hpublished : published n (us ++ [.publish frames]) = published n us ++ [frames] := by
    rw [published_concat rfl, hpublished?]
    rfl
  have hunread : unread n (us ++ [.publish frames]) = true := by
    rw [unread_concat rfl rfl, Use.publishes, hpublished?]
    exact Bool.or_true _
  simp only [step, write_of_length (hlen.trans h.length.symm)]
  refine ⟨?_, ?_, Nat.le_succ_of_le h.lastConsumed_le, ?_, ?_⟩
  · rw [latest, hpublished, List.getLast?_concat]
    rfl
  · rw [hpublished, List.length_append, h.sequence]
    rfl
  -- the number read last is one of those before the new one
  · have hlt : c.lastConsumed ≠ c.sequence + 1 := by
      have := h.lastConsumed_le
      omega
    simp [hlt, hunread]
  · have hle := Nat.le_of_add_right_le h.read_le_written
    rw [hunread]
    exact Nat.succ_le_succ hle

/-- A period that is consumed leaves nothing unread, and what has been published stays to be
repeated. It is fresh or repeated by the same test on both sides (`Reflects.nextFreshness`). -/
theorem Reflects.consume (h : Reflects n us c) (hlen : dest.length = n) :
    Reflects n (us ++ [.consume dest]) (c.step (.consume dest)) := by
  have hpublished : published n (us ++ [.consume dest]) = published n us := by
    rw [published_concat rfl]
    exact List.append_nil _
  have hunread : unread n (us ++ [.consume dest]) = false :=
    unread_of_reads (decide_eq_true hlen)
  simp only [step, read_of_length (hlen.trans h.length.symm)]
  refine ⟨?_, ?_, Nat.le_refl _, by simp [hunread], ?_⟩
  · rw [latest, hpublished]
    exact h.samples
  · rw [hpublished]
    exact h.sequence
  -- a period read fresh is the one that was unread
  · have hle := h.read_le_written
    rw [hunread, h.nextFreshness]
    unfold freshness
    cases hwas : unread n us with
    | false =>
      rw [hwas] at hle
      split <;> exact hle
    | true =>
      rw [hwas] at hle
      split
      · exact Nat.le_of_add_right_le hle
      · exact hle

/-- A reset empties both. The two numbers of the channel meet in it, so that the next period counts
as fresh. -/
theorem Reflects.reset (h : Reflects n us c) :
    Reflects n (us ++ [.reset]) (c.step .reset) := by
  refine ⟨?_, ?_, Nat.le_refl _, by simp [step, Channel.reset, unread_reset], ?_⟩
  · rw [latest, published_reset]
    show List.replicate c.length 0 = List.replicate n 0
    rw [h.length]
  · rw [published_reset]
    rfl
  · rw [unread_reset]
    exact Nat.le_of_add_right_le h.read_le_written

/-- **One use** of any kind keeps channel and history together, in the three cases above and where
it is refused. -/
theorem Reflects.step (h : Reflects n us c) (u : Use) : Reflects n (us ++ [u]) (c.step u) := by
  cases u with
  | reset => exact h.reset
  | publish frames =>
    by_cases hlen : frames.length = n
    · exact h.publish hlen
    · have hsame : c.step (.publish frames) = c := by
        rw [Channel.step, write_of_length_ne (by rwa [h.length])]
      rw [hsame]
      exact h.ignored rfl rfl (if_neg hlen)
  | consume dest =>
    by_cases hlen : dest.length = n
    · exact h.consume hlen
    · have hsame : c.step (.consume dest) = c := by
        rw [Channel.step, read_of_length_ne (by rwa [h.length])]
      rw [hsame]
      exact h.ignored rfl (decide_eq_false hlen) rfl

/-- **Any history** is reflected by the channel that has gone through it, by induction from its
end. -/
theorem reflects_after (n : Nat) (us : List Use) : Reflects n us ((ofLength n).after us) := by
  induction us using List.reverseRecOn with
  | nil => exact reflects_new n
  | append_singleton us u ih =>
    rw [after_concat]
    exact ih.step u

/-- **Every answer from the history.** A slice of the wrong length is refused, and channel and
destination stay as they were. A period is answered with its number since the last reset; a reader
gets the period published last, and is told how fresh it is. The counts are those of the whole
history, whatever was reset, and no more has been read fresh than was written. -/
theorem answers_from_history (n : Nat) (us : List Use) :
    let c := (ofLength n).after us
    let told := (ofLength n).reports us
    (∀ frames, frames.length = n → (c.write frames).1 = .ok (1 + (published n us).length))
      ∧ (∀ frames, frames.length ≠ n → c.write frames = (.error ⟨n, frames.length⟩, c))
      ∧ (∀ dest, dest.length = n →
          (c.read dest).1 = .ok (freshness n us) ∧ (c.read dest).2.1 = latest n us)
      ∧ (∀ dest, dest.length ≠ n → c.read dest = (.error ⟨n, dest.length⟩, dest, c))
      ∧ c.counts = {
          written := us.countP (Use.publishes n)
          fresh := told.countP Freshness.isFresh
          repeated := told.countP Freshness.isRepeated
          silent := told.countP Freshness.isSilence }
      ∧ c.counts.fresh ≤ c.counts.written := by
  intro c told
  -- what the channel holds is what its history says, use by use
  have h : Reflects n us c := reflects_after n us
  refine ⟨fun frames hlen => ?_, fun frames hlen => ?_, fun dest hlen => ?_, fun dest hlen => ?_,
    ?_, Nat.le_of_add_right_le h.read_le_written⟩
  · rw [write_of_length (hlen.trans h.length.symm), h.sequence, Nat.add_comm]
  · rw [write_of_length_ne (by rwa [h.length]), h.length]
  · rw [read_of_length (hlen.trans h.length.symm), h.nextFreshness]
    exact ⟨rfl, h.samples⟩
  · rw [read_of_length_ne (by rwa [h.length]), h.length]
  · obtain ⟨hwritten, hfresh, hrepeated, hsilent⟩ := counts_after (ofLength n) us
    rw [length_ofLength] at hwritten
    show ChannelCounts.mk _ _ _ _ = _
    rw [hwritten, hfresh, hrepeated, hsilent]
    simp [ofLength, told]

-- a reset forgets the period; the counts stay
example : (ofLength 1).reports [.consume [9], .publish [5], .consume [9], .consume [9],
    .publish [6], .reset, .consume [9]] = [.silence, .fresh 1, .repeated 1, .silence] := by decide

end Channel

end Passthrough
