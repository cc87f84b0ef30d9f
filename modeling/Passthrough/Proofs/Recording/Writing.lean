import Passthrough.Proofs.Recording.WaveFile
/-!
# What a file takes

A file takes samples until its medium or the count of its bytes comes to an end. What it holds is
told against all that it was ever given: as much of that as it takes, from the start (`Holds`). So
nothing has to be said of the moment at which a writing broke off, and a writing fails just if more
has been given by then than the file takes.

* **`Holds.writeAll`** — what a file holds when more periods have been given to it.
* **`Holds.writeAll_complete_iff`** — whether all of them have been taken.
* **`Holds.finished_iff`** — when everything has been taken and the header can be completed.
-/

namespace Passthrough

namespace Recording

variable {r : Recording} {given samples : List Int16} {periods : List TappedPeriod}

/-- **What a file holds** of all that it was given: as much as it takes, from the start. -/
def Holds (given : List Int16) (r : Recording) : Prop := r.samples.toList = given.take r.capacity

theorem holds_ofConfig (room : Nat) (c : Config) : (ofConfig room c).Holds [] :=
  List.take_nil.symm

theorem Holds.size_eq (h : r.Holds given) : r.samples.size = min r.capacity given.length := by
  rw [← Array.length_toList, h, List.length_take]

theorem Holds.size_le (h : r.Holds given) : r.samples.size ≤ mostSamples := by
  have hsize := h.size_eq
  unfold capacity at hsize
  omega

theorem Holds.all (h : r.Holds given) (hfits : given.length ≤ r.capacity) :
    r.samples.toList = given :=
  h.trans (List.take_of_length_le hfits)

theorem Holds.full (h : r.Holds given) (hfull : r.capacity ≤ given.length) (more : List Int16) :
    r.Holds (given ++ more) :=
  h.trans (List.take_append_of_le_length hfull).symm

/-! ## Writing -/

theorem write_eq (r : Recording) (samples : List Int16) :
    ∃ taken, (r.write samples).2 = { r with samples := taken } :=
  ⟨_, rfl⟩

/-- A writing gives a file more, and the file holds as much of that as it takes. Whether the writing
breaks off on the way makes no difference to what it holds. -/
theorem Holds.write (h : r.Holds given) (samples : List Int16) :
    (r.write samples).2.Holds (given ++ samples) := by
  have hfree : r.capacity - r.samples.size = r.capacity - given.length := by
    rw [h.size_eq]
    omega
  show (r.samples ++ samples.take (r.capacity - r.samples.size)).toList
    = (given ++ samples).take r.capacity
  rw [Array.toList_appendList, h, hfree, List.take_append]

/-- A writing breaks off just if the file has been given more than it takes. -/
theorem Holds.write_complete_iff (h : r.Holds given) (hfits : given.length ≤ r.capacity) :
    (r.write samples).1 = true ↔ (given ++ samples).length ≤ r.capacity := by
  have hsize := h.size_eq
  have hcomplete : (r.write samples).1 = true ↔ samples.length ≤ r.capacity - r.samples.size :=
    decide_eq_true_iff
  rw [hcomplete, List.length_append]
  omega

theorem Holds.full_of_incomplete (h : r.Holds given) (hbroken : (r.write samples).1 = false) :
    r.capacity ≤ (given ++ samples).length := by
  have hsize := h.size_eq
  have hmore : ¬ samples.length ≤ r.capacity - r.samples.size := of_decide_eq_false hbroken
  rw [List.length_append]
  omega

/-! ## Periods -/

/-- Periods are written one by one, and nothing is written behind one that breaks off. -/
theorem writeAll_cons (r : Recording) (period : TappedPeriod) (periods : List TappedPeriod) :
    r.writeAll (period :: periods) = if (r.write period.samples).1
      then (r.write period.samples).2.writeAll periods
      else (false, (r.write period.samples).2) :=
  rfl

/-- Writing periods changes the samples and nothing else. In particular the medium, its `room` and
the format stay those of the recording that was begun. -/
theorem writeAll_eq (r : Recording) (periods : List TappedPeriod) :
    ∃ taken, (r.writeAll periods).2 = { r with samples := taken } := by
  induction periods generalizing r with
  | nil => exact ⟨_, rfl⟩
  | cons period periods ih =>
    rw [writeAll_cons]
    split
    · exact ih (r.write period.samples).2
    · exact r.write_eq period.samples

/-- **Writing periods.** The file holds what it takes of what it was given before and of these, also
where the writing breaks off: nothing more is tried then, and nothing more would be taken. -/
theorem Holds.writeAll (h : r.Holds given) (periods : List TappedPeriod) :
    (r.writeAll periods).2.Holds (given ++ (periods.map (·.samples)).flatten) := by
  induction periods generalizing r given with
  | nil => rwa [List.map_nil, List.flatten_nil, List.append_nil]
  | cons period periods ih =>
    have hwrite := h.write period.samples
    rw [List.map_cons, List.flatten_cons, ← List.append_assoc, writeAll_cons]
    cases hcomplete : (r.write period.samples).1 with
    | true => exact ih hwrite
    | false => exact hwrite.full (h.full_of_incomplete hcomplete) _

/-- **All periods are taken** just if the file has not been given more than it takes. Writing goes
on from period to period only while each is taken whole, and the length of all of them decides. -/
theorem Holds.writeAll_complete_iff (h : r.Holds given) (hfits : given.length ≤ r.capacity) :
    (r.writeAll periods).1 = true
      ↔ (given ++ (periods.map (·.samples)).flatten).length ≤ r.capacity := by
  induction periods generalizing r given with
  | nil =>
    rw [List.map_nil, List.flatten_nil, List.append_nil]
    exact ⟨fun _ => hfits, fun _ => rfl⟩
  | cons period periods ih =>
    have hperiod : (r.write period.samples).1 = true ↔ _ := h.write_complete_iff hfits
    rw [List.map_cons, List.flatten_cons, ← List.append_assoc, writeAll_cons]
    cases hcomplete : (r.write period.samples).1 with
    | true => exact ih (h.write period.samples) (hperiod.mp hcomplete)
    | false =>
      have hover : ¬ (given ++ period.samples).length ≤ r.capacity := by
        rw [← hperiod, hcomplete]
        exact Bool.false_ne_true
      refine ⟨fun h => (Bool.false_ne_true h).elim, fun h => (hover ?_).elim⟩
      rw [List.length_append] at h
      omega

/-! ## The header -/

/-- A header is completed for a file of whole frames whose size four bytes can tell. -/
theorem finalize_eq_ok_iff (r : Recording) :
    r.finalize = .ok () ↔ r.size < 4294967296 ∧ r.samples.size % r.channelCount = 0 := by
  unfold finalize
  split
  · next hwhole => exact ⟨fun _ => hwhole, fun _ => rfl⟩
  · next hnot =>
    refine ⟨fun h => ?_, fun h => (hnot h).elim⟩
    cases h

/-- **Everything is taken and the header completed** just if the medium has room for all samples and
the file, with 36 bytes of header behind the first eight or 60, has a size that four bytes can tell.
Whole frames are what the file was given. -/
theorem Holds.finished_iff (h : r.Holds given) (hframes : given.length % r.channelCount = 0) :
    given.length ≤ r.capacity ∧ r.finalize = .ok ()
      ↔ given.length ≤ r.room
        ∧ (if r.channelCount ≤ 2 then 36 else 60) + 2 * given.length < 4294967296 := by
  have hheader : 20 + r.format.length = if r.channelCount ≤ 2 then 36 else 60 := by
    rw [WaveFile.length_format]
    split <;> rfl
  have hsize : given.length ≤ r.capacity → r.samples.size = given.length := fun hfits => by
    rw [← Array.length_toList, h.all hfits]
  rw [finalize_eq_ok_iff, ← hheader]
  unfold Recording.size dataLength
  unfold capacity mostSamples at hsize ⊢
  constructor
  · rintro ⟨hfits, htold, _⟩
    rw [hsize hfits] at htold
    omega
  · rintro ⟨hroom, htold⟩
    -- a size that can be told leaves less than can be counted
    have hfits : given.length ≤ min r.room 2147483647 := by omega
    rw [hsize hfits]
    exact ⟨hfits, by omega, hframes⟩

end Recording

end Passthrough
