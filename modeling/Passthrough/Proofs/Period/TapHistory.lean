import Mathlib.Data.List.Basic
import Mathlib.Data.List.Induction
import Passthrough.Period.Tap
/-!
# Taps and their history

A tap hears periods of two directions, and its reader takes what waits. Copies go round between two
queues of each direction, and what a queue answers to a push is not looked at. No period is lost
without being counted all the same.

The history is a list of uses, with slices of any length. The `Account` of a direction is read from
the history alone: a period is accepted if it has the length of the tap and fewer periods are
undrained than there are copies; any other is lost.

* **`TapLane.Reflects`** — a lane holds what the account says, and its two queues share the copies.
* **`TapLane.Reflects.hear`**, **`TapLane.Reflects.read`** — hearing and reading keep this.
* **`Tap.reflects_after`** — it holds for both directions after any history of a new tap.
* **`Tap.nothing_lost_silently`** — what the reader gets, what is counted, and why no push fails.
-/

namespace Passthrough

/-! ## Queues -/

namespace BoundedQueue

variable {α : Type} {q : BoundedQueue α} {a : α}

/-- A queue with room takes what is pushed, at its end. `push?_isSome` is the same where only the
success counts, which is what `Conserves` speaks of. -/
theorem push?_of_room (h : q.size < q.capacity) :
    q.push? a = some { q with elements := q.elements ++ [a] } :=
  if_pos h

theorem push?_isSome (h : q.size < q.capacity) : (q.push? a).isSome = true := by
  simp [push?_of_room h]

/-- A queue gives an element exactly if it holds one, and it gives the one that has been there
longest. -/
theorem pop?_eq_some {rest : BoundedQueue α} (h : q.pop? = some (a, rest)) :
    q.elements = a :: rest.elements ∧ rest.capacity = q.capacity := by
  unfold pop? at h
  cases hq : q.elements with
  | nil => simp [hq] at h
  | cons b bs =>
    simp only [hq, Option.some.injEq, Prod.mk.injEq] at h
    obtain ⟨rfl, rfl⟩ := h
    exact ⟨rfl, rfl⟩

/-- A queue that gives nothing is empty, so for a lane without a spare copy there is nothing to hope
for. -/
theorem pop?_eq_none (h : q.pop? = none) : q.size = 0 := by
  unfold pop? at h
  cases hq : q.elements with
  | nil => simp [size, hq]
  | cons b bs => simp [hq] at h

end BoundedQueue

/-! ## Uses and the account of them -/

namespace Tap

/-- One use of a tap: a period passes, or the reader takes what waits. -/
inductive Use
  | hear (direction : Direction) (samples : List Int16)
  | read (direction : Direction)
  deriving DecidableEq

/-- The direction that a use is about. -/
def Use.direction : Use → Direction
  | .hear d _ => d
  | .read d => d

def step (t : Tap) : Use → Tap
  | .hear d samples => t.hear d samples
  | .read d => (t.read d).2

/-- The tap after a history of uses, oldest first. -/
def after (t : Tap) (us : List Use) : Tap := us.foldl step t

/-- What the reader of a direction is handed by one use. -/
def hands (t : Tap) (d : Direction) (u : Use) : List TappedPeriod :=
  if u = .read d then (t.read d).1 else []

/-- What the reader of a direction is handed along a history, in the order in which it comes. -/
def handed (t : Tap) (d : Direction) : List Use → List TappedPeriod
  | [] => []
  | u :: us => t.hands d u ++ (t.step u).handed d us

/-- What has become of the periods of one direction. -/
structure Account where
  /-- The periods accepted, oldest first. -/
  accepted : List (List Int16) := []
  /-- How many of them the reader has had. -/
  drained : Nat := 0
  lost : Nat := 0
  deriving DecidableEq

namespace Account

def undrained (a : Account) : Nat := a.accepted.length - a.drained

/-- Whether a period is accepted by a tap for periods of this length, with this many copies. -/
def Accepts (length copies : Nat) (a : Account) (samples : List Int16) : Prop :=
  samples.length = length ∧ a.undrained < copies

instance (length copies : Nat) (a : Account) (samples : List Int16) :
    Decidable (a.Accepts length copies samples) :=
  inferInstanceAs (Decidable (_ ∧ _))

/-- The account of a direction after one more use. -/
def enter (length copies : Nat) (d : Direction) (a : Account) : Use → Account
  | .hear d' samples =>
    if d' ≠ d then a
    else if a.Accepts length copies samples then { a with accepted := a.accepted ++ [samples] }
    else { a with lost := a.lost + 1 }
  | .read d' => if d' ≠ d then a else { a with drained := a.accepted.length }

/-- The accepted periods as the reader is to see them: numbered from 1. -/
def periods (d : Direction) (a : Account) : List TappedPeriod :=
  a.accepted.mapIdx fun i samples => ⟨d, i + 1, samples⟩

end Account

/-- The account of a direction after a history. -/
def account (length copies : Nat) (d : Direction) (us : List Use) : Account :=
  us.foldl (Account.enter length copies d) {}

/-- A history with one more use at its end, the direction in which `reflects_after` goes. -/
theorem after_concat (t : Tap) (us : List Use) (u : Use) :
    t.after (us ++ [u]) = (t.after us).step u :=
  List.foldl_concat ..

/-- The account of a history is kept use by use, by `Account.enter`, and the tap does not come into
it. -/
theorem account_concat (length copies : Nat) (d : Direction) (us : List Use) (u : Use) :
    account length copies d (us ++ [u]) = (account length copies d us).enter length copies d u :=
  List.foldl_concat ..

/-- What the reader is handed along a history is what it is handed by its uses, one after the
other. -/
theorem handed_concat (t : Tap) (d : Direction) (us : List Use) (u : Use) :
    t.handed d (us ++ [u]) = t.handed d us ++ (t.after us).hands d u := by
  induction us generalizing t with
  | nil => simp [handed, after]
  | cons v us ih =>
    have hrun : t.after (v :: us) = (t.step v).after us := rfl
    rw [List.cons_append, handed, ih, handed, hrun, List.append_assoc]

namespace Account

variable {length copies : Nat} {d : Direction} {a : Account} {samples : List Int16}

@[simp] theorem length_periods (d : Direction) (a : Account) :
    (a.periods d).length = a.accepted.length := by
  simp [periods]

/-- One more period gets the next number, and those before it keep theirs: numbers are positions in
the list of what was accepted. -/
theorem periods_accept (d : Direction) (a : Account) (samples : List Int16) :
    ({ a with accepted := a.accepted ++ [samples] } : Account).periods d
      = a.periods d ++ [⟨d, a.accepted.length + 1, samples⟩] := by
  simp [periods, List.mapIdx_append]

theorem enter_of_ne {u : Use} (h : u.direction ≠ d) : a.enter length copies d u = a := by
  cases u <;> exact if_pos h

/-- A period that is accepted is entered at the end; whether it is, is decided by its length and by
the number of those undrained (`Account.Accepts`). -/
theorem enter_hear_of_accepts (h : a.Accepts length copies samples) :
    a.enter length copies d (.hear d samples)
      = { a with accepted := a.accepted ++ [samples] } := by
  simp [enter, h]

@[simp] theorem enter_read : a.enter length copies d (.read d)
    = { a with drained := a.accepted.length } := by
  simp [enter]

/-- Any other period is counted as lost. There is no third way for a period to go. -/
theorem enter_hear_of_not_accepts (h : ¬ a.Accepts length copies samples) :
    a.enter length copies d (.hear d samples) = { a with lost := a.lost + 1 } := by
  simp [enter, h]

end Account

end Tap

/-! ## One lane -/

namespace TapLane

open Tap (Account)

variable {length copies : Nat} {d : Direction} {a : Account} {l : TapLane}
  {samples : List Int16}

/-- The copies of a lane of a direction, each with room for one period. -/
def Fits (d : Direction) (length : Nat) (p : TappedPeriod) : Prop :=
  p.direction = d ∧ p.samples.length = length

/-- **A lane and the account of its direction.** Every copy is in one of the two queues, and each
queue has room for all of them. -/
structure Reflects (length copies : Nat) (d : Direction) (a : Account) (l : TapLane) : Prop where
  spare_capacity : l.spare.capacity = copies
  waiting_capacity : l.waiting.capacity = copies
  conserved : l.spare.size + l.waiting.size = copies
  spare_fits : ∀ p ∈ l.spare.elements, Fits d length p
  accepted_fits : ∀ samples ∈ a.accepted, samples.length = length
  drained_le : a.drained ≤ a.accepted.length
  waiting : l.waiting.elements = (a.periods d).drop a.drained
  sequence : l.sequence = a.accepted.length
  lost : l.lost = a.lost

/-- A new lane reflects the empty account: all copies are spare, and none waits. -/
theorem reflects_make (d : Direction) (copies length : Nat) :
    Reflects length copies d {} (make d copies length) := by
  constructor
  case spare_fits =>
    intro p hp
    have hp : p = { direction := d, samples := List.replicate length 0 } :=
      List.eq_of_mem_replicate hp
    subst hp
    exact ⟨rfl, List.length_replicate⟩
  case conserved => simp [make, BoundedQueue.size, BoundedQueue.full]
  all_goals simp [make, BoundedQueue.full, Account.periods]

/-- The copies that wait are those of the periods not drained yet, one for each. -/
theorem Reflects.waiting_size (h : Reflects length copies d a l) :
    l.waiting.size = a.undrained := by
  unfold BoundedQueue.size
  rw [h.waiting, List.length_drop, Account.length_periods]
  rfl

/-- Where a copy is spare there is room for it among those that wait, as the two queues share the
copies and each has room for all of them. So a push that is not looked at does not fail. -/
theorem Reflects.waiting_room (h : Reflects length copies d a l) (hspare : l.spare.size ≠ 0) :
    l.waiting.size < l.waiting.capacity := by
  have hconserved := h.conserved
  have hcapacity := h.waiting_capacity
  omega

theorem lose_of_length_ne (h : samples.length ≠ length) : l.hear length samples = l.lose :=
  if_pos h

/-- A period that finds no spare copy is lost, because the reader has not come for those that
wait. -/
theorem lose_of_no_spare (h : l.spare.size = 0) : l.hear length samples = l.lose := by
  unfold hear
  split
  · rfl
  · cases hpop : l.spare.pop? with
    | none => rfl
    | some popped =>
      have hspare : l.spare.elements = _ := (BoundedQueue.pop?_eq_some hpop).1
      simp [BoundedQueue.size, hspare] at h

/-- A period of the right length goes to the copy that has been spare longest, under the next
number. The two queues share their copies, so that there is always room for one that was spare. -/
theorem hear_of_room {copy : TappedPeriod} {spare : BoundedQueue TappedPeriod}
    (hlength : samples.length = length) (hpop : l.spare.pop? = some (copy, spare))
    (hroom : l.waiting.size < l.waiting.capacity) :
    l.hear length samples = { l with
      spare
      sequence := l.sequence + 1
      waiting := { l.waiting with
        elements := l.waiting.elements
          ++ [{ copy with sequence := l.sequence + 1, samples }] } } := by
  unfold hear
  rw [if_neg (not_not_intro hlength), hpop]
  simp only [BoundedQueue.push?_of_room hroom]

/-- A copy is put back behind those that are spare, as long as there is room for it. -/
theorem putBack_of_room {copy : TappedPeriod} (h : l.spare.size < l.spare.capacity) :
    l.putBack copy = { l with
      spare := { l.spare with elements := l.spare.elements ++ [copy] } } := by
  simp [putBack, BoundedQueue.push?_of_room h]

/-- Copies for which there is room are all put back, in their order, by induction on the copies. -/
theorem foldl_putBack (copies : List TappedPeriod)
    (h : l.spare.size + copies.length ≤ l.spare.capacity) :
    copies.foldl putBack l = { l with
      spare := { l.spare with elements := l.spare.elements ++ copies } } := by
  induction copies generalizing l with
  | nil => simp
  | cons copy copies ih =>
    have hroom : l.spare.size < l.spare.capacity := by
      simp only [List.length_cons] at h
      omega
    rw [List.foldl_cons, putBack_of_room hroom, ih]
    · simp
    · simp only [BoundedQueue.size, List.length_append, List.length_cons, List.length_nil] at h ⊢
      omega

/-- The reader gets what waits, and every copy is spare afterwards: the equation behind
`Reflects.read`. -/
theorem Reflects.read_eq (h : Reflects length copies d a l) :
    l.read = ((a.periods d).drop a.drained, { l with
      spare := { l.spare with elements := l.spare.elements ++ l.waiting.elements }
      waiting := { l.waiting with elements := [] } }) := by
  have hroom : l.spare.size + l.waiting.elements.length ≤ l.spare.capacity := by
    have hconserved := h.conserved
    have hcapacity := h.spare_capacity
    unfold BoundedQueue.size at hconserved ⊢
    omega
  unfold read
  simp only [← h.waiting]
  rw [foldl_putBack (l := { l with waiting := { l.waiting with elements := [] } }) _ hroom]

/-- Every copy that the reader has seen finds room among the spare ones, at the moment at which it
is put back, when later ones are still waiting for that. -/
theorem Reflects.putBack_room (h : Reflects length copies d a l)
    {before later : List TappedPeriod} {copy : TappedPeriod}
    (hwaiting : l.waiting.elements = before ++ copy :: later) :
    let emptied := { l with waiting := { l.waiting with elements := [] } }
    ((before.foldl putBack emptied).spare.push? copy).isSome = true := by
  intro emptied
  have hconserved := h.conserved
  have hcapacity := h.spare_capacity
  have hlength := congrArg List.length hwaiting
  simp only [BoundedQueue.size, List.length_append, List.length_cons] at hconserved hlength
  -- the copies put back before this one had room, by conservation
  have hbefore : emptied.spare.size + before.length ≤ emptied.spare.capacity := by
    show l.spare.elements.length + before.length ≤ l.spare.capacity
    omega
  rw [foldl_putBack before hbefore]
  apply BoundedQueue.push?_isSome
  simp only [BoundedQueue.size, List.length_append]
  show l.spare.elements.length + before.length < l.spare.capacity
  omega

/-- **No copy goes astray.** The queues of a lane share its copies; a push of what was popped, or of
what the reader has seen, finds room whenever it is made. -/
structure Conserves (copies : Nat) (l : TapLane) : Prop where
  shared : l.spare.size + l.waiting.size = copies
  waiting_push : ∀ copy spare, l.spare.pop? = some (copy, spare) →
    ∀ p, (l.waiting.push? p).isSome = true
  spare_push : ∀ before copy later, l.waiting.elements = before ++ copy :: later →
    let emptied := { l with waiting := { l.waiting with elements := [] } }
    ((before.foldl putBack emptied).spare.push? copy).isSome = true

/-- A lane that reflects an account has lost no copy, and will not lose one by the next use. -/
theorem Reflects.conserves (h : Reflects length copies d a l) : Conserves copies l where
  shared := h.conserved
  waiting_push copy spare hpop p := by
    have helements := (BoundedQueue.pop?_eq_some hpop).1
    apply BoundedQueue.push?_isSome
    apply h.waiting_room
    simp [BoundedQueue.size, helements]
  spare_push _ _ _ hwaiting := h.putBack_room hwaiting

theorem Reflects.lose (h : Reflects length copies d a l) :
    Reflects length copies d { a with lost := a.lost + 1 } l.lose :=
  { h with lost := congrArg (· + 1) h.lost }

/-- A period that the account accepts finds a spare copy in the lane, and waits in it for the
reader, behind those accepted before. -/
theorem Reflects.accept (h : Reflects length copies d a l)
    (haccepts : a.Accepts length copies samples) :
    Reflects length copies d { a with accepted := a.accepted ++ [samples] }
      (l.hear length samples) := by
  obtain ⟨hlength, hundrained⟩ := haccepts
  have hconserved := h.conserved
  have hwaits := h.waiting_size
  have hspare : l.spare.size ≠ 0 := by omega
  cases hpop : l.spare.pop? with
  | none => exact absurd (BoundedQueue.pop?_eq_none hpop) hspare
  | some popped =>
    obtain ⟨copy, spare⟩ := popped
    obtain ⟨helements, hcapacity⟩ := BoundedQueue.pop?_eq_some hpop
    have hcopy : copy.direction = d :=
      (h.spare_fits copy (helements ▸ List.mem_cons_self)).1
    rw [hear_of_room hlength hpop (h.waiting_room hspare)]
    constructor
    case spare_capacity => exact hcapacity.trans h.spare_capacity
    case waiting_capacity => exact h.waiting_capacity
    -- the copy has gone from one queue to the other
    case conserved =>
      simp only [BoundedQueue.size, helements, List.length_cons, List.length_append,
        List.length_nil] at hconserved ⊢
      omega
    case spare_fits =>
      intro p hp
      exact h.spare_fits p (helements ▸ List.mem_cons_of_mem _ hp)
    case accepted_fits =>
      intro period hperiod
      rcases List.mem_append.mp hperiod with hold | hnew
      · exact h.accepted_fits period hold
      · rw [List.mem_singleton.mp hnew]
        exact hlength
    case drained_le =>
      have hdrained := h.drained_le
      simp only [List.length_append, List.length_cons, List.length_nil]
      omega
    case waiting =>
      have hle : a.drained ≤ (a.periods d).length := by
        rw [Account.length_periods]
        exact h.drained_le
      rw [Account.periods_accept, List.drop_append_of_le_length hle, ← h.waiting, ← h.sequence,
        ← hcopy]
    case sequence => simp [h.sequence]
    case lost => exact h.lost

/-- **A period is heard**: by the account, and by the lane. They agree on whether it is accepted,
because both count the same copies. -/
theorem Reflects.hear (h : Reflects length copies d a l) (samples : List Int16) :
    Reflects length copies d (a.enter length copies d (.hear d samples))
      (l.hear length samples) := by
  by_cases haccepts : a.Accepts length copies samples
  · rw [Account.enter_hear_of_accepts haccepts]
    exact h.accept haccepts
  · rw [Account.enter_hear_of_not_accepts haccepts]
    by_cases hlength : samples.length = length
    · have hspare : l.spare.size = 0 := by
        have hfull : ¬ a.undrained < copies := fun hroom => haccepts ⟨hlength, hroom⟩
        have hconserved := h.conserved
        have hwaits := h.waiting_size
        omega
      rw [lose_of_no_spare hspare]
      exact h.lose
    · rw [lose_of_length_ne hlength]
      exact h.lose

/-- **The reader takes what waits**, and account and lane agree that nothing is undrained then. The
accepted periods stay in the account for good, as those that have been `drained`. -/
theorem Reflects.read (h : Reflects length copies d a l) :
    Reflects length copies d (a.enter length copies d (.read d)) l.read.2 := by
  rw [h.read_eq, Account.enter_read]
  constructor
  case conserved =>
    have hconserved := h.conserved
    simp only [BoundedQueue.size, List.length_append, List.length_nil] at hconserved ⊢
    omega
  -- what waited holds accepted periods, so it can be written over
  case spare_fits =>
    intro p hp
    rcases List.mem_append.mp hp with hspare | hwaited
    · exact h.spare_fits p hspare
    · rw [h.waiting] at hwaited
      have hp : p ∈ a.periods d := List.mem_of_mem_drop hwaited
      unfold Account.periods at hp
      obtain ⟨i, hi, rfl⟩ := List.mem_mapIdx.mp hp
      exact ⟨rfl, h.accepted_fits _ (List.getElem_mem hi)⟩
  case waiting => simp [Account.periods]
  case drained_le => exact Nat.le_refl _
  case spare_capacity => exact h.spare_capacity
  case waiting_capacity => exact h.waiting_capacity
  case accepted_fits => exact h.accepted_fits
  case sequence => exact h.sequence
  case lost => exact h.lost

end TapLane

/-! ## Both directions -/

namespace Tap

open TapLane (Reflects)

variable {length copies : Nat} {d : Direction} {t : Tap} {us : List Use}

theorem lane_hear (t : Tap) (d : Direction) (samples : List Int16) :
    (t.hear d samples).lanes.get d = (t.lanes.get d).hear t.length samples := by
  simp [hear]

theorem lane_hear_ne (t : Tap) {d e : Direction} (samples : List Int16) (h : e ≠ d) :
    (t.hear d samples).lanes.get e = t.lanes.get e :=
  Duplex.get_modify_ne _ _ h

theorem lane_read (t : Tap) (d : Direction) :
    (t.read d).2.lanes.get d = (t.lanes.get d).read.2 := by
  simp [read]

theorem lane_read_ne (t : Tap) {d e : Direction} (h : e ≠ d) :
    (t.read d).2.lanes.get e = t.lanes.get e :=
  Duplex.get_set_ne _ _ h

/-- A use leaves the other direction alone, so the two accounts may be kept apart. -/
theorem lane_step_ne (t : Tap) {u : Use} (h : u.direction ≠ d) :
    (t.step u).lanes.get d = t.lanes.get d := by
  cases u with
  | hear e samples => exact lane_hear_ne t samples (Ne.symm h)
  | read e => exact lane_read_ne t (Ne.symm h)

@[simp] theorem length_step (t : Tap) (u : Use) : (t.step u).length = t.length := by
  cases u <;> rfl

theorem length_after (t : Tap) (us : List Use) : (t.after us).length = t.length := by
  induction us using List.reverseRecOn with
  | nil => rfl
  | append_singleton us u ih => rw [after_concat, length_step, ih]

/-- **One use**, seen from any direction: that of the use goes on as `Reflects.hear` or
`Reflects.read` says, the other stays. -/
theorem reflects_step {a : Account} (u : Use) (h : Reflects t.length copies d a (t.lanes.get d)) :
    Reflects t.length copies d (a.enter t.length copies d u) ((t.step u).lanes.get d) := by
  by_cases hd : u.direction = d
  · subst hd
    cases u with
    | hear d samples => exact lane_hear t d samples ▸ h.hear samples
    | read d => exact lane_read t d ▸ h.read
  · rw [lane_step_ne t hd, Account.enter_of_ne hd]
    exact h

/-- A tap with at least one copy can be made, and both of its lanes reflect empty accounts. -/
theorem make?_isSome (length : Nat) (hcopies : 1 ≤ copies) :
    ∃ new, make? length copies = some new ∧ new.length = length
      ∧ ∀ d, Reflects length copies d {} (new.lanes.get d) := by
  refine ⟨_, if_neg (Nat.ne_of_gt hcopies), rfl, ?_⟩
  intro d
  cases d with
  | input => exact TapLane.reflects_make .input copies length
  | output => exact TapLane.reflects_make .output copies length

/-- **Any history** leaves lane and account together in each direction, by induction from its
end. -/
theorem reflects_after {new : Tap} (d : Direction)
    (hnew : Reflects new.length copies d {} (new.lanes.get d)) (us : List Use) :
    Reflects new.length copies d (account new.length copies d us) ((new.after us).lanes.get d) := by
  induction us using List.reverseRecOn with
  | nil => exact hnew
  | append_singleton us u ih =>
    rw [after_concat, account_concat]
    rw [← length_after new us] at ih ⊢
    exact reflects_step u ih

/-- What the reader of a direction gets next: the accepted periods that it has not had, in order. -/
theorem read_of_reflects {a : Account} (h : Reflects length copies d a (t.lanes.get d)) :
    (t.read d).1 = (a.periods d).drop a.drained := by
  show (t.lanes.get d).read.1 = _
  rw [h.read_eq]

/-- **The reader has had the first of the accepted periods**, each of them once and in order; the
others are still waiting for it. -/
theorem handed_after {new : Tap} (d : Direction)
    (hnew : Reflects new.length copies d {} (new.lanes.get d)) (us : List Use) :
    let a := account new.length copies d us
    new.handed d us = (a.periods d).take a.drained := by
  intro a
  induction us using List.reverseRecOn with
  | nil => simp [handed, a, account]
  | append_singleton us u ih =>
    have h := reflects_after d hnew us
    have hle : (account new.length copies d us).drained
        ≤ ((account new.length copies d us).periods d).length := by
      rw [Account.length_periods]
      exact h.drained_le
    unfold a
    rw [handed_concat, ih, account_concat]
    unfold hands
    cases u with
    -- accepting only adds behind those that have been drained
    | hear e samples =>
      simp only [reduceCtorEq, if_false, List.append_nil, Account.enter]
      split
      · rfl
      · split
        · rw [Account.periods_accept, List.take_append_of_le_length hle]
        · rfl
    | read e =>
      by_cases hd : e = d
      · subst hd
        -- a reading drains all that has been accepted
        have hall : (account new.length copies e us).accepted.length
            = ((account new.length copies e us).periods e).length :=
          (Account.length_periods e _).symm
        rw [if_pos rfl, read_of_reflects h, List.take_append_drop, Account.enter,
          if_neg (not_not_intro rfl), hall]
        exact List.take_length.symm
      · simp [Account.enter, hd]

/-- **Nothing is lost silently.** A tap with at least one copy can be made, and after any history,
for each direction:

* what the reader has been handed, with what it is handed next, are the accepted periods: each once,
  oldest first, with its samples and its direction, numbered from 1 without a gap;
* a period of the right length is accepted while fewer accepted periods are undrained than there
  are copies, and any other is counted as lost, by one;
* a read leaves nothing behind, and no use touches the other direction;
* the two queues share the copies, so no push fails. -/
theorem nothing_lost_silently (length : Nat) {copies : Nat} (hcopies : 1 ≤ copies)
    (us : List Use) :
    ∃ new, make? length copies = some new ∧ ∀ d,
      let t := new.after us
      let a := account length copies d us
      (new.handed d us = (a.periods d).take a.drained
          ∧ new.handed d us ++ (t.read d).1 = a.periods d
          ∧ t.lost d = a.lost)
        ∧ (∀ samples, samples.length = length ∧ (t.read d).1.length < copies →
            (t.hear d samples).lost d = t.lost d
              ∧ ((t.hear d samples).read d).1
                  = (t.read d).1 ++ [⟨d, a.accepted.length + 1, samples⟩])
        ∧ (∀ samples, ¬ (samples.length = length ∧ (t.read d).1.length < copies) →
            (t.hear d samples).lost d = t.lost d + 1
              ∧ ((t.hear d samples).read d).1 = (t.read d).1)
        ∧ ((t.read d).2.lost d = t.lost d ∧ ((t.read d).2.read d).1 = [])
        ∧ (∀ u : Use, u.direction ≠ d → (t.step u).lanes.get d = t.lanes.get d)
        ∧ (t.lanes.get d).Conserves copies := by
  obtain ⟨new, hmake, rfl, hnew⟩ := make?_isSome length hcopies
  refine ⟨new, hmake, fun d => ?_⟩
  intro t a
  have hlength : t.length = new.length := length_after new us
  have h : Reflects t.length copies d a (t.lanes.get d) :=
    hlength ▸ reflects_after d (hnew d) us
  have hread : (t.read d).1 = (a.periods d).drop a.drained := read_of_reflects h
  have hhanded : new.handed d us = (a.periods d).take a.drained := handed_after d (hnew d) us
  -- what waits for the reader is what is accepted and not drained
  have haccepts : ∀ samples, a.Accepts t.length copies samples
      ↔ samples.length = new.length ∧ (t.read d).1.length < copies := by
    intro samples
    rw [hread, List.length_drop, Account.length_periods, ← hlength]
    exact Iff.rfl
  refine ⟨⟨hhanded, ?_, h.lost⟩, fun samples htaken => ?_, fun samples hrefused => ?_, ?_,
    fun u => lane_step_ne t, h.conserves⟩
  · rw [hhanded, hread, List.take_append_drop]
  · have hnext := reflects_step (.hear d samples) h
    have hle : a.drained ≤ (a.periods d).length := by
      rw [Account.length_periods]
      exact h.drained_le
    -- accepted: the period comes behind those that wait
    rw [Account.enter_hear_of_accepts ((haccepts samples).mpr htaken)] at hnext
    refine ⟨hnext.lost.trans h.lost.symm, (read_of_reflects hnext).trans ?_⟩
    rw [Account.periods_accept, List.drop_append_of_le_length hle, hread]
  · have hnext := reflects_step (.hear d samples) h
    -- refused: only the count of the lost ones moves
    rw [Account.enter_hear_of_not_accepts (mt (haccepts samples).mp hrefused)] at hnext
    refine ⟨hnext.lost.trans (congrArg (· + 1) h.lost.symm), ?_⟩
    exact (read_of_reflects hnext).trans hread.symm
  · have hnext := reflects_step (.read d) h
    rw [Account.enter_read] at hnext
    refine ⟨hnext.lost.trans h.lost.symm, (read_of_reflects hnext).trans ?_⟩
    apply List.drop_of_length_le
    exact Nat.le_of_eq (Account.length_periods d a)

/-- Two copies, of one sample each. The third period comes before the reader has been, and the
reader of the other direction has not been at all. -/
theorem nothing_lost_silently_twoCopies :
    let us : List Use := [.hear .input [5], .hear .input [6], .hear .input [7], .read .input,
      .hear .output [1, 2], .hear .input [8], .hear .output [9]]
    1 ≤ 2 ∧ ∃ new, make? 1 2 = some new
      ∧ new.handed .input us = [⟨.input, 1, [5]⟩, ⟨.input, 2, [6]⟩]
      ∧ ((new.after us).read .input).1 = [⟨.input, 3, [8]⟩]
      ∧ (new.after us).lost .input = 1
      ∧ new.handed .output us = []
      ∧ ((new.after us).read .output).1 = [⟨.output, 1, [9]⟩]
      ∧ (new.after us).lost .output = 1 := by
  intro us
  obtain ⟨new, hmake, h⟩ := nothing_lost_silently 1 (by decide : 1 ≤ 2) us
  obtain ⟨⟨hinput, hinput_all, hinput_lost⟩, _⟩ := h .input
  obtain ⟨⟨houtput, houtput_all, houtput_lost⟩, _⟩ := h .output
  rw [hinput] at hinput_all
  rw [houtput] at houtput_all
  refine ⟨by decide, new, hmake, hinput, ?_, hinput_lost, houtput, ?_, houtput_lost⟩
  · exact List.append_cancel_left hinput_all
  · exact List.append_cancel_left houtput_all

end Tap

end Passthrough
