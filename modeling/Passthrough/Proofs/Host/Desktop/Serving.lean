import Mathlib.Algebra.Order.Floor.Div
import Passthrough.Proofs.Host.Desktop.Reading
/-!
# Whole periods of what is played

A playback framer serves samples one by one, to buffers of any size. What it serves can be told from
the number of samples alone, and not from how they were cut into buffers. They come from what the
framer holds and then from the periods that its callback gives. The callback is asked for as many of
them as it takes to cover the samples, up to the call that answers stop (`askings`), and silence is
served behind the last period.

* **`PlaybackFramer.pull_eq_served`** — what a framer that is on serves.
* **`PlaybackFramer.pull_add`** — two buffers are as good as one.
-/

namespace Passthrough

namespace Desktop

variable {σ : Type}

/-! ## What a callback gives -/

section Giving

variable (call : Nat → σ → Verdict × List Int16 × σ) (period : Nat)

/-- What a callback gives and answers, were it to be asked so many times. -/
def givings : Nat → σ → List (List Int16 × Verdict)
  | 0, _ => []
  | n + 1, s => ((call period s).2.1, (call period s).1) :: givings n (call period s).2.2

/-- The owner after its callback has been asked so many times. -/
def ownerAfter : Nat → σ → σ
  | 0, s => s
  | n + 1, s => ownerAfter n (call period s).2.2

/-- How often a callback is asked for so many periods: it is not asked any more once it has answered
stop. -/
def askings (n : Nat) (s : σ) : Nat :=
  min n ((givings call period n s).findIdx (·.2 = .stop) + 1)

/-- This call, counted from 1, is the first one that answers stop. -/
def FirstStop (k : Nat) (s : σ) : Prop :=
  0 < k ∧ (call period (ownerAfter call period (k - 1) s)).1 = .stop
    ∧ ∀ i < k - 1, (call period (ownerAfter call period i s)).1 = .proceed

/-- No call does. -/
def NeverStops (s : σ) : Prop :=
  ∀ i, (call period (ownerAfter call period i s)).1 = .proceed

/-- The samples of these periods, one after the other. -/
def givenSamples (gs : List (List Int16 × Verdict)) : List Int16 := gs.flatMap (·.1)

/-- Whether the callback has answered stop. -/
def hasStopped (gs : List (List Int16 × Verdict)) : Bool := gs.any (·.2 = .stop)

variable {call period} {n k : Nat} {s s' : σ} {frames : List Int16}

/-- A callback gives one period each time it is asked. -/
@[simp] theorem length_givings : (givings call period n s).length = n := by
  induction n generalizing s with
  | zero => rfl
  | succ n ih => simp [givings, ih]

/-- It gives the first period, and then the others in the state that this has led to. -/
theorem givings_succ {verdict : Verdict} (h : call period s = (verdict, frames, s')) :
    givings call period (n + 1) s = (frames, verdict) :: givings call period n s' := by
  rw [givings, h]

theorem ownerAfter_succ {verdict : Verdict} (h : call period s = (verdict, frames, s')) :
    ownerAfter call period (n + 1) s = ownerAfter call period n s' := by
  rw [ownerAfter, h]

@[simp] theorem askings_zero : askings call period 0 s = 0 := by simp [askings]

theorem askings_of_stop (h : call period s = (.stop, frames, s')) :
    askings call period (n + 1) s = 1 := by
  simp [askings, givings_succ h, List.findIdx_cons]

theorem askings_of_proceed (h : call period s = (.proceed, frames, s')) :
    askings call period (n + 1) s = askings call period n s' + 1 := by
  simp [askings, givings_succ h, List.findIdx_cons]

/-- **A callback that answers stop** is asked up to that call, or as often as it is needed, if that
is less. The induction is on the number of periods, with the call that answers stop moved up by one
each time. -/
theorem askings_of_firstStop (h : FirstStop call period k s) :
    askings call period n s = min k n := by
  obtain ⟨hpos, hstop, hbefore⟩ := h
  induction n generalizing k s with
  | zero => simp
  | succ n ih =>
    obtain ⟨k, rfl⟩ : ∃ k', k = k' + 1 := ⟨k - 1, by omega⟩
    rcases hcall : call period s with ⟨verdict, frames, s'⟩
    cases verdict with
    | stop =>
      -- the call before this one would have had to proceed
      have hfirst : k = 0 := by
        by_contra hk
        have hproceed := hbefore 0 (by omega)
        rw [ownerAfter, hcall] at hproceed
        cases hproceed
      rw [askings_of_stop hcall, hfirst]
      omega
    | proceed =>
      obtain ⟨k, rfl⟩ : ∃ k', k = k' + 1 := by
        cases k with
        | zero =>
          rw [Nat.add_sub_cancel, ownerAfter, hcall] at hstop
          cases hstop
        | succ k => exact ⟨k, rfl⟩
      rw [Nat.add_sub_cancel, ownerAfter_succ hcall] at hstop
      have hlater : ∀ i < k, (call period (ownerAfter call period i s')).1 = .proceed := by
        intro i hi
        have hproceed := hbefore (i + 1) (by omega)
        rwa [ownerAfter_succ hcall] at hproceed
      rw [askings_of_proceed hcall, ih (Nat.succ_pos k) hstop hlater]
      omega

/-- One that does not is asked for all of them. By induction on the number of periods: the first
answer is to proceed, and the owner behind it never stops either. -/
theorem askings_of_neverStops (h : NeverStops call period s) : askings call period n s = n := by
  induction n generalizing s with
  | zero => simp
  | succ n ih =>
    have hproceed := h 0
    rw [ownerAfter] at hproceed
    rcases hcall : call period s with ⟨verdict, frames, s'⟩
    rw [hcall] at hproceed
    subst hproceed
    have hrest : NeverStops call period s' := by
      intro i
      have hnext := h (i + 1)
      rwa [ownerAfter_succ hcall] at hnext
    rw [askings_of_proceed hcall, ih hrest]

end Giving

/-! ## What is served -/

section Served

variable {α : Type} {silence : α} {held more : List α} {period n : Nat}

theorem served_append :
    served silence (held ++ more) (held.length + n) = held ++ served silence more n := by
  have hbeyond : held.length + n - (held.length + more.length) = n - more.length := by omega
  unfold served
  rw [List.take_length_add_append, List.length_append, hbeyond, List.append_assoc]

theorem leftover_append :
    leftover silence (held ++ more) period (held.length + n) = leftover silence more period n := by
  have hbeyond : held.length + n - (held.length + more.length) = n - more.length := by omega
  unfold leftover
  rw [List.drop_length_add_append, List.length_append, hbeyond]

theorem served_of_le (h : n ≤ held.length) : served silence held n = held.take n := by
  simp [served, Nat.sub_eq_zero_of_le h]

theorem leftover_of_enough (h : n ≤ held.length) :
    leftover silence held period n = held.drop n := by
  simp [leftover, Nat.sub_eq_zero_of_le h, silentRest]

end Served

namespace PlaybackFramer

variable {call : Nat → σ → Verdict × List Int16 × σ} {f : PlaybackFramer} {s s' : σ} {n : Nat}

/-! ## Sample by sample -/

theorem ready_of_left (hleft : f.pending ≠ []) : f.ready call s = (f, s) := if_neg hleft

theorem ready_of_silent (hstopped : f.stopped = true) (hnone : f.pending = []) :
    f.ready call s = ({ f with pending := List.replicate f.period 0 }, s) := by
  rw [ready, if_pos hnone, refill, if_pos hstopped]

/-- A framer that is on asks its callback for a period, and is off from then on if that answers
stop. -/
theorem ready_of_asking {verdict : Verdict} {frames : List Int16} (hrunning : f.stopped = false)
    (hnone : f.pending = []) (hcall : call f.period s = (verdict, frames, s')) :
    f.ready call s = ({ f with pending := frames, stopped := verdict = .stop }, s') := by
  rw [ready, if_pos hnone, refill, if_neg (by simp [hrunning]), hcall]
  cases verdict with
  | proceed => simp [hrunning]
  | stop => simp

/-- A framer without its next sample. -/
def rest (f : PlaybackFramer) : PlaybackFramer := { f with pending := f.pending.tail }

/-- One sample more: it is served from the framer that is ready for it, and the rest of the buffer
after it. -/
theorem serve_one (call : Nat → σ → Verdict × List Int16 × σ) (n : Nat) (before : Array Int16)
    (f : PlaybackFramer) (s : σ) :
    serve call (n + 1) before f s
      = serve call n (before.push ((f.ready call s).1.pending.headD 0)) (f.ready call s).1.rest
          (f.ready call s).2 :=
  serve_succ n before f s

/-- What has been served already stays as it is: serving appends to it, so that a buffer can be
told from an empty one. The induction is on the number of samples, with the buffer so far left
general. -/
theorem serve_eq_append (call : Nat → σ → Verdict × List Int16 × σ) (n : Nat)
    (before : Array Int16) (f : PlaybackFramer) (s : σ) :
    serve call n before f s
      = (before ++ (serve call n #[] f s).1, (serve call n #[] f s).2) := by
  induction n generalizing before f s with
  | zero => exact congrArg (·, f, s) Array.append_empty.symm
  | succ n ih =>
    rw [serve_one, serve_one, ih (before.push _), ih (#[].push _), ← Array.append_assoc]
    rfl

@[simp] theorem pull_zero : f.pull call 0 s = ([], f, s) := rfl

/-- The next sample, and those behind it. All that follows goes by induction over this. -/
theorem pull_succ (call : Nat → σ → Verdict × List Int16 × σ) (f : PlaybackFramer) (n : Nat)
    (s : σ) :
    f.pull call (n + 1) s
      = ((f.ready call s).1.pending.headD 0
            :: ((f.ready call s).1.rest.pull call n (f.ready call s).2).1,
          ((f.ready call s).1.rest.pull call n (f.ready call s).2).2) := by
  unfold pull
  rw [serve_one, serve_eq_append]
  simp

@[simp] theorem length_pull : (f.pull call n s).1.length = n := by
  induction n generalizing f s with
  | zero => rfl
  | succ n ih => rw [pull_succ, List.length_cons, ih]

/-- **Two buffers** are as good as one. It is by `pull_succ` on the first number, and is why the
lengths in which a device asks do not matter. -/
theorem pull_add (call : Nat → σ → Verdict × List Int16 × σ) (f : PlaybackFramer) (n m : Nat)
    (s : σ) :
    f.pull call (n + m) s
      = ((f.pull call n s).1 ++ ((f.pull call n s).2.1.pull call m (f.pull call n s).2.2).1,
          ((f.pull call n s).2.1.pull call m (f.pull call n s).2.2).2) := by
  induction n generalizing f s with
  | zero => simp
  | succ n ih =>
    have hcount : n + 1 + m = n + m + 1 := by omega
    rw [hcount, pull_succ, pull_succ, ih]
    rfl

/-! ## What waits, and silence -/

/-- **What waits** is served before anything else. The callback is not asked for as long as
something waits (`ready_of_left`). -/
theorem pull_of_le (h : n ≤ f.pending.length) :
    f.pull call n s = (f.pending.take n, { f with pending := f.pending.drop n }, s) := by
  induction n generalizing f with
  | zero => rfl
  | succ n ih =>
    rcases f with ⟨period, pending, stopped⟩
    cases pending with
    | nil => cases h
    | cons x rest =>
      have hready : ready call ⟨period, x :: rest, stopped⟩ s = (⟨period, x :: rest, stopped⟩, s) :=
        rfl
      rw [pull_succ, hready]
      simp only [List.headD_cons]
      rw [ih (Nat.le_of_succ_le_succ h)]
      rfl

/-- **A framer that is off** serves what waits, and silence behind it. Silence comes in whole
periods, of which `leftover` is what has not been served yet. The induction is on the number of
samples, one more at the end of the buffer. -/
theorem pull_of_stopped (hstopped : f.stopped = true) (hpos : 0 < f.period) :
    f.pull call n s
      = (served 0 f.pending n, { f with pending := leftover 0 f.pending f.period n }, s) := by
  induction n with
  | zero => simp
  | succ n ih =>
    rw [pull_add, ih]
    by_cases hmore : n < f.pending.length
    · have hleft : leftover 0 f.pending f.period n
          = f.pending[n] :: leftover 0 f.pending f.period (n + 1) := leftover_of_lt hmore
      have hone : 1 ≤ (leftover 0 f.pending f.period n).length := by simp [hleft]
      simp only
      rw [pull_of_le hone, served_succ_of_lt hmore]
      simp [hleft]
    · have hle : f.pending.length ≤ n := by omega
      rw [served_succ_of_le hle]
      by_cases hrest : silentRest f.period (n - f.pending.length) = 0
      · -- the last period is used up, and another one of silence begins
        have hnone : leftover 0 f.pending f.period n = [] := by
          rw [leftover_of_le hle, hrest]
          rfl
        have hready : ready call { f with pending := [] } s
            = ({ f with pending := List.replicate f.period 0 }, s) := ready_of_silent hstopped rfl
        have hsilence : List.replicate f.period (0 : Int16)
            = 0 :: List.replicate (f.period - 1) 0 := by
          rw [← List.replicate_succ, Nat.sub_add_cancel hpos]
        simp only
        rw [hnone, pull_succ, hready, leftover_of_used hle hrest]
        simp [hsilence, rest]
      · have hleft : leftover 0 f.pending f.period n
            = 0 :: leftover 0 f.pending f.period (n + 1) := leftover_of_begun hle hrest
        have hone : 1 ≤ (leftover 0 f.pending f.period n).length := by simp [hleft]
        simp only
        rw [pull_of_le hone]
        simp [hleft]

/-! ## Period by period -/

/-- A framer that is on and has nothing left asks for a period, however many samples are wanted.
From then on it is the framer that holds this period, which is off if the callback answered stop. -/
theorem pull_of_asking {verdict : Verdict} {frames : List Int16} (hrunning : f.stopped = false)
    (hnone : f.pending = []) (hcall : call f.period s = (verdict, frames, s'))
    (hframes : frames ≠ []) (hn : 0 < n) :
    f.pull call n s
      = ({ f with pending := frames, stopped := verdict = .stop } : PlaybackFramer).pull
          call n s' := by
  obtain ⟨n, rfl⟩ : ∃ n', n = n' + 1 := ⟨n - 1, by omega⟩
  have hready : ready call { f with pending := frames, stopped := verdict = .stop } s'
      = ({ f with pending := frames, stopped := verdict = .stop }, s') := ready_of_left hframes
  rw [pull_succ, pull_succ, ready_of_asking hrunning hnone hcall, hready]

/-- Beyond what waits, the samples come from the period that is asked for. The buffer is cut where
what waits ends (`pull_add`), and behind that `pull_of_asking` applies. -/
theorem pull_of_more {verdict : Verdict} {frames : List Int16} (hrunning : f.stopped = false)
    (hcall : call f.period s = (verdict, frames, s')) (hframes : frames ≠ []) (hn : 0 < n) :
    let asked : PlaybackFramer := { f with pending := frames, stopped := verdict = .stop }
    f.pull call (f.pending.length + n) s
      = (f.pending ++ (asked.pull call n s').1, (asked.pull call n s').2) := by
  intro asked
  have hnone : ({ f with pending := [] } : PlaybackFramer).pull call n s = asked.pull call n s' :=
    pull_of_asking hrunning rfl hcall hframes hn
  rw [pull_add, pull_of_le (Nat.le_refl _), List.take_length, List.drop_length]
  simp only
  rw [hnone]

/-- How many periods it takes to cover so many samples, beyond those that wait. -/
def wanted (f : PlaybackFramer) (n : Nat) : Nat := (n - f.pending.length) ⌈/⌉ f.period

theorem wanted_eq_zero (hpos : 0 < f.period) : f.wanted n = 0 ↔ n ≤ f.pending.length := by
  rw [wanted, ← Nat.le_zero, ceilDiv_le_iff_le_smul hpos, smul_zero, Nat.le_zero,
    Nat.sub_eq_zero_iff_le]

/-- The first of the periods that cover some samples, and those that cover the rest. -/
theorem ceilDiv_eq_succ {m p : Nat} (hp : 0 < p) (hm : 0 < m) : m ⌈/⌉ p = (m - p) ⌈/⌉ p + 1 := by
  have hcount : m + p - 1 = m - 1 + p := by omega
  rw [Nat.ceilDiv_eq_add_pred_div, Nat.ceilDiv_eq_add_pred_div, hcount, Nat.add_div_right _ hp]
  by_cases hmore : p ≤ m
  · have hrest : m - p + p - 1 = m - 1 := by omega
    rw [hrest]
  · have hrest : m - p + p - 1 = p - 1 := by omega
    rw [hrest, Nat.div_eq_of_lt (by omega : p - 1 < p), Nat.div_eq_of_lt (by omega : m - 1 < p)]

/-- What is served from, when there are so many periods to come: what waits, and then they. -/
def source (call : Nat → σ → Verdict × List Int16 × σ) (f : PlaybackFramer) (w : Nat) (s : σ) :
    List Int16 :=
  f.pending ++ givenSamples (givings call f.period (askings call f.period w s) s)

/-- A framer after `n` samples have been served from there, and its owner. -/
def drained (call : Nat → σ → Verdict × List Int16 × σ) (f : PlaybackFramer) (w n : Nat) (s : σ) :
    PlaybackFramer × σ :=
  ({ f with
      pending := leftover 0 (source call f w s) f.period n
      stopped := hasStopped (givings call f.period (askings call f.period w s) s) },
    ownerAfter call f.period (askings call f.period w s) s)

/-- **What a framer that is on serves**: what waits, then the periods that its callback gives, as
far as they are wanted and it gives any, and then silence. -/
theorem pull_eq_served (hrunning : f.stopped = false) (hpos : 0 < f.period)
    (hfills : ∀ s, (call f.period s).2.1.length = f.period) (n : Nat) (s : σ) :
    f.pull call n s
      = (served 0 (source call f (f.wanted n) s) n, drained call f (f.wanted n) n s) := by
  -- period by period: the callback is asked for one when what waits has been served
  induction hw : f.wanted n generalizing f n s with
  | zero =>
    have hle := (wanted_eq_zero hpos).mp hw
    have hsource : source call f 0 s = f.pending := by simp [source, givings, givenSamples]
    rw [pull_of_le hle, drained, hsource, served_of_le hle, leftover_of_enough hle]
    simp [givings, hasStopped, ownerAfter, hrunning]
  | succ w ih =>
    have hmore : f.pending.length < n := by
      by_contra hle
      rw [(wanted_eq_zero hpos).mpr (by omega)] at hw
      cases hw
    obtain ⟨m, rfl⟩ := Nat.exists_eq_add_of_le hmore.le
    have hm : 0 < m := by omega
    rcases hcall : call f.period s with ⟨verdict, frames, s'⟩
    have hframes : frames.length = f.period := by simpa [hcall] using hfills s
    have hsome : frames ≠ [] := by
      rintro rfl
      exact absurd hframes (Nat.ne_of_lt hpos)
    rw [pull_of_more hrunning hcall hsome hm]
    cases verdict with
    | stop =>
      let asked : PlaybackFramer := { f with pending := frames, stopped := true }
      have hsource : source call f (w + 1) s = f.pending ++ frames := by
        simp [source, askings_of_stop hcall, givings_succ hcall, givings, givenSamples]
      have hrest : asked.pull call m s' = (served 0 frames m, _, s') := pull_of_stopped rfl hpos
      rw [drained, hsource, served_append, leftover_append, askings_of_stop hcall,
        givings_succ hcall, ownerAfter_succ hcall]
      exact congrArg (fun r => (f.pending ++ r.1, r.2)) hrest
    | proceed =>
      let asked : PlaybackFramer := { f with pending := frames, stopped := false }
      have hsource : source call f (w + 1) s = f.pending ++ source call asked w s' := by
        simp [asked, source, askings_of_proceed hcall, givings_succ hcall, givenSamples]
      have hwanted : asked.wanted m = w := by
        have hcount : f.wanted (f.pending.length + m) = m ⌈/⌉ f.period := by
          rw [wanted, Nat.add_sub_cancel_left]
        rw [hcount, ceilDiv_eq_succ hpos hm] at hw
        rw [wanted, hframes]
        exact Nat.succ.inj hw
      have hrest : asked.pull call m s'
          = (served 0 (source call asked w s') m, drained call asked w m s') :=
        ih (f := asked) rfl hpos hfills m s' hwanted
      rw [drained, hsource, served_append, leftover_append, askings_of_proceed hcall,
        givings_succ hcall, ownerAfter_succ hcall]
      exact congrArg (fun r => (f.pending ++ r.1, r.2)) hrest

/-- **No more than a period** waits in a framer. A period is asked for, and silence begun, only when
nothing is left, and either is one period long. -/
theorem room_pull (hfills : ∀ s, (call f.period s).2.1.length = f.period)
    (hroom : f.pending.length ≤ f.period) (n : Nat) (s : σ) :
    (f.pull call n s).2.1.pending.length ≤ (f.pull call n s).2.1.period := by
  induction n generalizing f s with
  | zero => exact hroom
  | succ n ih =>
    -- made ready for one sample, the framer holds what it held or a new period
    obtain ⟨hperiod, hready⟩ : (f.ready call s).1.period = f.period
        ∧ (f.ready call s).1.pending.length ≤ f.period := by
      by_cases hleft : f.pending = []
      · cases hstopped : f.stopped with
        | true =>
          rw [ready_of_silent hstopped hleft]
          exact ⟨rfl, by simp⟩
        | false =>
          rw [ready_of_asking hstopped hleft rfl]
          exact ⟨rfl, Nat.le_of_eq (hfills s)⟩
      · rw [ready_of_left hleft]
        exact ⟨rfl, hroom⟩
    have hrest : (f.ready call s).1.rest.pending.length ≤ (f.ready call s).1.rest.period := by
      rw [rest, List.length_tail, hperiod]
      omega
    rw [pull_succ]
    exact ih (f := (f.ready call s).1.rest) (by rwa [rest, hperiod]) hrest _

end PlaybackFramer

end Desktop

end Passthrough
