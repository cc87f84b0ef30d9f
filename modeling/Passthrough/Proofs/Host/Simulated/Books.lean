import Mathlib.Data.List.Induction
import Passthrough.Stream.Callback
/-!
# The books of a host

What is done to a host is entered into books, a page for each time: what was asked, what the host
answered, and which callbacks it called meanwhile. The streams are numbered from 0 in the order of
their opening. Nothing else is known of the host, so that the books tell what its owner can know:
which streams are live (`live`), which of them run (`runs`) and which a buffer has to go to
(`newestRunning?`).

A page is right after those before it if it says what it should (`Right`). In sound books every page
is.

* **`started_of_runs`**, **`newestRunning?_spec`** — what it takes to run, and to be the newest.
* **`Sound.notices_cases`**, **`Sound.notices_of_gone`** — a stream is told once that it is lost, and
  nothing once it is gone.
* **`Sound.unplugged`**, **`Sound.called`** — which stream is lost, and whose data callback is called.
-/

namespace Passthrough

namespace Bookkeeping

/-- A call of a callback. -/
inductive Summons
  /-- The data callback, which answered this. -/
  | data (i : Nat) (verdict : Verdict)
  | beforeClose (i : Nat)
  | afterClose (i : Nat)
  deriving DecidableEq

/-- What was done to a host, and what it answered. -/
inductive Dealing
  /-- A request for a direction has opened a stream, whose data callback is one for `side`. -/
  | opened (d side : Direction)
  | refused (d : Direction)
  | started (i : Nat) (answer : Except HostError Unit)
  | stopped (i : Nat) (answer : Except HostError Unit)
  | closed (i : Nat) (answer : Except HostError Unit)
  /-- The owner has let go of the handle. -/
  | dropped (i : Nat)
  /-- The device has exchanged a buffer, and this stream of the direction was to answer. -/
  | pumped (d : Direction) (reached : Option Nat) (result : Option Verdict)
  | unplugged (d : Direction) (answer : Bool)

/-- What the request for a stream has settled. -/
structure Booking where
  direction : Direction
  side : Direction
  deriving DecidableEq

structure Page where
  dealing : Dealing
  /-- The callbacks called meanwhile, in their order. -/
  summons : List Summons := []

namespace Page

def opened? (p : Page) : Option Booking :=
  match p.dealing with
  | .opened direction side => some { direction, side }
  | _ => none

def closed? (p : Page) : Option Nat :=
  match p.dealing with
  | .closed i (.ok _) => some i
  | _ => none

/-- Whether a stream is gone from then on: its owner has closed or dropped it, or it has been told
that the hardware has closed it. -/
def ends (p : Page) (i : Nat) : Bool :=
  match p.dealing with
  | .closed j (.ok _) => j == i
  | .dropped j => j == i
  | .unplugged _ _ => p.summons.contains (.afterClose i)
  | _ => false

/-- Whether a stream is turned on or off. It is on once a start succeeds, and off once a stop
succeeds, once it has answered stop and once it is gone. -/
def turned? (p : Page) (i : Nat) : Option Bool :=
  match p.dealing with
  | .started j (.ok _) => if j = i then some true else none
  | .stopped j (.ok _) => if j = i then some false else none
  | .pumped _ reached (some .stop) => if reached = some i then some false else none
  | _ => if p.ends i then some false else none

/-- What ends a stream turns it off. -/
theorem turned?_of_ends {p : Page} {i : Nat} (h : p.ends i = true) : p.turned? i = some false := by
  unfold turned?
  split
  · next heq => simp [ends, heq] at h
  · next heq => simp [ends, heq] at h
  · next heq => simp [ends, heq] at h
  · exact if_pos h

theorem ends_lost (d : Direction) (i j : Nat) :
    ends ⟨.unplugged d true, [.beforeClose i, .afterClose i]⟩ j = (i == j) := by
  show List.contains _ (Summons.afterClose j) = _
  by_cases hij : i = j
  · simp [hij]
  · simp [hij, Ne.symm hij]

end Page

/-! ## Reading -/

section Reading

variable (pages : List Page)

def bookings : List Booking := pages.filterMap Page.opened?

/-- The streams that their owner has closed, in that order. -/
def closings : List Nat := pages.filterMap Page.closed?

/-- The streams that are not gone, oldest first. -/
def live : List Nat :=
  (List.range (bookings pages).length).filter fun i => !pages.any (·.ends i)

def isIn (d : Direction) (i : Nat) : Bool := (bookings pages)[i]?.any (·.direction = d)

def hasSide (d : Direction) (i : Nat) : Bool := (bookings pages)[i]?.any (·.side = d)

/-- The live streams of a direction, oldest first. -/
def liveIn (d : Direction) : List Nat := (live pages).filter (isIn pages d)

/-- Whether a stream runs: what has turned it last has turned it on. -/
def runs (i : Nat) : Bool := (pages.filterMap (·.turned? i)).getLast?.getD false

/-- The stream of a direction that was opened last among the live ones that run. -/
def newestRunning? (d : Direction) : Option Nat := (liveIn pages d).reverse.find? (runs pages)

/-- The pages speak of streams that have been opened. -/
def Named : Prop := ∀ p ∈ pages, ∀ i, p.turned? i ≠ none → i < (bookings pages).length

end Reading

/-! ## One more page -/

variable {pages : List Page} {p : Page} {i : Nat} {d : Direction}

theorem bookings_concat (pages : List Page) (p : Page) :
    bookings (pages ++ [p]) = bookings pages ++ p.opened?.toList := by
  unfold bookings
  rw [List.filterMap_append]
  cases h : p.opened? <;> simp [h]

theorem closings_concat (pages : List Page) (p : Page) :
    closings (pages ++ [p]) = closings pages ++ p.closed?.toList := by
  unfold closings
  rw [List.filterMap_append]
  cases h : p.closed? <;> simp [h]

/-- A stream runs if the last page turns it on, or does not turn it and it ran before. -/
theorem runs_concat (pages : List Page) (p : Page) (i : Nat) :
    runs (pages ++ [p]) i = (p.turned? i).getD (runs pages i) := by
  unfold runs
  rw [List.filterMap_append]
  cases h : p.turned? i <;> simp [h]

theorem mem_live : i ∈ live pages
    ↔ i < (bookings pages).length ∧ ∀ p ∈ pages, p.ends i = false := by
  simp [live]

/-- A page that opens nothing leaves those of the live streams that it does not end. -/
theorem live_concat (hopen : p.opened? = none) :
    live (pages ++ [p]) = (live pages).filter fun i => !p.ends i := by
  unfold live
  rw [bookings_concat, hopen, Option.toList_none, List.append_nil, List.filter_filter]
  refine List.filter_congr fun i _ => ?_
  rw [List.any_append, Bool.not_or, Bool.and_comm]
  simp

/-- The direction of a stream is settled when it is opened, and no other page changes it. -/
theorem isIn_concat (hopen : p.opened? = none) (d : Direction) :
    isIn (pages ++ [p]) d = isIn pages d := by
  funext i
  unfold isIn
  rw [bookings_concat, hopen, Option.toList_none, List.append_nil]

/-- So a page that opens nothing acts on the live streams of a direction as it does on all of
them. -/
theorem liveIn_concat (hopen : p.opened? = none) (d : Direction) :
    liveIn (pages ++ [p]) d = (liveIn pages d).filter fun i => !p.ends i := by
  unfold liveIn
  rw [live_concat hopen, isIn_concat hopen, List.filter_filter, List.filter_filter]
  exact List.filter_congr fun i _ => Bool.and_comm _ _

/-- An opening adds a stream, which comes last. No earlier page can have ended it, since pages speak
of streams that have been opened (`Named`). -/
theorem live_opening (hnamed : Named pages) {booking : Booking}
    (hopen : p.opened? = some booking) :
    live (pages ++ [p]) = live pages ++ [(bookings pages).length] := by
  -- an opening ends no stream
  have hends : ∀ i, p.ends i = false := by
    intro i
    unfold Page.opened? at hopen
    unfold Page.ends
    split at hopen
    · next heq => rw [heq]
    · cases hopen
  -- and its own number stands in no page before
  have hnew : pages.any (·.ends (bookings pages).length) = false := by
    rw [List.any_eq_false]
    intro q hq hgone
    have hlt := hnamed q hq _ (by rw [Page.turned?_of_ends hgone]; simp)
    omega
  unfold live
  rw [bookings_concat, hopen, Option.toList_some, List.length_append, List.length_singleton,
    List.range_succ, List.filter_append]
  congr 1
  · exact List.filter_congr fun i _ => by simp [hends]
  · simp [hends, hnew]

theorem getElem?_bookings_concat (hi : i < (bookings pages).length) :
    (bookings (pages ++ [p]))[i]? = (bookings pages)[i]? := by
  rw [bookings_concat, List.getElem?_append_left hi]

/-- A stream that has not been opened does not run. No page names it, so none turned it on. -/
theorem Named.runs_eq_false (h : Named pages) (hi : (bookings pages).length ≤ i) :
    runs pages i = false := by
  have hnone : pages.filterMap (·.turned? i) = [] := by
    refine List.filterMap_eq_nil_iff.mpr fun p hp => ?_
    cases hturned : p.turned? i with
    | none => rfl
    | some on =>
      have hlt := h p hp i (by rw [hturned]; simp)
      omega
  unfold runs
  rw [hnone]
  rfl

/-- A stream that has been closed is gone, and so has been opened. -/
theorem ends_of_mem_closings (h : i ∈ closings pages) : ∃ p ∈ pages, p.ends i = true := by
  obtain ⟨p, hp, hclosed⟩ := List.mem_filterMap.mp h
  refine ⟨p, hp, ?_⟩
  unfold Page.closed? at hclosed
  unfold Page.ends
  split at hclosed
  · next heq =>
    cases hclosed
    simp [heq]
  · cases hclosed

theorem not_mem_live_of_mem_closings (h : i ∈ closings pages) : i ∉ live pages := by
  obtain ⟨p, hp, hends⟩ := ends_of_mem_closings h
  intro hlive
  rw [(mem_live.mp hlive).2 p hp] at hends
  cases hends

theorem Named.lt_of_mem_closings (h : Named pages) (hi : i ∈ closings pages) :
    i < (bookings pages).length := by
  obtain ⟨p, hp, hends⟩ := ends_of_mem_closings hi
  exact h p hp i (by rw [Page.turned?_of_ends hends]; simp)

/-! ## What has been read -/

/-- **A stream that runs** has been started, and nothing has turned it since. The induction is on
the pages from the last one back, up to the one that has turned the stream on. -/
theorem started_of_runs (h : runs pages i = true) :
    ∃ earlier start since, pages = earlier ++ start :: since
      ∧ start.dealing = .started i (.ok ()) ∧ ∀ q ∈ since, q.turned? i = none := by
  induction pages using List.reverseRecOn with
  | nil => cases h
  | append_singleton pages p ih =>
    rw [runs_concat] at h
    cases hturned : p.turned? i with
    | none =>
      rw [hturned] at h
      obtain ⟨earlier, start, since, rfl, hstart, hsince⟩ := ih h
      refine ⟨earlier, start, since ++ [p], by simp, hstart, fun q hq => ?_⟩
      rcases List.mem_append.mp hq with hq | hq
      · exact hsince q hq
      · rw [List.mem_singleton.mp hq]
        exact hturned
    | some on =>
      rw [hturned] at h
      cases h
      refine ⟨pages, p, [], rfl, ?_, nofun⟩
      -- only a start that succeeded turns a stream on
      unfold Page.turned? at hturned
      split at hturned
      · next j heq =>
        split at hturned
        · next hj => rw [heq, hj]
        · cases hturned
      all_goals
        split at hturned
        · cases hturned
        · cases hturned

/-- **The newest stream that runs** is live, and none that was opened after it runs. `liveIn` lists
places in the order of opening, and the search goes through it from behind. -/
theorem newestRunning?_spec (h : newestRunning? pages d = some i) :
    i ∈ liveIn pages d ∧ runs pages i = true ∧ ∀ j ∈ liveIn pages d, i < j → runs pages j = false := by
  obtain ⟨hruns, newer, older, hsplit, hnewer⟩ := List.find?_eq_some_iff_append.mp h
  have hmem (j : Nat) : j ∈ liveIn pages d ↔ j ∈ newer ++ i :: older := by
    rw [← hsplit, List.mem_reverse]
  have hsorted : (newer ++ i :: older).Pairwise (· > ·) := by
    rw [← hsplit, List.pairwise_reverse]
    exact (List.pairwise_lt_range.filter _).filter _
  refine ⟨(hmem i).mpr (by simp), hruns, fun j hj hlt => ?_⟩
  rcases List.mem_append.mp ((hmem j).mp hj) with hj | hj
  · simpa using hnewer j hj
  · rcases List.mem_cons.mp hj with rfl | hj
    · exact absurd hlt (Nat.lt_irrefl j)
    · have holder := List.rel_of_pairwise_cons (List.pairwise_append.mp hsorted).2.1 hj
      omega

/-! ## Right pages -/

/-- **A right page**, after those before it. -/
inductive Right (before : List Page) : Page → Prop
  | opened (d side : Direction) : Right before ⟨.opened d side, []⟩
  | refused (d : Direction) : Right before ⟨.refused d, []⟩
  | started (i : Nat) (h : i ∈ live before) : Right before ⟨.started i (.ok ()), []⟩
  | notStarted (i : Nat) (e : HostError) : Right before ⟨.started i (.error e), []⟩
  | stopped (i : Nat) (answer : Except HostError Unit) : Right before ⟨.stopped i answer, []⟩
  | closed (i : Nat) (h : i ∉ closings before) : Right before ⟨.closed i (.ok ()), []⟩
  | closedAlready (i : Nat) (h : i ∈ closings before) : Right before ⟨.closed i (.error .closed), []⟩
  | dropped (i : Nat) : Right before ⟨.dropped i, []⟩
  /-- Nothing runs. -/
  | idle (d : Direction) (h : newestRunning? before d = none) : Right before ⟨.pumped d none none, []⟩
  | reached (d : Direction) (i : Nat) (v : Verdict) (h : newestRunning? before d = some i)
      (hside : hasSide before d i = true) : Right before ⟨.pumped d (some i) (some v), [.data i v]⟩
  /-- A callback for the other side is not called, and counts as one that answers stop. -/
  | misled (d : Direction) (i : Nat) (h : newestRunning? before d = some i)
      (hside : hasSide before d i = false) : Right before ⟨.pumped d (some i) (some .stop), []⟩
  /-- There is nothing to unplug. -/
  | absent (d : Direction) (h : liveIn before d = []) : Right before ⟨.unplugged d false, []⟩
  /-- The newest stream of the direction is told that it is gone. -/
  | lost (d : Direction) (i : Nat) (h : (liveIn before d).getLast? = some i) :
      Right before ⟨.unplugged d true, [.beforeClose i, .afterClose i]⟩

/-- **Sound books**: every page is right after those before it. -/
def Sound (pages : List Page) : Prop :=
  ∀ before p later, pages = before ++ p :: later → Right before p

/-- One right page more keeps books sound. A page of the longer books is one of the shorter ones,
where it was right, or it is the new one. -/
theorem Sound.concat (h : Sound pages) (hp : Right pages p) : Sound (pages ++ [p]) := by
  intro before q later hsplit
  rcases List.append_eq_append_iff.mp hsplit with ⟨more, rfl, hmore⟩ | ⟨more, rfl, hmore⟩
  · cases more with
    | nil =>
      cases hmore
      rwa [List.append_nil]
    | cons r more => simp at hmore
  · cases more with
    | nil =>
      cases hmore
      rwa [List.append_nil] at hp
    | cons r more =>
      cases hmore
      exact h before q more rfl

/-- Sound books without their last page are sound, and that page is right after them. -/
theorem Sound.of_concat (h : Sound (pages ++ [p])) : Sound pages ∧ Right pages p :=
  ⟨fun before q later hsplit => h before q (later ++ [p]) (by simp [hsplit]), h pages p [] rfl⟩

/-- A right page closes a stream only that has not been closed before. -/
theorem Right.not_mem_closings (h : Right pages p) (hclosed : p.closed? = some i) :
    i ∉ closings pages := by
  cases h with
  | closed j hj =>
    cases hclosed
    exact hj
  | _ => cases hclosed

/-- **No stream is closed twice**, by induction over `Right.not_mem_closings`. -/
theorem Sound.nodup_closings (h : Sound pages) : (closings pages).Nodup := by
  induction pages using List.reverseRecOn with
  | nil => exact .nil
  | append_singleton pages p ih =>
    obtain ⟨hpages, hp⟩ := h.of_concat
    rw [closings_concat]
    cases hclosed : p.closed? with
    | none => simpa using ih hpages
    | some i =>
      have hnew := hp.not_mem_closings hclosed
      refine List.nodup_append.mpr ⟨ih hpages, by simp, fun j hj k hk => ?_⟩
      rw [List.mem_singleton.mp hk]
      exact fun heq => hnew (heq ▸ hj)

/-! ### Whom the host tells -/

/-- Whether it tells a stream that it is lost. -/
def Summons.isNotice (i : Nat) (s : Summons) : Bool := s = .beforeClose i || s = .afterClose i

/-- What a stream has been told in its life, oldest first. -/
def notices (i : Nat) (pages : List Page) : List Summons :=
  (pages.flatMap Page.summons).filter (Summons.isNotice i)

theorem notices_append (i : Nat) (pages more : List Page) :
    notices i (pages ++ more) = notices i pages ++ notices i more := by
  unfold notices
  rw [List.flatMap_append, List.filter_append]

theorem liveIn_getLast?_live (h : (liveIn pages d).getLast? = some i) : i ∈ live pages :=
  (List.mem_filter.mp (List.mem_of_getLast? h)).1

/-- A page tells a stream nothing, or it tells of its end, both before and after. Then the stream
was live until that page, and the page ends it. -/
theorem Right.notices_cases (h : Right pages p) (i : Nat) :
    notices i [p] = []
      ∨ (notices i [p] = [.beforeClose i, .afterClose i] ∧ i ∈ live pages ∧ p.ends i = true) := by
  cases h with
  | lost d j hlast =>
    by_cases hj : j = i
    · subst hj
      exact .inr ⟨by simp [notices, Summons.isNotice], liveIn_getLast?_live hlast, by simp [Page.ends]⟩
    · exact .inl (by simp [notices, Summons.isNotice, hj])
  | reached => exact .inl (by simp [notices, Summons.isNotice])
  | _ => exact .inl rfl

/-- What is gone is told nothing any more, since no later page can find it live
(`Right.notices_cases`). By induction on the pages since, from the last of them. -/
theorem Sound.notices_of_gone {before later : List Page} (h : Sound (before ++ p :: later))
    (hends : p.ends i = true) : notices i later = [] := by
  induction later using List.reverseRecOn with
  | nil => rfl
  | append_singleton later q ih =>
    have hsplit : before ++ p :: (later ++ [q]) = (before ++ p :: later) ++ [q] := by simp
    rw [hsplit] at h
    obtain ⟨hpages, hq⟩ := h.of_concat
    rw [notices_append, ih hpages]
    rcases hq.notices_cases i with hnone | ⟨_, hlive, _⟩
    · exact hnone
    · have hends' := (mem_live.mp hlive).2 p (by simp)
      rw [hends] at hends'
      cases hends'

/-- **A stream is told once** that it is lost, if ever, and is gone by then. The first page that
tells it anything ends it, so that the pages behind that one are silent
(`Sound.notices_of_gone`). -/
theorem Sound.notices_cases (h : Sound pages) (i : Nat) :
    notices i pages = []
      ∨ (notices i pages = [.beforeClose i, .afterClose i] ∧ ∃ p ∈ pages, p.ends i = true) := by
  induction pages using List.reverseRecOn with
  | nil => exact .inl rfl
  | append_singleton pages p ih =>
    obtain ⟨hpages, hp⟩ := h.of_concat
    rw [notices_append]
    rcases hp.notices_cases i with hnone | ⟨htold, hlive, hends⟩
    · rw [hnone, List.append_nil]
      rcases ih hpages with hwas | ⟨hwas, q, hq, hends⟩
      · exact .inl hwas
      · exact .inr ⟨hwas, q, List.mem_append_left _ hq, hends⟩
    · rcases ih hpages with hwas | ⟨_, q, hq, hgone⟩
      · exact .inr ⟨by rw [hwas, htold]; rfl, p, by simp, hends⟩
      · -- told again, it would have to be live after a page that ended it
        have hlast := (mem_live.mp hlive).2 q hq
        rw [hgone] at hlast
        cases hlast

/-- **A device that is unplugged** takes the newest live stream of its direction with it, and only
this stream is told. Where no stream is live the answer is no and nothing happens. -/
theorem Sound.unplugged {before later : List Page} {answer : Bool}
    (h : Sound (before ++ p :: later)) (hp : p.dealing = .unplugged d answer) :
    (answer = false ∧ liveIn before d = [] ∧ p.summons = [])
      ∨ (answer = true ∧ ∃ i, (liveIn before d).getLast? = some i
        ∧ p.summons = [.beforeClose i, .afterClose i]
        ∧ ∀ d', liveIn (before ++ [p]) d' = (liveIn before d').filter (· ≠ i)) := by
  cases h before p later rfl with
  | absent d' hempty =>
    cases hp
    exact .inl ⟨rfl, hempty, rfl⟩
  | lost d' i hlast =>
    cases hp
    refine .inr ⟨rfl, i, hlast, rfl, fun d' => ?_⟩
    -- the page ends this stream and no other
    rw [liveIn_concat rfl]
    refine List.filter_congr fun j _ => ?_
    rw [Page.ends_lost]
    by_cases hj : i = j
    · simp [hj]
    · simp [hj, Ne.symm hj]
  | _ => cases hp

/-! ### Whom the host calls -/

/-- **Whose data callback is called**: the newest running stream's, by a pump, and nothing else is
called meanwhile. Of the kinds of page that can be `Right`, the one of a buffer that reached a
stream is the only one with a `data` summons. -/
theorem Sound.called {before later : List Page} {v : Verdict} (h : Sound (before ++ p :: later))
    (hcalled : .data i v ∈ p.summons) :
    ∃ d, p = ⟨.pumped d (some i) (some v), [.data i v]⟩ ∧ newestRunning? before d = some i := by
  cases h before p later rfl with
  | reached d j w hnewest hside =>
    cases List.mem_singleton.mp hcalled
    exact ⟨d, rfl, hnewest⟩
  | lost d j hlast => simp at hcalled
  | _ => cases hcalled

end Bookkeeping

end Passthrough
