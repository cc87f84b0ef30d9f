import Mathlib.Data.List.Nodup
import Passthrough.Proofs.Engine.UpheldPrograms
import Passthrough.Proofs.Host.Balance
import Passthrough.Session
/-!
# No handle is lost

An engine takes a handle on many paths: it opens a pair and gives one side back when the other does
not open, it refuses a stream that came out wrong, it replaces one side or both after a device
change. The hardware can take the stream meanwhile, and leaves the handle. What is owed for a handle
is one closing, and the books of the host say whether it was made: at every point, the streams that
were opened are the closed ones and the one that the engine has the handle of.

* **`sideInvariant_accounted`** — the books balance whatever is done to a side.
* **`advance_accounted`** — they balance after every step, of the owner or of the hardware.
* **`Accounted.cleared`** — once the engine is closed, they are cleared.
* **`handles_balance`** — so no run leaks a stream or closes one twice.
-/

namespace Passthrough

open EngineM SimulatedHost

/-- **Cleared books.** No stream is live; as many closings are on record as streams were opened,
none of them off the books; each stream that was opened was closed once, and no other was; and there
never was more than one live stream in a direction. -/
structure JournaledHost.Cleared (h : JournaledHost) : Prop where
  live : ∀ d, h.inner.live d = []
  closings : ∀ d, h.inner.calls.count ⟨d, .close⟩ = (openedIn d h.deeds).length
  counted : (openedIn .input h.deeds).length + (openedIn .output h.deeds).length = h.inner.opened
  once : ∀ d, ∀ id ∈ openedIn d h.deeds, (closedIn d h.deeds).count id = 1
  only : ∀ d, ∀ id ∈ closedIn d h.deeds, id ∈ openedIn d h.deeds
  passed : ∀ p ∈ h.passed, ∀ d, p.liveCount d ≤ 1

namespace Engine

/-- The number of the stream that an engine has the handle of. -/
def heldId (w : JournaledEngine) (d : Direction) : Option Nat := (w.streams.get d).map (·.id)

/-- **An engine that is accounted for.** The books of its host balance with the handles that it has,
and these are open handles of sides that are not closed. -/
structure Accounted (w : JournaledEngine) : Prop where
  books : Balanced w.host w.heldId
  held : ∀ d s, w.streams.get d = some s →
    s.closed = false ∧ s.properties.direction = d ∧ w.state d ≠ .closed

section Sides

variable {w w' : JournaledEngine} {d : Direction} {s : StreamHandle}

theorem heldId_of_some (h : w.streams.get d = some s) : w.heldId d = some s.id := by
  unfold heldId
  rw [h]
  rfl

/-- Without a handle an engine holds no number, and its books owe nothing for that direction. -/
theorem heldId_of_none (h : w.streams.get d = none) : w.heldId d = none := by
  unfold heldId
  rw [h]
  rfl

theorem heldId_set_ne {d' : Direction} (hd : d' ≠ d) (handle : Option StreamHandle)
    {host : JournaledHost} {line : Line} :
    heldId { w with host, streams := w.streams.set d handle, line } d' = w.heldId d' :=
  congrArg (Option.map StreamHandle.id) (Duplex.get_set_ne w.streams handle hd)

/-- A closed side has no handle, since handles are only kept by sides that are not closed. So a side
may be opened without losing one. -/
theorem Accounted.vacant (h : Accounted w) (hstate : w.state d = .closed) :
    w.streams.get d = none := by
  cases hs : w.streams.get d with
  | none => rfl
  | some s => exact absurd hstate (h.held d s hs).2.2

/-- The books concern the host, the handles and the states; a change of anything else leaves them
balanced. Notices, marks and the channel are changed by this lemma alone. -/
theorem Accounted.frame (h : Accounted w) (hhost : w'.host = w.host)
    (hstreams : w'.streams = w.streams) (hstates : w'.line.states = w.line.states) :
    Accounted w' := by
  refine ⟨?_, fun d s hs => ?_⟩
  · have hheld : w'.heldId = w.heldId := by
      unfold heldId
      rw [hstreams]
    rw [hhost, hheld]
    exact h.books
  · rw [hstreams] at hs
    show _ ∧ _ ∧ w'.line.states.get d ≠ .closed
    rw [hstates]
    exact h.held d s hs

/-- The host may go on by itself, as long as its books balance with the same handles. -/
theorem Accounted.rehost (h : Accounted w) {host : JournaledHost}
    (hbooks : Balanced host w.heldId) : Accounted { w with host } := ⟨hbooks, h.held⟩

/-- A side moves on, with or without a handle, and the books match: closed sides have no handle and
the others have one that is open. The other side is told apart by `hother`; for the side itself all
is asked of the caller. -/
theorem Accounted.restate (h : Accounted w) {host : JournaledHost}
    {streams : Duplex (Option StreamHandle)} {state : StreamState}
    (hbooks : Balanced host
      (heldId { w with host, streams, line := w.line.setState d state }))
    (hother : ∀ d', d' ≠ d → streams.get d' = w.streams.get d')
    (hown : ∀ s, streams.get d = some s →
      s.closed = false ∧ s.properties.direction = d ∧ state ≠ .closed) :
    Accounted { w with host, streams, line := w.line.setState d state } := by
  refine ⟨hbooks, fun d' s hs => ?_⟩
  by_cases hd : d' = d
  · subst hd
    show _ ∧ _ ∧ (w.line.setState d' state).state d' ≠ .closed
    rw [Line.state_setState]
    exact hown s hs
  · show _ ∧ _ ∧ (w.line.setState d state).state d' ≠ .closed
    rw [Line.state_setState_ne w.line state hd]
    exact h.held d' s ((hother d' hd).symm.trans hs)

/-- A side that keeps its handle moves on to where it is not closed, as it does when it is stopped,
started or fails. -/
theorem Accounted.keep (h : Accounted w) {host : JournaledHost} {state : StreamState}
    (hbooks : Balanced host w.heldId) (hstate : state ≠ .closed) :
    Accounted { w with host, line := w.line.setState d state } :=
  h.restate hbooks (fun _ _ => rfl) fun s hs => ⟨(h.held d s hs).1, (h.held d s hs).2.1, hstate⟩

/-- **The books balance** whatever is done to a side: one opening is entered with each handle that
is taken, and one closing with each that is let go of. -/
theorem sideInvariant_accounted : SideInvariant Accounted where
  frame h hhost hstreams hstates _ := h.frame hhost hstreams hstates
  stopped := by
    intro w d s host answer h _ _ hask
    have hbooks := h.books.stopped s
    rw [hask] at hbooks
    refine h.keep hbooks ?_
    cases answer <;> simp [stateAfterStop]
  started := by
    intro w d s host h _ _ hask
    have hbooks := h.books.started s
    rw [hask] at hbooks
    exact h.keep hbooks (by simp)
  notStarted := by
    intro w d s host source h _ hask
    have hbooks := h.books.started s
    rw [hask] at hbooks
    exact h.rehost hbooks
  settled h hs := h.restate h.books (fun _ _ => rfl) fun s hs' => by
    cases hs.symm.trans hs'
  closed := by
    intro w d s s' host host' answer h hs hask hdiscard
    obtain ⟨hunclosed, hdirection, _⟩ := h.held d s hs
    let given : JournaledEngine := { w with
      host := host', streams := w.streams.set d none, line := w.line.setState d .closed }
    have hnone : given.streams.get d = none := Duplex.get_set _ _ _
    have hbooks : Balanced host' given.heldId :=
      h.books.closed hunclosed hdirection hask hdiscard (heldId_of_some hs) (heldId_of_none hnone)
        fun d' hd => heldId_set_ne hd none
    refine h.restate hbooks (fun d' hd => Duplex.get_set_ne _ _ hd) fun s hs => ?_
    cases hnone.symm.trans hs
  refused h _ hask := h.rehost (h.books.refused hask)
  unfit := by
    intro w d r handler s s' host host' host'' answer h hstate hdir hask hclose hdiscard
    subst hdir
    have hnone := heldId_of_none (h.vacant hstate)
    -- for a moment the engine has a handle that no side shows
    let held : Direction → Option Nat := fun d => if d = r.direction then some s.id else w.heldId d
    have hmine : held r.direction = some s.id := if_pos rfl
    have hother : ∀ d, d ≠ r.direction → held d = w.heldId d := fun d hd => if_neg hd
    obtain ⟨hunclosed, hdirection, hopened⟩ := h.books.opened hask hnone hmine hother
    exact h.rehost (hopened.closed hunclosed hdirection hclose hdiscard hmine hnone
      fun d hd => (hother d hd).symm)
  opened := by
    intro w d r handler s host host' frames answer h hstate hdir hask hsize
    subst hdir
    let taken : JournaledEngine := { w with
      host := host', streams := w.streams.set r.direction (some s)
      line := w.line.setState r.direction .opened }
    have hmine : taken.heldId r.direction = some s.id := heldId_of_some (Duplex.get_set _ _ _)
    have hother : ∀ d, d ≠ r.direction → taken.heldId d = w.heldId d := fun d hd =>
      heldId_set_ne hd (some s)
    obtain ⟨hunclosed, hdirection, hopened⟩ :=
      h.books.opened hask (heldId_of_none (h.vacant hstate)) hmine hother
    have hbooks := hopened.sized s frames
    rw [hsize] at hbooks
    refine h.restate hbooks (fun d' hd => Duplex.get_set_ne _ _ hd) fun s' hs' => ?_
    have hsame : s = s' := Option.some.inj ((Duplex.get_set _ _ _).symm.trans hs')
    exact hsame ▸ ⟨hunclosed, hdirection, by simp⟩

end Sides

/-! ## Every step -/

variable {w : JournaledEngine}

/-- A step that the host is not asked for neither opens nor closes. The hardware may take streams
meanwhile (`Thins`), and the handles stay on the books. -/
theorem resume_accounted (hw : Accounted w) {e : SimulatedEngine} (h : Sound e)
    (hstreams : e.streams = w.streams) (hthins : Thins w.host.inner e.host)
    (hcalls : e.host.calls = w.host.inner.calls) : Accounted (resume w e) := by
  refine ⟨?_, fun d s hs => ?_⟩
  · have hheld : (resume w e).heldId = w.heldId := by
      unfold heldId
      rw [show (resume w e).streams = w.streams from hstreams]
    rw [hheld]
    refine hw.books.thinned (fun _ => ⟨rfl, rfl⟩) hthins fun d => ?_
    rw [hcalls]
  -- the sides are as the engine beneath has them
  · rcases h.settled d with hvacant | ⟨s', hoccupied⟩
    · have hnone := hvacant.handle
      rw [show e.streams.get d = some s from hs] at hnone
      cases hnone
    · have hsame : s' = s := Option.some.inj (hoccupied.handle.symm.trans hs)
      subst hsame
      refine ⟨hoccupied.unclosed, hoccupied.direction, fun hclosed => ?_⟩
      have hstate : e.state d = .closed := hclosed
      rcases hoccupied.state with hd | hd | hd <;> rw [hstate] at hd <;> cases hd

/-- What the host is told leaves its record of calls alone, unless it is told to forget it. -/
theorem calls_follow (h : SimulatedHost Handler) {s : Script} (hs : s ≠ .forgetCalls) :
    (h.follow s).calls = h.calls := by
  cases s with
  | forgetCalls => exact absurd rfl hs
  | _ => rfl

/-- **One step** that is written down, unless the host is told to forget its calls: the books
balance after it, whether it is a call or something that the hardware does. -/
theorem advance_accounted (w : JournaledEngine) (a : Action) (h : Sound w.beneath)
    (ha : a ≠ .script .forgetCalls) (hw : Accounted w) :
    (advance a w).beneath = w.beneath.perform a ∧ Accounted (advance a w) := by
  have hsound : Sound (w.beneath.perform a) := (perform_sound h a).1
  -- calls are accounted for by what they do to the sides, the hardware by what it leaves of the
  -- streams
  cases a with
  | call c =>
    have htaken : Accounted w.taken := hw.frame rfl rfl rfl
    by_cases hattend : c = .attendPending
    · subst hattend
      exact attendPending_stands sideInvariant_accounted h hw htaken
    by_cases hworker : c = .runWorker
    · subst hworker
      exact runWorker_stands sideInvariant_accounted h hw htaken
    exact call_stands sideInvariant_accounted h hw hattend hworker
  | feed frames =>
    exact ⟨rfl, resume_accounted hw hsound rfl (thins_feed _ _ _) (calls_feed _ _ _)⟩
  | draw dest =>
    exact ⟨rfl, resume_accounted hw hsound rfl (thins_draw _ _ _) (calls_draw _ _ _)⟩
  | unplug d error =>
    exact ⟨rfl, resume_accounted hw hsound rfl (thins_unplug _ _ _ _) (calls_unplug _ _ _ _)⟩
  | script s =>
    obtain ⟨hopened, hstreams⟩ := follow_streams w.host.inner s
    have hcalls : (w.host.inner.follow s).calls = w.host.inner.calls :=
      calls_follow _ fun hforget => ha (congrArg Action.script hforget)
    exact ⟨rfl, resume_accounted hw hsound rfl (.of_streams hopened hstreams) hcalls⟩
  | collect => exact ⟨rfl, resume_accounted hw hsound rfl (.refl _) rfl⟩

/-- **An engine that is closed has cleared books**, because no side of it has a handle, and what the
books hold beyond the handles has been closed. -/
theorem Accounted.cleared (hw : Accounted w) (hclosed : Closed w.beneath) : w.host.Cleared := by
  have hsame : ∀ d, closedIn d w.host.deeds = openedIn d w.host.deeds := fun d => by
    have hnone : w.heldId d = none := heldId_of_none (hclosed.vacant d).handle
    have hbalance := (hw.books.side d).balance
    rwa [hnone, Option.toList_none, List.append_nil] at hbalance
  refine ⟨fun d => (hclosed.vacant d).live, fun d => ?_, hw.books.counted, fun d id hid => ?_,
    fun d id hid => ?_, hw.books.passed⟩
  · rw [(hw.books.side d).calls, hsame]
  · rw [hsame]
    exact List.count_eq_one_of_mem ((hw.books.side d).ordered.imp Nat.ne_of_lt) hid
  · rw [← hsame]
    exact hid

/-- An engine that is given up leaves cleared books behind, whatever state it was in. -/
theorem dismiss_cleared (h : Sound w.beneath) (hw : Accounted w) :
    w.dismiss.inner = w.beneath.dismiss ∧ w.dismiss.Cleared := by
  obtain ⟨w', hdismiss, hplain, hw', hclosed⟩ := dismiss_stands sideInvariant_accounted h hw
  rw [hdismiss, hplain]
  exact ⟨rfl, hw'.cleared hclosed⟩

/-- A new engine has opened nothing and closed nothing. So the books balance at the start of every
run (`Balanced.empty`). -/
theorem accounted_create (config : Config) (recovery : Recovery) (noticeCapacity : Nat) :
    Accounted (create { inner := {} } config recovery noticeCapacity) where
  books := by
    have hheld : heldId (create { inner := {} } config recovery noticeCapacity) = fun _ => none :=
      funext fun d => by cases d <;> rfl
    rw [hheld]
    exact .empty
  held d _ hs := by cases d <;> cases hs

/-- **No handle is lost.** Take any run in which the record of calls is not cleared. At every point
of it at most one stream is live in each direction. Give the engine up wherever it then stands, or
end its session: no stream is live, each direction has as many closings on record as streams were
opened in it, and each of these was closed exactly once. -/
theorem handles_balance (config : Config) (recovery : Recovery) (noticeCapacity : Nat)
    (tap : Option (ObserverId × Tap)) (taps : Nat) (as : List Action)
    (has : .script .forgetCalls ∉ as) :
    let new : SimulatedEngine := create {} config recovery noticeCapacity
    let w := new.journaled as
    let ended := (Session.mk w tap taps).release.2.1
    w.beneath = new.after as
      ∧ (∀ p ∈ w.host.passed, ∀ d, p.liveCount d ≤ 1)
      ∧ w.dismiss.inner = (new.after as).dismiss ∧ w.dismiss.Cleared
      ∧ ended.inner = (Session.mk (new.after as) tap taps).release.2.1 ∧ ended.Cleared := by
  intro new w ended
  have hnew : Sound new := sound_create config recovery noticeCapacity
  have hall : ∀ a ∈ as, a ≠ .script .forgetCalls := fun a ha heq => has (heq ▸ ha)
  obtain ⟨hplain, hw⟩ : w.beneath = new.after as ∧ Accounted w :=
    advance_stands advance_accounted (w := create { inner := {} } config recovery noticeCapacity)
      hnew (accounted_create config recovery noticeCapacity) hall
  have h : Sound w.beneath := by
    rw [hplain]
    exact (after_sound hnew as).1
  -- a session that ends turns the effect off before it gives the engine up
  obtain ⟨hoff, hw'⟩ := call_stands sideInvariant_accounted h hw (c := .switch false)
    (by simp) (by simp)
  have h' : Sound (w.call (.switch false)).beneath := by
    rw [hoff]
    exact (perform_sound h (.call (.switch false))).1
  obtain ⟨hinner, hcleared⟩ := dismiss_cleared h hw
  obtain ⟨hinner', hcleared'⟩ := dismiss_cleared h' hw'
  rw [hplain] at hinner hoff
  rw [hoff] at hinner'
  exact ⟨hplain, hw.books.passed, hinner, hcleared, hinner', hcleared'⟩

/-- A stream comes out wrong and is refused, the effect is turned on with the next, the output is
lost and replaced, and then the input is lost for good. -/
def refusedAndLost : List Action :=
  [.script (.rate .output (some 44100)), .call (.switch true), .script (.rate .output none),
    .call (.switch true), .unplug .output .disconnected, .call .attendPending,
    .unplug .input .disconnected]

/-- The books of that run, once the engine has been given up over the loss: five streams were opened
and each was closed once, the refused and the lost ones included. -/
theorem handles_balance_refusedAndLost :
    let new : SimulatedEngine := create {} { sampleRate := 8000, periodMs := 1 }
    let left := (new.journaled refusedAndLost).dismiss
    .script .forgetCalls ∉ refusedAndLost
      ∧ openedIn .input left.deeds = [1, 3] ∧ openedIn .output left.deeds = [2, 4, 5]
      ∧ left.inner = (new.after refusedAndLost).dismiss ∧ left.Cleared := by
  have hopened : ∀ d, openedIn d ((create {} { sampleRate := 8000, periodMs := 1 } :
      SimulatedEngine).journaled refusedAndLost).dismiss.deeds
        = Duplex.get ⟨[1, 3], [2, 4, 5]⟩ d := by
    intro d
    cases d <;> rfl
  intro new left
  have has : .script .forgetCalls ∉ refusedAndLost := by simp [refusedAndLost]
  obtain ⟨_, _, hplain, hcleared, _⟩ :=
    handles_balance { sampleRate := 8000, periodMs := 1 } .manual 64 none 0 refusedAndLost has
  exact ⟨has, hopened .input, hopened .output, hplain, hcleared⟩

end Engine

end Passthrough
