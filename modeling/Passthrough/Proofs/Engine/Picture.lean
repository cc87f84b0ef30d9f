import Mathlib.Data.List.Induction
import Passthrough.Notice
/-!
# The picture that notices give

A host application does not see the engine; it follows it by its notices. What can be followed is
whether the pair is open and whether it counts as started (`Picture`). Notices of openings, starts,
stops and ends change the picture, all others leave it, and an opening is not told of a pair that is
open already (`Picture.see?`).

* **`follow?_marks`** — a picture is what was told last.
* **`follow?_alternates`** — between two openings there is a closing.
-/

namespace Passthrough

/-! ## Kinds of notices -/

namespace Occurrence

def isOpening : Occurrence → Bool
  | .streamsOpened .. => true
  | _ => false

/-- Whether the pair is closed by this, told as a closing or as a repair that failed. -/
def isClosing : Occurrence → Bool
  | .streamsClosed | .deviceChangeFailed => true
  | _ => false

/-- Whether this tells of the pair being open or closed. -/
def concernsPair (k : Occurrence) : Bool := k.isOpening || k.isClosing

/-- Whether this tells of the pair being started or not. -/
def concernsStart : Occurrence → Bool
  | .started | .stopped | .streamsClosed | .deviceChangeFailed => true
  | _ => false

/-- Whether this tells of neither. -/
def isAside (k : Occurrence) : Bool := !k.concernsPair && !k.concernsStart

end Occurrence

/-- The notice that came last among those that concern something. -/
def lastAbout (concerns : Occurrence → Bool) (ns : List Notice) : Option Occurrence :=
  (ns.map (·.kind)).reverse.find? concerns

/-! ## The picture -/

/-- What can be known of an engine by its notices. -/
structure Picture where
  isOpen : Bool := false
  started : Bool := false
  deriving DecidableEq

namespace Picture

/-- The picture after a notice. There is none after an opening of what is open. -/
def see? (p : Picture) (n : Notice) : Option Picture :=
  match n.kind with
  | .streamsOpened .. => if p.isOpen then none else some { p with isOpen := true }
  | .started => some { p with started := true }
  | .stopped => some { p with started := false }
  | .streamsClosed | .deviceChangeFailed => some {}
  | .deviceChangeRecovered | .callbackFault _ | .warning => some p

/-- The picture after these notices, oldest first. -/
def follow? (p : Picture) (ns : List Notice) : Option Picture := ns.foldlM see? p

variable {p p' q : Picture} {ns ns' : List Notice} {n : Notice}

/-- Notices in two parts are followed one part after the other, so that a reader may stop anywhere
and go on later. -/
theorem follow?_append_iff :
    p.follow? (ns ++ ns') = some p' ↔ ∃ q, p.follow? ns = some q ∧ q.follow? ns' = some p' := by
  unfold follow?
  rw [List.foldlM_append]
  exact Option.bind_eq_some_iff

theorem follow?_append (h : p.follow? ns = some q) (h' : q.follow? ns' = some p') :
    p.follow? (ns ++ ns') = some p' :=
  follow?_append_iff.mpr ⟨q, h, h'⟩

theorem follow?_singleton (p : Picture) (n : Notice) : p.follow? [n] = p.see? n := by
  simp [follow?]

/-- An aside, such as a warning or the report of a fault, leaves the picture as it is. -/
theorem see?_of_aside (h : n.kind.isAside = true) : p.see? n = some p := by
  unfold see?
  cases hn : n.kind with
  | warning | callbackFault | deviceChangeRecovered => rfl
  | _ =>
    rw [hn] at h
    cases h

/-- Any number of asides do. -/
theorem follow?_of_aside (h : ∀ n ∈ ns, n.kind.isAside = true) : p.follow? ns = some p := by
  induction ns with
  | nil => rfl
  | cons n ns ih =>
    show (p.see? n >>= fun q => q.follow? ns) = some p
    rw [see?_of_aside (h n (by simp))]
    exact ih fun m hm => h m (by simp [hm])

/-- What one notice makes of the two marks, each from the old mark and the kind of the notice alone.
The two are independent but for the closing, which concerns both. -/
theorem see?_marks (h : p.see? n = some p') :
    p'.isOpen = (if n.kind.concernsPair then n.kind.isOpening else p.isOpen)
      ∧ p'.started = (if n.kind.concernsStart then decide (n.kind = .started) else p.started) := by
  unfold see? at h
  cases hn : n.kind with
  | streamsOpened rate frames =>
    rw [hn] at h
    cases hopen : p.isOpen with
    | true => simp [hopen] at h
    | false =>
      simp only [hopen, Bool.false_eq_true, if_false, Option.some.injEq] at h
      subst h
      exact ⟨rfl, rfl⟩
  | _ =>
    rw [hn] at h
    cases h
    exact ⟨rfl, rfl⟩

/-- **The picture is what was told last** about the pair and about its start, by induction from the
end with `see?_marks`. Of the two parts of a picture each is set by its own kinds of notices, and
what concerns neither leaves both. -/
theorem follow?_marks (h : p.follow? ns = some p') :
    p'.isOpen = (lastAbout Occurrence.concernsPair ns).elim p.isOpen Occurrence.isOpening
      ∧ p'.started
          = (lastAbout Occurrence.concernsStart ns).elim p.started (decide <| · = .started) := by
  -- by induction from the last notice back
  induction ns using List.reverseRecOn generalizing p' with
  | nil =>
    cases h
    exact ⟨rfl, rfl⟩
  | append_singleton ns n ih =>
    obtain ⟨q, hq, hn⟩ := follow?_append_iff.mp h
    rw [follow?_singleton] at hn
    obtain ⟨hopen, hstarted⟩ := ih hq
    obtain ⟨hopen', hstarted'⟩ := see?_marks hn
    unfold lastAbout at *
    simp only [List.map_append, List.map_cons, List.map_nil, List.reverse_append,
      List.reverse_cons, List.reverse_nil, List.nil_append, List.singleton_append, List.find?_cons]
    constructor
    · rw [hopen', hopen]
      cases n.kind.concernsPair <;> rfl
    · rw [hstarted', hstarted]
      cases n.kind.concernsStart <;> rfl

/-- An open picture stays open until something closes it, so that a second opening before that
cannot be followed. It is the half of the alternation that says that openings and closings take
turns. -/
theorem follow?_isOpen (h : p.follow? ns = some p') (hopen : p.isOpen = true)
    (hnone : ∀ n ∈ ns, n.kind.isClosing = false) : p'.isOpen = true := by
  rw [(follow?_marks h).1]
  cases hlast : lastAbout Occurrence.concernsPair ns with
  | none => exact hopen
  | some k =>
    have hconcerns : k.concernsPair = true := List.find?_some hlast
    obtain ⟨n, hn, rfl⟩ := List.mem_map.mp (List.mem_reverse.mp (List.mem_of_find?_eq_some hlast))
    unfold Occurrence.concernsPair at hconcerns
    rw [hnone n hn, Bool.or_false] at hconcerns
    exact hconcerns

/-- **Openings alternate with closings** in notices that can be followed: between two openings there
is always a closing, since `see?` has no picture for an opening of what is open. -/
theorem follow?_alternates {before between rest : List Notice} {n n' : Notice}
    (h : p.follow? (before ++ n :: between ++ n' :: rest) = some p')
    (hn : n.kind.isOpening = true) (hn' : n'.kind.isOpening = true) :
    ∃ m ∈ between, m.kind.isClosing = true := by
  by_contra hnone
  have hkept : ∀ m ∈ between, m.kind.isClosing = false := fun m hm =>
    Bool.eq_false_iff.mpr fun hm' => hnone ⟨m, hm, hm'⟩
  have hsplit : before ++ n :: between ++ n' :: rest
      = before ++ ([n] ++ (between ++ ([n'] ++ rest))) := by simp
  rw [hsplit] at h
  obtain ⟨q₁, _, h⟩ := follow?_append_iff.mp h
  obtain ⟨q₂, hq₂, h⟩ := follow?_append_iff.mp h
  obtain ⟨q₃, hq₃, h⟩ := follow?_append_iff.mp h
  obtain ⟨q₄, hq₄, _⟩ := follow?_append_iff.mp h
  rw [follow?_singleton] at hq₂ hq₄
  have hopen₂ : q₂.isOpen = true := by
    have hmark := (see?_marks hq₂).1
    simpa [Occurrence.concernsPair, hn] using hmark
  have hopen₃ : q₃.isOpen = true := follow?_isOpen hq₃ hopen₂ hkept
  -- an opening cannot be seen by whoever takes the pair for open
  unfold see? at hq₄
  cases hkind : n'.kind with
  | streamsOpened rate frames => simp [hkind, hopen₃] at hq₄
  | _ =>
    rw [hkind] at hn'
    cases hn'

end Picture

end Passthrough
