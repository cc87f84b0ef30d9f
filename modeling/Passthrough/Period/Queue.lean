/-!
# Bounded queues

A first-in, first-out queue with room for a fixed number of elements.
-/

namespace Passthrough

structure BoundedQueue (α : Type) where
  capacity : Nat
  /-- The elements in the order in which they came. -/
  elements : List α := []
  deriving DecidableEq, Repr, Inhabited

namespace BoundedQueue

variable {α : Type}

/-- A queue with every place taken by a copy of one element. -/
def full (capacity : Nat) (a : α) : BoundedQueue α := ⟨capacity, List.replicate capacity a⟩

def size (q : BoundedQueue α) : Nat := q.elements.length

/-- Adds an element behind all others, if there is room. -/
def push? (q : BoundedQueue α) (a : α) : Option (BoundedQueue α) :=
  if q.size < q.capacity then some { q with elements := q.elements ++ [a] } else none

/-- Takes the element that has waited longest. -/
def pop? (q : BoundedQueue α) : Option (α × BoundedQueue α) :=
  match q.elements with
  | [] => none
  | a :: rest => some (a, { q with elements := rest })

@[simp] theorem size_full (n : Nat) (a : α) : (full n a).size = n := by simp [full, size]

end BoundedQueue

end Passthrough
