/-!
# The two directions

A pass-through has an input and an output; a `Duplex` holds a value for each of them.
-/

namespace Passthrough

/-- `input` captures from a device, `output` plays on one. -/
inductive Direction
  | input
  | output
  deriving DecidableEq, Repr, Inhabited

namespace Direction

/-- Both directions, input first. -/
def all : List Direction := [.input, .output]

def name : Direction → String
  | .input => "input"
  | .output => "output"

def ofName? (s : String) : Option Direction := all.find? (·.name == s)

/-- The name of a direction names that direction, so that a message about a side can be read
back. -/
theorem ofName?_name (d : Direction) : ofName? d.name = some d := by cases d <;> decide

end Direction

/-- A value for each direction. -/
structure Duplex (α : Type) where
  input : α
  output : α
  deriving DecidableEq, Repr, Inhabited

namespace Duplex

variable {α : Type}

def both (a : α) : Duplex α := ⟨a, a⟩

def get (p : Duplex α) : Direction → α
  | .input => p.input
  | .output => p.output

def set (p : Duplex α) (d : Direction) (a : α) : Duplex α :=
  match d with
  | .input => { p with input := a }
  | .output => { p with output := a }

def modify (p : Duplex α) (d : Direction) (f : α → α) : Duplex α := p.set d (f (p.get d))

@[simp] theorem get_both (a : α) (d : Direction) : (both a).get d = a := by cases d <;> rfl

@[simp] theorem get_set (p : Duplex α) (d : Direction) (a : α) : (p.set d a).get d = a := by
  cases d <;> rfl

/-- Setting one side leaves the other alone; with `get_set` this is all that proofs need to know of
a `Duplex` that is written to. -/
theorem get_set_ne (p : Duplex α) {d e : Direction} (a : α) (h : e ≠ d) :
    (p.set d a).get e = p.get e := by
  cases d <;> cases e <;> simp_all [get, set]

@[simp] theorem get_modify (p : Duplex α) (d : Direction) (f : α → α) :
    (p.modify d f).get d = f (p.get d) := by simp [modify]

@[simp] theorem set_set (p : Duplex α) (d : Direction) (a b : α) :
    (p.set d a).set d b = p.set d b := by cases d <;> rfl

@[simp] theorem set_get (p : Duplex α) (d : Direction) : p.set d (p.get d) = p := by
  cases d <;> rfl

theorem get_modify_ne (p : Duplex α) {d e : Direction} (f : α → α) (h : e ≠ d) :
    (p.modify d f).get e = p.get e := by simp [modify, get_set_ne, h]

end Duplex

end Passthrough
