import Passthrough.Json.Record
/-!
# Lenient access to JSON values

Looking into a value that may have any shape: what is not there, or is of another kind, counts as
not given.
-/

namespace Passthrough.Json.Value

/-- The member of an object with this key, or null. -/
def member (v : Value) (key : String) : Value :=
  match v with
  | .object members => ((members.find? (·.1 == some key)).map (·.2)).getD .null
  | _ => .null

/-- The items of an array; any other value has none. -/
def items : Value → List Value
  | .array vs => vs
  | _ => []

def integer? : Value → Option Int
  | .number n => n.integer?
  | _ => none

def memberText? (v : Value) (key : String) : Option String := (v.member key).text?

def memberInteger? (v : Value) (key : String) : Option Int := (v.member key).integer?

/-- A flag that is off unless it is given as true. -/
def memberFlag (v : Value) (key : String) : Bool := (v.member key).bool?.getD false

def memberItems (v : Value) (key : String) : List Value := (v.member key).items

end Passthrough.Json.Value
