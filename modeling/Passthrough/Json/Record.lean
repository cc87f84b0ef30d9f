import Passthrough.Json.Magnitude
import Passthrough.Json.Parser
/-!
# Strict access to JSON values

Reading values of known shape out of JSON: records with known fields, numbers within bounds, names
out of a closed list.

A record may be written as an object, whose members come in any order and may include unknown ones,
or as an array of the fields in their order. No known field may be given twice.
-/

namespace Passthrough.Json.Value

/-- The members of an object that have known keys; none if one of them is given twice or a key
denotes no text. -/
def knownMembers? (names seen : List String) :
    List (Option String × Value) → Option (List (String × Value))
  | [] => some []
  | (none, _) :: _ => none
  | (some key, v) :: rest =>
    if key ∈ names then
      if key ∈ seen then none
      else (knownMembers? names (key :: seen) rest).map ((key, v) :: ·)
    else knownMembers? names seen rest

/-- The fields of a record. An array may leave out the last ones, but hold no more
than there are. -/
def fields? (names : List String) : Value → Option (List (String × Value))
  | .object members => knownMembers? names [] members
  | .array items => if items.length ≤ names.length then some (names.zip items) else none
  | _ => none

/-- The fields of a record whose array form has to be complete. -/
def wholeFields? (names : List String) : Value → Option (List (String × Value))
  | .array items => if items.length = names.length then some (names.zip items) else none
  | v => v.fields? names

def field? (name : String) (fields : List (String × Value)) : Option Value :=
  (fields.find? (·.1 == name)).map (·.2)

/-- An integer between two bounds, the lower one included. -/
def intWithin? (low high : Int) : Value → Option Int
  | .number n => n.integer?.bind fun i => if low ≤ i ∧ i < high then some i else none
  | _ => none

/-- A number that fits into a word of this many bits. -/
def natOfBits? (bits : Nat) (v : Value) : Option Nat :=
  (v.intWithin? 0 (1 <<< bits : Nat)).map Int.toNat

/-- A signed number that fits into 32 bits. -/
def int32? (v : Value) : Option Int := v.intWithin? (-0x80000000) 0x80000000

def bool? : Value → Option Bool
  | .bool b => some b
  | _ => none

def text? : Value → Option String
  | .string content => content
  | _ => none

/-- A name of a closed list, alone or as the only key of an object that holds nothing more. -/
def plainName? : Value → Option String
  | .string content => content
  | .object [(key, .null)] => key
  | _ => none

/-! ### Values that have to be kept before they can be read -/

/-- How many containers may lie around each other in a value that is kept. -/
def depthLimit : Nat := 127

mutual

/-- Whether every string in a value denotes text and every number can be held. -/
def isKeepable : Value → Bool
  | .null => true
  | .bool _ => true
  | .number n => !n.overflowsDouble
  | .string content => content.isSome
  | .array items => areKeepable items
  | .object members => areKeepableMembers members

def areKeepable : List Value → Bool
  | [] => true
  | v :: rest => isKeepable v && areKeepable rest

def areKeepableMembers : List (Option String × Value) → Bool
  | [] => true
  | (key, v) :: rest => key.isSome && isKeepable v && areKeepableMembers rest

end

end Passthrough.Json.Value
