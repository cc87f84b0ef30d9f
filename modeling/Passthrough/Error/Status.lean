/-!
# Status codes

The status a host application gets for a call.
-/

namespace Passthrough

inductive StatusCode
  | ok
  | errorBase
  | errorOutOfRange
  deriving DecidableEq, Repr, Inhabited

namespace StatusCode

def all : List StatusCode := [.ok, .errorBase, .errorOutOfRange]

def value : StatusCode → Int
  | .ok => 0
  | .errorBase => -900
  | .errorOutOfRange => -882

def name : StatusCode → String
  | .ok => "Ok"
  | .errorBase => "ErrorBase"
  | .errorOutOfRange => "ErrorOutOfRange"

def ofName? (s : String) : Option StatusCode := all.find? (·.name == s)

def isOk (s : StatusCode) : Bool := s == .ok

/-- The status of a finished call, given the status that each error maps to. -/
def ofResult {ε α : Type} (status : ε → StatusCode) : Except ε α → StatusCode
  | .ok _ => .ok
  | .error e => status e

end StatusCode

end Passthrough
