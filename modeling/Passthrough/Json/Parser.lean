import Passthrough.Json.Lexer
import Passthrough.Json.Value
/-!
# From tokens to values

Reading a value from tokens. The reader goes over the tokens once and keeps a stack of the
containers that are open, so that no nesting is too deep for it.
-/

namespace Passthrough.Json

/-- A container that is still open, with what it holds so far, the last first. -/
inductive Frame
  | items (done : List Value)
  /-- The value of the member with this key is being read. -/
  | members (done : List (Option String × Value)) (key : Option String)

inductive Reading
  | value (stack : List Frame)
  /-- The first item of an array, or its end. -/
  | firstItem (stack : List Frame)
  /-- The first key of an object, or its end. -/
  | firstKey (stack : List Frame)
  /-- The key of one more member. -/
  | nextKey (done : List (Option String × Value)) (stack : List Frame)
  /-- The colon behind a key. -/
  | colon (done : List (Option String × Value)) (key : Option String) (stack : List Frame)
  /-- Whatever may follow a whole value. -/
  | whole (v : Value) (stack : List Frame)

namespace Reading

def startValue (stack : List Frame) : Token → Option Reading
  | .null => some (.whole .null stack)
  | .bool b => some (.whole (.bool b) stack)
  | .number n => some (.whole (.number n) stack)
  | .string content => some (.whole (.string content) stack)
  | .openArray => some (.firstItem stack)
  | .openObject => some (.firstKey stack)
  | _ => none

def step : Reading → Token → Option Reading
  | .value stack, t => startValue stack t
  | .firstItem stack, .closeArray => some (.whole (.array []) stack)
  | .firstItem stack, t => startValue (.items [] :: stack) t
  | .firstKey stack, .closeObject => some (.whole (.object []) stack)
  | .firstKey stack, .string key => some (.colon [] key stack)
  | .nextKey done stack, .string key => some (.colon done key stack)
  | .colon done key stack, .colon => some (.value (.members done key :: stack))
  | .whole v (.items done :: stack), .comma => some (.value (.items (v :: done) :: stack))
  | .whole v (.items done :: stack), .closeArray =>
    some (.whole (.array (v :: done).reverse) stack)
  | .whole v (.members done key :: stack), .comma => some (.nextKey ((key, v) :: done) stack)
  | .whole v (.members done key :: stack), .closeObject =>
    some (.whole (.object ((key, v) :: done).reverse) stack)
  | _, _ => none

def run : Reading → List Token → Option Reading
  | state, [] => some state
  | state, t :: rest => (state.step t).bind (·.run rest)

end Reading

namespace Value

def ofTokens? (ts : List Token) : Option Value :=
  match (Reading.value []).run ts with
  | some (.whole v []) => some v
  | _ => none

def ofChars? (cs : List Char) : Option Value := (lex cs).bind ofTokens?

def ofString? (s : String) : Option Value := ofChars? s.toList

end Value

end Passthrough.Json
