import Passthrough.Error.Status
import Passthrough.Text.Inspect
import Passthrough.Text.Quoted
/-!
# Errors of configurations

The reasons for which a configuration is refused.
-/

namespace Passthrough

inductive ConfigError
  /-- The option has no such value. -/
  | outOfRange (field : String) (value : Int)
  /-- The period would not hold a whole number of frames. -/
  | periodNotIntegral (sampleRate periodMs : Nat)
  /-- The option exists, but the engine only works with one value of it. -/
  | policyFixed (field : String) (value : Int)
  | streamsActive
  deriving DecidableEq, Repr, Inhabited

namespace ConfigError

def kind : ConfigError → String
  | .outOfRange .. => "OutOfRange"
  | .periodNotIntegral .. => "PeriodNotIntegral"
  | .policyFixed .. => "PolicyFixed"
  | .streamsActive => "StreamsActive"

def code : ConfigError → Int
  | .outOfRange .. => 2001
  | .periodNotIntegral .. => 2002
  | .policyFixed .. => 2003
  | .streamsActive => 2004

def message : ConfigError → String
  | .outOfRange field value => s!"{field} out of range (got {value})"
  | .periodNotIntegral rate period => s!"{period} ms at {rate} Hz is not a whole number of frames"
  | .policyFixed field value => s!"{field} is fixed by engine policy and cannot be set to {value}"
  | .streamsActive => "Streams are open. Close them before reconfiguring."

/-- The fields of the error, in the order in which an inspection shows them. -/
def fields : ConfigError → List (String × String)
  | .outOfRange field value => [("field", Text.quoted field), ("value", toString value)]
  | .periodNotIntegral rate period =>
    [("sample_rate", toString rate), ("period_ms", toString period)]
  | .policyFixed field value => [("field", Text.quoted field), ("value", toString value)]
  | .streamsActive => []

def inspect (e : ConfigError) : String := Text.record e.kind e.fields

/-- The line under which the error is logged: inspection, code and words. -/
def display (e : ConfigError) : String :=
  s!"ConfigError::{e.inspect} (code {e.code}): {e.message}"

/-- Values that do not exist or do not fit are out of range; what is refused otherwise is a plain
failure. -/
def status : ConfigError → StatusCode
  | .outOfRange .. => .errorOutOfRange
  | .periodNotIntegral .. => .errorOutOfRange
  | .policyFixed .. => .errorBase
  | .streamsActive => .errorBase

end ConfigError

end Passthrough
