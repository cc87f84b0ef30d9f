import Passthrough.Notice
import Passthrough.Wire.Settings
/-!
# Notices as JSON

The JSON form of notices. The kind of a notice is a record that carries the name of the kind as a
member of its own, and that name decides which other members it has.
-/

namespace Passthrough

open Json

namespace Occurrence

/-- The name under which a kind is written. -/
def tag : Occurrence → String
  | .streamsOpened .. => "streams_opened"
  | .started => "started"
  | .stopped => "stopped"
  | .streamsClosed => "streams_closed"
  | .deviceChangeRecovered => "device_change_recovered"
  | .deviceChangeFailed => "device_change_failed"
  | .callbackFault _ => "callback_fault"
  | .warning => "warning"

def tagMember : String := "type"

def fields : Occurrence → List (String × Value)
  | .streamsOpened rate frames =>
    [("sample_rate", .ofNat rate), ("frames_per_period", .ofNat frames)]
  | .callbackFault d => [("direction", d.toJson)]
  | _ => []

def toJson (k : Occurrence) : Value := .record ((tagMember, .text k.tag) :: k.fields)

/-- The kinds without members of their own. -/
def plain : List Occurrence :=
  [.started, .stopped, .streamsClosed, .deviceChangeRecovered, .deviceChangeFailed, .warning]

/-- A direction among kept values, where an empty object may stand for nothing. -/
def keptDirection? : Value → Option Direction
  | .object [(some key, .object [])] => Direction.ofName? key
  | v => Direction.ofJson? v

/-- The kind with this name whose other members are the ones of this record. -/
def ofContent? (tag : String) (content : Value) : Option Occurrence :=
  if tag = "streams_opened" then do
    let fields ← content.wholeFields? ["sample_rate", "frames_per_period"]
    let rate ← (Value.field? "sample_rate" fields).bind (·.natOfBits? 32)
    let frames ← (Value.field? "frames_per_period" fields).bind (·.natOfBits? 32)
    return .streamsOpened rate frames
  else if tag = "callback_fault" then do
    let fields ← content.wholeFields? ["direction"]
    let direction ← (Value.field? "direction" fields).bind keptDirection?
    return .callbackFault direction
  else
    match content with
    | .array (_ :: _) => none
    | _ => plain.find? (·.tag == tag)

/-- Takes the name of the kind out of a record. A kind may also be an array that starts with its
name. -/
def split? : Value → Option (String × Value)
  | .object members =>
    match members.filter (·.1 == some tagMember) with
    | [(_, .string (some tag))] => some (tag, .object (members.filter (·.1 != some tagMember)))
    | _ => none
  | .array (.string (some tag) :: rest) => some (tag, .array rest)
  | _ => none

/-- Reads a kind. All of it is kept until its name is known, so all of it has to be keepable; one
container lies around it. -/
def ofJson? (v : Value) : Option Occurrence :=
  if v.isKeepable && v.depth + 1 ≤ Value.depthLimit then do
    let (tag, content) ← split? v
    ofContent? tag content
  else none

end Occurrence

/-- A notice with the time of its publication, in milliseconds since the engine was created. -/
structure StampedNotice where
  timestampMs : Nat
  notice : Notice
  deriving DecidableEq, Repr

namespace StampedNotice

def fieldNames : List String := ["timestamp_ms", "kind", "detail"]

/-- A detail is a text or nothing. -/
def detailToJson : Option String → Value
  | none => .null
  | some s => .text s

def detailOfJson? : Value → Option (Option String)
  | .null => some none
  | .string (some s) => some (some s)
  | _ => none

def toJson (n : StampedNotice) : Value :=
  .record [("timestamp_ms", .ofNat n.timestampMs), ("kind", n.notice.kind.toJson),
    ("detail", detailToJson n.notice.detail)]

/-- Reads a notice; an object may leave the detail out. -/
def ofJson? (v : Value) : Option StampedNotice := do
  let fields ← v.wholeFields? fieldNames
  let timestampMs ← (Value.field? "timestamp_ms" fields).bind (·.natOfBits? 64)
  let kind ← (Value.field? "kind" fields).bind Occurrence.ofJson?
  let detail ←
    match Value.field? "detail" fields with
    | none => some none
    | some v => detailOfJson? v
  return { timestampMs, notice := { kind, detail } }

end StampedNotice

def Received.toJson : Received → Value
  | .notice n =>
    .record [("kind", n.kind.toJson), ("detail", StampedNotice.detailToJson n.detail)]
  | .lagged missed => .record [("lagged", .ofNat missed)]

end Passthrough
