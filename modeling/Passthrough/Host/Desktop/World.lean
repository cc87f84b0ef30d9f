import Passthrough.Direction
import Passthrough.Host.Error
/-!
# The devices of a desktop machine

The audio devices of a desktop machine: what each offers, and what goes wrong with it.
-/

namespace Passthrough.Desktop

/-- The sample formats that devices know. -/
inductive DeviceFormat
  | i8
  | i16
  | i32
  | u8
  | u16
  | f32
  | f64
  deriving DecidableEq, Repr, Inhabited

namespace DeviceFormat

def all : List DeviceFormat := [.i8, .i16, .i32, .u8, .u16, .f32, .f64]

def name : DeviceFormat → String
  | .i8 => "I8"
  | .i16 => "I16"
  | .i32 => "I32"
  | .u8 => "U8"
  | .u16 => "U16"
  | .f32 => "F32"
  | .f64 => "F64"

def ofName? (s : String) : Option DeviceFormat := all.find? (·.name == s)

end DeviceFormat

/-- A range of configurations that a device supports, bounds included. -/
structure ConfigRange where
  channels : Nat
  minRate : Nat
  maxRate : Nat
  format : DeviceFormat
  /-- The buffer sizes that can be asked for, in frames, if they are known. -/
  buffer : Option (Nat × Nat) := none
  deriving DecidableEq, Repr

/-- Why a device does not build a stream. -/
inductive BuildError
  | deviceNotAvailable
  | configNotSupported
  | invalidArgument
  | streamIdOverflow
  | backend (text : String)
  deriving DecidableEq, Repr

/-- The words of an error that only the machine can explain. -/
def backendText (text : String) : String := "A backend-specific error has occurred: " ++ text

namespace BuildError

def toHostError : BuildError → HostError
  | .deviceNotAvailable => .disconnected
  | .configNotSupported => .invalidFormat
  | .invalidArgument => .illegalArgument
  | .streamIdOverflow => .backend "Adding a new stream ID would cause an overflow"
  | .backend text => .backend (backendText text)

end BuildError

structure Device where
  /-- A device can fail to tell its name. -/
  name : Option String := none
  isDefault : Bool := false
  ranges : List ConfigRange := []
  rangesError : Option String := none
  buildError : Option BuildError := none
  playError : Option String := none
  pauseError : Option String := none
  deriving DecidableEq, Repr

structure World where
  devices : Duplex (List Device) := .both []
  listErrors : Duplex (Option String) := .both none
  /-- The default device of a direction where it is none of those listed. -/
  unlisted : Duplex (Option Device) := .both none
  deriving DecidableEq, Repr, Inhabited

structure DeviceEntry where
  id : Int
  direction : Direction
  name : String
  isDefault : Bool
  deriving DecidableEq, Repr

namespace World

/-- The devices of a direction, or the error with which listing them fails. -/
def list (w : World) (d : Direction) : Except HostError (List Device) :=
  match w.listErrors.get d with
  | some text => .error (.backend (backendText text))
  | none => .ok (w.devices.get d)

/-- The device of a direction that is used where none is asked for. -/
def default? (w : World) (d : Direction) : Option Device :=
  ((w.devices.get d).find? (·.isDefault)).or (w.unlisted.get d)

def unknownName : String := "<unknown>"

/-- What is told about the devices of a direction. A device counts as the default if it has the name
of the default device. -/
def infos (w : World) (d : Direction) (devices : List Device) : List DeviceEntry :=
  let defaultName := (w.default? d).bind (·.name)
  devices.mapIdx fun i device =>
    let name := device.name.getD unknownName
    { id := i + 1, direction := d, name, isDefault := defaultName = some name }

/-- Every device with the id that chooses it: inputs first, each direction counted from 1. -/
def catalogue (w : World) : Except HostError (List DeviceEntry) := do
  let inputs ← w.list .input
  let outputs ← w.list .output
  return w.infos .input inputs ++ w.infos .output outputs

/-- The device with this id: 0 for the default, and otherwise its place in the list. -/
def find (w : World) (d : Direction) (id : Int) : Except HostError Device :=
  if id = 0 then
    match w.default? d with
    | some device => .ok device
    | none => .error .unavailable
  else
    match w.list d with
    | .error e => .error e
    | .ok devices =>
      if id < 0 then .error .illegalArgument
      else
        match devices[(id - 1).toNat]? with
        | some device => .ok device
        | none => .error .illegalArgument

end World

end Passthrough.Desktop
