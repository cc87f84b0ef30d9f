import Passthrough.CommandLine.Arguments
import Passthrough.CommandLine.Simulation
import Passthrough.Host.Desktop.Basic
import Passthrough.Recording
import Passthrough.Wire.Notice
import Passthrough.Wire.Options
/-!
# Executing a command

Executing a command: from the files and devices of the machine to what is printed, written and
returned.
-/

namespace Passthrough.CommandLine

open Json

/-- What a command finds on the machine. -/
structure Environment where
  /-- The contents of a file, if there is one. -/
  contentsOf : String → Option ByteArray
  /-- How many samples the medium takes on which a recording is written here, if a file can be
  created. -/
  roomAt : String → Option Nat
  world : Desktop.World

/-- What a command comes to. -/
structure Outcome where
  exitCode : Nat
  lines : List String := []
  error : Option String := none
  /-- The file written, with its path. -/
  written : Option (String × List UInt8) := none
  deriving Repr

namespace Outcome

def failed (message : String) : Outcome := { exitCode := 1, error := some ("Error: " ++ message) }

def ofFailed (f : Simulation.Failed) : Outcome :=
  failed s!"{f.call} failed with status {f.status.name} ({f.status.value})"

end Outcome

/-! ### Devices -/

def deviceToJson (d : Desktop.DeviceEntry) : Value :=
  .record [("id", .ofInt d.id), ("direction", d.direction.toJson), ("name", .text d.name),
    ("is_default", .bool d.isDefault)]

def printDevices (world : Desktop.World) : Outcome :=
  match world.catalogue with
  | .error e => .failed ("listing devices: " ++ e.message)
  | .ok [] => { exitCode := 0, lines := ["No audio devices found"] }
  | .ok devices => { exitCode := 0, lines := devices.map fun d => (deviceToJson d).compact }

/-! ### Simulation -/

/-- What is printed of a simulation, and how the command ends with it. -/
def Outcome.ofSimulation
    (result : Except Simulation.Failed (SimulationSummary × Except Simulation.Failed Unit)) :
    Outcome :=
  match result with
  | .error f => .ofFailed f
  | .ok (summary, released) =>
    let lines := [summary.toJson.indented]
    match released with
    | .error f => { Outcome.ofFailed f with lines }
    | .ok () => { exitCode := if summary.mismatched = 0 then 0 else 2, lines }

def simulate (options : Options) (periods seed : Nat) (disconnectAfter : Option Nat) : Outcome :=
  let captures (period : PeriodFormat) :=
    Simulation.noise period.samples periods (UInt64.ofNat seed)
  .ofSimulation (Simulation.run options captures disconnectAfter)

/-! ### The live pass-through -/

/-- The lines under which notices are printed; what a reader missed is not. -/
def noticeLines (received : List Received) : List String :=
  received.filterMap fun
    | .notice n => some (StampedNotice.toJson { timestampMs := 0, notice := n }).compact
    | .lagged _ => none

/-- Opens a recording, for which a tap is attached; it is one of the things that can fail. -/
def openRecording (env : Environment) (record : Option String) (s : Session (DesktopHost Handler)) :
    Except String (Option (String × Recording) × Session (DesktopHost Handler)) :=
  match record with
  | none => .ok (none, s)
  | some path =>
    match env.roomAt path with
    | some room =>
      .ok (some (path, .ofConfig room s.engine.config), s.openTap Session.defaultTapCopies)
    | none => .error ("creating " ++ path)

/-- Finishes a recording, if there is one: how that ends, and the file with its path. -/
def finishRecording (recording : Option (String × Recording))
    (s : Session (DesktopHost Handler)) :
    Except RecordingFailure Unit × Option (String × List UInt8) :=
  match recording with
  | none => (.ok (), none)
  | some (path, recording) =>
    let (result, file, _) := recording.finish s
    (result, some (path, file))

/-- Runs the pass-through until its time is over: while it runs no device of this machine exchanges
audio with it, so that only its start and its end are to be seen. -/
def passLive (env : Environment) (options : Options) (record : Option String) : Outcome :=
  let session : Session (DesktopHost Handler) := { engine := Engine.create { world := env.world } }
  let (status, session) := session.configure options
  match Simulation.check "setup_parameters" (.ok status) with
  | .error f => .ofFailed f
  | .ok () =>
    match openRecording env record session with
    | .error message => .failed message
    | .ok (recording, session) =>
      let subscriber := session.engine.board.subscribe
      let (status, session) := session.switchOn
      match Simulation.check "start_audio" status with
      | .error f =>
        { Outcome.ofFailed f with
          written := recording.map fun (path, recording) => (path, recording.file) }
      | .ok () =>
        let (status, _, board) := session.release
        let lines := noticeLines (board.receive subscriber).1
        let (finished, written) := finishRecording recording session
        match finished with
        | .error f => { Outcome.failed f.message with lines, written }
        | .ok () =>
          match Simulation.check "release" status with
          | .error f => { Outcome.ofFailed f with lines, written }
          | .ok () => { exitCode := 0, lines, written }

/-! ### Commands -/

def usage : List String :=
  ["Low-latency microphone to speaker pass-through",
    "",
    "Usage: live_effect [OPTIONS] <COMMAND>",
    "",
    "Commands:",
    "  run       Run the live pass-through on the default audio host",
    "  devices   List audio devices and the ids accepted by recordDeviceId/playbackDeviceId",
    "  simulate  Drive the engine against the simulated host and print a JSON report",
    "  help      Print this message or the help of the given subcommand(s)",
    "",
    "Options:",
    "      --config <CONFIG>  JSON file with engine options (camelCase keys, missing keys default)",
    "  -h, --help             Print help"]

/-- Executes what the arguments ask for; arguments that ask for nothing that exists are refused. -/
def execute (env : Environment) (args : List String) : Outcome :=
  match Request.ofArgs? args with
  | none => { exitCode := 2 }
  | some .help => { exitCode := 0, lines := usage }
  | some (.execute a) =>
    let options := match a.config with
      | none => {}
      | some path => Options.ofFile (env.contentsOf path)
    match a.command with
    | .devices => printDevices env.world
    | .simulate periods seed disconnectAfter => simulate options periods seed disconnectAfter
    | .run _ record => passLive env options record

end Passthrough.CommandLine
