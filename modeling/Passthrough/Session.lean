import Passthrough.Engine.Control
import Passthrough.Period.Tap
/-!
# Sessions

A session is what a host application holds: an engine that answers with status codes, and a tap
through which the application can read what passes.
-/

namespace Passthrough

structure Session (H : Type) where
  engine : Engine H
  /-- The tap attached last, with the name it observes under. -/
  tap : Option (ObserverId × Tap) := none
  taps : Nat := 0
  deriving Repr

namespace Session

variable {H : Type}

/-- How many copies a tap gets where nothing else is asked for. -/
def defaultTapCopies : Nat := 32

/-- The status of a call; a crash has none. -/
def status (result : Except Failure Unit) : Except String StatusCode :=
  match result with
  | .ok () => .ok .ok
  | .error (.error e) => .ok e.status
  | .error (.crash message) => .error message

def configure (o : Options) (s : Session H) : StatusCode × Session H :=
  let (result, engine) := s.engine.configure o
  (StatusCode.ofResult ConfigError.status result, { s with engine })

def selectDevice (d : Direction) (id : Int) (s : Session H) : StatusCode × Session H :=
  let (result, engine) := s.engine.selectDevice d id
  (StatusCode.ofResult ConfigError.status result, { s with engine })

/-- Attaches a tap, which observes the streams opened from now on. It has at least one copy for each
direction. -/
def openTap (copies : Nat) (s : Session H) : Session H :=
  let id := s.taps
  let tap := Tap.make? s.engine.config.period.samples (max copies 1)
  { engine := s.engine.selectObserver (some id), tap := tap.map (id, ·), taps := s.taps + 1 }

/-- Passes on to the tap what its name was given. -/
def collect (s : Session H) : Session H :=
  let (heard, line) := s.engine.line.takeHeard
  let tap := s.tap.map fun (id, tap) =>
    let mine := heard.filter (·.observer = id)
    (id, mine.foldl (fun tap h => tap.hear h.direction h.frames) tap)
  { s with engine := { s.engine with line }, tap }

/-- Reads what waits in the tap; none without a tap. -/
def readTap (d : Direction) (s : Session H) : Option (List TappedPeriod) × Session H :=
  let s := s.collect
  match s.tap with
  | none => (none, s)
  | some (id, tap) =>
    let (copies, tap) := tap.read d
    (some copies, { s with tap := some (id, tap) })

variable [StreamHost Handler Line H]

def switchOn (s : Session H) : Except String StatusCode × Session H :=
  let (result, engine) := s.engine.switch true
  (status result, { s with engine })

def switchOff (s : Session H) : Except String StatusCode × Session H :=
  let (result, engine) := s.engine.switch false
  (status result, { s with engine })

/-- Ends the session: the effect is turned off, and the engine is dismissed whatever
comes of that. -/
def release (s : Session H) : Except String StatusCode × H × NoticeBoard :=
  let (result, s) := s.switchOff
  (result, s.engine.dismiss, s.engine.board)

end Session

end Passthrough
