import Passthrough.Config.Basic
import Passthrough.Host.Interface
import Passthrough.Line.Handler
import Passthrough.Notice
/-!
# The engine and its programs

The engine: a pair of streams, the line between them, and the host they run on. Calls of the engine
are programs in `EngineM`; a call that fails keeps what it has done up to there.
-/

namespace Passthrough

/-- Who attends to what the callbacks report. -/
inductive Recovery
  /-- A worker beside the engine. -/
  | worker
  /-- The owner of the engine, when it asks. -/
  | manual
  deriving DecidableEq, Repr, Inhabited

structure Engine (H : Type) where
  host : H
  config : Config := {}
  recovery : Recovery := .manual
  streams : Duplex (Option StreamHandle) := .both none
  line : Line := {}
  /-- Who observes the streams opened from now on. -/
  observer : Option ObserverId := none
  /-- Whether the pass-through has been switched on. -/
  effectOn : Bool := false
  /-- Whether both streams have been started and nobody has stopped them. -/
  started : Bool := false
  board : NoticeBoard
  /-- A call died while it held the engine. -/
  poisoned : Bool := false
  deriving Repr

/-- How a call ends when it does not succeed. -/
inductive Failure
  | error (e : AudioError)
  /-- The host died in the middle of the call. -/
  | crash (message : String)
  deriving Repr

abbrev EngineM (H : Type) := EStateM Failure (Engine H)

namespace EngineM

variable {H α : Type}

def fail (e : AudioError) : EngineM H α := throw (.error e)

/-- Runs a program to its end or its error; a crash goes through. -/
def attempt (x : EngineM H α) : EngineM H (Except AudioError α) := fun e =>
  match x e with
  | .ok a e => .ok (.ok a) e
  | .error (.error err) e => .ok (.error err) e
  | .error (.crash message) e => .error (.crash message) e

def ofExcept : Except AudioError α → EngineM H α
  | .ok a => pure a
  | .error e => fail e

/-- Runs a call of the host, which may call back to the line. -/
def askHost (call : HostAction H Line α) : EngineM H α := do
  let e ← get
  let (a, host, line) := call e.host e.line
  set { e with host, line }
  return a

def modifyLine (f : Line → Line) : EngineM H Unit := modify fun e => { e with line := f e.line }

def publish (kind : Occurrence) (detail : Option String := none) : EngineM H Unit :=
  modify fun e => { e with board := e.board.publish kind detail }

/-- Moves a stream on, or fails if that move is not allowed. -/
def move (d : Direction) (target : StreamState) : EngineM H Unit := do
  match (← get).line.move d target with
  | .ok (_, line) => modifyLine fun _ => line
  | .error e => fail e

end EngineM

/-- The first error of two calls made one after the other in any case. -/
def firstError (first second : Except AudioError Unit) : Except AudioError Unit :=
  match first with
  | .error e => .error e
  | .ok () => second

namespace Engine

variable {H : Type}

def state (e : Engine H) (d : Direction) : StreamState := e.line.state d

/-- Whether a stream is held in either direction. -/
def holdsStreams (e : Engine H) : Bool := e.streams.input.isSome || e.streams.output.isSome

/-- What the stream held in a direction runs at. -/
def infoOf [StreamHost Handler Line H] (e : Engine H) (d : Direction) :
    Option StreamInfo :=
  (e.streams.get d).map fun stream => StreamHost.infoOf stream e.host

def channelCounts (e : Engine H) : Option ChannelCounts := e.line.channel.map (·.counts)

end Engine

end Passthrough
