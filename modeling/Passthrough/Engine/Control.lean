import Passthrough.Engine.Repair
/-!
# The calls of an engine

One call at a time holds the engine; a call that dies while it does so leaves the engine poisoned,
and most calls refuse a poisoned engine.
-/

namespace Passthrough

namespace Engine

variable {H α : Type}

def create (host : H) (config : Config := {}) (recovery : Recovery := .manual)
    (noticeCapacity : Nat := 64) : Engine H :=
  { host, config, recovery, board := .ofCapacity noticeCapacity }

/-- What a poisoned engine is called in the error. -/
def lockName : String := "DuplexEngine"

/-- Makes a call even on a poisoned engine. -/
def runAnyway (x : EngineM H α) (e : Engine H) : Except Failure α × Engine H :=
  match x e with
  | .ok a e => (.ok a, e)
  | .error (.error err) e => (.error (.error err), e)
  | .error (.crash message) e => (.error (.crash message), { e with poisoned := true })

/-- Makes a call on an engine that is not poisoned. -/
def run (x : EngineM H α) (e : Engine H) : Except Failure α × Engine H :=
  if e.poisoned then (.error (.error (.lockPoisoned lockName)), e) else e.runAnyway x

/-! ### Configuration -/

/-- Takes over checked options, unless streams are open. -/
def configure (o : Options) (e : Engine H) : Except ConfigError Unit × Engine H :=
  match Config.ofOptions o with
  | .error err => (.error err, e)
  | .ok config => if e.holdsStreams then (.error .streamsActive, e) else (.ok (), { e with config })

/-- Chooses the audio interface, unless it is in use. -/
def selectApi (api : AudioApi) (e : Engine H) : Bool × Engine H :=
  if e.effectOn || e.holdsStreams then (false, e)
  else (true, { e with config := { e.config with audioApi := api } })

/-- The option that chooses the device of a direction. -/
def deviceField : Direction → String
  | .input => "recordDeviceId"
  | .output => "playbackDeviceId"

/-- Chooses the device of a direction, from the next open on. -/
def selectDevice (d : Direction) (id : Int) (e : Engine H) : Except ConfigError Unit × Engine H :=
  match Config.deviceId (deviceField d) id with
  | .error err => (.error err, e)
  | .ok id =>
    (.ok (), match d with
      | .input => { e with config := { e.config with recordDeviceId := id } }
      | .output => { e with config := { e.config with playbackDeviceId := id } })

/-- Chooses who observes the streams opened from now on. -/
def selectObserver (observer : Option ObserverId) (e : Engine H) : Engine H := { e with observer }

/-! ### Lifecycle -/

variable [StreamHost Handler Line H]

def bringUp (e : Engine H) : Except Failure Unit × Engine H := e.run EngineM.bringUp

def start (e : Engine H) : Except Failure Unit × Engine H := e.run EngineM.start

def stop (e : Engine H) : Except Failure Unit × Engine H := e.run EngineM.stop

def bringDown (e : Engine H) : Except Failure Unit × Engine H := e.run EngineM.bringDown

def switch (on : Bool) (e : Engine H) : Except Failure Unit × Engine H :=
  e.run (EngineM.switch on)

/-- Turns the effect on or off and answers whether that succeeded; on a poisoned engine
it does not. -/
def trySwitch (on : Bool) (e : Engine H) : Except Failure Bool × Engine H :=
  if e.poisoned then (.ok false, e) else e.run (EngineM.trySwitch on)

def repair (e : Engine H) : Except Failure Unit × Engine H :=
  e.run EngineM.repair

/-- Attends to everything the callbacks have reported and answers how many events that was; with a
worker there is nothing left to do. -/
def attendPending (e : Engine H) : Except Failure Nat × Engine H :=
  match e.recovery with
  | .worker => (.ok 0, e)
  | .manual =>
    let (batch, line) := e.line.takeEvents
    let e := { e with line }
    if batch.isEmpty then (.ok 0, e)
    -- the events are taken by now, so a poisoned engine attends to them as well
    else
      match e.runAnyway (EngineM.attend batch) with
      | (.ok (), e) => (.ok batch.length, e)
      | (.error failure, e) => (.error failure, e)

/-- The worker attends to everything reported so far. A crash ends the worker. -/
def runWorker (e : Engine H) : Engine H :=
  match e.recovery with
  | .manual => e
  | .worker =>
    let (batch, line) := e.line.takeEvents
    let e := { e with line }
    if batch.isEmpty then e
    else
      match e.runAnyway (EngineM.attend batch) with
      | (.ok (), e) => e
      | (.error _, e) => { e with line := { e.line with link := e.line.link.hangUp } }

/-- Gives the engine up: what is open is closed. What is left is the host. -/
def dismiss (e : Engine H) : H :=
  let e := if e.holdsStreams then (e.runAnyway EngineM.shutDown).2 else e
  e.host

end Engine

end Passthrough
