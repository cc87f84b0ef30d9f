import Passthrough.Text.Decimal
/-!
# Reading the command line

An option is a name behind two dashes; its value is the next argument or follows an equals sign. A
value that starts with a dash can only follow an equals sign. No option may be given twice in one
place; the configuration file may be named both before and behind the command, and then the latter
counts. The arguments are read from left to right, so that a fault in front of a request for help
counts, and one behind it does not.
-/

namespace Passthrough.CommandLine

inductive Command
  /-- Runs the pass-through, for this many seconds or, if 0, until it is interrupted. -/
  | run (seconds : Nat) (record : Option String)
  | devices
  /-- Passes captured noise through the simulated host and compares what is played. -/
  | simulate (periods seed : Nat) (disconnectAfter : Option Nat)
  deriving DecidableEq, Repr

structure Arguments where
  /-- The file with the options. -/
  config : Option String
  command : Command
  deriving DecidableEq, Repr

/-- What a list of arguments asks for. -/
inductive Request
  | execute (a : Arguments)
  | help
  deriving DecidableEq, Repr

def Request.config? : Request → Option String
  | .execute a => a.config
  | .help => none

/-! ### The values of options -/

def digits? (cs : List Char) : Option Nat :=
  if cs ≠ [] ∧ cs.all Char.isDigit then some (Text.ofDigits cs) else none

/-- A number in decimal digits; one plus sign may stand in front. -/
def natural? : List Char → Option Nat
  | '+' :: cs => digits? cs
  | cs => digits? cs

/-- A number in decimal digits that fits into 64 bits. -/
def word64? (s : String) : Option Nat := (natural? s.toList).filter (· < 1 <<< 64)

/-- A number in decimal digits that fits into 32 bits; a zero may have a minus sign. -/
def word32? (s : String) : Option Nat :=
  let number := match s.toList with
    | '-' :: cs => (digits? cs).filter (· = 0)
    | cs => natural? cs
  number.filter (· < 1 <<< 32)

/-- A path is not empty. -/
def path? (s : String) : Option String := if s.isEmpty then none else some s

/-- What the value of an option has to be. -/
inductive ValueKind
  | path
  | word32
  | word64
  deriving DecidableEq, Repr

def ValueKind.accepts (k : ValueKind) (s : String) : Bool :=
  match k with
  | .path => (path? s).isSome
  | .word32 => (word32? s).isSome
  | .word64 => (word64? s).isSome

/-- The options that may stand in one place. -/
abbrev KnownOptions := List (String × ValueKind)

/-- The option that may stand anywhere. -/
def configOption : String × ValueKind := ("config", .path)

def knownOptions : String → Option KnownOptions
  | "run" => some [configOption, ("seconds", .word64), ("record", .path)]
  | "devices" => some [configOption]
  | "simulate" =>
    some [configOption, ("periods", .word32), ("seed", .word64), ("disconnect-after", .word32)]
  | _ => none

/-! ### Reading -/

/-- The options given so far in one place, with their values. -/
abbrev Given := List (String × String)

def Given.get? (g : Given) (name : String) : Option String := (g.find? (·.1 == name)).map (·.2)

/-- Records an option, which must be known here and new and have a value that it can have. -/
def Given.add? (g : Given) (known : KnownOptions) (name value : String) : Option Given :=
  match known.find? (·.1 == name) with
  | some (_, kind) =>
    if kind.accepts value && (g.get? name).isNone then some (g ++ [(name, value)]) else none
  | none => none

/-- Whether an argument can be the value of the option before it. -/
def isValue (s : String) : Bool := !s.startsWith "-" || s == "-"

/-- Splits an option that carries its value. -/
def splitOption (body : List Char) : String × Option String :=
  let name := String.ofList (body.takeWhile (· ≠ '='))
  match body.dropWhile (· ≠ '=') with
  | [] => (name, none)
  | _ :: value => (name, some (String.ofList value))

/-- What a scan of options comes to. -/
inductive Scanned
  /-- The options, and the arguments from the first that is none on. -/
  | options (g : Given) (rest : List String)
  | help
  | failed

/-- Reads options up to the first argument that is none. Behind two dashes alone
nothing may follow. -/
def scan (known : KnownOptions) (g : Given) : List String → Scanned
  | [] => .options g []
  | arg :: rest =>
    if arg = "--help" then .help
    else if arg = "--" then if rest.isEmpty then .options g [] else .failed
    else
      match arg.toList with
      | '-' :: '-' :: body =>
        match splitOption body with
        | (name, some value) =>
          match g.add? known name value with
          | some g => scan known g rest
          | none => .failed
        | (name, none) =>
          match rest with
          | [] => .failed
          | value :: rest =>
            if isValue value then
              match g.add? known name value with
              | some g => scan known g rest
              | none => .failed
            else .failed
      | '-' :: 'h' :: _ => .help
      | '-' :: _ :: _ => .failed
      | _ => .options g (arg :: rest)

def command? (name : String) (g : Given) : Option Command :=
  if name = "run" then
    some (.run (((g.get? "seconds").bind word64?).getD 10) (g.get? "record"))
  else if name = "devices" then some .devices
  else if name = "simulate" then
    some (.simulate (((g.get? "periods").bind word32?).getD 50)
      (((g.get? "seed").bind word64?).getD 7) ((g.get? "disconnect-after").bind word32?))
  else none

/-- Whether arguments behind the word help name a command or nothing. -/
def isHelpTopic : List String → Bool
  | [] => true
  | [name] => (knownOptions name).isSome || name == "help"
  | _ => false

/-- Reads the arguments; none if they ask for nothing that exists. -/
def Request.ofArgs? (args : List String) : Option Request :=
  match scan [configOption] [] args with
  | .failed => none
  | .help => some .help
  | .options _ [] => none
  | .options outer (name :: rest) =>
    if name = "help" then if isHelpTopic rest then some .help else none
    else
      match knownOptions name with
      | none => none
      | some known =>
        match scan known [] rest with
        | .failed => none
        | .help => some .help
        | .options _ (_ :: _) => none
        | .options inner [] =>
          (command? name inner).map fun command =>
            .execute { config := (inner.get? "config").or (outer.get? "config"), command }

end Passthrough.CommandLine
