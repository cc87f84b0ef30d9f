import Passthrough.Config.Options
import Passthrough.Json.Record
/-!
# Options as JSON

Options are read and written as one record. A file that cannot be read as a whole counts for
nothing: then the defaults apply to every option.
-/

namespace Passthrough

open Json

namespace Options

def fieldNames : List String := fields.map (·.1)

/-- Reads one option into a set of options. -/
def Access.put? (a : Access) (v : Value) (o : Options) : Option Options :=
  match a with
  | .code _ put => v.int32?.map fun i => put (Int32.ofInt i) o
  | .flag _ put => v.bool?.map fun b => put b o

def Access.toJson (a : Access) (o : Options) : Value :=
  match a with
  | .code get _ => .ofInt (get o).toInt
  | .flag get _ => .bool (get o)

def putField? (o : Options) (given : String × Value) : Option Options :=
  match fields.find? (·.1 == given.1) with
  | none => none
  | some (_, access) => access.put? given.2 o

def toJson (o : Options) : Value :=
  .record (fields.map fun (name, access) => (name, access.toJson o))

/-- Reads options; what is left out takes its default. -/
def ofJson? (v : Value) : Option Options := do
  let given ← v.fields? fieldNames
  given.foldlM putField? {}

def ofString? (s : String) : Option Options := (Value.ofString? s).bind ofJson?

/-- The options in a file of these bytes; without a file, or with one that does not hold options,
the defaults. -/
def ofFile (contents : Option ByteArray) : Options :=
  ((contents.bind String.fromUTF8?).bind ofString?).getD {}

end Options

end Passthrough
