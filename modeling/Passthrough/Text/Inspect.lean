/-!
# Inspection texts

The inspection text of a value: how error displays spell a constructor with its named fields.
-/

namespace Passthrough.Text

/-- Writes a constructor with named fields, in the given order; without fields it is
the name alone. -/
def record (name : String) (fields : List (String × String)) : String :=
  match fields with
  | [] => name
  | _ =>
    name ++ " \x7b " ++ ", ".intercalate (fields.map fun (key, value) => key ++ ": " ++ value)
      ++ " \x7d"

/-- Writes a constructor with one unnamed argument. -/
def applied (name argument : String) : String := name ++ "(" ++ argument ++ ")"

end Passthrough.Text
