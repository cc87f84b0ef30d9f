import Passthrough.Json.Token
/-!
# JSON values

Values as the tokens that spell them, as compact text and as indented text.
-/

namespace Passthrough.Json

inductive Value
  | null
  | bool (b : Bool)
  | number (n : Numeral)
  | string (content : Option String)
  | array (items : List Value)
  | object (members : List (Option String × Value))
  deriving Repr

namespace Value

def ofNat (n : Nat) : Value := .number { whole := n }

def ofInt (i : Int) : Value := .number (.ofInt i)

def text (s : String) : Value := .string (some s)

/-- An object with these members, in this order. -/
def record (members : List (String × Value)) : Value :=
  .object (members.map fun (key, value) => (some key, value))

/-! ### Tokens and compact text -/

mutual

/-- The tokens that spell a value. -/
def tokens : Value → List Token
  | .null => [.null]
  | .bool b => [.bool b]
  | .number n => [.number n]
  | .string content => [.string content]
  | .array items => .openArray :: itemTokens items ++ [.closeArray]
  | .object members => .openObject :: memberTokens members ++ [.closeObject]

def itemTokens : List Value → List Token
  | [] => []
  | [v] => tokens v
  | v :: w :: rest => tokens v ++ .comma :: itemTokens (w :: rest)

def memberTokens : List (Option String × Value) → List Token
  | [] => []
  | [(key, v)] => .string key :: .colon :: tokens v
  | (key, v) :: next :: rest =>
    .string key :: .colon :: tokens v ++ .comma :: memberTokens (next :: rest)

end

/-- A value on one line, without blanks. -/
def compact (v : Value) : String := String.ofList (v.tokens.flatMap Token.chars)

/-! ### Indented text -/

/-- The start of a line at this depth. -/
def newline (depth : Nat) : List Char := '\n' :: List.replicate (2 * depth) ' '

mutual

/-- A value with one line for each item and member; empty containers stay on their line. -/
def indentedChars (depth : Nat) : Value → List Char
  | .array [] => ['[', ']']
  | .array (v :: rest) =>
    '[' :: newline (depth + 1) ++ indentedChars (depth + 1) v ++ indentedItems (depth + 1) rest ++
      newline depth ++ [']']
  | .object [] => ['\x7b', '\x7d']
  | .object ((key, v) :: rest) =>
    '\x7b' :: newline (depth + 1) ++ stringChars key ++ [':', ' '] ++ indentedChars (depth + 1) v ++
      indentedMembers (depth + 1) rest ++ newline depth ++ ['\x7d']
  | .null => Token.chars .null
  | .bool b => Token.chars (.bool b)
  | .number n => n.chars
  | .string content => stringChars content

def indentedItems (depth : Nat) : List Value → List Char
  | [] => []
  | v :: rest => ',' :: newline depth ++ indentedChars depth v ++ indentedItems depth rest

def indentedMembers (depth : Nat) : List (Option String × Value) → List Char
  | [] => []
  | (key, v) :: rest =>
    ',' :: newline depth ++ stringChars key ++ [':', ' '] ++ indentedChars depth v ++
      indentedMembers depth rest

end

def indented (v : Value) : String := String.ofList (v.indentedChars 0)

/-! ### Depth -/

mutual

/-- How many containers lie around each other. -/
def depth : Value → Nat
  | .array items => itemsDepth items + 1
  | .object members => membersDepth members + 1
  | _ => 0

def itemsDepth : List Value → Nat
  | [] => 0
  | v :: rest => max (depth v) (itemsDepth rest)

def membersDepth : List (Option String × Value) → Nat
  | [] => 0
  | (_, v) :: rest => max (depth v) (membersDepth rest)

end

end Value

end Passthrough.Json
