import Passthrough.Json.Lexer
import Passthrough.Json.Value
/-!
# The grammar of JSON texts

Which texts spell a value, told without a reader. A text is made of the tokens of a value, each in
any of its spellings, with blanks anywhere between them (`Written`). What the tokens of a value are,
and in which order they come, is told by `Value.tokens`.

Two things can be spelled in several ways. The exponent of a number may have a sign and zeros in
front, and its mark may be of either case. A character of a string stands for itself or is escaped,
by a short escape or by the UTF-16 units it is made of; and a string may be spelled that denotes no
text, since its units make no characters (`Denotes`).
-/

namespace Passthrough.Json

/-! ## Numbers -/

namespace Numeral

/-- What stands behind the point are digits. -/
def WellSpelled (n : Numeral) : Prop := ∀ c ∈ n.fraction, c.isDigit

def fractionChars (fraction : List Char) : List Char :=
  if fraction = [] then [] else '.' :: fraction

/-- One digit or more, zeros in front among them. -/
def IsDigits (cs : List Char) : Prop := cs ≠ [] ∧ ∀ c ∈ cs, c.isDigit

/-- The spellings of an exponent, or of none. -/
inductive ExponentSpelled : Option Int → List Char → Prop
  | none : ExponentSpelled none []
  | plain {mark : Char} {ds : List Char} (hmark : mark = 'e' ∨ mark = 'E') (hds : IsDigits ds) :
    ExponentSpelled (some (Text.ofDigits ds)) (mark :: ds)
  | plus {mark : Char} {ds : List Char} (hmark : mark = 'e' ∨ mark = 'E') (hds : IsDigits ds) :
    ExponentSpelled (some (Text.ofDigits ds)) (mark :: '+' :: ds)
  | minus {mark : Char} {ds : List Char} (hmark : mark = 'e' ∨ mark = 'E') (hds : IsDigits ds) :
    ExponentSpelled (some (-Text.ofDigits ds)) (mark :: '-' :: ds)

/-- **The spellings of a number**: a sign if it is negative, the digits before the point without
zeros in front, the digits behind the point, and the exponent. -/
def SpelledBy (n : Numeral) (cs : List Char) : Prop :=
  n.WellSpelled ∧ ∃ exponent, ExponentSpelled n.exponent exponent
    ∧ cs = (if n.negative then ['-'] else [])
        ++ (Text.digits n.whole ++ (fractionChars n.fraction ++ exponent))

end Numeral

/-! ## Strings -/

/-- The short escapes, by the character behind the backslash. -/
def shortEscapes : List (Char × Char) :=
  [('"', '"'), ('\\', '\\'), ('/', '/'), ('b', '\x08'), ('f', '\x0c'), ('n', '\n'), ('r', '\r'),
    ('t', '\t')]

/-- The spellings of a piece of a string. -/
inductive StringPiece.SpelledBy : StringPiece → List Char → Prop
  | plain {c : Char} (hquote : c ≠ '"') (hslash : c ≠ '\\') (hcontrol : 0x20 ≤ c.toNat) :
    SpelledBy (.char c) [c]
  | escape {e c : Char} (h : (e, c) ∈ shortEscapes) : SpelledBy (.char c) ['\\', e]
  | unit {a b c d : Char} {n : Nat} (h : Text.ofHexDigits? [a, b, c, d] = some n) :
    SpelledBy (.unit n) ['\\', 'u', a, b, c, d]

/-- What stands between the quotes. -/
inductive SpellsPieces : List Char → List StringPiece → Prop
  | nil : SpellsPieces [] []
  | cons {spelling cs : List Char} {piece : StringPiece} {pieces : List StringPiece}
    (hpiece : piece.SpelledBy spelling) (hpieces : SpellsPieces cs pieces) :
    SpellsPieces (spelling ++ cs) (piece :: pieces)

/-- **The characters that pieces denote.** A unit is a character of its own, or two of them are one
beyond the first 2¹⁶. -/
inductive Denotes : List StringPiece → List Char → Prop
  | nil : Denotes [] []
  | char {pieces : List StringPiece} {cs : List Char} (c : Char) (h : Denotes pieces cs) :
    Denotes (.char c :: pieces) (c :: cs)
  | unit {pieces : List StringPiece} {cs : List Char} (c : Char) (hc : c.toNat < 0x10000)
    (h : Denotes pieces cs) : Denotes (.unit c.toNat :: pieces) (c :: cs)
  | pair {pieces : List StringPiece} {cs : List Char} (c : Char) (hc : 0x10000 ≤ c.toNat)
    (h : Denotes pieces cs) :
    Denotes (.unit (0xd800 + (c.toNat - 0x10000) / 0x400)
      :: .unit (0xdc00 + (c.toNat - 0x10000) % 0x400) :: pieces) (c :: cs)

/-- What a string is about: the text that its pieces denote, if they denote one. -/
def IsContent (pieces : List StringPiece) : Option String → Prop
  | some s => Denotes pieces s.toList
  | none => ∀ cs, ¬ Denotes pieces cs

/-! ## Texts -/

namespace Token

/-- The marks and the words, which have one spelling each. -/
def IsFixed : Token → Prop
  | .number _ => False
  | .string _ => False
  | _ => True

/-- **The spellings of a token.** -/
inductive SpelledBy : Token → List Char → Prop
  | fixed {t : Token} (h : t.IsFixed) : SpelledBy t t.chars
  | number {n : Numeral} {cs : List Char} (h : n.SpelledBy cs) : SpelledBy (.number n) cs
  | string {cs : List Char} {pieces : List StringPiece} {content : Option String}
    (hpieces : SpellsPieces cs pieces) (hcontent : IsContent pieces content) :
    SpelledBy (.string content) ('"' :: cs ++ ['"'])

end Token

/-- What may stand between tokens. -/
def blanks : List Char := [' ', '\n', '\t', '\r']

/-- **Texts of these tokens**, with blanks anywhere. -/
inductive Written : List Char → List Token → Prop
  | nil : Written [] []
  | blank {c : Char} {cs : List Char} {ts : List Token} (hc : c ∈ blanks) (h : Written cs ts) :
    Written (c :: cs) ts
  | token {t : Token} {spelling cs : List Char} {ts : List Token} (ht : t.SpelledBy spelling)
    (h : Written cs ts) : Written (spelling ++ cs) (t :: ts)

end Passthrough.Json
