import Passthrough.Json.Token
/-!
# From text to tokens

Splitting a text into tokens. Blanks may stand between tokens; a number or a word ends where the run
of characters that can belong to one ends.
-/

namespace Passthrough.Json

/-- A piece of a string: a character, or a 16-bit unit given by its number. -/
inductive StringPiece
  | char (c : Char)
  | unit (n : Nat)
  deriving DecidableEq, Repr

/-- The unit that four digits spell. -/
def hexUnit? (a b c d : Char) : Option Nat := Text.ofHexDigits? [a, b, c, d]

/-- The character of a short escape. -/
def unescape? (c : Char) : Option Char :=
  if c = '"' then some '"'
  else if c = '\\' then some '\\'
  else if c = '/' then some '/'
  else if c = 'b' then some '\x08'
  else if c = 'f' then some '\x0c'
  else if c = 'n' then some '\n'
  else if c = 'r' then some '\r'
  else if c = 't' then some '\t'
  else none

/-- Reads a string from behind its opening quote; answers its pieces and what follows the closing
quote. Control characters have to be escaped. -/
def scanString : List Char → Option (List StringPiece × List Char)
  | [] => none
  | '\\' :: 'u' :: a :: b :: c :: d :: r =>
    match hexUnit? a b c d, scanString r with
    | some n, some (pieces, rest) => some (.unit n :: pieces, rest)
    | _, _ => none
  | '\\' :: e :: r =>
    match unescape? e, scanString r with
    | some c, some (pieces, rest) => some (.char c :: pieces, rest)
    | _, _ => none
  | c :: r =>
    if c = '"' then some ([], r)
    else if c = '\\' ∨ c.toNat < 0x20 then none
    else
      match scanString r with
      | some (pieces, rest) => some (.char c :: pieces, rest)
      | none => none

def isHighSurrogate (n : Nat) : Bool := 0xd800 ≤ n && n < 0xdc00

def isLowSurrogate (n : Nat) : Bool := 0xdc00 ≤ n && n < 0xe000

/-- Puts the pieces of a string together. Two units make one character if they are a high and a low
surrogate in this order; a surrogate in any other place makes none. -/
def assemble : List StringPiece → Option (List Char)
  | [] => some []
  | .char c :: r => (assemble r).map (c :: ·)
  | .unit h :: .unit l :: r =>
    if isHighSurrogate h then
      if isLowSurrogate l then
        (assemble r).map (Char.ofNat (0x10000 + (h - 0xd800) * 0x400 + (l - 0xdc00)) :: ·)
      else none
    else if isLowSurrogate h then none
    else (assemble (.unit l :: r)).map (Char.ofNat h :: ·)
  | .unit n :: r =>
    if isHighSurrogate n || isLowSurrogate n then none else (assemble r).map (Char.ofNat n :: ·)

def isBlank (c : Char) : Bool := c = ' ' || c = '\n' || c = '\t' || c = '\r'

/-- The characters that a number can hold. -/
def isNumeric (c : Char) : Bool :=
  c.isDigit || c = '-' || c = '+' || c = '.' || c = 'e' || c = 'E'

/-- The characters that can start a number. -/
def startsNumber (c : Char) : Bool := c.isDigit || c = '-'

theorem length_dropWhile_le {α : Type} (p : α → Bool) (l : List α) :
    (l.dropWhile p).length ≤ l.length := (List.dropWhile_suffix p).length_le

/-- A string uses up at least its closing quote. The recursion of `lex` needs it to come to an
end. -/
theorem length_lt_of_scanString {cs : List Char} {pieces : List StringPiece} {rest : List Char}
    (h : scanString cs = some (pieces, rest)) : rest.length < cs.length := by
  fun_induction scanString cs generalizing pieces with
  | case1 => simp at h
  | case2 a b c d r n pieces' rest' hr hn ih =>
    simp only [Option.some.injEq, Prod.mk.injEq] at h
    obtain ⟨-, rfl⟩ := h
    have := ih hr
    simp only [List.length_cons]
    omega
  | case3 => simp at h
  | case4 e r hu c pieces' rest' hr hc ih =>
    simp only [Option.some.injEq, Prod.mk.injEq] at h
    obtain ⟨-, rfl⟩ := h
    have := ih hr
    simp only [List.length_cons]
    omega
  | case5 => simp at h
  | case6 => simp_all
  | case7 => simp at h
  | case8 c r _ _ _ _ pieces' rest' hr ih =>
    simp only [Option.some.injEq, Prod.mk.injEq] at h
    obtain ⟨-, rfl⟩ := h
    have := ih hr
    simp only [List.length_cons]
    omega
  | case9 => simp at h

-- The equation `h` of the string case is used by the termination proof alone.
set_option linter.unusedVariables false in
/-- The tokens of a text, if it is made of tokens and blanks. -/
def lex (cs : List Char) : Option (List Token) :=
  match cs with
  | [] => some []
  | c :: r =>
    if isBlank c then lex r
    else
      match Token.ofPunctuation? c with
      | some t => (lex r).map (t :: ·)
      | none =>
        if c = '"' then
          match h : scanString r with
          | none => none
          | some (pieces, rest) =>
            (lex rest).map (.string ((assemble pieces).map String.ofList) :: ·)
        else if startsNumber c then
          match Numeral.ofChars? (c :: r.takeWhile isNumeric) with
          | none => none
          | some n => (lex (r.dropWhile isNumeric)).map (.number n :: ·)
        else
          match Token.ofWord? (c :: r.takeWhile Char.isAlpha) with
          | none => none
          | some t => (lex (r.dropWhile Char.isAlpha)).map (t :: ·)
  termination_by cs.length
  decreasing_by
    · simp
    · simp
    · have := length_lt_of_scanString h
      simp only [List.length_cons]
      omega
    · have := length_dropWhile_le isNumeric r
      simp only [List.length_cons]
      omega
    · have := length_dropWhile_le Char.isAlpha r
      simp only [List.length_cons]
      omega

end Passthrough.Json
