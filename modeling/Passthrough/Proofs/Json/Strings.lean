import Passthrough.Proofs.Json.Grammar
/-!
# Strings as they are spelled

A string is scanned piece by piece up to its closing quote. Its pieces are put together from the
left: a unit that is no surrogate is a character of its own, and a pair of surrogates makes the
character that is split into this pair.

Main statements: `scanString_eq_some_iff`, `isContent_iff`.
-/

namespace Passthrough.Text

/-! ### Hexadecimal digits -/

theorem hexPadded_four (n : Nat) :
    hexPadded 4 n =
      [hexDigit (n / 16 / 16 / 16 % 16), hexDigit (n / 16 / 16 % 16), hexDigit (n / 16 % 16),
        hexDigit (n % 16)] := rfl

/-- A number of 16 bits is read back from its four hexadecimal digits, zeros in front included. -/
theorem ofHexDigits?_hexPadded_four {n : Nat} (h : n < 0x10000) :
    ofHexDigits? (hexPadded 4 n) = some n := by
  have hdigit (m : Nat) : hexValue? (hexDigit (m % 16)) = some (m % 16) :=
    hexValue?_hexDigit (Nat.mod_lt m (by decide))
  simp only [hexPadded_four, ofHexDigits?, List.foldlM_cons, List.foldlM_nil, hdigit,
    Option.map_some, Option.bind_eq_bind, Option.bind_some, Option.pure_def, Option.some.injEq]
  omega

theorem hexValue?_lt {c : Char} {n : Nat} (h : hexValue? c = some n) : n < 16 := by
  unfold hexValue? at h
  simp only [Char.le_def, UInt32.le_iff_toNat_le] at h
  split at h
  · next hc =>
    cases h
    have : c.toNat ≤ '9'.toNat := hc.2
    have h9 : '9'.toNat = '0'.toNat + 9 := rfl
    omega
  · split at h
    · next hc =>
      cases h
      have : c.toNat ≤ 'f'.toNat := hc.2
      have h9 : 'f'.toNat = 'a'.toNat + 5 := rfl
      omega
    · split at h
      · next hc =>
        cases h
        have : c.toNat ≤ 'F'.toNat := hc.2
        have h9 : 'F'.toNat = 'A'.toNat + 5 := rfl
        omega
      · cases h

/-- Four digits make a number of 16 bits, so a unit of a string is never larger
(`lt_of_unit_mem`). -/
theorem ofHexDigits?_four_lt {a b c d : Char} {n : Nat} (h : ofHexDigits? [a, b, c, d] = some n) :
    n < 0x10000 := by
  simp only [ofHexDigits?, List.foldlM_cons, List.foldlM_nil, Option.bind_eq_bind, Option.bind_eq_some_iff,
    Option.map_eq_some_iff, Option.pure_def, Option.some.injEq] at h
  obtain ⟨_, ⟨v₁, h₁, rfl⟩, _, ⟨v₂, h₂, rfl⟩, _, ⟨v₃, h₃, rfl⟩, _, ⟨v₄, h₄, rfl⟩, rfl⟩ := h
  have := hexValue?_lt h₁
  have := hexValue?_lt h₂
  have := hexValue?_lt h₃
  have := hexValue?_lt h₄
  omega

end Passthrough.Text

namespace Passthrough.Json

/-! ### Strings -/

/-- The short escapes that are read are exactly those of the grammar (`shortEscapes`). -/
theorem unescape?_eq_some_iff {e c : Char} : unescape? e = some c ↔ (e, c) ∈ shortEscapes := by
  fun_cases unescape? e <;> simp_all [shortEscapes, eq_comm]

/-- An escaped unit is scanned with its four digits, whatever follows. -/
theorem scanString_unit {a b c d : Char} {n : Nat} (h : hexUnit? a b c d = some n)
    (rest : List Char) :
    scanString ('\\' :: 'u' :: a :: b :: c :: d :: rest) =
      (scanString rest).map fun (pieces, rest) => (.unit n :: pieces, rest) := by
  rw [scanString, h]
  cases scanString rest <;> rfl

/-- A short escape is scanned as the character that it stands for. -/
theorem scanString_escape {e c : Char} (h : unescape? e = some c) (rest : List Char) :
    scanString ('\\' :: e :: rest) =
      (scanString rest).map fun (pieces, rest) => (.char c :: pieces, rest) := by
  have hu : e ≠ 'u' := by rintro rfl; simp [unescape?] at h
  rw [scanString, h]
  · cases scanString rest <;> rfl
  · simp [hu]

/-- Any other character stands for itself, unless it is a quote, a backslash or a control
character. -/
theorem scanString_char {c : Char} (hquote : c ≠ '"') (hslash : c ≠ '\\') (hc : ¬ c.toNat < 0x20)
    (rest : List Char) :
    scanString (c :: rest) =
      (scanString rest).map fun (pieces, rest) => (.char c :: pieces, rest) := by
  rw [scanString]
  · simp only [hquote, hslash, hc, if_false, false_or]
    cases scanString rest <;> rfl
  · simp [hslash]
  · simp [hslash]

/-- However a piece is spelled, it is scanned as that piece, whatever follows. The three equations
before this are the ways of spelling one. -/
theorem scanString_piece {piece : StringPiece} {spelling : List Char}
    (h : piece.SpelledBy spelling) (rest : List Char) :
    scanString (spelling ++ rest) =
      (scanString rest).map fun (pieces, rest) => (piece :: pieces, rest) := by
  cases h with
  | plain hquote hslash hcontrol =>
    exact scanString_char hquote hslash (Nat.not_lt.mpr hcontrol) rest
  | escape h => exact scanString_escape (unescape?_eq_some_iff.mpr h) rest
  | unit h => exact scanString_unit h rest

/-- What is scanned as a string spells its pieces, up to the first quote that is not escaped. By
induction along the scanner, each of whose steps takes one piece. -/
theorem spelled_of_scanString {cs rest : List Char} {pieces : List StringPiece}
    (h : scanString cs = some (pieces, rest)) :
    ∃ spelling, SpellsPieces spelling pieces ∧ cs = spelling ++ '"' :: rest := by
  fun_induction scanString cs generalizing pieces with
  | case1 => cases h
  | case2 a b c d r n pieces' rest' hr hn ih =>
    cases h
    obtain ⟨spelling, hspells, rfl⟩ := ih hr
    exact ⟨_, .cons (.unit hn) hspells, rfl⟩
  | case3 => cases h
  | case4 e r hu c pieces' rest' hr hc ih =>
    cases h
    obtain ⟨spelling, hspells, rfl⟩ := ih hr
    exact ⟨_, .cons (.escape (unescape?_eq_some_iff.mp hc)) hspells, rfl⟩
  | case5 => cases h
  | case6 =>
    cases h
    exact ⟨[], .nil, rfl⟩
  | case7 => cases h
  | case8 c r _ _ hquote hother pieces' rest' hr ih =>
    cases h
    obtain ⟨hslash, hcontrol⟩ := not_or.mp hother
    obtain ⟨spelling, hspells, rfl⟩ := ih hr
    exact ⟨_, .cons (.plain hquote hslash (Nat.not_lt.mp hcontrol)) hspells, rfl⟩
  | case9 => cases h

/-- **Strings are scanned** up to their closing quote, into the pieces that they spell, and nothing
else is scanned as a string. -/
theorem scanString_eq_some_iff {cs rest : List Char} {pieces : List StringPiece} :
    scanString cs = some (pieces, rest) ↔
      ∃ spelling, SpellsPieces spelling pieces ∧ cs = spelling ++ '"' :: rest := by
  refine ⟨spelled_of_scanString, ?_⟩
  rintro ⟨spelling, hspells, rfl⟩
  induction hspells with
  | nil => simp [scanString]
  | cons hpiece _ ih =>
    rw [List.append_assoc, scanString_piece hpiece, ih]
    rfl

/-! ### The text of a string -/

theorem isValidChar_toNat (c : Char) : c.toNat.isValidChar := c.valid

/-- A character of 16 bits is no surrogate, so a unit that spells one is put together by itself. -/
theorem not_surrogate_toNat (c : Char) :
    isHighSurrogate c.toNat = false ∧ isLowSurrogate c.toNat = false := by
  have hvalid := isValidChar_toNat c
  simp only [Nat.isValidChar] at hvalid
  simp only [isHighSurrogate, isLowSurrogate, Bool.and_eq_false_iff, decide_eq_false_iff_not]
  omega

theorem toNat_ofNat_of_isValidChar {n : Nat} (h : n.isValidChar) : (Char.ofNat n).toNat = n := by
  rw [Char.ofNat, dif_pos h]
  rfl

/-- A unit that is no surrogate makes a character of its own, whatever follows it. -/
theorem assemble_unit {n : Nat} (hhigh : isHighSurrogate n = false)
    (hlow : isLowSurrogate n = false) (pieces : List StringPiece) :
    assemble (.unit n :: pieces) = (assemble pieces).map (Char.ofNat n :: ·) := by
  cases pieces with
  | nil => simp [assemble, hhigh, hlow]
  | cons piece pieces => cases piece <;> simp [assemble, hhigh, hlow]

/-- A high surrogate and a low one make one character, beyond the first 2¹⁶. -/
theorem assemble_pair {high low : Nat} (hhigh : isHighSurrogate high) (hlow : isLowSurrogate low)
    (pieces : List StringPiece) :
    assemble (.unit high :: .unit low :: pieces) = (assemble pieces).map
      (Char.ofNat (0x10000 + (high - 0xd800) * 0x400 + (low - 0xdc00)) :: ·) := by
  rw [assemble, if_pos hhigh, if_pos hlow]

/-- Pieces that denote characters are put together to these, by induction on how they denote them.
Two surrogates stand for a character above 16 bits, and `assemble_pair` undoes how it was split. -/
theorem assemble_of_denotes {pieces : List StringPiece} {cs : List Char} (h : Denotes pieces cs) :
    assemble pieces = some cs := by
  induction h with
  | nil => rfl
  | char c h ih => rw [assemble, ih, Option.map_some]
  | unit c hc h ih =>
    obtain ⟨hhigh, hlow⟩ := not_surrogate_toNat c
    rw [assemble_unit hhigh hlow, ih, Option.map_some, Char.ofNat_toNat]
  | pair c hc h ih =>
    have hvalid := isValidChar_toNat c
    simp only [Nat.isValidChar] at hvalid
    -- the two halves of the split are surrogates of the right kind
    have hhigh : isHighSurrogate (0xd800 + (c.toNat - 0x10000) / 0x400) := by
      simp only [isHighSurrogate, Bool.and_eq_true, decide_eq_true_eq]
      omega
    have hlow : isLowSurrogate (0xdc00 + (c.toNat - 0x10000) % 0x400) := by
      simp only [isLowSurrogate, Bool.and_eq_true, decide_eq_true_eq]
      omega
    have hvalue : 0x10000 + (0xd800 + (c.toNat - 0x10000) / 0x400 - 0xd800) * 0x400
        + (0xdc00 + (c.toNat - 0x10000) % 0x400 - 0xdc00) = c.toNat := by omega
    rw [assemble_pair hhigh hlow, hvalue, ih, Option.map_some, Char.ofNat_toNat]

/-- A pair of surrogates makes a character that is split into this pair, so that what was put
together is also what the pieces denote. -/
theorem denotes_pair {high low : Nat} (hhigh : isHighSurrogate high) (hlow : isLowSurrogate low)
    {pieces : List StringPiece} {cs : List Char} (h : Denotes pieces cs) :
    Denotes (.unit high :: .unit low :: pieces)
      (Char.ofNat (0x10000 + (high - 0xd800) * 0x400 + (low - 0xdc00)) :: cs) := by
  simp only [isHighSurrogate, isLowSurrogate, Bool.and_eq_true, decide_eq_true_eq] at hhigh hlow
  have hvalid : (0x10000 + (high - 0xd800) * 0x400 + (low - 0xdc00)).isValidChar := by
    simp only [Nat.isValidChar]
    omega
  have hchar := toNat_ofNat_of_isValidChar hvalid
  have hpair := Denotes.pair (Char.ofNat (0x10000 + (high - 0xd800) * 0x400 + (low - 0xdc00)))
    (by omega) h
  rw [hchar] at hpair
  have hfirst : 0xd800 + (0x10000 + (high - 0xd800) * 0x400 + (low - 0xdc00) - 0x10000) / 0x400
      = high := by omega
  have hsecond : 0xdc00 + (0x10000 + (high - 0xd800) * 0x400 + (low - 0xdc00) - 0x10000) % 0x400
      = low := by omega
  rwa [hfirst, hsecond] at hpair

/-- A unit that is no surrogate denotes the character with its number. -/
theorem denotes_unit {n : Nat} (hn : n < 0x10000) (hhigh : isHighSurrogate n = false)
    (hlow : isLowSurrogate n = false) {pieces : List StringPiece} {cs : List Char}
    (h : Denotes pieces cs) : Denotes (.unit n :: pieces) (Char.ofNat n :: cs) := by
  simp only [isHighSurrogate, isLowSurrogate, Bool.and_eq_false_iff, decide_eq_false_iff_not]
    at hhigh hlow
  have hvalid : n.isValidChar := by
    simp only [Nat.isValidChar]
    omega
  have hchar := toNat_ofNat_of_isValidChar hvalid
  have hunit := Denotes.unit (Char.ofNat n) (by omega) h
  rwa [hchar] at hunit

/-- What is put together from pieces is what they denote. The units have to have 16 bits, which
those of a spelling have. A surrogate without its partner is refused by `assemble`, and so denotes
nothing here. -/
theorem denotes_of_assemble {pieces : List StringPiece} {cs : List Char}
    (hunits : ∀ n, .unit n ∈ pieces → n < 0x10000) (h : assemble pieces = some cs) :
    Denotes pieces cs := by
  fun_induction assemble pieces generalizing cs with
  | case1 =>
    cases h
    exact .nil
  | case2 c r ih =>
    obtain ⟨cs, hcs, rfl⟩ := Option.map_eq_some_iff.mp h
    exact .char c (ih (fun n hn => hunits n (by simp [hn])) hcs)
  | case3 high low r hhigh hlow ih =>
    obtain ⟨cs, hcs, rfl⟩ := Option.map_eq_some_iff.mp h
    exact denotes_pair hhigh hlow (ih (fun n hn => hunits n (by simp [hn])) hcs)
  | case4 => cases h
  | case5 => cases h
  | case6 n l r hhigh hlow ih =>
    obtain ⟨cs, hcs, rfl⟩ := Option.map_eq_some_iff.mp h
    exact denotes_unit (hunits n (by simp)) (by simpa using hhigh) (by simpa using hlow)
      (ih (fun n hn => hunits n (List.mem_cons_of_mem _ hn)) hcs)
  | case7 => cases h
  -- neither kind of surrogate, so the unit is a character by itself
  | case8 n r _ hnone ih =>
    obtain ⟨cs, hcs, rfl⟩ := Option.map_eq_some_iff.mp h
    obtain ⟨hhigh, hlow⟩ := Bool.or_eq_false_iff.mp (Bool.not_eq_true _ ▸ hnone)
    exact denotes_unit (hunits n (by simp)) hhigh hlow
      (ih (fun n hn => hunits n (by simp [hn])) hcs)

/-- The units of a string have 16 bits, since four digits spell each. -/
theorem lt_of_unit_mem {cs : List Char} {pieces : List StringPiece} (h : SpellsPieces cs pieces)
    {n : Nat} (hn : .unit n ∈ pieces) : n < 0x10000 := by
  induction h with
  | nil => cases hn
  | cons hpiece _ ih =>
    rcases List.mem_cons.mp hn with rfl | hn
    · cases hpiece with
      | unit h => exact Text.ofHexDigits?_four_lt h
    · exact ih hn

/-- **The pieces of a string are put together** to the text that they denote, if there is one; a
lone surrogate denotes none, and then there is no text. -/
theorem isContent_iff {cs : List Char} {pieces : List StringPiece} (h : SpellsPieces cs pieces)
    {content : Option String} :
    IsContent pieces content ↔ (assemble pieces).map String.ofList = content := by
  have hassemble {cs : List Char} : Denotes pieces cs ↔ assemble pieces = some cs :=
    ⟨assemble_of_denotes, denotes_of_assemble fun _ => lt_of_unit_mem h⟩
  cases content with
  | none =>
    rw [Option.map_eq_none_iff, Option.eq_none_iff_forall_ne_some]
    simp only [IsContent, hassemble, ne_eq]
  | some s =>
    rw [IsContent, hassemble, Option.map_eq_some_iff]
    constructor
    · exact fun hs => ⟨_, hs, String.ofList_toList⟩
    · rintro ⟨cs, hcs, rfl⟩
      rw [hcs, String.toList_ofList]

/-! ### Strings as they are written -/

/-- A character is written as one piece, which denotes it: itself, a short escape, or an escaped
unit. -/
theorem exists_piece_escaped (c : Char) :
    ∃ piece : StringPiece, piece.SpelledBy (escaped c) ∧
      ∀ pieces cs, Denotes pieces cs → Denotes (piece :: pieces) (c :: cs) := by
  fun_cases escaped c with
  | case1 | case2 | case3 | case4 | case5 | case6 | case7 =>
    rename_i hc
    subst hc
    exact ⟨_, .escape (by decide), fun _ _ => .char _⟩
  | case8 _ _ _ _ _ _ _ hc =>
    refine ⟨.unit c.toNat, ?_, fun _ _ => .unit c (by omega)⟩
    have hread : Text.ofHexDigits? (Text.hexPadded 4 c.toNat) = some c.toNat :=
      Text.ofHexDigits?_hexPadded_four (by omega)
    rw [Text.hexPadded_four] at hread ⊢
    exact .unit hread
  | case9 hquote hslash _ _ _ _ _ hc =>
    exact ⟨_, .plain hquote hslash (Nat.not_lt.mp hc), fun _ _ => .char c⟩

/-- A text is written piece by piece, and the pieces denote it. -/
theorem exists_pieces_escaped (cs : List Char) :
    ∃ pieces, SpellsPieces (cs.flatMap escaped) pieces ∧ Denotes pieces cs := by
  induction cs with
  | nil => exact ⟨[], .nil, .nil⟩
  | cons c cs ih =>
    -- One more character is one more piece in front of those of the rest.
    obtain ⟨pieces, hspells, hdenotes⟩ := ih
    obtain ⟨piece, hpiece, hmakes⟩ := exists_piece_escaped c
    exact ⟨piece :: pieces, .cons hpiece hspells, hmakes pieces cs hdenotes⟩

/-- A string is written as one of its spellings, which is what `Token.spelledBy_chars` needs of
strings. -/
theorem spelledBy_stringChars (content : Option String) :
    (Token.string content).SpelledBy (stringChars content) := by
  cases content with
  | none =>
    -- The first surrogate alone makes no character.
    have hspells : SpellsPieces ['\\', 'u', 'd', '8', '0', '0'] [.unit 0xd800] :=
      .cons (.unit rfl) .nil
    exact .string hspells ((isContent_iff hspells).mpr rfl)
  | some s =>
    obtain ⟨pieces, hspells, hdenotes⟩ := exists_pieces_escaped s.toList
    exact .string hspells hdenotes

end Passthrough.Json
