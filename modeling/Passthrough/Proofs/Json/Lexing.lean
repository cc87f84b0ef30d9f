import Mathlib.Data.List.Chain
import Passthrough.Proofs.Json.Numerals
import Passthrough.Proofs.Json.Strings
/-!
# Texts and their tokens

The lexer is greedy where a token has no closing mark: a number takes every character that a number
could hold, a word every letter. So a spelling is read as its token where the text behind it cannot
be taken for more of the token. In the tokens of a value this is so even where nothing stands
between two of them, since one of any two neighbours is a mark or a string.

The other way about, what the lexer takes off a text is always a blank or a spelling of the token
that it answers.

Main statements: `lex_token`, `lex_written`, `written_of_lex`.
-/

namespace Passthrough.Json

/-! ### Kinds of tokens -/

namespace Token

/-- The characters that would be taken for more of a token, if they stood right behind it. -/
def goesOn : Token → Char → Bool
  | .number _ => isNumeric
  | .null | .bool _ => Char.isAlpha
  | _ => fun _ => false

/-- The token ends by itself: nothing behind it would be taken for more of it. -/
def IsClosed (t : Token) : Prop := t.goesOn = fun _ => false

/-- The token is one of the six marks. -/
def IsMark (t : Token) : Prop := ∃ c, ofPunctuation? c = some t

/-- These two are told from each other without a blank between them. -/
def Separate (t u : Token) : Prop := t.IsClosed ∨ u.IsMark

def WellSpelled : Token → Prop
  | .number n => n.WellSpelled
  | _ => True

theorem isMark_comma : IsMark .comma := ⟨',', rfl⟩

theorem isMark_closeArray : IsMark .closeArray := ⟨']', rfl⟩

theorem isMark_closeObject : IsMark .closeObject := ⟨'\x7d', rfl⟩

theorem chars_of_ofPunctuation? {c : Char} {t : Token} (h : ofPunctuation? c = some t) :
    t.IsFixed ∧ t.chars = [c] := by
  revert h
  fun_cases ofPunctuation? c <;> rintro ⟨⟩
  all_goals exact ⟨trivial, by simp_all [chars]⟩

/-- What is read as a word is that word, letter by letter. -/
theorem spelledBy_of_ofWord? {cs : List Char} {t : Token} (h : ofWord? cs = some t) :
    t.SpelledBy cs := by
  revert h
  fun_cases ofWord? cs <;> rintro ⟨⟩
  all_goals
    subst cs
    exact .fixed trivial

/-- A token is written as one of its spellings, if its number is well spelled; all other tokens
always are. -/
theorem spelledBy_chars {t : Token} (h : t.WellSpelled) : t.SpelledBy t.chars := by
  cases t with
  | number n => exact .number (Numeral.spelledBy_chars h)
  | string content => exact spelledBy_stringChars content
  | openObject | closeObject | openArray | closeArray | comma | colon | null | bool =>
    exact .fixed trivial

end Token

/-! ### From spellings to tokens -/

theorem isBlank_iff {c : Char} : isBlank c ↔ c ∈ blanks := by
  simp [isBlank, blanks, or_assoc]

/-- A mark is a token by itself, whatever follows it. -/
theorem lex_punctuation {c : Char} {t : Token} (h : Token.ofPunctuation? c = some t)
    (rest : List Char) : lex (c :: rest) = (lex rest).map (t :: ·) := by
  have hblank : ¬ isBlank c := by
    intro hc
    simp only [isBlank, Bool.or_eq_true, decide_eq_true_eq] at hc
    rcases hc with ((rfl | rfl) | rfl) | rfl <;> simp [Token.ofPunctuation?] at h
  rw [lex, if_neg hblank, h]

/-- A string is read from its opening mark to its closing one, whatever pieces are in between, and
the lexer goes on behind that. -/
theorem lex_string {cs : List Char} {pieces : List StringPiece} {content : Option String}
    (hpieces : SpellsPieces cs pieces) (hcontent : IsContent pieces content) (rest : List Char) :
    lex ('"' :: cs ++ ['"'] ++ rest) = (lex rest).map (.string content :: ·) := by
  have hscan : scanString (cs ++ '"' :: rest) = some (pieces, rest) :=
    scanString_eq_some_iff.mpr ⟨cs, hpieces, rfl⟩
  have hmake := (isContent_iff hpieces).mp hcontent
  have hpunctuation : Token.ofPunctuation? '"' = none := rfl
  rw [List.append_assoc, List.cons_append, List.singleton_append, lex, if_neg (by decide),
    hpunctuation]
  simp only [if_true]
  split
  · simp [hscan] at *
  · simp_all

/-- The characters that start blanks, marks and strings. -/
def leading : List Char := blanks ++ ['\x7b', '\x7d', '[', ']', ',', ':', '"']

/-- Everything else starts a number or a word, and takes all characters that could belong to it.
This greed is what `StopsAt` guards against. -/
theorem lex_other {c : Char} (h : c ∉ leading) (cs : List Char) :
    lex (c :: cs) =
      if startsNumber c then
        (Numeral.ofChars? (c :: cs.takeWhile isNumeric)).bind fun n =>
          (lex (cs.dropWhile isNumeric)).map (.number n :: ·)
      else
        (Token.ofWord? (c :: cs.takeWhile Char.isAlpha)).bind fun t =>
          (lex (cs.dropWhile Char.isAlpha)).map (t :: ·) := by
  simp only [leading, blanks, List.mem_append, List.mem_cons, List.not_mem_nil, or_false,
    not_or] at h
  -- a character outside `leading` takes the lexer past its first three branches
  have hblank : ¬ isBlank c := by simp [isBlank, h]
  have hpunctuation : Token.ofPunctuation? c = none := by simp [Token.ofPunctuation?, h]
  have hquote : c ≠ '"' := by simp [h]
  rw [lex, if_neg hblank, hpunctuation]
  simp only [hquote, if_false]
  split
  · cases Numeral.ofChars? (c :: cs.takeWhile isNumeric) <;> rfl
  · cases Token.ofWord? (c :: cs.takeWhile Char.isAlpha) <;> rfl

/-- A number is read from each of its spellings, where what follows is no part of a number.
`StopsAt` is what keeps the reader from running on into the next token. -/
theorem lex_number {n : Numeral} {cs : List Char} (h : n.SpelledBy cs) {rest : List Char}
    (hrest : StopsAt isNumeric rest) : lex (cs ++ rest) = (lex rest).map (.number n :: ·) := by
  have hread := Numeral.ofChars?_eq_some_iff.mpr h
  obtain ⟨c, ds, rfl, hc⟩ := Numeral.exists_cons_of_spelledBy h
  have hnumeric : ∀ d ∈ ds, isNumeric d := fun d hd =>
    Numeral.isNumeric_of_mem h (List.mem_cons_of_mem c hd)
  -- No other branch of the lexer takes a character that starts a number.
  have hother : c ∉ leading := by
    intro hmem
    have hnone : leading.all fun d => !startsNumber d := by decide
    have hstarts := List.all_eq_true.mp hnone c hmem
    rw [hc] at hstarts
    exact Bool.noConfusion hstarts
  rw [List.cons_append, lex_other hother, if_pos hc, takeWhile_run hnumeric hrest,
    dropWhile_run hnumeric hrest, hread, Option.bind_some]

/-- A word is read where what follows is no letter. -/
theorem lex_word {c : Char} {cs : List Char} {t : Token} (hc : c ∉ leading)
    (hnumber : ¬ startsNumber c) (hcs : cs.all Char.isAlpha)
    (h : Token.ofWord? (c :: cs) = some t) {rest : List Char}
    (hrest : StopsAt Char.isAlpha rest) :
    lex (c :: cs ++ rest) = (lex rest).map (t :: ·) := by
  have hletters := List.all_eq_true.mp hcs
  rw [List.cons_append, lex_other hc, if_neg hnumber, takeWhile_run hletters hrest,
    dropWhile_run hletters hrest, h, Option.bind_some]

/-- A mark or a word is read from the characters that it is written in. For a word that is the case
if no further letter follows, which `goesOn` asks for, and for a mark in any case. -/
theorem lex_fixed {t : Token} (h : t.IsFixed) {rest : List Char} (hrest : StopsAt t.goesOn rest) :
    lex (t.chars ++ rest) = (lex rest).map (t :: ·) := by
  cases t with
  | openObject | closeObject | openArray | closeArray | comma | colon =>
    exact lex_punctuation rfl rest
  | null => exact lex_word (by decide) (by decide) (by decide) rfl hrest
  | bool b =>
    cases b with
    | true => exact lex_word (by decide) (by decide) (by decide) rfl hrest
    | false => exact lex_word (by decide) (by decide) (by decide) rfl hrest
  | number n => exact h.elim
  | string content => exact h.elim

/-- A token is read from each of its spellings, if what follows breaks it off. The four lemmas
before this are its cases. -/
theorem lex_token {t : Token} {spelling : List Char} (h : t.SpelledBy spelling) {rest : List Char}
    (hrest : StopsAt t.goesOn rest) : lex (spelling ++ rest) = (lex rest).map (t :: ·) := by
  cases h with
  | fixed h => exact lex_fixed h hrest
  | number h => exact lex_number h hrest
  | string hpieces hcontent => exact lex_string hpieces hcontent rest

/-- Neither a blank nor a mark is taken for more of a token, so either of them breaks any token
off. -/
theorem goesOn_of_mem_leading {c : Char} (hc : c ∈ leading) (t : Token) : t.goesOn c = false := by
  have hnumeric : leading.all fun d => !isNumeric d := by decide
  have halpha : leading.all fun d => !d.isAlpha := by decide
  have hc₁ := List.all_eq_true.mp hnumeric c hc
  have hc₂ := List.all_eq_true.mp halpha c hc
  cases t <;> simp_all [Token.goesOn]

theorem stopsAt_leading {c : Char} (hc : c ∈ leading) (t : Token) (cs : List Char) :
    StopsAt t.goesOn (c :: cs) := stopsAt_cons.mpr (goesOn_of_mem_leading hc t)

theorem mem_leading_of_ofPunctuation? {c : Char} {t : Token}
    (h : Token.ofPunctuation? c = some t) : c ∈ leading := by
  revert h
  fun_cases Token.ofPunctuation? c <;> simp_all [leading]

theorem mem_leading_of_mem_blanks {c : Char} (h : c ∈ blanks) : c ∈ leading :=
  List.mem_append_left _ h

/-- What stands behind a token is not taken for more of it: a blank, the next token where the two
are `Separate`, or what follows the whole. -/
theorem stopsAt_written {t : Token} {cs rest : List Char} {ts : List Token} (h : Written cs ts)
    (hnext : ∀ u ∈ ts.head?, t.Separate u) (hrest : ts = [] → StopsAt t.goesOn rest) :
    StopsAt t.goesOn (cs ++ rest) := by
  cases h with
  | nil => exact hrest rfl
  | blank hc _ => exact stopsAt_leading (mem_leading_of_mem_blanks hc) t _
  | token ht _ =>
    rcases hnext _ rfl with hclosed | ⟨c, hc⟩
    · rw [hclosed]
      exact fun _ _ => rfl
    · obtain ⟨hfixed, hchars⟩ := Token.chars_of_ofPunctuation? hc
      have hleading := mem_leading_of_ofPunctuation? hc
      cases ht with
      | fixed => exact hchars ▸ stopsAt_leading hleading t _
      | number => exact hfixed.elim
      | string => exact hfixed.elim

/-- A text is read as its tokens in front of any other, if these are told from each other and the
last of them from what follows. -/
theorem lex_append {cs rest : List Char} {ts : List Token} (h : Written cs ts)
    (hchain : ts.IsChain Token.Separate) (hrest : ∀ t ∈ ts.getLast?, StopsAt t.goesOn rest) :
    lex (cs ++ rest) = (lex rest).map (ts ++ ·) := by
  induction h with
  | nil => simp
  | blank hc _ ih => rw [List.cons_append, lex, if_pos (isBlank_iff.mpr hc), ih hchain hrest]
  -- what follows the first token is the next one, or `rest` if there is no next one
  | @token t spelling cs ts ht hwritten ih =>
    obtain ⟨hnext, hchain⟩ := List.isChain_cons.mp hchain
    have hlast : ts = [] → StopsAt t.goesOn rest := by
      rintro rfl
      exact hrest t rfl
    have hothers : ∀ u ∈ ts.getLast?, StopsAt u.goesOn rest := by
      intro u hu
      rw [List.getLast?_cons, Option.mem_def.mp hu] at hrest
      exact hrest u rfl
    rw [List.append_assoc, lex_token ht (stopsAt_written hwritten hnext hlast),
      ih hchain hothers, Option.map_map]
    rfl

/-- **A text is read as its tokens**, if they are told from each other; by induction on the way in
which the text is written. -/
theorem lex_written {cs : List Char} {ts : List Token} (h : Written cs ts)
    (hchain : ts.IsChain Token.Separate) : lex cs = some ts := by
  have hlex := lex_append h hchain fun _ _ => stopsAt_nil
  have hend : lex [] = some [] := by rw [lex]
  rwa [List.append_nil, hend, Option.map_some, List.append_nil] at hlex

/-! ### From tokens to spellings -/

theorem mem_blanks_of_written_nil {cs : List Char} {ts : List Token} (h : Written cs ts)
    (hnone : ts = []) : ∀ c ∈ cs, c ∈ blanks := by
  induction h with
  | nil => nofun
  | blank hc _ ih => exact List.forall_mem_cons.mpr ⟨hc, ih hnone⟩
  | token => cases hnone

/-- **A text that is read is written** in the tokens that it is read as, by induction along the
lexer, one case for each of the equations above. -/
theorem written_of_lex {cs : List Char} {ts : List Token} (h : lex cs = some ts) :
    Written cs ts := by
  fun_induction lex cs generalizing ts with
  | case1 =>
    cases h
    exact .nil
  | case2 c r hblank ih => exact .blank (isBlank_iff.mp hblank) (ih h)
  | case3 c r _ t ht ih =>
    obtain ⟨us, hus, rfl⟩ := Option.map_eq_some_iff.mp h
    obtain ⟨hfixed, hchars⟩ := Token.chars_of_ofPunctuation? ht
    have hspelled := Token.SpelledBy.fixed hfixed
    rw [hchars] at hspelled
    exact .token hspelled (ih hus)
  | case4 => cases h
  -- the quote that ends the string is the one that the scanner has stopped at
  | case5 r pieces rest hscan hpunctuation hblank ih =>
    obtain ⟨us, hus, rfl⟩ := Option.map_eq_some_iff.mp h
    obtain ⟨spelling, hspells, rfl⟩ := scanString_eq_some_iff.mp hscan
    have hwritten := Written.token (.string hspells ((isContent_iff hspells).mpr rfl)) (ih hus)
    rwa [List.append_assoc] at hwritten
  | case6 => cases h
  | case7 c r _ _ _ _ n hn ih =>
    obtain ⟨us, hus, rfl⟩ := Option.map_eq_some_iff.mp h
    have hwritten := Written.token (.number (Numeral.ofChars?_eq_some_iff.mp hn)) (ih hus)
    rwa [List.cons_append, List.takeWhile_append_dropWhile] at hwritten
  | case8 => cases h
  | case9 c r _ _ _ _ t ht ih =>
    obtain ⟨us, hus, rfl⟩ := Option.map_eq_some_iff.mp h
    have hwritten := Written.token (Token.spelledBy_of_ofWord? ht) (ih hus)
    rwa [List.cons_append, List.takeWhile_append_dropWhile] at hwritten

end Passthrough.Json
