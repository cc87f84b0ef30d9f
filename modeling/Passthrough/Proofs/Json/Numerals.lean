import Mathlib.Data.List.Induction
import Mathlib.Data.List.TakeWhile
import Passthrough.Proofs.Json.Grammar
/-!
# Numbers as they are spelled

A number is read from every spelling of it and from no other characters. It is read part by part,
and the characters of a part are told from what follows it by their kind: digits end at the point,
at the mark of the exponent, or at the end.

Main statement: `Numeral.ofChars?_eq_some_iff`.
-/

namespace Passthrough.Text

/-! ### Digits -/

/-- The character of a number below ten is a digit; with `digitChar_digitValue` the two are the same
thing. -/
theorem isDigit_digitChar {n : Nat} (h : n < 10) : (digitChar n).isDigit := by
  have : ∀ m : Fin 10, (digitChar m).isDigit := by decide
  exact this ⟨n, h⟩

/-- A number is written in digits only, by induction along `Text.digits`. -/
theorem isDigit_of_mem_digits {n : Nat} {c : Char} (h : c ∈ digits n) : c.isDigit := by
  fun_induction digits n with
  | case1 n hn =>
    rw [List.mem_singleton.mp h]
    exact isDigit_digitChar hn
  | case2 n _ ih =>
    rcases List.mem_append.mp h with h | h
    · exact ih h
    · rw [List.mem_singleton.mp h]
      exact isDigit_digitChar (Nat.mod_lt n (by decide))

/-- A digit differs from any character that is none, such as a point or the mark of an exponent. The
parts of a number are told apart by this. -/
theorem ne_of_isDigit {c d : Char} (hc : c.isDigit) (hd : d.isDigit = false) : c ≠ d := by
  rintro rfl
  rw [hc] at hd
  exact Bool.noConfusion hd

theorem digits_ne_nil (n : Nat) : digits n ≠ [] := by
  fun_cases digits n <;> simp

/-- Every number is written with at least one digit, so that a reader may look at the first. -/
theorem exists_cons_of_digits (n : Nat) : ∃ c cs, digits n = c :: cs ∧ c.isDigit := by
  cases h : digits n with
  | nil => exact absurd h (digits_ne_nil n)
  | cons c cs => exact ⟨c, cs, rfl, isDigit_of_mem_digits (h ▸ List.mem_cons_self)⟩

/-- Only zero starts with a zero, and it is that zero alone. A reader refuses all other leading
zeros, and by this no written number has them. -/
theorem eq_nil_of_digits_eq_zero_cons {n : Nat} {cs : List Char} (h : digits n = '0' :: cs) :
    cs = [] := by
  fun_induction digits n generalizing cs with
  | case1 n hn => exact (List.cons.inj h).2.symm
  | case2 n hn ih =>
    obtain ⟨c, front, hfront, -⟩ := exists_cons_of_digits (n / 10)
    rw [hfront, List.cons_append] at h
    obtain ⟨rfl, -⟩ := List.cons.inj h
    have hnone := ih hfront
    -- The digits in front of the last one would spell zero, but they spell a positive number.
    have hzero : n / 10 = 0 := by rw [← ofDigits_digits (n / 10), hfront, hnone]; rfl
    omega

theorem bounds_of_isDigit {c : Char} (h : c.isDigit) :
    '0'.toNat ≤ c.toNat ∧ c.toNat ≤ '0'.toNat + 9 := by
  simpa [Char.isDigit, Char.le_def, UInt32.le_iff_toNat_le] using h

theorem digitChar_digitValue {c : Char} (h : c.isDigit) : digitChar (digitValue c) = c := by
  rw [digitChar, digitValue, Nat.add_sub_cancel' (bounds_of_isDigit h).1, Char.ofNat_toNat]

theorem digitValue_lt {c : Char} (h : c.isDigit) : digitValue c < 10 := by
  have hbounds := bounds_of_isDigit h
  unfold digitValue
  omega

/-- Digits without a zero in front are those of the number that they make, so a number has one
spelling in digits. The induction is on the last digit, as `digits` puts it behind those of the
tenth part. -/
theorem digits_ofDigits {cs : List Char} (hdigits : ∀ c ∈ cs, c.isDigit) (hne : cs ≠ [])
    (hzero : cs.head? = some '0' → cs = ['0']) : digits (ofDigits cs) = cs := by
  induction cs using List.reverseRecOn with
  | nil => exact absurd rfl hne
  | append_singleton front c ih =>
    have hc : c.isDigit := hdigits c (by simp)
    have hvalue := digitValue_lt hc
    rw [ofDigits_concat, digits]
    cases front with
    | nil =>
      have hsmall : 10 * ofDigits [] + digitValue c < 10 := by simpa [ofDigits]
      rw [if_pos hsmall]
      simp [ofDigits, digitChar_digitValue hc]
    -- more than one digit: the last of them is the remainder by ten, the others the quotient
    | cons d front =>
      have hhead : d ≠ '0' := fun hd => by simpa using hzero (by simp [hd])
      have hfront := ih (fun x hx => hdigits x (List.mem_append_left _ hx)) (by simp)
        (fun hd => absurd (Option.some.inj hd) hhead)
      have hpositive : ofDigits (d :: front) ≠ 0 := by
        intro hnone
        rw [hnone, digits, if_pos (by decide)] at hfront
        exact hhead (List.cons.inj hfront).1.symm
      have hdiv : (10 * ofDigits (d :: front) + digitValue c) / 10 = ofDigits (d :: front) := by omega
      have hmod : (10 * ofDigits (d :: front) + digitValue c) % 10 = digitValue c := by omega
      rw [if_neg (by omega), hdiv, hmod, hfront, digitChar_digitValue hc]

end Passthrough.Text

namespace Passthrough.Json

/-! ### Runs of characters -/

section Runs

variable {p : Char → Bool} {run rest : List Char}

/-- Nothing at the head of these characters belongs to the kind. -/
def StopsAt (p : Char → Bool) (rest : List Char) : Prop := ∀ c ∈ rest.head?, p c = false

theorem stopsAt_nil : StopsAt p [] := by simp [StopsAt]

@[simp] theorem stopsAt_cons {c : Char} : StopsAt p (c :: rest) ↔ p c = false := by
  simp [StopsAt]

/-- A run of characters of one kind is what `takeWhile` takes, if what follows does not go on with
it. `dropWhile_run` says what it leaves. -/
theorem takeWhile_run (hrun : ∀ c ∈ run, p c) (hrest : StopsAt p rest) :
    (run ++ rest).takeWhile p = run := by
  rw [List.takeWhile_append_of_pos hrun]
  cases rest with
  | nil => simp
  | cons c rest => simp [stopsAt_cons.mp hrest]

theorem dropWhile_run (hrun : ∀ c ∈ run, p c) (hrest : StopsAt p rest) :
    (run ++ rest).dropWhile p = rest := by
  rw [List.dropWhile_append_of_pos hrun]
  cases rest with
  | nil => simp
  | cons c rest => simp [stopsAt_cons.mp hrest]

end Runs

/-! ### Numerals -/

namespace Numeral

theorem chars_eq (n : Numeral) :
    n.chars =
      (if n.negative then ['-'] else []) ++
        (Text.digits n.whole ++ (fractionChars n.fraction ++ exponentChars n.exponent)) := by
  simp [chars, fractionChars]

/-- The digits of a whole number are read as that number, where no digit follows them. -/
theorem wholePart?_digits (n : Nat) {rest : List Char} (hrest : StopsAt Char.isDigit rest) :
    wholePart? (Text.digits n ++ rest) = some (n, rest) := by
  have hdigits : ∀ c ∈ Text.digits n, c.isDigit := fun c => Text.isDigit_of_mem_digits
  have hvalue := Text.ofDigits_digits n
  rw [wholePart?, takeWhile_run hdigits hrest, dropWhile_run hdigits hrest]
  split
  · exact absurd ‹_› (Text.digits_ne_nil n)
  · rename_i hzero
    rw [hzero] at hvalue
    rw [← hvalue]
    rfl
  · -- A zero in front of more digits, which is what the reader refuses, is never written.
    rename_i hzero hcs
    exact absurd (Text.eq_nil_of_digits_eq_zero_cons hcs) hzero
  · rw [hvalue]

/-- What is read as a whole number was spelled by its digits, without zeros in front. Together with
`wholePart?_digits` this makes the spelling of the whole part unique. -/
theorem eq_of_wholePart? {cs rest : List Char} {n : Nat} (h : wholePart? cs = some (n, rest)) :
    cs = Text.digits n ++ rest := by
  have hsplit := List.takeWhile_append_dropWhile (p := Char.isDigit) (l := cs)
  have hdigits : ∀ c ∈ cs.takeWhile Char.isDigit, c.isDigit := fun c hc => List.mem_takeWhile_imp hc
  unfold wholePart? at h
  split at h
  · cases h
  · next hrun =>
    cases h
    rw [hrun] at hsplit
    rw [Text.digits, if_pos (by decide)]
    exact hsplit.symm
  · cases h
  · next hnil hzero hhead =>
    cases h
    rw [Text.digits_ofDigits hdigits hnil]
    · exact hsplit.symm
    · intro hfirst
      cases hrun : cs.takeWhile Char.isDigit with
      | nil => exact absurd hrun hnil
      | cons c ds =>
        rw [hrun] at hfirst
        cases hfirst
        exact absurd hrun (hhead ds)

/-- A fraction is read back as its digits, where neither a digit nor a point follows. -/
theorem fractionPart?_chars {fraction rest : List Char} (h : ∀ c ∈ fraction, c.isDigit)
    (hdigit : StopsAt Char.isDigit rest) (hpoint : StopsAt (· == '.') rest) :
    fractionPart? (fractionChars fraction ++ rest) = some (fraction, rest) := by
  by_cases hnone : fraction = []
  · subst hnone
    cases rest with
    | nil => rfl
    | cons c rest =>
      have hc : c ≠ '.' := by simpa using hpoint
      simp [fractionChars, fractionPart?, hc]
  · simp [fractionChars, fractionPart?, hnone, takeWhile_run h hdigit, dropWhile_run h hdigit]

/-- What is read as a fraction was spelled by a point and digits, or by nothing where there are
none. -/
theorem eq_of_fractionPart? {cs rest fraction : List Char}
    (h : fractionPart? cs = some (fraction, rest)) :
    cs = fractionChars fraction ++ rest ∧ ∀ c ∈ fraction, c.isDigit := by
  unfold fractionPart? at h
  split at h
  · next r =>
    dsimp only at h
    split at h
    · cases h
    · next hne =>
      cases h
      refine ⟨?_, fun c hc => List.mem_takeWhile_imp hc⟩
      rw [fractionChars, if_neg hne, List.cons_append, List.takeWhile_append_dropWhile]
  · cases h
    exact ⟨rfl, nofun⟩

/-- Digits without a sign are an exponent that is not negative. None of them can be taken for one of
the two signs. -/
theorem exponentOf?_digits {ds : List Char} (h : IsDigits ds) :
    exponentOf? ds = some (Text.ofDigits ds : Int) := by
  obtain ⟨c, cs, rfl⟩ := List.exists_cons_of_ne_nil h.1
  have hminus : c ≠ '-' := Text.ne_of_isDigit (h.2 c (by simp)) (by decide)
  have hplus : c ≠ '+' := Text.ne_of_isDigit (h.2 c (by simp)) (by decide)
  have hall : (c :: cs).all Char.isDigit = true := List.all_eq_true.mpr h.2
  unfold exponentOf?
  split
  · next heq => exact absurd (List.cons.inj heq).1 hminus
  · next heq => exact absurd (List.cons.inj heq).1 hplus
  · exact if_pos (by rw [hall]; rfl)

/-- An exponent is read from every one of its spellings: with either mark, with or without a plus,
and with zeros in front. -/
theorem exponentPart?_spelled {exponent : Option Int} {cs : List Char}
    (h : ExponentSpelled exponent cs) : exponentPart? cs = some exponent := by
  have hall {ds : List Char} (hds : IsDigits ds) : (ds ≠ [] && ds.all Char.isDigit) = true := by
    simpa [IsDigits] using hds
  cases h with
  | none => rfl
  | plain hmark hds => rw [exponentPart?, if_pos hmark, exponentOf?_digits hds, Option.map_some]
  | plus hmark hds =>
    rw [exponentPart?, if_pos hmark, exponentOf?, if_pos (hall hds), Option.map_some]
  | minus hmark hds =>
    rw [exponentPart?, if_pos hmark, exponentOf?, if_pos (hall hds), Option.map_some]

/-- What is read behind the mark of an exponent spells it. Each branch of `exponentOf?` is one of
the forms of `ExponentSpelled`. -/
theorem spelled_of_exponentOf? {mark : Char} {cs : List Char} {e : Int}
    (hmark : mark = 'e' ∨ mark = 'E') (h : exponentOf? cs = some e) :
    ExponentSpelled (some e) (mark :: cs) := by
  have hdigits {ds : List Char} (hds : (ds ≠ [] && ds.all Char.isDigit) = true) : IsDigits ds := by
    simpa [IsDigits] using hds
  unfold exponentOf? at h
  split at h
  · obtain ⟨hds, he⟩ := Option.ite_none_right_eq_some.mp h
    cases he
    exact .minus hmark (hdigits hds)
  · obtain ⟨hds, he⟩ := Option.ite_none_right_eq_some.mp h
    cases he
    exact .plus hmark (hdigits hds)
  · obtain ⟨hds, he⟩ := Option.ite_none_right_eq_some.mp h
    cases he
    exact .plain hmark (hdigits hds)

/-- What is read as an exponent was one of its spellings, or nothing at all. -/
theorem spelled_of_exponentPart? {cs : List Char} {exponent : Option Int}
    (h : exponentPart? cs = some exponent) : ExponentSpelled exponent cs := by
  unfold exponentPart? at h
  split at h
  · cases h
    exact .none
  · split at h
    · next hmark =>
      obtain ⟨e, he, rfl⟩ := Option.map_eq_some_iff.mp h
      exact spelled_of_exponentOf? hmark he
    · cases h

/-- An exponent starts with its mark, so that digits and points end in front of it. -/
theorem stopsAt_exponent {p : Char → Bool} (hsmall : p 'e' = false) (hlarge : p 'E' = false)
    {exponent : Option Int} {cs : List Char} (h : ExponentSpelled exponent cs) : StopsAt p cs := by
  have hmark {mark : Char} (hmark : mark = 'e' ∨ mark = 'E') : p mark = false := by
    rcases hmark with rfl | rfl
    · exact hsmall
    · exact hlarge
  cases h with
  | none => exact stopsAt_nil
  | plain h _ | plus h _ | minus h _ => exact stopsAt_cons.mpr (hmark h)

/-- The three parts of a number are read one after the other, as each ends where the next one
begins. -/
theorem unsignedOf?_spelled {n : Numeral} {exponent : List Char} (h : n.WellSpelled)
    (hexponent : ExponentSpelled n.exponent exponent) :
    unsignedOf? n.negative (Text.digits n.whole ++ (fractionChars n.fraction ++ exponent)) =
      some n := by
  have hstops {p : Char → Bool} (hsmall : p 'e' = false) (hlarge : p 'E' = false) :
      StopsAt p exponent := stopsAt_exponent hsmall hlarge hexponent
  -- The digits before the point end at the point, at the exponent, or at the end.
  have hrest : StopsAt Char.isDigit (fractionChars n.fraction ++ exponent) := by
    by_cases hnone : n.fraction = []
    · simpa [fractionChars, hnone] using hstops (by decide) (by decide)
    · simp [fractionChars, hnone]
  have hfraction :=
    fractionPart?_chars h (hstops (by decide) (by decide)) (hstops (by decide) (by decide))
  simp [unsignedOf?, wholePart?_digits _ hrest, hfraction, exponentPart?_spelled hexponent]

/-- What is read as a number without its sign falls into the three parts. It is the converse of
`unsignedOf?_spelled`, one part after the other. -/
theorem spelled_of_unsignedOf? {negative : Bool} {cs : List Char} {n : Numeral}
    (h : unsignedOf? negative cs = some n) :
    n.negative = negative ∧ n.WellSpelled ∧ ∃ exponent, ExponentSpelled n.exponent exponent
      ∧ cs = Text.digits n.whole ++ (fractionChars n.fraction ++ exponent) := by
  obtain ⟨⟨whole, rest⟩, hwhole, h⟩ := Option.bind_eq_some_iff.mp h
  obtain ⟨⟨fraction, exponent⟩, hfraction, h⟩ := Option.bind_eq_some_iff.mp h
  obtain ⟨e, hexponent, h⟩ := Option.bind_eq_some_iff.mp h
  cases h
  obtain ⟨rfl, hdigits⟩ := eq_of_fractionPart? hfraction
  exact ⟨rfl, hdigits, exponent, spelled_of_exponentPart? hexponent, eq_of_wholePart? hwhole⟩

/-- **Numbers are read** from their spellings, and from nothing else: the one statement about
numbers that `Lexing` uses. -/
theorem ofChars?_eq_some_iff {n : Numeral} {cs : List Char} :
    ofChars? cs = some n ↔ n.SpelledBy cs := by
  constructor
  · intro h
    unfold ofChars? at h
    split at h
    · next r =>
      obtain ⟨hsign, hspelled, exponent, hexponent, rfl⟩ := spelled_of_unsignedOf? h
      exact ⟨hspelled, exponent, hexponent, by rw [hsign]; rfl⟩
    · obtain ⟨hsign, hspelled, exponent, hexponent, rfl⟩ := spelled_of_unsignedOf? h
      exact ⟨hspelled, exponent, hexponent, by rw [hsign]; rfl⟩
  · rintro ⟨hspelled, exponent, hexponent, rfl⟩
    have hunsigned := unsignedOf?_spelled hspelled hexponent
    cases hsign : n.negative with
    | true => simpa [ofChars?, hsign] using hunsigned
    | false =>
      obtain ⟨c, cs, hcs, hc⟩ := Text.exists_cons_of_digits n.whole
      have hminus : c ≠ '-' := Text.ne_of_isDigit hc (by decide)
      rw [hsign, hcs] at hunsigned
      simpa [ofChars?, hcs, hminus] using hunsigned

theorem exponentSpelled_chars (exponent : Option Int) :
    ExponentSpelled exponent (exponentChars exponent) := by
  cases exponent with
  | none => exact .none
  | some e =>
    have hdigits : IsDigits (Text.digits e.natAbs) :=
      ⟨Text.digits_ne_nil _, fun _ => Text.isDigit_of_mem_digits⟩
    by_cases he : e < 0
    · have hspelled := ExponentSpelled.minus (.inl rfl) hdigits
      have hvalue : (-(e.natAbs : Int)) = e := by omega
      rw [Text.ofDigits_digits, hvalue] at hspelled
      rwa [exponentChars, if_pos he]
    · have hspelled := ExponentSpelled.plain (.inl rfl) hdigits
      have hvalue : (e.natAbs : Int) = e := by omega
      rw [Text.ofDigits_digits, hvalue] at hspelled
      rwa [exponentChars, if_neg he]

theorem spelledBy_chars {n : Numeral} (h : n.WellSpelled) : n.SpelledBy n.chars :=
  ⟨h, exponentChars n.exponent, exponentSpelled_chars n.exponent, n.chars_eq⟩

theorem isNumeric_of_isDigit {c : Char} (h : c.isDigit) : isNumeric c := by simp [isNumeric, h]

theorem isNumeric_of_mem_exponent {exponent : Option Int} {cs : List Char}
    (h : ExponentSpelled exponent cs) {c : Char} (hc : c ∈ cs) : isNumeric c := by
  have hmark {mark : Char} (hmark : mark = 'e' ∨ mark = 'E') : isNumeric mark := by
    rcases hmark with rfl | rfl <;> decide
  cases h with
  | none => cases hc
  | plain h hds =>
    rcases List.mem_cons.mp hc with rfl | hc
    · exact hmark h
    · exact isNumeric_of_isDigit (hds.2 c hc)
  | plus h hds | minus h hds =>
    rcases List.mem_cons.mp hc with rfl | hc
    · exact hmark h
    · rcases List.mem_cons.mp hc with rfl | hc
      · decide
      · exact isNumeric_of_isDigit (hds.2 c hc)

theorem isNumeric_of_mem {n : Numeral} {cs : List Char} (h : n.SpelledBy cs) {c : Char}
    (hc : c ∈ cs) : isNumeric c := by
  obtain ⟨hspelled, exponent, hexponent, rfl⟩ := h
  simp only [List.mem_append] at hc
  rcases hc with hc | hc | hc | hc
  · split at hc
    · rw [List.mem_singleton.mp hc]
      decide
    · cases hc
  · exact isNumeric_of_isDigit (Text.isDigit_of_mem_digits hc)
  · by_cases hnone : n.fraction = []
    · simp [fractionChars, hnone] at hc
    · simp only [fractionChars, hnone, if_false, List.mem_cons] at hc
      rcases hc with rfl | hc
      · decide
      · exact isNumeric_of_isDigit (hspelled c hc)
  · exact isNumeric_of_mem_exponent hexponent hc

theorem exists_cons_of_spelledBy {n : Numeral} {cs : List Char} (h : n.SpelledBy cs) :
    ∃ c ds, cs = c :: ds ∧ startsNumber c := by
  obtain ⟨-, exponent, -, rfl⟩ := h
  cases hsign : n.negative with
  | true => exact ⟨'-', _, rfl, by decide⟩
  | false =>
    obtain ⟨c, ds, hds, hc⟩ := Text.exists_cons_of_digits n.whole
    exact ⟨c, _, by simp [hds]; rfl, by simp [startsNumber, hc]⟩

end Numeral

end Passthrough.Json
