import Passthrough.Json.Record
import Passthrough.Proofs.Json.Reading
/-!
# Reading what was written of a known shape

A number is read as it was written, if it fits into the word it is read into, and nothing else is
read as this number. A number of 32 bits is far from the size at which a double-precision number
overflows, so that it can be kept as well.

The members of an object are read if every key is a text and no known key is there twice; what is
read are those with known keys. So a record that is written with distinct names of its own is read as
the members it was written with.

Main statements: `intWithin?_eq_some_iff`, `knownMembers?_eq_some_iff`, `fields?_record`,
`isKeepable_ofNat`.
-/

namespace Passthrough.Json

/-! ### Numbers -/

namespace Numeral

@[simp] theorem integer?_ofInt (i : Int) : (ofInt i).integer? = some i := by
  by_cases hi : i < 0
  · have hzero : i.natAbs ≠ 0 := by omega
    have hvalue : -(i.natAbs : Int) = i := by omega
    rw [integer?, ofInt, if_neg (by simp), if_pos (by simp [hi]), if_neg hzero, hvalue]
  · have hvalue : (i.natAbs : Int) = i := by omega
    rw [integer?, ofInt, if_neg (by simp), if_neg (by simp [hi]), hvalue]

@[simp] theorem integer?_whole (n : Nat) : integer? { whole := n } = some (n : Int) := by
  simp [integer?]

/-- Only the numeral of an integer spells it: a fraction or an exponent makes it another kind of
number, even where the value is whole. -/
theorem integer?_eq_some_iff {n : Numeral} {i : Int} : n.integer? = some i ↔ n = ofInt i := by
  refine ⟨fun h => ?_, fun h => h ▸ integer?_ofInt i⟩
  obtain ⟨negative, whole, fraction, exponent⟩ := n
  unfold integer? at h
  split at h
  · cases h
  · -- without a fraction or an exponent, what is left is a sign and a whole part
    next hplain =>
    obtain ⟨rfl, hexponent⟩ : fraction = [] ∧ exponent = none := by simpa using hplain
    subst hexponent
    cases negative with
    | false =>
      cases h
      simp [ofInt]
    | true =>
      -- a negative zero is no integer
      obtain ⟨hzero, hvalue⟩ := Option.ite_none_left_eq_some.mp h
      cases hvalue
      have hwhole : 0 < whole := Nat.pos_of_ne_zero hzero
      simp [ofInt, hwhole]

end Numeral

namespace Value

/-- **A number is read into a word** if it is an integer within its bounds, the upper one excluded;
no other value is read as this number. -/
theorem intWithin?_eq_some_iff {low high i : Int} {v : Value} :
    v.intWithin? low high = some i ↔ v = ofInt i ∧ low ≤ i ∧ i < high := by
  cases v with
  | number n =>
    simp only [intWithin?, Option.bind_eq_some_iff, Numeral.integer?_eq_some_iff, ofInt,
      Option.ite_none_right_eq_some, Option.some.injEq, number.injEq]
    constructor
    · rintro ⟨_, rfl, hbounds, rfl⟩
      exact ⟨rfl, hbounds⟩
    · rintro ⟨rfl, hbounds⟩
      exact ⟨i, rfl, hbounds, rfl⟩
  | null | bool | string | array | object => simp [intWithin?, ofInt]

theorem intWithin?_ofInt {low high i : Int} (hlow : low ≤ i) (hhigh : i < high) :
    (ofInt i).intWithin? low high = some i := intWithin?_eq_some_iff.mpr ⟨rfl, hlow, hhigh⟩

/-- A number that fits into a word is read out of one, whatever the width of the word. -/
theorem natOfBits?_ofNat {bits n : Nat} (h : n < 1 <<< bits) :
    (ofNat n).natOfBits? bits = some n := by
  have hlow : (0 : Int) ≤ n := Int.natCast_nonneg n
  have hhigh : (n : Int) < (1 <<< bits : Nat) := Int.ofNat_lt.mpr h
  rw [natOfBits?, ofNat, intWithin?, Numeral.integer?_whole, Option.bind_some,
    if_pos ⟨hlow, hhigh⟩]
  rfl

theorem int32?_ofInt {i : Int} (hlow : -0x80000000 ≤ i) (hhigh : i < 0x80000000) :
    (ofInt i).int32? = some i := intWithin?_ofInt hlow hhigh

/-- A truth value is read from itself only: neither from a number nor from a text. -/
theorem bool?_eq_some_iff {v : Value} {b : Bool} : v.bool? = some b ↔ v = .bool b := by
  cases v <;> simp [bool?]

end Value

/-! ### Numbers that can be kept -/

/-- Below 53 binary digits nothing is rounded, and so nothing overflows by rounding. -/
theorem roundToDouble_of_lt {n : Nat} (h : n < 1 <<< 53) : roundToDouble n = n := by
  have hlog : n.log2 < 53 := by
    by_cases hn : n = 0
    · subst hn
      decide
    · exact (Nat.log2_lt hn).mpr h
  have hexcess : n.log2 + 1 - 53 = 0 := by omega
  simp [roundToDouble, hexcess, Nat.mod_one]

/-- More digits make a number no smaller. So where the whole fits into a word, every part of it
does. -/
theorem le_foldl_digits (significand : Nat) (cs : List Char) :
    significand ≤ cs.foldl (fun n c => 10 * n + Text.digitValue c) significand := by
  induction cs generalizing significand with
  | nil => exact Nat.le_refl significand
  | cons c cs ih =>
    have hlonger := ih (10 * significand + Text.digitValue c)
    rw [List.foldl_cons]
    omega

/-- Digits that make a number of 64 bits are all taken into the significand, and none is left for
the exponent. -/
theorem appendDigits_of_lt {significand : Nat} {cs : List Char}
    (h : cs.foldl (fun n c => 10 * n + Text.digitValue c) significand < 1 <<< 64) :
    appendDigits significand cs =
      (cs.foldl (fun n c => 10 * n + Text.digitValue c) significand, []) := by
  induction cs generalizing significand with
  | nil => rfl
  | cons c cs ih =>
    rw [List.foldl_cons] at h ⊢
    -- What the digits come to in the end is no less than the significand after any of them.
    have hlonger := le_foldl_digits (10 * significand + Text.digitValue c) cs
    have hfits : 10 * significand + Text.digitValue c < 1 <<< 64 := Nat.lt_of_le_of_lt hlonger h
    rw [appendDigits, if_pos hfits, ih h]

namespace Numeral

/-- A whole number of 64 bits is its own significand, with no exponent. -/
theorem scaled_whole {n : Nat} (h : n < 1 <<< 64) : scaled { whole := n } = (n, 0) := by
  have hdigits := Text.ofDigits_digits n
  rw [Text.ofDigits] at hdigits
  have happend := appendDigits_of_lt (hdigits.symm ▸ h)
  rw [hdigits] at happend
  simp [scaled, happend, appendDigits]

/-- A whole number of 32 bits does not overflow a double-precision number. It is exact in 53 bits,
without an exponent to scale it, and far below `doubleLimit`. -/
theorem overflowsDouble_whole {n : Nat} (h : n < 1 <<< 32) :
    overflowsDouble { whole := n } = false := by
  have h64 : n < 1 <<< 64 := Nat.lt_trans h (by decide)
  have h53 : n < 1 <<< 53 := Nat.lt_trans h (by decide)
  have hlimit : n < doubleLimit := Nat.lt_trans h (by decide +kernel)
  -- Without an exponent the significand is multiplied by one.
  have hone : roundToDouble (Nat.pow 10 0) = 1 := roundToDouble_of_lt (by decide)
  rw [overflowsDouble, scaled_whole h64]
  simp only [Int.toNat_zero, roundToDouble_of_lt h53, hone, Nat.mul_one]
  split
  · rfl
  · simpa using hlimit

end Numeral

namespace Value

/-- So it can be kept as a value, which is all that the settings of a session need. -/
theorem isKeepable_ofNat {n : Nat} (h : n < 1 <<< 32) : (ofNat n).isKeepable := by
  simp [isKeepable, ofNat, Numeral.overflowsDouble_whole h]

end Value

/-! ### Records -/

/-- Among distinct keys, the first entry with a key is the only one. The induction is on the
entries: an entry in front with the same key would make the keys not distinct. -/
theorem find?_key {α : Type} {entries : List (String × α)} {key : String} {a : α}
    (hdistinct : (entries.map (·.1)).Nodup) (h : (key, a) ∈ entries) :
    entries.find? (·.1 == key) = some (key, a) := by
  induction entries with
  | nil => simp at h
  | cons entry entries ih =>
    rw [List.map_cons, List.nodup_cons] at hdistinct
    rcases List.mem_cons.mp h with rfl | h
    · simp
    · have hne : entry.1 ≠ key := by
        rintro rfl
        exact hdistinct.1 (List.mem_map.mpr ⟨_, h, rfl⟩)
      rw [List.find?_cons_of_neg (by simpa using hne)]
      exact ih hdistinct.2 h

namespace Value

/-- The members with known keys, in their order. -/
def known (names : List String) (members : List (Option String × Value)) :
    List (String × Value) :=
  members.filterMap fun (key, v) => (key.filter (· ∈ names)).map fun key => (key, v)

/-- A member is known if its key is one of the names, and it is there. -/
theorem mem_known {names : List String} {members : List (Option String × Value)} {key : String}
    {v : Value} : (key, v) ∈ known names members ↔ key ∈ names ∧ (some key, v) ∈ members := by
  simp only [known, List.mem_filterMap, Option.map_eq_some_iff, Option.filter_eq_some_iff]
  constructor
  · rintro ⟨⟨_, v⟩, hmember, key, ⟨rfl, hkey⟩, ⟨⟩⟩
    exact ⟨of_decide_eq_true hkey, hmember⟩
  · rintro ⟨hkey, hmember⟩
    exact ⟨_, hmember, key, ⟨rfl, decide_eq_true hkey⟩, rfl⟩

theorem known_cons {names : List String} (key : String) (v : Value)
    (members : List (Option String × Value)) :
    known names ((some key, v) :: members) =
      if key ∈ names then (key, v) :: known names members else known names members := by
  by_cases hkey : key ∈ names <;> simp [known, hkey]

/-- Where all keys are names, all members are known, in their order. -/
theorem known_map_some {names : List String} {members : List (String × Value)}
    (h : ∀ member ∈ members, member.1 ∈ names) :
    known names (members.map fun (key, value) => (some key, value)) = members := by
  induction members with
  | nil => rfl
  | cons member members ih =>
    rw [List.forall_mem_cons] at h
    rw [List.map_cons, known_cons, if_pos h.1, ih h.2]

/-- Every key is a text, and no known key is there twice or has been seen before. -/
structure Readable (names seen : List String) (members : List (Option String × Value)) : Prop where
  texts : ∀ member ∈ members, member.1.isSome
  once : ((known names members).map (·.1)).Nodup
  unseen : ∀ name ∈ (known names members).map (·.1), name ∉ seen

theorem readable_nil {names seen : List String} : Readable names seen [] :=
  ⟨nofun, List.nodup_nil, nofun⟩

/-- A member with an unknown key neither helps nor hinders: it is skipped, with whatever value. Only
`known` members are looked at for a key that is given twice or was seen before. -/
theorem readable_unknown {names seen : List String} {key : String} {v : Value}
    {members : List (Option String × Value)} (hkey : key ∉ names) :
    Readable names seen ((some key, v) :: members) ↔ Readable names seen members := by
  constructor
  · rintro ⟨htexts, honce, hunseen⟩
    rw [known_cons, if_neg hkey] at honce hunseen
    exact ⟨(List.forall_mem_cons.mp htexts).2, honce, hunseen⟩
  · rintro ⟨htexts, honce, hunseen⟩
    refine ⟨List.forall_mem_cons.mpr ⟨rfl, htexts⟩, ?_, ?_⟩
    · rwa [known_cons, if_neg hkey]
    · rwa [known_cons, if_neg hkey]

/-- The key that has been read now counts as seen, and it is none of the keys to come. So a known
key that comes twice makes the members unreadable. -/
theorem readable_known {names seen : List String} {key : String} {v : Value}
    {members : List (Option String × Value)} (hkey : key ∈ names) :
    Readable names seen ((some key, v) :: members) ↔
      key ∉ seen ∧ Readable names (key :: seen) members := by
  constructor
  · rintro ⟨htexts, honce, hunseen⟩
    rw [known_cons, if_pos hkey, List.map_cons] at honce hunseen
    rw [List.forall_mem_cons] at hunseen
    rw [List.nodup_cons] at honce
    -- a key to come is neither one seen before nor the one just read
    refine ⟨hunseen.1, (List.forall_mem_cons.mp htexts).2, honce.2, fun name hname hseen => ?_⟩
    rcases List.mem_cons.mp hseen with rfl | hseen
    · exact honce.1 hname
    · exact hunseen.2 name hname hseen
  · rintro ⟨hseen, htexts, honce, hunseen⟩
    refine ⟨List.forall_mem_cons.mpr ⟨rfl, htexts⟩, ?_, ?_⟩
    · rw [known_cons, if_pos hkey, List.map_cons, List.nodup_cons]
      exact ⟨fun hmem => hunseen key hmem List.mem_cons_self, honce⟩
    · rw [known_cons, if_pos hkey, List.map_cons, List.forall_mem_cons]
      exact ⟨hseen, fun name hname hmem => hunseen name hname (List.mem_cons_of_mem key hmem)⟩

/-- **The known members are read**, all of them or none: in order, if every key is a text and no
known key repeats. Every record is read through this. -/
theorem knownMembers?_eq_some_iff {names seen : List String}
    {members : List (Option String × Value)} {given : List (String × Value)} :
    knownMembers? names seen members = some given ↔
      Readable names seen members ∧ known names members = given := by
  induction members generalizing seen given with
  | nil => simp [knownMembers?, known, readable_nil]
  | cons member members ih =>
    obtain ⟨_ | key, v⟩ := member
    · have htext : ¬ Readable names seen ((none, v) :: members) := fun h => by
        simpa using h.texts (none, v) List.mem_cons_self
      simp [knownMembers?, htext]
    · rw [knownMembers?, known_cons]
      by_cases hkey : key ∈ names
      · by_cases hseen : key ∈ seen
        · simp [hkey, hseen, readable_known hkey]
        · simp [hkey, hseen, readable_known hkey, ih, and_assoc]
      · rw [if_neg hkey, if_neg hkey, ih, readable_unknown hkey]

/-- A record is read as the members it was written with, because its names are distinct. -/
theorem fields?_record {names : List String} {members : List (String × Value)}
    (hknown : ∀ member ∈ members, member.1 ∈ names) (hdistinct : (members.map (·.1)).Nodup) :
    (record members).fields? names = some members := by
  have hmembers := known_map_some hknown
  refine knownMembers?_eq_some_iff.mpr ⟨⟨fun member hmember => ?_, ?_, ?_⟩, hmembers⟩
  · obtain ⟨_, -, rfl⟩ := List.mem_map.mp hmember
    rfl
  · rwa [hmembers]
  · exact fun _ _ => List.not_mem_nil

/-- A record that must not have other members is read as what it was written with as well. -/
theorem wholeFields?_record {names : List String} {members : List (String × Value)}
    (hknown : ∀ member ∈ members, member.1 ∈ names) (hdistinct : (members.map (·.1)).Nodup) :
    (record members).wholeFields? names = some members :=
  fields?_record hknown hdistinct

/-- A field that is there, and is what its reader reads. The records of `RoundTrip` are read by one
such step for each field. -/
theorem bind_field? {α : Type} {name : String} {members : List (String × Value)} {v : Value}
    {read : Value → Option α} {a : α} (hfield : field? name members = some v)
    (h : read v = some a) : (field? name members).bind read = some a := by
  rw [hfield, Option.bind_some, h]

/-! ### What is written is well spelled -/

theorem wellSpelled_null : null.WellSpelled := by simp [WellSpelled, tokens, Token.WellSpelled]

theorem wellSpelled_bool (b : Bool) : (bool b).WellSpelled := by
  simp [WellSpelled, tokens, Token.WellSpelled]

theorem wellSpelled_text (s : String) : (text s).WellSpelled := by
  simp [text, WellSpelled, tokens, Token.WellSpelled]

theorem wellSpelled_ofNat (n : Nat) : (ofNat n).WellSpelled := by
  simp [ofNat, WellSpelled, tokens, Token.WellSpelled, Numeral.WellSpelled]

theorem wellSpelled_ofInt (i : Int) : (ofInt i).WellSpelled := by
  simp [ofInt, Numeral.ofInt, WellSpelled, tokens, Token.WellSpelled, Numeral.WellSpelled]

/-- The tokens of members are well spelled if those of their values are, by recursion on the
members. -/
theorem wellSpelled_of_mem_memberTokens :
    ∀ {members : List (Option String × Value)}, (∀ member ∈ members, member.2.WellSpelled) →
      ∀ t ∈ memberTokens members, t.WellSpelled
  | [], _, t, ht => by simp [memberTokens] at ht
  | [(key, v)], h, t, ht => by
    simp only [memberTokens, List.mem_cons] at ht
    rcases ht with rfl | rfl | ht
    · trivial
    · trivial
    · exact h (key, v) List.mem_cons_self t ht
  | (key, v) :: next :: members, h, t, ht => by
    rw [List.forall_mem_cons] at h
    simp only [memberTokens, List.mem_append, List.mem_cons] at ht
    rcases ht with (rfl | rfl | ht) | rfl | ht
    · trivial
    · trivial
    · exact h.1 t ht
    · trivial
    · exact wellSpelled_of_mem_memberTokens h.2 t ht

/-- A record of well-spelled values is well spelled, its keys being texts. -/
theorem wellSpelled_record {members : List (String × Value)}
    (h : ∀ member ∈ members, member.2.WellSpelled) : (record members).WellSpelled := by
  have hmembers : ∀ t ∈ memberTokens (members.map fun (key, value) => (some key, value)),
      t.WellSpelled := by
    apply wellSpelled_of_mem_memberTokens
    intro member hmember
    obtain ⟨⟨key, value⟩, hvalue, rfl⟩ := List.mem_map.mp hmember
    exact h (key, value) hvalue
  intro t ht
  simp only [record, tokens, List.mem_append, List.mem_cons, List.not_mem_nil, or_false] at ht
  rcases ht with (rfl | ht) | rfl
  · trivial
  · exact hmembers t ht
  · trivial

end Value

end Passthrough.Json
