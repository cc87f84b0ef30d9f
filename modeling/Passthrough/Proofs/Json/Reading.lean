import Passthrough.Json.Parser
import Passthrough.Proofs.Json.Lexing
/-!
# Values and the texts that spell them

A text is read as a value if and only if it is written in the tokens of that value
(`Value.ofString?_eq_some_iff`).

The tokens are read one by one, because behind every number and every word of a value stands a mark
or nothing at all. The value is read from the tokens, whatever containers are open around it and
whatever follows; this is shown for a value, for the items of an array and for the members of an
object together, as the tokens of each are made. The other way about, every step of the reader
keeps account of the tokens that it has taken (`Reading.taken`), so that a whole value has taken its
own tokens and no others.
-/

namespace Passthrough.Json

/-! ### Neighbours -/

namespace Token

section Neighbours

variable {t : Token} {ts us : List Token}

theorem isChain_closed (ht : t.IsClosed) (hus : us.IsChain Separate) :
    (t :: us).IsChain Separate := List.isChain_cons.mpr ⟨fun _ _ => .inl ht, hus⟩

/-- A mark may stand behind anything, so that a container may be closed right behind its last
token. -/
theorem isChain_mark (hts : ts.IsChain Separate) (ht : t.IsMark)
    (hus : (t :: us).IsChain Separate) : (ts ++ t :: us).IsChain Separate :=
  List.isChain_append.mpr ⟨hts, hus, fun _ _ _ hu => Option.some.inj hu ▸ .inr ht⟩

end Neighbours

end Token

namespace Value

open Token

mutual

/-- The tokens of a value are told from each other, by recursion on the value with the two lemmas
after this: behind a number or a word stands a mark. -/
theorem isChain_tokens : ∀ v : Value, v.tokens.IsChain Separate
  | .null | .bool _ | .number _ | .string _ => by
    rw [tokens]
    exact .singleton _
  | .array items => by
    rw [tokens]
    exact isChain_mark (isChain_closed rfl (isChain_itemTokens items)) isMark_closeArray
      (.singleton _)
  | .object members => by
    rw [tokens]
    exact isChain_mark (isChain_closed rfl (isChain_memberTokens members)) isMark_closeObject
      (.singleton _)

/-- The items of an array are told from each other by the commas between them. -/
theorem isChain_itemTokens : ∀ items : List Value, (itemTokens items).IsChain Separate
  | [] => .nil
  | [v] => by
    rw [itemTokens]
    exact isChain_tokens v
  | v :: w :: items => by
    rw [itemTokens]
    exact isChain_mark (isChain_tokens v) isMark_comma
      (isChain_closed rfl (isChain_itemTokens (w :: items)))

/-- The members of an object are told from each other, and each key from its value, by commas and
colons. -/
theorem isChain_memberTokens :
    ∀ members : List (Option String × Value), (memberTokens members).IsChain Separate
  | [] => .nil
  | [(key, v)] => by
    rw [memberTokens]
    exact isChain_closed rfl (isChain_closed rfl (isChain_tokens v))
  | (key, v) :: next :: members => by
    rw [memberTokens]
    exact isChain_mark (isChain_closed rfl (isChain_closed rfl (isChain_tokens v))) isMark_comma
      (isChain_closed rfl (isChain_memberTokens (next :: members)))

end

end Value

/-! ### From tokens to values -/

namespace Value

/-- No value starts with the end of an array, and every value has a first token. That is how the
reader knows an empty array from one with items. -/
theorem exists_cons_of_tokens (v : Value) : ∃ t ts, v.tokens = t :: ts ∧ t ≠ .closeArray := by
  cases v <;> simp [tokens]

theorem exists_itemTokens_append (v : Value) (items : List Value) :
    ∃ ts, itemTokens (v :: items) = v.tokens ++ ts := by
  cases items with
  | nil => exact ⟨[], by simp [itemTokens]⟩
  | cons w items => exact ⟨_, itemTokens.eq_3 v w items⟩

end Value

namespace Reading

open Value

/-- The reader takes tokens one by one and gives up at the first that it cannot take. -/
theorem run_cons (state : Reading) (t : Token) (rest : List Token) :
    run state (t :: rest) = (state.step t).bind (·.run rest) := rfl

theorem step_firstItem (stack : List Frame) {t : Token} (ht : t ≠ .closeArray) :
    step (.firstItem stack) t = startValue (.items [] :: stack) t := by
  cases t <;> first | rfl | exact absurd rfl ht

/-- An array that does not end at once starts with its first item. -/
theorem run_firstItem (stack : List Frame) (v : Value) (items : List Value) (rest : List Token) :
    run (.firstItem stack) (itemTokens (v :: items) ++ rest) =
      run (.value (.items [] :: stack)) (itemTokens (v :: items) ++ rest) := by
  obtain ⟨ts, hts⟩ := exists_itemTokens_append v items
  obtain ⟨t, us, hus, ht⟩ := exists_cons_of_tokens v
  rw [hts, hus, List.cons_append, List.cons_append, run_cons, run_cons, step_firstItem stack ht]
  rfl

theorem run_firstKey (stack : List Frame) (member : Option String × Value)
    (members : List (Option String × Value)) (rest : List Token) :
    run (.firstKey stack) (memberTokens (member :: members) ++ rest) =
      run (.nextKey [] stack) (memberTokens (member :: members) ++ rest) := by
  cases members <;> rfl

mutual

/-- Reading a value, in any containers, comes to that value. The three statements from here on are
proved together, by recursion on value, items and members. -/
theorem run_tokens (rest : List Token) :
    ∀ (v : Value) (stack : List Frame),
      run (.value stack) (v.tokens ++ rest) = run (.whole v stack) rest
  | .null, _ | .bool _, _ | .number _, _ | .string _, _ => by
    simp [tokens, run, step, startValue]
  | .array [], stack => by simp [tokens, itemTokens, run, step, startValue]
  | .array (v :: items), stack => by
    -- The array is open while its items are read, and none of them has been read yet.
    have hitems := run_itemTokens rest (v :: items) (List.cons_ne_nil v items) [] stack
    have hfirst := run_firstItem stack v items (.closeArray :: rest)
    simpa [tokens, run, step, startValue, hfirst] using hitems
  | .object [], stack => by simp [tokens, memberTokens, run, step, startValue]
  | .object (member :: members), stack => by
    have hmembers := run_memberTokens rest (member :: members) (List.cons_ne_nil _ _) [] stack
    have hfirst := run_firstKey stack member members (.closeObject :: rest)
    simpa [tokens, run, step, startValue, hfirst] using hmembers

/-- Reading the items that are left of an array comes to the whole array, with those read before in
front. -/
theorem run_itemTokens (rest : List Token) :
    ∀ items : List Value, items ≠ [] → ∀ (done : List Value) (stack : List Frame),
      run (.value (.items done :: stack)) (itemTokens items ++ .closeArray :: rest) =
        run (.whole (.array (done.reverse ++ items)) stack) rest
  | [], h, _, _ => absurd rfl h
  | [v], _, done, stack => by
    have hv := run_tokens (.closeArray :: rest) v (.items done :: stack)
    rw [itemTokens, hv]
    simp [run, step]
  | v :: w :: items, _, done, stack => by
    -- The first item is read in front of all that follows it, and the comma puts it with the rest.
    have hv := run_tokens (.comma :: (itemTokens (w :: items) ++ .closeArray :: rest)) v
      (.items done :: stack)
    have hitems := run_itemTokens rest (w :: items) (List.cons_ne_nil w items) (v :: done) stack
    rw [itemTokens, List.append_assoc, List.cons_append, hv]
    simpa [run, step] using hitems

/-- Reading the members that are left of an object comes to the whole object, in the order in which
they stand and with repeated keys kept. -/
theorem run_memberTokens (rest : List Token) :
    ∀ members : List (Option String × Value), members ≠ [] →
      ∀ (done : List (Option String × Value)) (stack : List Frame),
        run (.nextKey done stack) (memberTokens members ++ .closeObject :: rest) =
          run (.whole (.object (done.reverse ++ members)) stack) rest
  | [], h, _, _ => absurd rfl h
  | [(key, v)], _, done, stack => by
    have hv := run_tokens (.closeObject :: rest) v (.members done key :: stack)
    simpa [memberTokens, run, step] using hv
  | (key, v) :: next :: members, _, done, stack => by
    have hv := run_tokens (.comma :: (memberTokens (next :: members) ++ .closeObject :: rest)) v
      (.members done key :: stack)
    have hmembers :=
      run_memberTokens rest (next :: members) (List.cons_ne_nil _ _) ((key, v) :: done) stack
    simp only [run, step, Option.bind_some] at hv
    simpa [memberTokens, run, step, hv] using hmembers

end

end Reading

/-! ### The tokens that have been taken -/

namespace Value

/-- The items at the front of an array, each with its comma. -/
def frontItems (items : List Value) : List Token := items.flatMap fun v => v.tokens ++ [.comma]

/-- The members at the front of an object, each with its comma. -/
def frontMembers (members : List (Option String × Value)) : List Token :=
  members.flatMap fun (key, v) => .string key :: .colon :: v.tokens ++ [.comma]

/-- The tokens of items with one more at the end, which is the side on which the reader adds. -/
theorem itemTokens_concat (items : List Value) (v : Value) :
    itemTokens (items ++ [v]) = frontItems items ++ v.tokens := by
  induction items with
  | nil => rfl
  | cons w items ih =>
    obtain ⟨u, us, hus⟩ := List.exists_cons_of_ne_nil (List.concat_ne_nil v items)
    rw [List.cons_append, hus, itemTokens, ← hus, ih]
    simp [frontItems]

/-- The tokens of members with one more at the end. -/
theorem memberTokens_concat (members : List (Option String × Value)) (key : Option String)
    (v : Value) :
    memberTokens (members ++ [(key, v)]) =
      frontMembers members ++ .string key :: .colon :: v.tokens := by
  induction members with
  | nil => rfl
  | cons member members ih =>
    obtain ⟨u, us, hus⟩ := List.exists_cons_of_ne_nil (List.concat_ne_nil (key, v) members)
    rw [List.cons_append, hus, memberTokens, ← hus, ih]
    simp [frontMembers]

end Value

open Value in
/-- The tokens that an open container has taken for itself, up to what is being read in it. -/
def Frame.taken : Frame → List Token
  | .items done => .openArray :: frontItems done.reverse
  | .members done key => .openObject :: frontMembers done.reverse ++ [.string key, .colon]

/-- The tokens of the open containers, from the outermost inwards. -/
def takenAround (stack : List Frame) : List Token := stack.reverse.flatMap Frame.taken

namespace Reading

open Value

/-- **The tokens that the reader has taken** to come to this state. -/
def taken : Reading → List Token
  | .value stack => takenAround stack
  | .firstItem stack => takenAround stack ++ [.openArray]
  | .firstKey stack => takenAround stack ++ [.openObject]
  | .nextKey done stack => takenAround stack ++ .openObject :: frontMembers done.reverse
  | .colon done key stack =>
    takenAround stack ++ .openObject :: frontMembers done.reverse ++ [.string key]
  | .whole v stack => takenAround stack ++ v.tokens

theorem takenAround_cons (frame : Frame) (stack : List Frame) :
    takenAround (frame :: stack) = takenAround stack ++ frame.taken := by
  simp [takenAround]

theorem taken_startValue {stack : List Frame} {t : Token} {state : Reading}
    (h : startValue stack t = some state) : state.taken = takenAround stack ++ [t] := by
  cases t <;> cases h <;> rfl

/-- Every step takes the token that it is given, in each state of the reader. This is the invariant
that `eq_of_ofTokens?` rests on. -/
theorem taken_step {state next : Reading} {t : Token} (h : state.step t = some next) :
    next.taken = state.taken ++ [t] := by
  fun_cases step state t with
  | case1 stack t => exact taken_startValue h
  | case2 stack =>
    cases h
    simp [taken, tokens, itemTokens]
  | case3 stack t =>
    rw [step_firstItem stack ‹_›] at h
    rw [taken_startValue h, takenAround_cons]
    rfl
  | case4 stack =>
    cases h
    simp [taken, tokens, memberTokens]
  | case5 stack key =>
    cases h
    rfl
  | case6 done stack key =>
    cases h
    rfl
  | case7 done key stack =>
    cases h
    simp [taken, takenAround_cons, Frame.taken]
  | case8 v done stack =>
    cases h
    simp [taken, takenAround_cons, Frame.taken, frontItems]
  | case9 v done stack =>
    cases h
    simp [taken, takenAround_cons, Frame.taken, tokens, itemTokens_concat]
  | case10 v done key stack =>
    cases h
    simp [taken, takenAround_cons, Frame.taken, frontMembers]
  | case11 v done key stack =>
    cases h
    simp [taken, takenAround_cons, Frame.taken, tokens, memberTokens_concat]
  | case12 =>
    simp_all [step]

/-- A run takes the tokens that it is given, by induction with `taken_step`. -/
theorem taken_run {state last : Reading} {ts : List Token} (h : state.run ts = some last) :
    last.taken = state.taken ++ ts := by
  induction ts generalizing state with
  | nil =>
    cases h
    exact (List.append_nil _).symm
  | cons t ts ih =>
    rw [run_cons] at h
    obtain ⟨next, hstep, hrun⟩ := Option.bind_eq_some_iff.mp h
    rw [ih hrun, taken_step hstep, List.append_assoc, List.singleton_append]

end Reading

/-! ### Texts -/

namespace Value

theorem ofTokens?_tokens (v : Value) : ofTokens? v.tokens = some v := by
  have hrun := Reading.run_tokens [] v []
  rw [List.append_nil] at hrun
  rw [ofTokens?, hrun]
  rfl

/-- What is read as a value are the tokens of that value, because the reader has taken them and no
others. -/
theorem eq_of_ofTokens? {ts : List Token} {v : Value} (h : ofTokens? ts = some v) :
    ts = v.tokens := by
  unfold ofTokens? at h
  split at h
  · next w hrun =>
    cases h
    exact (Reading.taken_run hrun).symm
  · cases h

/-- **A text is read as a value** if and only if it spells this value. It is the whole of reading,
in both directions, and what is claimed of texts and files is drawn from it. -/
theorem ofString?_eq_some_iff {s : String} {v : Value} :
    ofString? s = some v ↔ Written s.toList v.tokens := by
  constructor
  · intro h
    obtain ⟨ts, hlex, hread⟩ := Option.bind_eq_some_iff.mp h
    rw [← eq_of_ofTokens? hread]
    exact written_of_lex hlex
  · intro h
    rw [ofString?, ofChars?, lex_written h v.isChain_tokens, Option.bind_some, ofTokens?_tokens]

/-- Behind a whole value nothing more is read: trailing tokens make a text unreadable. -/
theorem ofTokens?_append (v : Value) {ts : List Token} (h : ts ≠ []) :
    ofTokens? (v.tokens ++ ts) = none := by
  obtain ⟨t, us, rfl⟩ := List.exists_cons_of_ne_nil h
  rw [ofTokens?, Reading.run_tokens, Reading.run_cons]
  rfl

/-- A text that goes on behind a whole value, with more than blanks, spells no value; a number or a
word at the end of the value would have to be told from what follows. -/
theorem not_written_of_trailing {v : Value} {front rest : List Char} (h : Written front v.tokens)
    (hlast : ∀ t ∈ v.tokens.getLast?, t.IsClosed) (hrest : ∃ c ∈ rest, c ∉ blanks) (w : Value) :
    ¬ Written (front ++ rest) w.tokens := by
  intro hw
  have hstops : ∀ t ∈ v.tokens.getLast?, StopsAt t.goesOn rest := by
    intro t ht
    rw [hlast t ht]
    exact fun _ _ => rfl
  have hlex := lex_written hw w.isChain_tokens
  rw [lex_append h v.isChain_tokens hstops] at hlex
  obtain ⟨ts, hts, htokens⟩ := Option.map_eq_some_iff.mp hlex
  by_cases hnone : ts = []
  · obtain ⟨c, hc, hblank⟩ := hrest
    exact hblank (mem_blanks_of_written_nil (written_of_lex hts) hnone c hc)
  · have hread := w.ofTokens?_tokens
    rw [← htokens, ofTokens?_append v hnone] at hread
    cases hread

/-- Every number in a value is well spelled. -/
def WellSpelled (v : Value) : Prop := ∀ t ∈ v.tokens, t.WellSpelled

/-- What is written of a value as compact text is read as that value, if its numbers are well
spelled. -/
theorem ofString?_compact {v : Value} (h : v.WellSpelled) : ofString? v.compact = some v := by
  have hwritten : ∀ ts : List Token, (∀ t ∈ ts, t.WellSpelled) →
      Written (ts.flatMap Token.chars) ts := by
    intro ts hts
    induction ts with
    | nil => exact .nil
    | cons t ts ih =>
      rw [List.forall_mem_cons] at hts
      exact .token (Token.spelledBy_chars hts.1) (ih hts.2)
  rw [ofString?_eq_some_iff, compact, String.toList_ofList]
  exact hwritten v.tokens h

end Value

end Passthrough.Json
