import Passthrough.Proofs.Wire.RoundTrip
/-!
# Files that give some of the options

A file may give any of the options, in any order and among members that mean nothing here. What it
gives is taken as it is given, everything else has its default; and a file with anything wrong in it
counts for nothing, however much of it could have been read.

Which texts give which options is told by the grammar of JSON texts alone (`Json.Written`,
`GivesOptions`). The members of an object are put into the options one after another. Putting one
leaves all the others as they are (`spares_fields`), and no option is put twice, so that in the end
each option is what its own member says, or what it was at the start.

Main statement: `Options.ofFile_partial`.
-/

namespace Passthrough.Options

open Json

/-! ### Single options -/

/-- The values that an option takes: integers of 32 bits, or truth values. -/
def Access.Takes : Access → Value → Prop
  | .code _ _, v => ∃ i : Int32, v = .ofInt i.toInt
  | .flag _ _, v => ∃ b, v = .bool b

/-- What has been put is there. -/
def Access.Lawful : Access → Prop
  | .code get put => ∀ i o, get (put i o) = i
  | .flag get put => ∀ b o, get (put b o) = b

/-- Putting the one option leaves the other as it is. -/
def Access.Spares (a b : Access) : Prop :=
  ∀ v o after, a.put? v o = some after → b.toJson after = b.toJson o

namespace Access

/-- An integer that is put leaves every option whose form does not read it as it was. -/
theorem spares_code {get : Options → Int32} {put : Int32 → Options → Options} {b : Access}
    (h : ∀ i o, b.toJson (put i o) = b.toJson o) : (code get put).Spares b := by
  intro v o after hput
  obtain ⟨i, -, rfl⟩ := Option.map_eq_some_iff.mp hput
  exact h _ o

/-- A truth value that is put leaves every option whose form does not read it as it was. -/
theorem spares_flag {get : Options → Bool} {put : Bool → Options → Options} {b : Access}
    (h : ∀ i o, b.toJson (put i o) = b.toJson o) : (flag get put).Spares b := by
  intro v o after hput
  obtain ⟨i, -, rfl⟩ := Option.map_eq_some_iff.mp hput
  exact h _ o

/-- An option that is put is put to a value that it takes, and is this value from then on. `Lawful`
enters here, and only here: what has been put is what is written. -/
theorem takes_of_put? {a : Access} (ha : a.Lawful) {v : Value} {o after : Options}
    (h : a.put? v o = some after) : a.Takes v ∧ a.toJson after = v := by
  cases a with
  | code get put =>
    obtain ⟨i, hi, rfl⟩ := Option.map_eq_some_iff.mp h
    obtain ⟨rfl, hlow, hhigh⟩ := Value.intWithin?_eq_some_iff.mp hi
    have hword : (Int32.ofInt i).toInt = i := Int32.toInt_ofInt_of_le hlow hhigh
    refine ⟨⟨Int32.ofInt i, by rw [hword]⟩, ?_⟩
    rw [toJson, ha, hword]
  | flag get put =>
    obtain ⟨b, hb, rfl⟩ := Option.map_eq_some_iff.mp h
    have hv : v = .bool b := Value.bool?_eq_some_iff.mp hb
    refine ⟨⟨b, hv⟩, ?_⟩
    rw [toJson, ha, hv]

/-- A value that an option takes can be put, whatever the options are that it is put into. -/
theorem exists_put? {a : Access} {v : Value} (h : a.Takes v) (o : Options) :
    ∃ after, a.put? v o = some after := by
  cases a with
  | code get put =>
    obtain ⟨i, rfl⟩ := h
    have hread : (Value.ofInt i.toInt).int32? = some i.toInt :=
      Value.int32?_ofInt i.le_toInt i.toInt_lt
    exact ⟨_, by rw [put?, hread, Option.map_some]⟩
  | flag get put =>
    obtain ⟨b, rfl⟩ := h
    exact ⟨_, rfl⟩

end Access

/-- Every field reads the part of the options that it puts, which is seen from the definition of
each. -/
theorem lawful_fields : ∀ field ∈ fields, field.2.Lawful := by
  repeat' first
    | exact List.forall_mem_nil _
    | refine List.forall_mem_cons.mpr ⟨fun _ _ => rfl, ?_⟩

/-- Options with different names are different parts of a set of options. There are two hundred and
more pairs of fields; each is seen from the definitions of the two. -/
theorem spares_fields : ∀ field ∈ fields, ∀ other ∈ fields,
    field.1 ≠ other.1 → field.2.Spares other.2 := by
  -- Pair by pair: a field is itself, or puts a part that the other one does not read.
  repeat' first
    | exact List.forall_mem_nil _
    | refine List.forall_mem_cons.mpr ⟨?_, ?_⟩
    | exact fun hne => absurd rfl hne
    | exact fun _ => Access.spares_code fun _ _ => rfl
    | exact fun _ => Access.spares_flag fun _ _ => rfl

/-! ### One option after another -/

theorem mem_fieldNames {name : String} {access : Access} (h : (name, access) ∈ fields) :
    name ∈ fieldNames := List.mem_map.mpr ⟨_, h, rfl⟩

theorem exists_field {name : String} (h : name ∈ fieldNames) :
    ∃ access, (name, access) ∈ fields := by
  obtain ⟨⟨name, access⟩, hfield, rfl⟩ := List.mem_map.mp h
  exact ⟨access, hfield⟩

/-- Fields with one name are one field, since the names of `fields` are all different. -/
theorem access_eq {name : String} {a b : Access} (ha : (name, a) ∈ fields)
    (hb : (name, b) ∈ fields) : a = b := by
  have hdistinct : (fields.map (·.1)).Nodup := by decide
  have hfound := find?_key hdistinct ha
  rw [find?_key hdistinct hb] at hfound
  cases hfound
  rfl

/-- What comes of putting these members into a set of options: the options that are given take what
their members say, and the others are as they were. -/
structure Sets (given : List (String × Value)) (o after : Options) : Prop where
  put : ∀ {name access v}, (name, access) ∈ fields → (name, v) ∈ given →
    access.Takes v ∧ access.toJson after = v
  kept : ∀ {name access}, (name, access) ∈ fields → name ∉ given.map (·.1) →
    access.toJson after = access.toJson o

/-- One more member, put before the others. Its own option keeps its value through them, since none
of them has its name, and each of the others does not depend on what was put first. -/
theorem Sets.cons {name : String} {access : Access} {v : Value} {given : List (String × Value)}
    {o next after : Options} (hfield : (name, access) ∈ fields)
    (hput : access.put? v o = some next) (hnew : name ∉ given.map (·.1))
    (h : Sets given next after) : Sets ((name, v) :: given) o after where
  put := by
    intro name' access' v' hfield' hmem
    rcases List.mem_cons.mp hmem with hhead | hmem
    · -- The option that has been put is spared by all that follow.
      cases hhead
      cases access_eq hfield hfield'
      rw [h.kept hfield hnew]
      exact Access.takes_of_put? (lawful_fields _ hfield) hput
    · exact h.put hfield' hmem
  kept := by
    intro name' access' hfield' hother
    rw [List.map_cons, List.mem_cons, not_or] at hother
    rw [h.kept hfield' hother.2]
    exact spares_fields _ hfield _ hfield' (Ne.symm hother.1) v o next hput

/-- Members with different names that have all been put set their options. The induction is on the
members, with `Sets.cons` for each of them. -/
theorem sets_of_foldlM {given : List (String × Value)} {o after : Options}
    (hknown : ∀ name ∈ given.map (·.1), name ∈ fieldNames) (honce : (given.map (·.1)).Nodup)
    (h : given.foldlM putField? o = some after) : Sets given o after := by
  induction given generalizing o with
  | nil =>
    cases h
    exact ⟨nofun, fun _ _ => rfl⟩
  | cons member given ih =>
    obtain ⟨name, v⟩ := member
    rw [List.map_cons, List.forall_mem_cons] at hknown
    rw [List.map_cons, List.nodup_cons] at honce
    rw [List.foldlM_cons] at h
    obtain ⟨next, hput, hrest⟩ := Option.bind_eq_some_iff.mp h
    obtain ⟨access, hfield⟩ := exists_field hknown.1
    rw [putField?_of_mem hfield] at hput
    exact .cons hfield hput honce.1 (ih hknown.2 honce.2 hrest)

/-- Members are all put if each is one that its option takes; what has been put before does not
hinder it. -/
theorem exists_foldlM {given : List (String × Value)}
    (hknown : ∀ name ∈ given.map (·.1), name ∈ fieldNames)
    (htakes : ∀ {name access v}, (name, access) ∈ fields → (name, v) ∈ given → access.Takes v)
    (o : Options) : ∃ after, given.foldlM putField? o = some after := by
  induction given generalizing o with
  | nil => exact ⟨o, rfl⟩
  | cons member given ih =>
    obtain ⟨name, v⟩ := member
    rw [List.map_cons, List.forall_mem_cons] at hknown
    obtain ⟨access, hfield⟩ := exists_field hknown.1
    obtain ⟨next, hput⟩ := Access.exists_put? (htakes hfield List.mem_cons_self) o
    obtain ⟨after, hafter⟩ :=
      ih hknown.2 (fun hfield hmem => htakes hfield (List.mem_cons_of_mem _ hmem)) next
    refine ⟨after, ?_⟩
    rw [List.foldlM_cons, putField?_of_mem hfield, hput]
    exact hafter

/-! ### Objects -/

/-- **The members of an object give options**: every key is a text, no option is given twice, and
every option that is given takes its value. Members with other keys may hold anything. -/
structure GivesOptions (members : List (Option String × Value)) : Prop where
  texts : ∀ member ∈ members, member.1.isSome
  once : ((Value.known fieldNames members).map (·.1)).Nodup
  takes : ∀ {name access v}, (name, access) ∈ fields → (some name, v) ∈ members → access.Takes v

theorem known_names {members : List (Option String × Value)} :
    ∀ name ∈ (Value.known fieldNames members).map (·.1), name ∈ fieldNames := by
  intro name hname
  obtain ⟨⟨name, v⟩, hmem, rfl⟩ := List.mem_map.mp hname
  exact (Value.mem_known.mp hmem).1

/-- Options are read from an object just if it is readable for the names of the options, and if the
members that have these names can all be put into the default options. -/
theorem ofJson?_object {members : List (Option String × Value)} {o : Options} :
    ofJson? (.object members) = some o ↔
      Value.Readable fieldNames [] members ∧
        (Value.known fieldNames members).foldlM putField? {} = some o := by
  rw [ofJson?, Value.fields?]
  simp only [Option.bind_eq_bind, Option.bind_eq_some_iff, Value.knownMembers?_eq_some_iff]
  constructor
  · rintro ⟨given, ⟨hreadable, rfl⟩, hfold⟩
    exact ⟨hreadable, hfold⟩
  · rintro ⟨hreadable, hfold⟩
    exact ⟨_, ⟨hreadable, rfl⟩, hfold⟩

/-- What is read from an object are the options that its members give, over the defaults. So the
members do give options, which is one half of the criterion; `exists_ofJson?` is the other. -/
theorem sets_of_ofJson? {members : List (Option String × Value)} {o : Options}
    (h : ofJson? (.object members) = some o) :
    GivesOptions members ∧ Sets (Value.known fieldNames members) {} o := by
  obtain ⟨hreadable, hfold⟩ := ofJson?_object.mp h
  have hsets := sets_of_foldlM known_names hreadable.once hfold
  exact ⟨⟨hreadable.texts, hreadable.once, fun hfield hmem =>
    (hsets.put hfield (Value.mem_known.mpr ⟨mem_fieldNames hfield, hmem⟩)).1⟩, hsets⟩

theorem exists_ofJson? {members : List (Option String × Value)} (h : GivesOptions members) :
    ∃ o, ofJson? (.object members) = some o := by
  obtain ⟨o, ho⟩ :=
    exists_foldlM known_names (fun hfield hmem => h.takes hfield (Value.mem_known.mp hmem).2) {}
  exact ⟨o, ofJson?_object.mpr ⟨⟨h.texts, h.once, fun _ _ => List.not_mem_nil⟩, ho⟩⟩

/-! ### Files -/

/-- A file whose text spells a value is read as that value, and as the default options if the value
holds no options. -/
theorem ofFile_of_written {s : String} {v : Value} (h : Written s.toList v.tokens) :
    ofFile (some s.toUTF8) = (ofJson? v).getD {} := by
  rw [ofFile_toUTF8, ofString?, Value.ofString?_eq_some_iff.mpr h, Option.bind_some]

/-- A file whose text spells no value is read as the default options. -/
theorem ofFile_of_not_written {s : String} (h : ∀ v : Value, ¬ Written s.toList v.tokens) :
    ofFile (some s.toUTF8) = {} := by
  have hread : Value.ofString? s = none :=
    Option.eq_none_iff_forall_ne_some.mpr fun v hv => h v (Value.ofString?_eq_some_iff.mp hv)
  rw [ofFile_toUTF8, ofString?, hread]
  rfl

/-- **Files that give some of the options.** If the text of a file spells an object whose members
give options, then each option that is given is what its member says, and each of the others has its
default. If the text spells an object whose members do not give options, if it goes on behind an
object with more than blanks, or if it spells no value at all, then every option has its default. -/
theorem ofFile_partial (s : String) :
    (∀ members, Written s.toList (Value.object members).tokens → GivesOptions members →
      ∀ name access, (name, access) ∈ fields →
        (∀ v, (some name, v) ∈ members → access.toJson (ofFile (some s.toUTF8)) = v) ∧
        ((∀ v, (some name, v) ∉ members) →
          access.toJson (ofFile (some s.toUTF8)) = access.toJson {})) ∧
    (∀ members, Written s.toList (Value.object members).tokens → ¬ GivesOptions members →
      ofFile (some s.toUTF8) = {}) ∧
    (∀ members front rest, s.toList = front ++ rest →
      Written front (Value.object members).tokens → (∃ c ∈ rest, c ∉ blanks) →
      ofFile (some s.toUTF8) = {}) ∧
    ((∀ v : Value, ¬ Written s.toList v.tokens) → ofFile (some s.toUTF8) = {}) := by
  refine ⟨?_, ?_, ?_, ofFile_of_not_written⟩
  · intro members hwritten hgives name access hfield
    obtain ⟨o, ho⟩ := exists_ofJson? hgives
    have hsets := (sets_of_ofJson? ho).2
    rw [ofFile_of_written hwritten, ho, Option.getD_some]
    refine ⟨fun v hv => ?_, fun hnone => ?_⟩
    · exact (hsets.put hfield (Value.mem_known.mpr ⟨mem_fieldNames hfield, hv⟩)).2
    · refine hsets.kept hfield fun hmem => ?_
      obtain ⟨⟨name, v⟩, hv, rfl⟩ := List.mem_map.mp hmem
      exact hnone v (Value.mem_known.mp hv).2
  · intro members hwritten hgives
    have hread : ofJson? (.object members) = none :=
      Option.eq_none_iff_forall_ne_some.mpr fun o ho => hgives (sets_of_ofJson? ho).1
    rw [ofFile_of_written hwritten, hread, Option.getD_none]
  · intro members front rest hs hfront hrest
    apply ofFile_of_not_written
    rw [hs]
    apply Value.not_written_of_trailing hfront _ hrest
    intro t ht
    rw [Value.tokens, List.getLast?_concat] at ht
    cases ht
    rfl

example :
    ofString? "\x7b \"x\": [null], \"recordDeviceId\": 3, \"periodLenMs\": 10 \x7d" =
      some { periodLenMs := 10, recordDeviceId := 3 } := by
  cbv

end Passthrough.Options
