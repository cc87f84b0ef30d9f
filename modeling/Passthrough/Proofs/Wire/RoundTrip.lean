import Passthrough.Proofs.Json.Access
import Passthrough.Wire.Notice
import Passthrough.Wire.Options
/-!
# What is written is read back

Options, notices, stream properties, directions, sessions, status codes and settings each have a
JSON form and a reader of their own. For each of them the reader undoes the form; and since every
form is well spelled, it is also undone by way of its text, and for options by way of a file that
holds the text.

The numbers in the forms are those that fit into their words.

Main statements: `Options.readsBack`, `Options.ofFile_toJson`, `StampedNotice.readsBack`,
`StreamInfo.readsBack`, `SessionId.readsBack`, and all of them together in `Json.readsBack_all`.
-/

namespace Passthrough

open Json

section ReadsBack

variable {α : Type} {toJson : α → Value} {ofJson? : Value → Option α}

/-- The text that is written for a value is read as that value. -/
def ReadsBack (toJson : α → Value) (ofJson? : Value → Option α) (a : α) : Prop :=
  (Value.ofString? (toJson a).compact).bind ofJson? = some a

/-- A reader that undoes a form also undoes the text of it. The form has to be well spelled, since
only then the text spells that form and no other (`Value.ofString?_compact`). -/
theorem readsBack_of_ofJson? {a : α} (hspelled : (toJson a).WellSpelled)
    (h : ofJson? (toJson a) = some a) : ReadsBack toJson ofJson? a := by
  rw [ReadsBack, Value.ofString?_compact hspelled, Option.bind_some, h]

end ReadsBack

/-! ### Names -/

namespace Direction

theorem wellSpelled_toJson (d : Direction) : d.toJson.WellSpelled := Value.wellSpelled_text d.name

/-- A direction is known again by its name: `ofName?_name`, read for the JSON text that holds it. -/
theorem ofJson?_toJson (d : Direction) : ofJson? d.toJson = some d := ofName?_name d

theorem readsBack (d : Direction) : ReadsBack toJson ofJson? d :=
  readsBack_of_ofJson? d.wellSpelled_toJson d.ofJson?_toJson

end Direction

namespace StatusCode

/-- No two status codes have one name, so that each is found by its own. The codes are gone through
one by one. -/
theorem ofName?_name (s : StatusCode) : ofName? s.name = some s := by cases s <;> decide

/-- A status code comes back out of its text, the name that a notice or a report shows for it. -/
theorem readsBack (s : StatusCode) : ReadsBack toJson ofJson? s :=
  readsBack_of_ofJson? (Value.wellSpelled_text s.name) (ofName?_name s)

end StatusCode

namespace Setting

variable {α : Type} [Setting α]

theorem wellSpelled_toJson (a : α) : (toJson a).WellSpelled := Value.wellSpelled_text (name a)

theorem readsBack_of_ofName? {a : α} (h : ofName? (name a) = some a) :
    ReadsBack (toJson : α → Value) ofJson? a :=
  readsBack_of_ofJson? (wellSpelled_toJson a) h

end Setting

theorem AudioApi.ofName?_name (a : AudioApi) : Setting.ofName? (Setting.name a) = some a := by
  cases a <;> decide

theorem PerformanceMode.ofName?_name (m : PerformanceMode) :
    Setting.ofName? (Setting.name m) = some m := by
  cases m <;> decide

/-! ### Sessions -/

namespace SessionId

/-- The number of a session is a signed one of 32 bits. -/
def Fits : SessionId → Prop
  | .id n => -0x80000000 ≤ n ∧ n < 0x80000000
  | _ => True

/-- A session is well spelled, whichever form it takes: one of the plain names, or a record of one
number. -/
theorem wellSpelled_toJson (s : SessionId) : s.toJson.WellSpelled := by
  cases s with
  | none => exact Value.wellSpelled_text "None"
  | allocate => exact Value.wellSpelled_text "Allocate"
  | id n => exact Value.wellSpelled_record (by simp [Value.wellSpelled_ofInt])

/-- A session is read from its form. That its number fits into 32 bits with a sign (`Fits`) is
needed for the form that has a number alone. -/
theorem ofJson?_toJson {s : SessionId} (h : s.Fits) : ofJson? s.toJson = some s := by
  cases s with
  | none => rfl
  | allocate => rfl
  | id n =>
    have hread : (Value.ofInt n).int32? = some n := Value.int32?_ofInt h.1 h.2
    show (Value.ofInt n).int32?.map SessionId.id = some (.id n)
    rw [hread, Option.map_some]

theorem readsBack {s : SessionId} (h : s.Fits) : ReadsBack toJson ofJson? s :=
  readsBack_of_ofJson? s.wellSpelled_toJson (ofJson?_toJson h)

end SessionId

/-! ### Stream properties -/

namespace StreamInfo

/-- The numbers of a stream fit into their words. -/
structure Fits (p : StreamInfo) : Prop where
  sampleRate : p.sampleRate < 1 <<< 32
  channelCount : p.channelCount < 1 <<< 16
  bufferCapacityFrames : p.bufferCapacityFrames < 1 <<< 32
  framesPerCallback : p.framesPerCallback < 1 <<< 32

/-- Stream properties are a record of known fields, and each of their values is well spelled. -/
theorem wellSpelled_toJson (p : StreamInfo) : p.toJson.WellSpelled :=
  Value.wellSpelled_record (by
    simp [Value.wellSpelled_ofNat, Direction.wellSpelled_toJson, Setting.wellSpelled_toJson])

/-- Properties are read from any record each of whose fields is read. The order of the members does
not matter, which the proof for the written form has no use for and the shape of the reader gives
for nothing. -/
theorem ofJson?_of_fields {v : Value} {members : List (String × Value)} (p : StreamInfo)
    (hmembers : v.wholeFields? fieldNames = some members)
    (hdirection :
      (Value.field? "direction" members).bind Direction.ofJson? = some p.direction)
    (hrate : (Value.field? "sample_rate" members).bind (·.natOfBits? 32) = some p.sampleRate)
    (hchannels :
      (Value.field? "channel_count" members).bind (·.natOfBits? 16) = some p.channelCount)
    (hcapacity : (Value.field? "buffer_capacity_frames" members).bind (·.natOfBits? 32) =
      some p.bufferCapacityFrames)
    (hframes : (Value.field? "frames_per_callback" members).bind (·.natOfBits? 32) =
      some p.framesPerCallback)
    (hmode :
      (Value.field? "performance_mode" members).bind Setting.ofJson? = some p.performanceMode) :
    ofJson? v = some p := by
  simp [ofJson?, hmembers, hdirection, hrate, hchannels, hcapacity, hframes, hmode]

/-- The properties of a stream are read from their form: `ofJson?_of_fields` for the fields that
`toJson` writes. -/
theorem ofJson?_toJson {p : StreamInfo} (h : p.Fits) : ofJson? p.toJson = some p := by
  apply ofJson?_of_fields p (Value.wholeFields?_record (by simp [fieldNames]) (by simp))
  · exact Value.bind_field? rfl p.direction.ofJson?_toJson
  · exact Value.bind_field? rfl (Value.natOfBits?_ofNat h.sampleRate)
  · exact Value.bind_field? rfl (Value.natOfBits?_ofNat h.channelCount)
  · exact Value.bind_field? rfl (Value.natOfBits?_ofNat h.bufferCapacityFrames)
  · exact Value.bind_field? rfl (Value.natOfBits?_ofNat h.framesPerCallback)
  · exact Value.bind_field? rfl p.performanceMode.ofName?_name

/-- The properties of a stream come back out of their text, if their numbers fit into their
words. -/
theorem readsBack {p : StreamInfo} (h : p.Fits) : ReadsBack toJson ofJson? p :=
  readsBack_of_ofJson? p.wellSpelled_toJson (ofJson?_toJson h)

end StreamInfo

/-! ### Options -/

namespace Options

/-- What one option is in a set of options, put into another set. -/
def Access.carry (a : Access) (o into : Options) : Options :=
  match a with
  | .code get put => put (get o) into
  | .flag get put => put (get o) into

/-- An option is written as an integer or a truth value, and both are well spelled. -/
theorem Access.wellSpelled_toJson (a : Access) (o : Options) : (a.toJson o).WellSpelled := by
  cases a with
  | code get _ => exact Value.wellSpelled_ofInt (get o).toInt
  | flag get _ => exact Value.wellSpelled_bool (get o)

/-- What is written for an option is a value that the option takes, and putting it carries the
option over from one set of options into another. A code fits into 32 bits, as `Int32` has no more
of them. -/
theorem Access.put?_toJson (a : Access) (o into : Options) :
    a.put? (a.toJson o) into = some (a.carry o into) := by
  cases a with
  | code get put =>
    have hlow := (get o).le_toInt
    have hhigh := (get o).toInt_lt
    rw [put?, toJson, Value.int32?_ofInt (by omega) (by omega), Option.map_some,
      Int32.ofInt_toInt, carry]
  | flag get put => rfl

/-- A member with the name of a field is read as that field: the names of `fields` are all
different, so that the search by name ends at this field and no other. -/
theorem putField?_of_mem {name : String} {access : Access} (h : (name, access) ∈ fields)
    (o : Options) (v : Value) : putField? o (name, v) = access.put? v o := by
  have hfind : fields.find? (·.1 == name) = some (name, access) :=
    find?_key (by decide) h
  rw [putField?, hfind]

/-- A written option that is read by its name is carried over, with nothing else changed in the set
that it is put into. -/
theorem putField?_toJson {name : String} {access : Access} (h : (name, access) ∈ fields)
    (o into : Options) :
    putField? into (name, access.toJson o) = some (access.carry o into) := by
  rw [putField?_of_mem h, access.put?_toJson]

/-- Reading written options one by one carries each of them over. The induction is on the list of
fields that are still to be read, for any part of `fields`. -/
theorem foldlM_putField? {given : List (String × Access)} (h : ∀ field ∈ given, field ∈ fields)
    (o into : Options) :
    (given.map fun (name, access) => (name, access.toJson o)).foldlM putField? into =
      some (given.foldl (fun into field => field.2.carry o into) into) := by
  induction given generalizing into with
  | nil => rfl
  | cons field given ih =>
    rw [List.forall_mem_cons] at h
    rw [List.map_cons, List.foldlM_cons, putField?_toJson h.1, List.foldl_cons]
    exact ih h.2 _

/-- Options are made of the fields that are written, and of nothing else: carried over one by one,
they have replaced whatever was in the other set. -/
theorem foldl_carry (o into : Options) :
    fields.foldl (fun into field => field.2.carry o into) into = o := by
  -- Both sets are taken apart first, so that no update is left inside another.
  cases o
  cases into
  simp only [fields, List.foldl_cons, List.foldl_nil, Access.carry]

/-- Options are a record of the known `fields`, each with a well-spelled value. -/
theorem wellSpelled_toJson (o : Options) : o.toJson.WellSpelled := by
  apply Value.wellSpelled_record
  intro member hmember
  obtain ⟨⟨name, access⟩, -, rfl⟩ := List.mem_map.mp hmember
  exact access.wellSpelled_toJson o

/-- Options are read from their form: all fields are known and given once, so that they are read one
by one (`foldlM_putField?`), and together they are the options (`foldl_carry`). -/
theorem ofJson?_toJson (o : Options) : ofJson? o.toJson = some o := by
  -- The members have the names of the fields, so they are known, and distinct as those are.
  have hnames : (fields.map fun (name, access) => (name, access.toJson o)).map (·.1) =
      fieldNames := by
    simp [fieldNames]
  have hread : o.toJson.fields? fieldNames =
      some (fields.map fun (name, access) => (name, access.toJson o)) := by
    apply Value.fields?_record
    · intro member hmember
      exact hnames ▸ List.mem_map_of_mem hmember
    · rw [hnames]
      decide
  rw [ofJson?, hread]
  exact (foldlM_putField? (fun _ h => h) o {}).trans (congrArg some (foldl_carry o {}))

/-- Options come back out of their text, for all options and with no condition on their numbers. -/
theorem readsBack (o : Options) : ReadsBack toJson ofJson? o :=
  readsBack_of_ofJson? o.wellSpelled_toJson o.ofJson?_toJson

/-- A file that holds a text is read as that text, and as the default options if the text cannot be
read. -/
theorem ofFile_toUTF8 (s : String) : ofFile (some s.toUTF8) = (ofString? s).getD {} := by
  have htext : String.fromUTF8? s.toUTF8 = some s := by
    simp [String.fromUTF8?, String.toUTF8, String.fromUTF8, String.isValidUTF8]
  rw [ofFile, Option.bind_some, htext, Option.bind_some]

/-- Options come back out of a file that holds their text, and not only because the defaults would
do: the text is read. -/
theorem ofFile_toJson (o : Options) : ofFile (some o.toJson.compact.toUTF8) = o := by
  have hread : ofString? o.toJson.compact = some o := o.readsBack
  rw [ofFile_toUTF8, hread, Option.getD_some]

end Options

/-! ### Notices -/

namespace Occurrence

/-- The numbers of a kind fit into 32 bits. -/
def Fits : Occurrence → Prop
  | .streamsOpened rate frames => rate < 1 <<< 32 ∧ frames < 1 <<< 32
  | _ => True

/-- A kind of notice is a record of its tag and its members, and well spelled whichever kind it
is. -/
theorem wellSpelled_toJson (k : Occurrence) : k.toJson.WellSpelled := by
  apply Value.wellSpelled_record
  cases k <;>
    simp [fields, Value.wellSpelled_text, Value.wellSpelled_ofNat, Direction.wellSpelled_toJson]

/-- A kind can be kept until its name is known. A reader keeps a whole record before it knows what
kind it holds, and it could not keep a text that denotes nothing or a number that is too large. -/
theorem isKeepable_toJson {k : Occurrence} (h : k.Fits) : k.toJson.isKeepable := by
  cases k with
  | streamsOpened rate frames =>
    simp [toJson, fields, Value.record, Value.isKeepable, Value.areKeepableMembers, Value.text,
      Value.isKeepable_ofNat h.1, Value.isKeepable_ofNat h.2]
  | _ => rfl

/-- A kind is nested less deeply than a kept value may be, with room for the notice around it. -/
theorem depth_toJson (k : Occurrence) : k.toJson.depth + 1 ≤ Value.depthLimit := by
  -- A kind is one record of plain values, whatever its members.
  have hdepth : k.toJson.depth = 1 := by cases k <;> rfl
  rw [hdepth]
  decide

/-- The name of a kind is told from its members: the tag is found among them, and what is left is
read as the content. -/
theorem split?_toJson (k : Occurrence) : split? k.toJson = some (k.tag, .record k.fields) := by
  cases k <;> rfl

/-- The kind that tells the format of streams is read from any record whose numbers are read. -/
theorem ofContent?_streamsOpened {content : Value} {members : List (String × Value)}
    {rate frames : Nat}
    (hmembers : content.wholeFields? ["sample_rate", "frames_per_period"] = some members)
    (hrate : (Value.field? "sample_rate" members).bind (·.natOfBits? 32) = some rate)
    (hframes : (Value.field? "frames_per_period" members).bind (·.natOfBits? 32) = some frames) :
    ofContent? "streams_opened" content = some (.streamsOpened rate frames) := by
  unfold ofContent?
  simp [hmembers, hrate, hframes]

/-- The kind that tells of a fault in a callback is read from any record whose direction is read. -/
theorem ofContent?_callbackFault {content : Value} {members : List (String × Value)}
    {d : Direction} (hmembers : content.wholeFields? ["direction"] = some members)
    (hdirection : (Value.field? "direction" members).bind keptDirection? = some d) :
    ofContent? "callback_fault" content = some (.callbackFault d) := by
  unfold ofContent?
  simp [hmembers, hdirection]

/-- The members of a kind are read back under its tag, whichever kind it is. -/
theorem ofContent?_fields {k : Occurrence} (h : k.Fits) :
    ofContent? k.tag (.record k.fields) = some k := by
  cases k with
  | streamsOpened rate frames =>
    apply ofContent?_streamsOpened (Value.wholeFields?_record (by simp [fields]) (by simp [fields]))
    · exact Value.bind_field? rfl (Value.natOfBits?_ofNat h.1)
    · exact Value.bind_field? rfl (Value.natOfBits?_ofNat h.2)
  | callbackFault d =>
    apply ofContent?_callbackFault (Value.wholeFields?_record (by simp [fields]) (by simp [fields]))
    exact Value.bind_field? rfl d.ofJson?_toJson
  | _ => rfl

/-- A kind is read from its form. The tag is split off (`split?_toJson`) and the members are read
for it (`ofContent?_fields`), after they have been kept (`isKeepable_toJson`). -/
theorem ofJson?_toJson {k : Occurrence} (h : k.Fits) : ofJson? k.toJson = some k := by
  have hkept : (k.toJson.isKeepable && decide (k.toJson.depth + 1 ≤ Value.depthLimit)) = true := by
    simp [isKeepable_toJson h, depth_toJson k]
  rw [ofJson?, if_pos hkept, split?_toJson]
  exact ofContent?_fields h

end Occurrence

namespace StampedNotice

/-- The time of a notice fits into 64 bits, and the numbers of its kind into 32. -/
structure Fits (n : StampedNotice) : Prop where
  timestampMs : n.timestampMs < 1 <<< 64
  kind : n.notice.kind.Fits

/-- The detail of a notice is a text or nothing, and well spelled in both cases. -/
theorem wellSpelled_detailToJson (detail : Option String) :
    (detailToJson detail).WellSpelled := by
  cases detail with
  | none => exact Value.wellSpelled_null
  | some s => exact Value.wellSpelled_text s

/-- A detail is read from its form, and a detail that is not there is read as none. -/
theorem detailOfJson?_detailToJson (detail : Option String) :
    detailOfJson? (detailToJson detail) = some detail := by
  cases detail <;> rfl

theorem wellSpelled_toJson (n : StampedNotice) : n.toJson.WellSpelled :=
  Value.wellSpelled_record (by
    simp [Value.wellSpelled_ofNat, Occurrence.wellSpelled_toJson, wellSpelled_detailToJson])

/-- A notice is read from any record each of whose fields is read: its time, its kind and what is
given as its detail. -/
theorem ofJson?_of_fields {v detail : Value} {members : List (String × Value)} (n : StampedNotice)
    (hmembers : v.wholeFields? fieldNames = some members)
    (htime : (Value.field? "timestamp_ms" members).bind (·.natOfBits? 64) = some n.timestampMs)
    (hkind : (Value.field? "kind" members).bind Occurrence.ofJson? = some n.notice.kind)
    (hgiven : Value.field? "detail" members = some detail)
    (hdetail : detailOfJson? detail = some n.notice.detail) : ofJson? v = some n := by
  simp [ofJson?, hmembers, htime, hkind, hgiven, hdetail]

/-- A notice is read from its form, by `ofJson?_of_fields` for the members that `toJson` writes. -/
theorem ofJson?_toJson {n : StampedNotice} (h : n.Fits) : ofJson? n.toJson = some n := by
  apply ofJson?_of_fields n (Value.wholeFields?_record (by simp [fieldNames]) (by simp))
  · exact Value.bind_field? rfl (Value.natOfBits?_ofNat h.timestampMs)
  · exact Value.bind_field? rfl (Occurrence.ofJson?_toJson h.kind)
  · rfl
  · exact detailOfJson?_detailToJson n.notice.detail

theorem readsBack {n : StampedNotice} (h : n.Fits) : ReadsBack toJson ofJson? n :=
  readsBack_of_ofJson? n.wellSpelled_toJson (ofJson?_toJson h)

end StampedNotice

/-! ### All of them -/

/-- Whatever the program writes as JSON for options, notices, stream properties, directions,
sessions, status codes, audio interfaces and performance modes is read as the same value again, as
far as its numbers fit into their words; options also come back out of a file. -/
theorem Json.readsBack_all :
    (∀ o : Options, ReadsBack Options.toJson Options.ofJson? o ∧
      Options.ofFile (some o.toJson.compact.toUTF8) = o) ∧
    (∀ n : StampedNotice, n.Fits → ReadsBack StampedNotice.toJson StampedNotice.ofJson? n) ∧
    (∀ p : StreamInfo, p.Fits → ReadsBack StreamInfo.toJson StreamInfo.ofJson? p) ∧
    (∀ d : Direction, ReadsBack Direction.toJson Direction.ofJson? d) ∧
    (∀ s : SessionId, s.Fits → ReadsBack SessionId.toJson SessionId.ofJson? s) ∧
    (∀ s : StatusCode, ReadsBack StatusCode.toJson StatusCode.ofJson? s) ∧
    (∀ a : AudioApi, ReadsBack Setting.toJson Setting.ofJson? a) ∧
    ∀ m : PerformanceMode, ReadsBack Setting.toJson Setting.ofJson? m := by
  refine ⟨fun o => ⟨o.readsBack, o.ofFile_toJson⟩, ?_, ?_, Direction.readsBack, ?_,
    StatusCode.readsBack, ?_, ?_⟩
  · intro n hn
    exact StampedNotice.readsBack hn
  · intro p hp
    exact StreamInfo.readsBack hp
  · intro s hs
    exact SessionId.readsBack hs
  · intro a
    exact Setting.readsBack_of_ofName? a.ofName?_name
  · intro m
    exact Setting.readsBack_of_ofName? m.ofName?_name

/-- The largest numbers and the least session are read back, and so is a detail with a quote, a
backslash, control characters with and without a short escape, and a character beyond 16 bits. -/
theorem Json.readsBack_all_extremes :
    let n : StampedNotice :=
      { timestampMs := 18446744073709551615
        notice :=
          { kind := .streamsOpened 4294967295 4294967295
            detail := some "\"\\\n\t\x00\x1f\x7f𝄞" } }
    let p : StreamInfo := ⟨.output, 4294967295, 65535, 4294967295, 4294967295, .lowLatency⟩
    let s : SessionId := .id (-2147483648)
    (n.Fits ∧ ReadsBack StampedNotice.toJson StampedNotice.ofJson? n) ∧
      (p.Fits ∧ ReadsBack StreamInfo.toJson StreamInfo.ofJson? p) ∧
      s.Fits ∧ ReadsBack SessionId.toJson SessionId.ofJson? s :=
  ⟨⟨⟨by decide, by decide, by decide⟩,
      Json.readsBack_all.2.1 _ ⟨by decide, by decide, by decide⟩⟩,
    ⟨⟨by decide, by decide, by decide, by decide⟩,
      Json.readsBack_all.2.2.1 _ ⟨by decide, by decide, by decide, by decide⟩⟩,
    ⟨by decide, by decide⟩, Json.readsBack_all.2.2.2.2.1 _ ⟨by decide, by decide⟩⟩

end Passthrough
