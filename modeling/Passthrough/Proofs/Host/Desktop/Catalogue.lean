import Passthrough.Config.Basic
import Passthrough.Proofs.Host.Desktop.Framing
import Passthrough.Proofs.Period.Words
/-!
# Ids and the devices that they choose

The devices of a machine are told with ids, and a stream is asked for with an id. The two are
separate: the one counts the places of a list from 1, the other takes 1 off again and looks the
place up, for each direction in its own list. That they agree is told of the stream that is opened
(`OpensOn`): what comes of it is up to the device at the place of its id, whatever the other devices
are. An id beyond the list, or 0 without a default, leaves the host as it was.

* **`World.told_of_catalogue`** — what is told of the devices of a direction.
* **`World.find_of_place`**, **`World.find_of_beyond`** — which device is found for an id.
* **`DesktopHost.opensOn_of_find`**, **`DesktopHost.openStream_of_lost`** — what comes of opening
  once a device is found, or none.
* **`DesktopHost.openStream_elsewhere`** — what the machine has besides does not matter.
* **`World.findWord_eq`** — in machine words the same device is found.
* **`DesktopHost.ids_choose_devices`** — a listed id chooses the device that it was listed with.
-/

namespace Passthrough

namespace Desktop

variable {w : World} {d : Direction} {devices : List Device} {entries : List DeviceEntry}
  {device : Device} {e : HostError} {id : Int} {place : Nat}

/-! ## What is told -/

/-- The name under which a device is told. -/
def Device.toldName (device : Device) : String := device.name.getD World.unknownName

/-- The entries of a direction, in their order. -/
def entriesOf (d : Direction) (entries : List DeviceEntry) : List DeviceEntry :=
  entries.filter (·.direction = d)

namespace World

/-- The devices of a direction can be listed just if that does not fail, and they are those of the
machine then. -/
theorem list_eq_ok_iff :
    w.list d = .ok devices ↔ w.listErrors.get d = none ∧ w.devices.get d = devices := by
  unfold list
  cases w.listErrors.get d with
  | some text => exact ⟨nofun, nofun⟩
  | none => exact ⟨fun h => ⟨rfl, Except.ok.inj h⟩, fun h => congrArg _ h.2⟩

/-- The entry at a place tells of the device at that place, under the id that is one more. A device
without a name is told under one that stands for it (`toldName`). -/
theorem of_getElem?_infos {entry : DeviceEntry}
    (hentry : (w.infos d devices)[place]? = some entry) :
    ∃ device, devices[place]? = some device ∧ entry.id = place + 1 ∧ entry.direction = d
      ∧ entry.name = device.toldName := by
  unfold infos at hentry
  rw [List.getElem?_mapIdx, Option.map_eq_some_iff] at hentry
  obtain ⟨device, hdevice, rfl⟩ := hentry
  exact ⟨device, hdevice, rfl, rfl, rfl⟩

theorem direction_of_mem_infos {entry : DeviceEntry} (h : entry ∈ w.infos d devices) :
    entry.direction = d := by
  obtain ⟨place, hplace⟩ := List.mem_iff_getElem?.mp h
  obtain ⟨_, _, _, hdirection, _⟩ := of_getElem?_infos hplace
  exact hdirection

theorem entriesOf_infos : entriesOf d (w.infos d devices) = w.infos d devices :=
  List.filter_eq_self.mpr fun _ h => decide_eq_true (direction_of_mem_infos h)

theorem entriesOf_infos_of_ne {side : Direction} (hne : side ≠ d) :
    entriesOf d (w.infos side devices) = [] :=
  List.filter_eq_nil_iff.mpr fun _ h h' =>
    hne ((direction_of_mem_infos h).symm.trans (of_decide_eq_true h'))

/-- The devices of a list are counted from 1, each under its name. -/
theorem map_infos :
    (w.infos d devices).map (fun entry => (entry.id, entry.name))
      = devices.mapIdx fun place device => ((place : Int) + 1, device.toldName) := by
  refine List.ext_getElem? fun place => ?_
  unfold infos
  rw [List.getElem?_map, List.getElem?_mapIdx, List.getElem?_mapIdx, Option.map_map]
  rfl

/-- There is a catalogue just if the devices of both directions can be listed, and it has those of
the input before those of the output. If either list fails there is no catalogue at all, whatever
the other one has. -/
theorem catalogue_eq_ok_iff :
    w.catalogue = .ok entries
      ↔ (∀ d, w.listErrors.get d = none)
        ∧ w.infos .input (w.devices.get .input) ++ w.infos .output (w.devices.get .output)
          = entries := by
  unfold catalogue
  refine ⟨fun h => ?_, fun ⟨hlisted, hentries⟩ => ?_⟩
  · cases hinput : w.list .input with
    | error e =>
      rw [hinput] at h
      cases h
    | ok inputs =>
      cases houtput : w.list .output with
      | error e =>
        rw [hinput, houtput] at h
        cases h
      | ok outputs =>
        rw [hinput, houtput] at h
        obtain ⟨hin, rfl⟩ := list_eq_ok_iff.mp hinput
        obtain ⟨hout, rfl⟩ := list_eq_ok_iff.mp houtput
        refine ⟨fun d => ?_, Except.ok.inj h⟩
        cases d with
        | input => exact hin
        | output => exact hout
  · rw [list_eq_ok_iff.mpr ⟨hlisted .input, rfl⟩, list_eq_ok_iff.mpr ⟨hlisted .output, rfl⟩]
    exact congrArg _ hentries

/-- **What is told of the devices of a direction**: the entries of its own list. The entries of the
other direction fall out of the filter, and these stay in their order. -/
theorem told_of_catalogue (h : w.catalogue = .ok entries) (d : Direction) :
    entriesOf d entries = w.infos d (w.devices.get d) := by
  obtain ⟨_, rfl⟩ := catalogue_eq_ok_iff.mp h
  have hsplit : ∀ inputs outputs : List DeviceEntry,
      entriesOf d (inputs ++ outputs) = entriesOf d inputs ++ entriesOf d outputs :=
    fun _ _ => List.filter_append ..
  rw [hsplit]
  -- inputs and outputs are told in one list, and one of its two halves is of this direction
  cases d with
  | input =>
    have hother : Direction.output ≠ .input := nofun
    rw [entriesOf_infos, entriesOf_infos_of_ne hother, List.append_nil]
  | output =>
    have hother : Direction.input ≠ .output := nofun
    rw [entriesOf_infos, entriesOf_infos_of_ne hother, List.nil_append]

/-! ## Which device is found -/

theorem find_of_default (h : w.default? d = some device) : w.find d 0 = .ok device := by
  unfold find
  rw [if_pos rfl, h]

theorem find_of_noDefault (h : w.default? d = none) : w.find d 0 = .error .unavailable := by
  unfold find
  rw [if_pos rfl, h]

theorem find_of_unlistable (h : w.list d = .error e) (hid : 0 < id) : w.find d id = .error e := by
  unfold find
  rw [if_neg (by omega), h]

/-- The id of a place finds the device that stands there, in the list of the direction that is asked
for. The count begins at 1 because 0 is kept for the default. -/
theorem find_of_place (h : w.list d = .ok devices) (hplace : devices[place]? = some device) :
    w.find d (place + 1) = .ok device := by
  -- what was added in the count comes off again
  have hindex : ((place : Int) + 1 - 1).toNat = place := by omega
  unfold find
  rw [if_neg (by omega), h]
  simp only
  rw [if_neg (by omega), hindex, hplace]

/-- An id beyond the list finds nothing, and is refused as a wrong one. -/
theorem find_of_beyond (h : w.list d = .ok devices) (hid : devices.length < id) :
    w.find d id = .error .illegalArgument := by
  have hnone : devices[(id - 1).toNat]? = none := List.getElem?_eq_none (by omega)
  unfold find
  rw [if_neg (by omega), h]
  simp only
  rw [if_neg (by omega), hnone]

end World

/-! ## Ids in machine words

An id is a signed word of 32 bits. It is made of a place that is cut to such a word first, and a
place is taken from it as an address, of which there are no fewer. -/

/-- The id of a place. -/
def idWord (place : Nat) : Int32 := Int32.ofNat place + 1

/-- The place of an id, where there are this many addresses. -/
def placeWord (size : Nat) (id : Int32) : Nat := ((id - 1).toInt % size).toNat

/-- The device with this id, if its place is taken from it in words. -/
def World.findWord (w : World) (size : Nat) (d : Direction) (id : Int32) :
    Except HostError Device :=
  if id = 0 then w.find d 0
  else do
    let devices ← w.list d
    devices[placeWord size id]?.elim (throw .illegalArgument) pure

/-- A place has the id that is counted to it, as long as there is such a word. -/
theorem toInt_idWord (hplace : (place : Int) + 1 ≤ Int32.maxValue.toInt) :
    (idWord place).toInt = place + 1 := by
  have hmax : Int32.maxValue.toInt = 2147483647 := rfl
  have hcut : (Int32.ofNat place).toInt = place := Int32.toInt_ofNat_of_lt (by omega)
  unfold idWord
  rw [Int32.toInt_add, hcut, Int32.toInt_one]
  exact Int.bmod_eq_of_le (by omega) (by omega)

/-- An id above 0 leads to the place before it. So the subtraction does not wrap, and the place does
not either. -/
theorem placeWord_of_pos {size : Nat} (hsize : Word.limit ≤ size) {id : Int32}
    (hid : 0 < id.toInt) : placeWord size id = (id.toInt - 1).toNat := by
  have hlt : id.toInt < 2147483648 := id.toInt_lt
  -- only the least word has none below it
  have hback : (id - 1).toInt = id.toInt - 1 := by
    rw [Int32.toInt_sub, Int32.toInt_one]
    exact Int.bmod_eq_of_le (by omega) (by omega)
  unfold Word.limit at hsize
  unfold placeWord
  rw [hback, Int.emod_eq_of_lt (by omega) (by omega)]

/-- In words the same device is found: the place of an id that is not 0 is the same, if there are as
many addresses as a word can tell. The three cases after that are those of `find`: no list, no such
place, and a device. -/
theorem World.findWord_eq {size : Nat} (hsize : Word.limit ≤ size) {id : Int32}
    (hid : 0 ≤ id.toInt) : w.findWord size d id = w.find d id.toInt := by
  unfold findWord
  by_cases hzero : id = 0
  · rw [if_pos hzero, hzero]
    rfl
  · -- an id other than 0 is at least 1, and its place counts from 0
    have hpos : 0 < id.toInt := by
      have hne : id.toInt ≠ 0 := fun h => hzero (Int32.toInt_inj.mp h)
      omega
    rw [if_neg hzero, placeWord_of_pos hsize hpos]
    cases hlist : w.list d with
    | error e =>
      rw [find_of_unlistable hlist hpos]
      rfl
    | ok devices =>
      show devices[(id.toInt - 1).toNat]?.elim _ _ = _
      cases hplace : devices[(id.toInt - 1).toNat]? with
      | none =>
        have hbeyond := List.getElem?_eq_none_iff.mp hplace
        rw [find_of_beyond hlist (by omega)]
        rfl
      | some device =>
        have hcounted : ((id.toInt - 1).toNat : Int) + 1 = id.toInt := by omega
        rw [← hcounted, find_of_place hlist hplace]
        rfl

end Desktop

open Desktop

namespace DesktopHost

variable {κ : Type} {h : DesktopHost κ} {w : World} {d : Direction} {r : StreamSpec} {callback : κ}
  {device : Device} {entries : List DeviceEntry} {entry : DeviceEntry} {e : HostError} {place : Nat}

/-! ## Opening on a device -/

/-- The stream that a device builds for a request. -/
def builtOn (device : Device) (d : Direction) (r : StreamSpec) (n : BuildPlan) (callback : κ)
    (number : Nat) : DeviceStream κ where
  number := number
  side := d
  format := n.format
  properties := n.properties r
  callback := callback
  input := { period := r.framesPerCallback * n.channels }
  output := { period := r.framesPerCallback * n.channels }
  playError := device.playError
  pauseError := device.pauseError

/-- **What comes of opening a stream on a device**: it is up to its answer whether one is built. -/
inductive OpensOn (device : Device) (d : Direction) (r : StreamSpec) (callback : κ)
    (h : DesktopHost κ) : Opening × DesktopHost κ → Prop
  | refused {e : HostError} (hanswer : device.Answers r (.error e)) :
      OpensOn device d r callback h (.refused e, h)
  | opened {n : BuildPlan} (hanswer : device.Answers r (.ok n)) :
      OpensOn device d r callback h
        (.opened { id := h.built + 1, properties := n.properties r },
          { h with
            built := h.built + 1
            streams := h.streams ++ [builtOn device d r n callback (h.built + 1)]
            log := h.log ++ [⟨d, h.built + 1, .build n⟩] })

/-- Once a device is found, everything is up to it. The two cases are those of its answer to the
request (`answers_of_find`). -/
theorem opensOn_of_find (hfind : h.world.find d r.deviceId = .ok device) :
    OpensOn device d r callback h (openStream d r callback h) := by
  unfold openStream
  rcases answers_of_find hfind with ⟨e, hanswer, hchoose⟩ | ⟨n, hanswer, hchoose⟩
  · rw [hchoose]
    exact .refused hanswer
  · rw [hchoose]
    exact .opened hanswer

theorem openStream_of_lost (hfind : h.world.find d r.deviceId = .error e) :
    openStream d r callback h = (.refused e, h) := by
  unfold openStream choose
  rw [hfind]
  rfl

/-- Of the machine, a request meets the device that is found for it, and nothing else. What is on
the machine besides is left as it is. It gives the second half of `LeadsTo`: the other devices may
be anything. -/
theorem openStream_elsewhere (hfind : w.find d r.deviceId = h.world.find d r.deviceId) :
    openStream d r callback { h with world := w }
      = ((openStream d r callback h).1, { (openStream d r callback h).2 with world := w }) := by
  have hchoose : choose d r w = choose d r h.world := by
    unfold choose
    rw [hfind]
  unfold openStream
  simp only
  rw [hchoose]
  cases choose d r h.world with
  | error e => rfl
  | ok chosen => rfl

/-! ## The device of an id -/

/-- **What an id comes to** in a request to a host of this machine. -/
structure ResolvesId (w : World) (d : Direction) (r : StreamSpec) (callback : κ)
    (h : DesktopHost κ) : Prop where
  byDefault : ∀ device, r.deviceId = 0 → w.default? d = some device →
    OpensOn device d r callback h (openStream d r callback h)
  noDefault : r.deviceId = 0 → w.default? d = none →
    openStream d r callback h = (.refused .unavailable, h)
  byPlace : w.listErrors.get d = none → ∀ place (hplace : place < (w.devices.get d).length),
    r.deviceId = place + 1 →
      OpensOn (w.devices.get d)[place] d r callback h (openStream d r callback h)
  beyond : w.listErrors.get d = none → (w.devices.get d).length < r.deviceId →
    openStream d r callback h = (.refused .illegalArgument, h)
  unlistable : ∀ e, w.list d = .error e → 0 < r.deviceId →
    openStream d r callback h = (.refused e, h)

/-- What an id comes to, for any machine: the cases of `find_of_place`, `find_of_beyond`,
`find_of_default` and `find_of_noDefault`, with what `opensOn_of_find` and `openStream_of_lost` make
of them. -/
theorem resolvesId (h : DesktopHost κ) (d : Direction) (r : StreamSpec) (callback : κ) :
    ResolvesId h.world d r callback h where
  byDefault device hid hdefault := opensOn_of_find (by rw [hid, World.find_of_default hdefault])
  noDefault hid hnone := openStream_of_lost (by rw [hid, World.find_of_noDefault hnone])
  byPlace hlisted place hplace hid :=
    have hlist : h.world.list d = .ok (h.world.devices.get d) :=
      World.list_eq_ok_iff.mpr ⟨hlisted, rfl⟩
    opensOn_of_find (by rw [hid, World.find_of_place hlist (List.getElem?_eq_getElem hplace)])
  beyond hlisted hid :=
    openStream_of_lost (World.find_of_beyond (World.list_eq_ok_iff.mpr ⟨hlisted, rfl⟩) hid)
  unlistable _ hlist hid := openStream_of_lost (World.find_of_unlistable hlist hid)

/-- **Where an entry leads**: to the device that stands at its place, under whose name it was told.
With any other devices on the machine, next to that one, in the other direction or as the default,
the stream opens in the same way. -/
structure LeadsTo (κ : Type) (w : World) (d : Direction) (place : Nat) (entry : DeviceEntry)
    (device : Device) : Prop where
  stands : (w.devices.get d)[place]? = some device
  name : entry.name = device.toldName
  word : (place : Int) + 1 ≤ Int32.maxValue.toInt → (idWord place).toInt = entry.id
  opens : ∀ (h : DesktopHost κ) (r : StreamSpec) (callback : κ), h.world = w →
    r.deviceId = entry.id → OpensOn device d r callback h (openStream d r callback h)
  alone : ∀ (h : DesktopHost κ) (r : StreamSpec) (callback : κ), h.world = w →
    r.deviceId = entry.id → ∀ (other : World) (devices : List Device),
      other.list d = .ok devices → devices[place]? = some device →
        openStream d r callback { h with world := other }
          = ((openStream d r callback h).1, { (openStream d r callback h).2 with world := other })

/-- Every entry of a catalogue leads to a device, the one at its place. Its place in the catalogue
is its place in the list of its direction (`told_of_catalogue`), and the id that it was told with
leads back to that place (`find_of_place`). -/
theorem leadsTo_of_catalogue (hcatalogue : w.catalogue = .ok entries)
    (hentry : (entriesOf d entries)[place]? = some entry) :
    ∃ device, LeadsTo κ w d place entry device := by
  have hlist : w.list d = .ok (w.devices.get d) :=
    World.list_eq_ok_iff.mpr ⟨(World.catalogue_eq_ok_iff.mp hcatalogue).1 d, rfl⟩
  rw [World.told_of_catalogue hcatalogue] at hentry
  obtain ⟨device, hdevice, hid, _, hname⟩ := World.of_getElem?_infos hentry
  -- on any machine that has the device at this place of the direction, the id finds it
  have hfind : ∀ {other : World} {devices : List Device} {r : StreamSpec},
      other.list d = .ok devices → devices[place]? = some device → r.deviceId = entry.id →
        other.find d r.deviceId = .ok device := fun hother hplace hchosen => by
    rw [hchosen, hid, World.find_of_place hother hplace]
  exact ⟨device, {
    stands := hdevice
    name := hname
    word := fun hplace => by rw [hid, toInt_idWord hplace]
    opens := fun h r callback hworld hchosen =>
      opensOn_of_find (hworld ▸ hfind hlist hdevice hchosen)
    alone := fun h r callback hworld hchosen other devices hother hplace =>
      openStream_elsewhere (by
        rw [hworld, hfind hlist hdevice hchosen, hfind hother hplace hchosen]) }⟩

/-- **A listed id chooses the device that it was listed with**, on every machine and every host
there:

* the devices are told where those of both directions can be listed. The entries of a direction have
  the ids from 1 on in the order of its list, each with the name of its device;
* a request is met by the device at the place of its id in the list of its direction, or by the
  default for 0. An id beyond the list and 0 without a default are refused, as is an id where the
  devices cannot be listed, and the host stays as it was, without another stream;
* so the id of an entry leads to the device that the entry is of, and never to one of the other
  direction or to the next;
* looked up in words of the machine, an id finds the same device. -/
theorem ids_choose_devices (w : World) :
    ((∃ entries, w.catalogue = .ok entries) ↔ ∀ d, w.listErrors.get d = none)
      ∧ (∀ entries, w.catalogue = .ok entries → ∀ d,
          (entriesOf d entries).map (fun entry => (entry.id, entry.name))
            = (w.devices.get d).mapIdx fun place device => ((place : Int) + 1, device.toldName))
      ∧ (∀ (h : DesktopHost κ) (d : Direction) (r : StreamSpec) (callback : κ), h.world = w →
          ResolvesId w d r callback h)
      ∧ (∀ entries, w.catalogue = .ok entries → ∀ d place entry,
          (entriesOf d entries)[place]? = some entry → ∃ device, LeadsTo κ w d place entry device)
      ∧ ∀ d (id : Int32) size, 0 ≤ id.toInt → Word.limit ≤ size →
          w.findWord size d id = w.find d id.toInt := by
  -- one part of the statement after the other, each a lemma of its own
  refine ⟨⟨?_, ?_⟩, ?_, ?_, ?_, ?_⟩
  · rintro ⟨entries, hcatalogue⟩
    exact (World.catalogue_eq_ok_iff.mp hcatalogue).1
  · intro hlisted
    exact ⟨_, World.catalogue_eq_ok_iff.mpr ⟨hlisted, rfl⟩⟩
  · intro entries hcatalogue d
    rw [World.told_of_catalogue hcatalogue, World.map_infos]
  · rintro h d r callback rfl
    exact resolvesId h d r callback
  · intro entries hcatalogue d place entry hentry
    exact leadsTo_of_catalogue hcatalogue hentry
  · intro d id size hid hsize
    exact World.findWord_eq hsize hid

/-- Two microphones of one name, the first of which is gone, and no default. -/
def twinMicrophones : World where
  devices :=
    ⟨[{ name := some "Mic", buildError := some .deviceNotAvailable },
      { name := some "Mic", ranges := [⟨1, 8000, 8000, .i16, none⟩] }],
     [{ name := some "Speakers" }]⟩

/-- The second of the two is chosen with its id. There is no third, the loudspeaker counts by
itself, and nothing is used where nothing is asked for. -/
theorem ids_choose_devices_twins :
    let r (id : Int) : StreamSpec :=
      { ({ sampleRate := 8000, periodMs := 1 } : Config).inputSpec with deviceId := id }
    let h : DesktopHost Unit := { world := twinMicrophones }
    OpensOn { name := some "Mic", ranges := [⟨1, 8000, 8000, .i16, none⟩] } .input (r 2) () h
        (openStream .input (r 2) () h)
      ∧ openStream .input (r 3) () h = (.refused .illegalArgument, h)
      ∧ openStream .output (r 2) () h = (.refused .illegalArgument, h)
      ∧ openStream .input (r 0) () h = (.refused .unavailable, h) := by
  intro r h
  obtain ⟨_, _, hresolves, _⟩ := ids_choose_devices (κ := Unit) twinMicrophones
  exact ⟨(hresolves h .input (r 2) () rfl).byPlace rfl 1 (by decide) rfl,
    (hresolves h .input (r 3) () rfl).beyond rfl (by decide),
    (hresolves h .output (r 2) () rfl).beyond rfl (by decide),
    (hresolves h .input (r 0) () rfl).noDefault rfl rfl⟩

end DesktopHost

end Passthrough
