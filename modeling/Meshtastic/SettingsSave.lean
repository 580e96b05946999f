import Meshtastic.KeyLookup
import Meshtastic.Lib.WriteBack
import Meshtastic.StoreExport

/-! Saving and loading the store (`meshtastic_settings.c`). Calls that change the store ask for a save, which a
work item makes later, entry by entry, while the store may change again; the power may fail at any time. -/

namespace Meshtastic
open Bytes WriteBack

def SETTINGS_SUBTREE : Octets := ascii "meshtastic/"

/-- The size of `full_name`, which the settings subsystem fixes; the firmware relies on its names to fit. -/
structure SettingsLimits where
  fullNameLen : Nat
  room : 50 < fullNameLen

/-- `MESHTASTIC_SETTINGS_SUBTREE "/%s"`. -/
def fullName (name : CString) : CString :=
  ⟨SETTINGS_SUBTREE ++ name.bytes, fun present =>
    (List.mem_append.mp present).elim (by decide) name.noNul⟩

def subtreeKey (name : CString) : Option CString :=
  if SETTINGS_SUBTREE.isPrefixOf name.bytes then
    some ⟨name.bytes.drop SETTINGS_SUBTREE.length, fun present => name.noNul (List.mem_of_mem_drop present)⟩
  else none

/-- `settings_save_one`, when it succeeds: one record for each name. -/
def settingsSaveOne (flash : List StoredRecord) (record : StoredRecord) : List StoredRecord :=
  flash.filter (fun other => other.name ≠ record.name) ++ [record]

/-- The device between its calls. `seed` and `live` are what `meshtastic_init` makes of the configuration that is
built into the firmware. -/
structure Firmware where
  build : StoreBuild
  codec : StoreCodec
  limits : SettingsLimits
  seed : StoreRecords
  live : Live
  valid : seed.Valid
  ends : live.table.KeyEnds

/-- `flash` holds the records of the subtree. `saved` remembers the store from which the record of an entry was
made; the code does not. -/
structure Persistence where
  settings : SettingsState
  flash : List StoredRecord
  progress : Progress StoreKey
  saved : StoreKey → Option StoreRecords

inductive PersistenceMove where
  /-- a call up to the point where it asks for a save -/
  | call (call : SettingsCall)
  /-- `meshtastic_settings_schedule_save` of a call that succeeded -/
  | schedule
  /-- the delay has passed -/
  | fire
  | flush
  /-- the running export goes on to its next entry, and storage answers -/
  | save (answer : Option Errno)
  /-- the power fails; the records are loaded in the order in which storage has them -/
  | reboot (order : List StoredRecord)

def SettingsCall.schedules : SettingsCall → Bool
  | setChannel _ _ => true
  | setConfig _ => true
  | setModule _ => true
  | setDeviceRole _ => true
  | setRebroadcastMode _ => true
  | settingSet _ _ => false
  | applyCore => false

section
variable (firmware : Firmware)

/-- `settings_set_cb`, given the length of a record and what is read of it. Every failure is ignored. -/
def settingsSetCb (store : StoreRecords) (key : CString) (len : Nat) (read : Option Octets) : StoreRecords :=
  if len > STORE_VALUE_MAX then store
  else
    match read with
    | none => store
    | some buf =>
      if buf.length ≠ len then store
      else (settingSet firmware.build firmware.codec store (some key) (some buf)).2

/-- `settings_load_subtree`. -/
def settingsLoad (store : StoreRecords) (records : List StoredRecord) : StoreRecords :=
  records.foldl (fun store record =>
    match subtreeKey record.name with
    | none => store
    | some key => settingsSetCb firmware store key record.value.length (some record.value)) store

/-- `settings_export_prefixed` with storage as the export function. -/
def settingsExportPrefixed (flash : List StoredRecord) (record : StoredRecord) (answer : Option Errno) :
    Except Errno (List StoredRecord) :=
  if (fullName record.name).bytes.length ≥ firmware.limits.fullNameLen then .error .einval
  else
    match answer with
    | some err => .error err
    | none => .ok (settingsSaveOne flash ⟨fullName record.name, record.value⟩)

namespace Persistence

def saveEntry (device : Persistence) (key : StoreKey) (rest : List StoreKey) (answer : Option Errno) : Persistence :=
  match settingGet firmware.build firmware.codec device.settings.store (some key.name) STORE_VALUE_MAX with
  | .error _ => { device with progress := device.progress.giveUp }
  | .ok value =>
    match settingsExportPrefixed firmware device.flash ⟨key.name, value⟩ answer with
    | .error _ => { device with progress := device.progress.giveUp }
    | .ok flash =>
      { device with
        flash := flash
        progress := device.progress.wrote rest
        saved := Function.update device.saved key (some device.settings.store) }

/-- `settings_save_subtree` begins. The settings subsystem holds a lock for the whole of a save, so that two do not
overlap. -/
def beginSave (device : Persistence) : Option Persistence :=
  match device.progress.saving with
  | some _ => none
  | none => some { device with progress := device.progress.begin exportedKeys }

/-- `meshtastic_init`, as far as the store goes. -/
def boot (order : List StoredRecord) (device : Persistence) : Option Persistence :=
  (applyCore firmware.build ⟨settingsLoad firmware firmware.seed order, firmware.live⟩).map fun settings =>
    { device with settings := settings, progress := {} }

def step (device : Persistence) : PersistenceMove → Option Persistence
  | .call call =>
    if call.schedules then
      (device.settings.call firmware.build firmware.codec call).map fun done =>
        { device with
          settings := done.2
          progress := if done.1.isNone then device.progress.owe else device.progress }
    else none
  | .schedule =>
    if device.progress.owed = 0 then none else some { device with progress := device.progress.ask }
  | .fire => if device.progress.armed then device.beginSave else none
  | .flush => device.beginSave
  | .save answer =>
    match device.progress.saving with
    | some (key :: rest) => some (device.saveEntry firmware key rest answer)
    | _ => none
  | .reboot order => if order.isPerm device.flash then device.boot firmware order else none

def factory : Persistence :=
  { settings := ⟨firmware.seed, firmware.live⟩, flash := [], progress := {}, saved := fun _ => none }

end Persistence

end

/-! ## Names -/

theorem fullName_injective : Function.Injective fullName := by
  intro name other same
  have bytes : SETTINGS_SUBTREE ++ name.bytes = SETTINGS_SUBTREE ++ other.bytes := congrArg CString.bytes same
  exact CString.eq_of_bytes (List.append_cancel_left bytes)

theorem subtreeKey_fullName (name : CString) : subtreeKey (fullName name) = some name := by
  have own : SETTINGS_SUBTREE.isPrefixOf (fullName name).bytes = true :=
    List.isPrefixOf_iff_prefix.mpr (List.prefix_append SETTINGS_SUBTREE name.bytes)
  have behind : (fullName name).bytes.drop SETTINGS_SUBTREE.length = name.bytes := List.drop_left
  simp only [subtreeKey, own, if_true, Option.some.injEq]
  exact CString.eq_of_bytes behind

theorem StoreKey.name_length_le (key : StoreKey) : key.name.bytes.length ≤ 39 := by
  cases key with
  | owner => decide
  | channel i => exact List.length_take_le _ _
  | config i => exact List.length_take_le _ _
  | module i => exact List.length_take_le _ _

theorem fullName_fits (limits : SettingsLimits) (key : StoreKey) :
    ¬ (fullName key.name).bytes.length ≥ limits.fullNameLen := by
  have room := limits.room
  have bound := key.name_length_le
  have subtree : SETTINGS_SUBTREE.length = 11 := rfl
  have whole : (fullName key.name).bytes.length = SETTINGS_SUBTREE.length + key.name.bytes.length := List.length_append
  omega

/-! ## Entries -/

namespace StoreRecords

theorem SameAt.refl (store : StoreRecords) (key : StoreKey) : store.SameAt store key := by
  cases key with
  | owner => exact ⟨rfl, rfl⟩
  | channel i => rfl
  | config i => rfl
  | module i => rfl

theorem SameAt.common {reference store other : StoreRecords} {key : StoreKey} (same : reference.SameAt store key)
    (also : reference.SameAt other key) : store.SameAt other key := by
  cases key with
  | owner => exact ⟨also.1.trans same.1.symm, also.2.trans same.2.symm⟩
  | channel i => exact Eq.trans also same.symm
  | config i => exact Eq.trans also same.symm
  | module i => exact Eq.trans also same.symm

theorem sameAt_takeOver_of_ne {reference other store : StoreRecords} {key another : StoreKey}
    (apart : another ≠ key) :
    reference.SameAt (other.takeOver store key) another ↔ reference.SameAt other another := by
  cases another with
  | owner =>
    cases key with
    | owner => exact absurd rfl apart
    | _ => exact Iff.rfl
  | channel j =>
    cases key with
    | channel i =>
      have slots : j ≠ i := fun equal => apart (congrArg StoreKey.channel equal)
      simp only [SameAt, takeOver, withChannel, storeChannel, Function.update_of_ne slots]
    | _ => exact Iff.rfl
  | config j =>
    cases key with
    | config i =>
      have sections : j ≠ i := fun equal => apart (congrArg StoreKey.config equal)
      simp only [SameAt, takeOver, withConfig, Function.update_of_ne sections]
    | _ => exact Iff.rfl
  | module j =>
    cases key with
    | module i =>
      have sections : j ≠ i := fun equal => apart (congrArg StoreKey.module equal)
      simp only [SameAt, takeOver, withModule, Function.update_of_ne sections]
    | _ => exact Iff.rfl

end StoreRecords

theorem encodeRecord_ok {payload value : Octets} (encoded : encodeRecord payload STORE_VALUE_MAX = .ok value) :
    STORE_RECORD_HEADER_LEN + payload.length ≤ STORE_VALUE_MAX := by
  have header : STORE_RECORD_HEADER_LEN = 4 := rfl
  have size : STORE_VALUE_MAX = 256 := rfl
  unfold encodeRecord at encoded
  split_ifs at encoded with short long
  omega

section
variable {build : StoreBuild} {codec : StoreCodec} {store : StoreRecords} {key : StoreKey} {value : Octets}

theorem settingGet_ok (read : settingGet build codec store (some key.name) STORE_VALUE_MAX = .ok value) :
    STORE_RECORD_HEADER_LEN + (store.payload codec key).length ≤ STORE_VALUE_MAX ∧
      value = (store.exported codec key).value := by
  have fits : STORE_RECORD_HEADER_LEN + (store.payload codec key).length ≤ STORE_VALUE_MAX := by
    simp only [settingGet, parseKey_name] at read
    cases key with
    | owner =>
      change STORE_RECORD_HEADER_LEN + ([] : Octets).length ≤ STORE_VALUE_MAX
      decide
    | channel i => exact encodeRecord_ok read
    | config i => exact encodeRecord_ok read
    | module i => exact encodeRecord_ok read
  refine ⟨fits, ?_⟩
  rw [settingGet_exported key fits] at read
  exact (Except.ok.inj read).symm

theorem exported_length_le
    (fits : STORE_RECORD_HEADER_LEN + (store.payload codec key).length ≤ STORE_VALUE_MAX) :
    (store.exported codec key).value.length ≤ STORE_VALUE_MAX := by
  have header : ∀ payload : Octets,
      ([STORE_RECORD_VERSION, 0] ++ le16 payload.length ++ payload).length = STORE_RECORD_HEADER_LEN + payload.length := by
    intro payload
    simp only [List.length_append, le16]
    rfl
  cases key with
  | owner =>
    have long := (CharArray.copyString store.longName.text : CharArray OWNER_LONG_NAME_LEN).length_eq
    have short := (CharArray.copyString store.shortName.text : CharArray OWNER_SHORT_NAME_LEN).length_eq
    simp only [StoreRecords.exported, List.length_cons, List.length_append, long, short]
    decide
  | channel i => exact (header _).trans_le fits
  | config i => exact (header _).trans_le fits
  | module i => exact (header _).trans_le fits

end

/-! ## Records in storage -/

section
variable {firmware : Firmware}

/-- The record in storage of an entry that was saved from `store`. -/
def Firmware.record (firmware : Firmware) (store : StoreRecords) (key : StoreKey) : StoredRecord :=
  ⟨fullName key.name, (store.exported firmware.codec key).value⟩

/-- A store whose entry can be read back from its record. -/
structure Firmware.Restores (firmware : Firmware) (store : StoreRecords) (key : StoreKey) : Prop where
  valid : store.Valid
  decodes : store.Decodes firmware.codec
  fits : STORE_RECORD_HEADER_LEN + (store.payload firmware.codec key).length ≤ STORE_VALUE_MAX

theorem Firmware.record_name {store other : StoreRecords} {key another : StoreKey}
    (same : (firmware.record store key).name = (firmware.record other another).name) : key = another :=
  StoreKey.name_injective (fullName_injective same)

/-- Storage holds one record for each entry that was ever saved, made from the store of then. -/
def Records (firmware : Firmware) (saved : StoreKey → Option StoreRecords) (flash : List StoredRecord) : Prop :=
  ∀ record, record ∈ flash ↔ ∃ key store, saved key = some store ∧ record = firmware.record store key

theorem Records.saveOne {saved : StoreKey → Option StoreRecords} {flash : List StoredRecord}
    (records : Records firmware saved flash) (key : StoreKey) (store : StoreRecords) :
    Records firmware (Function.update saved key (some store)) (settingsSaveOne flash (firmware.record store key)) := by
  intro record
  rw [settingsSaveOne, List.mem_append, List.mem_filter, List.mem_singleton, records record]
  constructor
  · intro found
    rcases found with ⟨⟨another, other, kept, made⟩, apart⟩ | made
    · refine ⟨another, other, ?_, made⟩
      have different : another ≠ key := by
        intro same
        rw [made, same] at apart
        exact (of_decide_eq_true apart) rfl
      rw [Function.update_of_ne different]
      exact kept
    · exact ⟨key, store, Function.update_self _ _ _, made⟩
  · intro found
    obtain ⟨another, other, kept, made⟩ := found
    by_cases same : another = key
    · right
      rw [same, Function.update_self] at kept
      rw [made, same, ← Option.some.inj kept]
    · left
      rw [Function.update_of_ne same] at kept
      refine ⟨⟨another, other, kept, made⟩, ?_⟩
      rw [decide_eq_true_iff, made]
      exact fun equal => same (Firmware.record_name equal)

theorem settingsLoad_record {saved : StoreRecords} {key : StoreKey} (restores : firmware.Restores saved key)
    (store : StoreRecords) (later : List StoredRecord) :
    settingsLoad firmware store (firmware.record saved key :: later) =
      settingsLoad firmware (store.takeOver saved key) later := by
  have size : ¬ (saved.exported firmware.codec key).value.length > STORE_VALUE_MAX :=
    Nat.not_lt.mpr (exported_length_le restores.fits)
  simp only [settingsLoad, List.foldl_cons, Firmware.record, subtreeKey_fullName, settingsSetCb, if_neg size,
    ne_eq, not_true_eq_false, if_false,
    settingSet_exported restores.valid restores.decodes key restores.fits store]

theorem settingsLoad_sameAt {saved : StoreKey → Option StoreRecords}
    (restores : ∀ key store, saved key = some store → firmware.Restores store key) (key : StoreKey)
    {records : List StoredRecord}
    (made : ∀ record ∈ records, ∃ key store, saved key = some store ∧ record = firmware.record store key)
    {before : StoreRecords} (fallback : StoreRecords)
    (here : ((saved key).getD fallback).SameAt before key ∨
      ∃ store, saved key = some store ∧ firmware.record store key ∈ records) :
    ((saved key).getD fallback).SameAt (settingsLoad firmware before records) key := by
  induction records generalizing before with
  | nil =>
    rcases here with same | ⟨store, -, none⟩
    · exact same
    · cases none
  | cons record later ih =>
    obtain ⟨another, store, kept, same⟩ := made record List.mem_cons_self
    have rest := restores another store kept
    rw [same, settingsLoad_record rest]
    apply ih (fun record member => made record (List.mem_cons_of_mem _ member))
    by_cases own : key = another
    · left
      rw [own, kept]
      exact StoreRecords.sameAt_takeOver rest.valid before another
    · rcases here with before | ⟨last, saved, present⟩
      · exact Or.inl ((StoreRecords.sameAt_takeOver_of_ne own).mpr before)
      · right
        refine ⟨last, saved, ?_⟩
        rcases List.mem_cons.mp present with first | behind
        · rw [same] at first
          exact absurd (Firmware.record_name (congrArg StoredRecord.name first)) own
        · exact behind

theorem settingsSetCb_valid {store : StoreRecords} (valid : store.Valid) (key : CString) (len : Nat)
    (read : Option Octets) : (settingsSetCb firmware store key len read).Valid := by
  unfold settingsSetCb
  split_ifs
  · exact valid
  · cases read with
    | none => exact valid
    | some buf =>
      simp only
      split_ifs
      · exact valid
      · have outcome : Outcome store (settingSet firmware.build firmware.codec store (some key) (some buf)).1
            (settingSet firmware.build firmware.codec store (some key) (some buf)).2 := settingSet_outcome _ _ _
        rcases outcome with ⟨-, kept⟩ | ⟨-, written⟩
        · rw [kept]
          exact valid
        · exact valid.write written

theorem settingsLoad_valid {store : StoreRecords} (valid : store.Valid) (records : List StoredRecord) :
    (settingsLoad firmware store records).Valid := by
  induction records generalizing store with
  | nil => exact valid
  | cons record later ih =>
    rw [settingsLoad, List.foldl_cons, ← settingsLoad]
    apply ih
    cases subtreeKey record.name with
    | none => exact valid
    | some key => exact settingsSetCb_valid valid key _ _

end

/-! ## Runs -/

namespace Persistence

/-- Storage can be loaded, and an entry that storage does not have as it is now is due to be saved. -/
structure Kept (firmware : Firmware) (device : Persistence) : Prop where
  valid : device.settings.store.Valid
  restores : ∀ key store, device.saved key = some store → firmware.Restores store key
  records : Records firmware device.saved device.flash
  covers : device.progress.Covers fun key => ((device.saved key).getD firmware.seed).SameAt device.settings.store key

/-- nanopb reads back what it wrote of a store from which an entry is saved. -/
def ReadsBack (firmware : Firmware) (device : Persistence) : PersistenceMove → Prop
  | .save _ => device.settings.store.Decodes firmware.codec
  | _ => True

section
variable {firmware : Firmware} {device next : Persistence}

theorem factory_kept (firmware : Firmware) : Kept firmware (factory firmware) where
  valid := firmware.valid
  restores := fun _ _ never => nomatch never
  records := by
    intro record
    constructor
    · intro none
      cases none
    · intro found
      obtain ⟨key, store, never, -⟩ := found
      cases never
  covers := Progress.Covers.of_fresh fun key => StoreRecords.SameAt.refl firmware.seed key

theorem boot_outcome {order : List StoredRecord} (booted : device.boot firmware order = some next) :
    next.saved = device.saved ∧ next.flash = device.flash ∧ next.progress = {} ∧
      next.settings.store = settingsLoad firmware firmware.seed order := by
  obtain ⟨settings, applied, same⟩ := Option.map_eq_some_iff.mp booted
  cases same
  exact ⟨rfl, rfl, rfl, applyCore_store applied⟩

theorem Kept.loaded_sameAt (kept : Kept firmware device) {order : List StoredRecord} (permuted : order.Perm device.flash)
    (key : StoreKey) :
    ((device.saved key).getD firmware.seed).SameAt (settingsLoad firmware firmware.seed order) key := by
  apply settingsLoad_sameAt kept.restores
  · intro record member
    exact (kept.records record).mp (permuted.mem_iff.mp member)
  · cases saved : device.saved key with
    | none =>
      left
      exact StoreRecords.SameAt.refl firmware.seed key
    | some store =>
      right
      refine ⟨store, rfl, ?_⟩
      rw [permuted.mem_iff, kept.records]
      exact ⟨key, store, saved, rfl⟩

/-- What a boot makes of the records in storage: each entry is loaded as `expected` has it, the boot returns exactly
when the primary slot of the firmware is not loaded as one that takes its key from itself, and the loaded store is
the one that runs then. -/
structure Finds (firmware : Firmware) (device : Persistence) (order : List StoredRecord)
    (expected : StoreKey → StoreRecords) : Prop where
  loaded : ∀ key, (expected key).SameAt (settingsLoad firmware firmware.seed order) key
  returns_iff : (∃ rebooted, device.boot firmware order = some rebooted) ↔
    (((expected (.channel firmware.live.table.primaryIndex)).channels firmware.live.table.primaryIndex).Inherits →
      ∃ j, j < firmware.live.table.primaryIndex ∧ ((expected (.channel j)).channels j).role = .primary)
  runs : ∀ rebooted, device.boot firmware order = some rebooted →
    rebooted.settings.store = settingsLoad firmware firmware.seed order

theorem Finds.of_loaded {order : List StoredRecord} {expected : StoreKey → StoreRecords}
    (loaded : ∀ key, (expected key).SameAt (settingsLoad firmware firmware.seed order) key) :
    Finds firmware device order expected where
  loaded := loaded
  returns_iff := by
    have channels : ∀ i, (settingsLoad firmware firmware.seed order).channels i = (expected (.channel i)).channels i :=
      fun i => loaded (.channel i)
    have applied := @applyCore_returns_iff firmware.build
      ⟨settingsLoad firmware firmware.seed order, firmware.live⟩ firmware.ends
    simp only [SettingsState.ReplayEnds, channels] at applied
    rw [← applied]
    constructor
    · intro booted
      obtain ⟨rebooted, made⟩ := booted
      obtain ⟨settings, done, -⟩ := Option.map_eq_some_iff.mp made
      exact ⟨settings, done⟩
    · intro returned
      obtain ⟨settings, done⟩ := returned
      exact ⟨_, by rw [Persistence.boot, done]; rfl⟩
  runs := fun _ booted => (boot_outcome booted).2.2.2

theorem Kept.boot (kept : Kept firmware device) {order : List StoredRecord} (permuted : order.Perm device.flash)
    (booted : device.boot firmware order = some next) : Kept firmware next := by
  obtain ⟨saved, flash, -, store⟩ := boot_outcome booted
  have loaded := kept.loaded_sameAt permuted
  rw [← store] at loaded
  constructor
  · rw [store]
    exact settingsLoad_valid firmware.valid order
  · rw [saved]
    exact kept.restores
  · rw [saved, flash]
    exact kept.records
  · rw [saved]
    exact Progress.Covers.of_fresh loaded

theorem Kept.call (kept : Kept firmware device) {call : SettingsCall} {ret : Option Errno} {settings : SettingsState}
    (done : device.settings.call firmware.build firmware.codec call = some (ret, settings)) :
    Kept firmware { device with
      settings := settings
      progress := if ret.isNone then device.progress.owe else device.progress } := by
  rcases SettingsState.call_outcome done with ⟨failed, same⟩ | ⟨success, written⟩
  · cases ret with
    | none => exact absurd rfl failed
    | some err =>
      constructor
      · rw [same]
        exact kept.valid
      · exact kept.restores
      · exact kept.records
      · rw [same]
        exact kept.covers
  · rw [success]
    exact ⟨kept.valid.write written, kept.restores, kept.records, Progress.covers_owe _ _⟩

theorem Kept.wrote (kept : Kept firmware device) {key : StoreKey} {rest : List StoreKey}
    (saving : device.progress.saving = some (key :: rest)) (restores : firmware.Restores device.settings.store key) :
    Kept firmware { device with
      flash := settingsSaveOne device.flash (firmware.record device.settings.store key)
      progress := device.progress.wrote rest
      saved := Function.update device.saved key (some device.settings.store) } where
  valid := kept.valid
  restores := by
    intro another store saved
    by_cases own : another = key
    · simp only [own, Function.update_self, Option.some.injEq] at saved
      rw [own, ← saved]
      exact restores
    · simp only [Function.update_of_ne own] at saved
      exact kept.restores another store saved
  records := kept.records.saveOne key device.settings.store
  covers := by
    apply kept.covers.wrote saving
    · simp only [Function.update_self]
      exact StoreRecords.SameAt.refl device.settings.store key
    · intro another apart fresh
      simp only [Function.update_of_ne apart]
      exact fresh

theorem Kept.giveUp (kept : Kept firmware device) : Kept firmware { device with progress := device.progress.giveUp } :=
  ⟨kept.valid, kept.restores, kept.records, Progress.covers_giveUp _ _⟩

theorem saveEntry_stored {key : StoreKey} {rest : List StoreKey}
    (fits : STORE_RECORD_HEADER_LEN + (device.settings.store.payload firmware.codec key).length ≤ STORE_VALUE_MAX) :
    device.saveEntry firmware key rest none =
      { device with
        flash := settingsSaveOne device.flash (firmware.record device.settings.store key)
        progress := device.progress.wrote rest
        saved := Function.update device.saved key (some device.settings.store) } := by
  simp only [saveEntry, settingGet_exported key fits, settingsExportPrefixed,
    if_neg (fullName_fits firmware.limits key)]
  rfl

theorem saveEntry_outcome (key : StoreKey) (rest : List StoreKey) (answer : Option Errno) :
    device.saveEntry firmware key rest answer = { device with progress := device.progress.giveUp } ∨
      STORE_RECORD_HEADER_LEN + (device.settings.store.payload firmware.codec key).length ≤ STORE_VALUE_MAX ∧
        device.saveEntry firmware key rest answer =
          { device with
            flash := settingsSaveOne device.flash (firmware.record device.settings.store key)
            progress := device.progress.wrote rest
            saved := Function.update device.saved key (some device.settings.store) } := by
  cases read : settingGet firmware.build firmware.codec device.settings.store (some key.name) STORE_VALUE_MAX with
  | error err =>
    left
    simp only [saveEntry, read]
  | ok value =>
    cases answer with
    | some err =>
      left
      simp only [saveEntry, read, settingsExportPrefixed, if_neg (fullName_fits firmware.limits key)]
    | none =>
      have fits := (settingGet_ok read).1
      exact Or.inr ⟨fits, saveEntry_stored fits⟩

theorem Kept.beginSave (kept : Kept firmware device) (begun : device.beginSave = some next) : Kept firmware next := by
  unfold Persistence.beginSave at begun
  cases saving : device.progress.saving with
  | some rest =>
    rw [saving] at begun
    cases begun
  | none =>
    rw [saving] at begun
    cases begun
    exact ⟨kept.valid, kept.restores, kept.records, Progress.covers_begin _ _ mem_exportedKeys⟩

theorem Kept.step (device : Persistence) (move : PersistenceMove) (next : Persistence) (kept : Kept firmware device)
    (readsBack : ReadsBack firmware device move) (taken : device.step firmware move = some next) :
    Kept firmware next := by
  cases move with
  | call call =>
    simp only [Persistence.step] at taken
    split_ifs at taken
    obtain ⟨⟨ret, settings⟩, done, same⟩ := Option.map_eq_some_iff.mp taken
    rw [← same]
    exact kept.call done
  | schedule =>
    simp only [Persistence.step] at taken
    split_ifs at taken
    cases taken
    exact ⟨kept.valid, kept.restores, kept.records, Progress.covers_ask _ _⟩
  | fire =>
    simp only [Persistence.step] at taken
    split_ifs at taken
    exact kept.beginSave taken
  | flush => exact kept.beginSave taken
  | save answer =>
    cases saving : device.progress.saving with
    | none =>
      simp only [Persistence.step, saving] at taken
      cases taken
    | some keys =>
      cases keys with
      | nil =>
        simp only [Persistence.step, saving] at taken
        cases taken
      | cons key rest =>
        simp only [Persistence.step, saving] at taken
        cases taken
        rcases saveEntry_outcome key rest answer with failed | ⟨fits, written⟩
        · rw [failed]
          exact kept.giveUp
        · rw [written]
          exact kept.wrote saving ⟨kept.valid, readsBack, fits⟩
  | reboot order =>
    simp only [Persistence.step] at taken
    split_ifs at taken with permuted
    exact kept.boot (List.isPerm_iff.mp permuted) taken

theorem kept_run {moves : List PersistenceMove} {last : Persistence}
    (readsBack : Transition.Guarded (Persistence.step firmware) (ReadsBack firmware) (factory firmware) moves)
    (run : Transition.run (Persistence.step firmware) (factory firmware) moves = some last) : Kept firmware last :=
  Transition.run_invariant Kept.step (factory_kept firmware) readsBack run

/-- A save in which nothing fails, while no call comes in between, visits every entry. -/
theorem Kept.saveAll {key : StoreKey} {rest : List StoreKey} (kept : Kept firmware device)
    (saving : device.progress.saving = some (key :: rest)) (asked : device.progress.owed = 0)
    (quiet : device.progress.armed = false) (decodes : device.settings.store.Decodes firmware.codec)
    (fits : ∀ key, STORE_RECORD_HEADER_LEN + (device.settings.store.payload firmware.codec key).length ≤ STORE_VALUE_MAX) :
    ∃ last, Transition.run (Persistence.step firmware) device (List.replicate (rest.length + 1) (.save none)) = some last ∧
      last.settings = device.settings ∧ last.progress.Idle ∧ Kept firmware last := by
  induction rest generalizing device key with
  | nil =>
    refine ⟨_, ?_, ?_, ?_, kept.wrote saving ⟨kept.valid, decodes, fits key⟩⟩
    · simp only [List.length_nil, Nat.zero_add, List.replicate_one, Transition.run_cons_eq_some, Transition.run_nil,
        Persistence.step, saving, saveEntry_stored (fits key), Option.some.injEq, exists_eq_left']
    · rfl
    · exact ⟨asked, quiet, rfl, rfl⟩
  | cons after rest ih =>
    have written := kept.wrote saving ⟨kept.valid, decodes, fits key⟩
    obtain ⟨last, run, settings, idle, keptLast⟩ := ih written rfl asked quiet decodes fits
    refine ⟨last, ?_, settings, idle, keptLast⟩
    rw [List.length_cons, List.replicate_succ]
    apply Transition.run_cons_eq_some.mpr
    refine ⟨_, ?_, run⟩
    simp only [Persistence.step, saving, saveEntry_stored (fits key)]

end

end Persistence

/-! ## A firmware -/

instance (codec : StoreCodec) (store : StoreRecords) : Decidable (store.Decodes codec) :=
  decidable_of_iff
    ((∀ i, codec.decodeChannel (codec.encodeChannel (store.channels i)) = some (store.channels i)) ∧
      (∀ i, codec.decodeConfig (codec.encodeConfig (store.configs i)) = some (store.configs i)) ∧
      ∀ i, codec.decodeModule (codec.encodeModule (store.modules i)) = some (store.modules i))
    ⟨fun all => ⟨all.1, all.2.1, all.2.2⟩, fun decodes => ⟨decodes.channels, decodes.configs, decodes.modules⟩⟩

instance (firmware : Firmware) (device : Persistence) (move : PersistenceMove) :
    Decidable (Persistence.ReadsBack firmware device move) :=
  match move with
  | .save _ => inferInstanceAs (Decidable (StoreRecords.Decodes _ _))
  | .call _ | .schedule | .fire | .flush | .reboot _ => isTrue trivial

def plainFirmware : Firmware :=
  { build := plainBuild
    codec := wireCodec ((seedRecords plainBuild plainConfig plainLive).withChannel 1 openSecondary)
    limits := ⟨74, by decide⟩
    seed := seedRecords plainBuild plainConfig plainLive
    live := plainLive
    valid := @seedRecords_valid plainBuild plainConfig plainLive 0 (by decide) rfl (by decide) rfl rfl
    ends := fun inherits => absurd inherits.2.1 (by decide) }

def secondaryMoves : List PersistenceMove := [.call (.setChannel 1 (some openSecondary)), .schedule, .fire]

/-! ## Results -/

/-- Whatever was called, saved, given up or cut off by a power failure before, a boot loads each entry as it was
when its record was written last, and as the firmware seeds it if it never was. -/
theorem saved_entries_return (firmware : Firmware) (moves : List PersistenceMove) {last : Persistence}
    {order : List StoredRecord}
    (readsBack : Transition.Guarded (Persistence.step firmware) (Persistence.ReadsBack firmware)
      (Persistence.factory firmware) moves)
    (run : Transition.run (Persistence.step firmware) (Persistence.factory firmware) moves = some last)
    (stored : order.Perm last.flash) :
    Persistence.Finds firmware last order (fun key => (last.saved key).getD firmware.seed) :=
  Persistence.Finds.of_loaded ((Persistence.kept_run readsBack run).loaded_sameAt stored)

theorem saved_entries_return_tornSave :
    ∃ last, Transition.run (Persistence.step plainFirmware) (Persistence.factory plainFirmware)
        (secondaryMoves ++ List.replicate 3 (.save none)) = some last ∧
      (last.boot plainFirmware last.flash.reverse).isSome ∧
      Persistence.Finds plainFirmware last last.flash.reverse (fun key => (last.saved key).getD plainFirmware.seed) :=
  ⟨_, rfl, rfl, saved_entries_return plainFirmware (secondaryMoves ++ List.replicate 3 (.save none))
    (by decide +kernel) rfl (List.reverse_perm _)⟩

/-- A device that owes no save, has none armed or running and did not give up its last one loses nothing when
the power fails. -/
theorem idle_device_loses_nothing (firmware : Firmware) (moves : List PersistenceMove) {last : Persistence}
    {order : List StoredRecord}
    (readsBack : Transition.Guarded (Persistence.step firmware) (Persistence.ReadsBack firmware)
      (Persistence.factory firmware) moves)
    (run : Transition.run (Persistence.step firmware) (Persistence.factory firmware) moves = some last)
    (idle : last.progress.Idle) (stored : order.Perm last.flash) :
    Persistence.Finds firmware last order (fun _ => last.settings.store) := by
  have kept := Persistence.kept_run readsBack run
  apply Persistence.Finds.of_loaded
  intro key
  exact (kept.covers.idle idle key).common (kept.loaded_sameAt stored key)

theorem idle_device_loses_nothing_wholeSave :
    ∃ last, Transition.run (Persistence.step plainFirmware) (Persistence.factory plainFirmware)
        (secondaryMoves ++ List.replicate 35 (.save none)) = some last ∧
      (last.boot plainFirmware last.flash.reverse).isSome ∧
      Persistence.Finds plainFirmware last last.flash.reverse (fun _ => last.settings.store) :=
  ⟨_, rfl, rfl, idle_device_loses_nothing plainFirmware (secondaryMoves ++ List.replicate 35 (.save none))
    (by decide +kernel) rfl (by decide +kernel) (List.reverse_perm _)⟩

/-- A flush during which no call comes in and storage takes every record leaves a device that loses nothing. -/
theorem flush_makes_durable (firmware : Firmware) (moves : List PersistenceMove) {last : Persistence}
    (readsBack : Transition.Guarded (Persistence.step firmware) (Persistence.ReadsBack firmware)
      (Persistence.factory firmware) moves)
    (run : Transition.run (Persistence.step firmware) (Persistence.factory firmware) moves = some last)
    (free : last.progress.saving = none) (asked : last.progress.owed = 0)
    (decodes : last.settings.store.Decodes firmware.codec)
    (fits : ∀ key, STORE_RECORD_HEADER_LEN + (last.settings.store.payload firmware.codec key).length ≤ STORE_VALUE_MAX) :
    ∃ flushed, Transition.run (Persistence.step firmware) last
        (.flush :: List.replicate exportedKeys.length (.save none)) = some flushed ∧
      flushed.settings = last.settings ∧
      ∀ order, order.Perm flushed.flash → Persistence.Finds firmware flushed order (fun _ => last.settings.store) := by
  have kept := Persistence.kept_run readsBack run
  have begun : last.beginSave = some { last with progress := last.progress.begin exportedKeys } := by
    rw [Persistence.beginSave, free]
  obtain ⟨flushed, saved, settings, idle, keptFlushed⟩ :=
    (kept.beginSave begun).saveAll rfl asked rfl decodes fits
  refine ⟨flushed, Transition.run_cons_eq_some.mpr ⟨_, begun, saved⟩, settings, ?_⟩
  intro order stored
  apply Persistence.Finds.of_loaded
  intro key
  have fresh := keptFlushed.covers.idle idle key
  rw [settings] at fresh
  exact fresh.common (keptFlushed.loaded_sameAt stored key)

theorem flush_makes_durable_secondary :
    ∃ last flushed, Transition.run (Persistence.step plainFirmware) (Persistence.factory plainFirmware)
        [.call (.setChannel 1 (some openSecondary)), .schedule] = some last ∧
      Transition.run (Persistence.step plainFirmware) last
        (.flush :: List.replicate exportedKeys.length (.save none)) = some flushed ∧
      ∀ order, order.Perm flushed.flash →
        Persistence.Finds plainFirmware flushed order (fun _ => last.settings.store) := by
  have fits : ∀ key, STORE_RECORD_HEADER_LEN +
      ((plainFirmware.seed.withChannel 1 openSecondary).payload plainFirmware.codec key).length ≤ STORE_VALUE_MAX := by
    intro key
    cases key with
    | owner => decide
    | channel i =>
      revert i
      decide
    | config i =>
      revert i
      decide
    | module i =>
      revert i
      decide
  obtain ⟨flushed, saved, -, durable⟩ := flush_makes_durable plainFirmware
    [.call (.setChannel 1 (some openSecondary)), .schedule] (by decide +kernel) rfl rfl rfl (by decide +kernel) fits
  exact ⟨_, flushed, rfl, saved, durable⟩

end Meshtastic
