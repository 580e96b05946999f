import Meshtastic.StoreValidity

/-! What `meshtastic_config_store_export` writes can be loaded into any store in any order. Every record
goes back to the entry it came from, and no record touches another entry. -/

namespace Meshtastic
open Bytes

/-! ## Names -/

theorem CString.eq_of_bytes {text other : CString} (same : text.bytes = other.bytes) : text = other := by
  cases text
  cases other
  cases same
  rfl

namespace CharArray
variable {last : Nat}

theorem text_length_le {array : CharArray (last + 1)} (terminated : array.Terminated) :
    array.text.bytes.length ≤ last := by
  have shorter : array.text.bytes.length ≠ last + 1 := by
    intro whole
    have everything : array.bytes.takeWhile (· ≠ 0) = array.bytes := by
      apply (List.takeWhile_prefix _).eq_of_length
      rw [array.length_eq]
      exact whole
    have inside : (0 : UInt8) ∈ array.bytes.takeWhile (· ≠ 0) := by
      rw [everything]
      exact terminated
    have nonzero := List.mem_takeWhile_imp inside
    simp at nonzero
  have bound : array.text.bytes.length ≤ array.bytes.length := (List.takeWhile_prefix _).length_le
  rw [array.length_eq] at bound
  omega

private theorem takeWhile_nonzero_append_zero {front : Octets} (noNul : (0 : UInt8) ∉ front) (back : Octets) :
    (front ++ 0 :: back).takeWhile (· ≠ 0) = front := by
  rw [List.takeWhile_append_of_pos]
  · simp
  · intro c member
    simp only [ne_eq, decide_not, Bool.not_eq_eq_eq_not, Bool.not_true, decide_eq_false_iff_not]
    intro zero
    exact noNul (zero ▸ member)

theorem copyString_takeWhile (src : CString) :
    (copyString src : CharArray (last + 1)).bytes.takeWhile (· ≠ 0) = src.bytes.take last := by
  have room : ∃ count, last + 1 - (src.bytes.take last).length = count + 1 := by
    refine ⟨last - (src.bytes.take last).length, ?_⟩
    have bound : (src.bytes.take last).length ≤ last := List.length_take_le last src.bytes
    omega
  obtain ⟨count, same⟩ := room
  simp only [copyString, same, List.replicate_succ]
  exact takeWhile_nonzero_append_zero (fun present => src.noNul (List.mem_of_mem_take present)) _

theorem copyFixedString_text (dst : CharArray (last + 1)) (src : Octets) :
    (dst.copyFixedString src).text.bytes = (src.takeWhile (· ≠ 0)).take last := by
  apply takeWhile_nonzero_append_zero
  intro present
  have nonzero := List.mem_takeWhile_imp (List.mem_of_mem_take present)
  simp at nonzero

theorem copyFixedString_copyString (dst : CharArray (last + 1)) {src : CString} (short : src.bytes.length ≤ last) :
    (dst.copyFixedString (copyString src : CharArray (last + 1)).bytes).text = src := by
  have bytes : (dst.copyFixedString (copyString src : CharArray (last + 1)).bytes).text.bytes = src.bytes := by
    rw [copyFixedString_text, copyString_takeWhile, List.take_of_length_le short, List.take_of_length_le short]
  exact CString.eq_of_bytes bytes

end CharArray

/-! ## Records -/

theorem le16_toNat {value : Nat} (bound : value < 2 ^ 16) :
    (UInt8.ofNat value).toNat + (UInt8.ofNat (value / 2 ^ 8)).toNat * 2 ^ 8 = value := by
  simp only [UInt8.toNat_ofNat']
  omega

theorem encodeRecord_fits {payload : Octets} (fits : STORE_RECORD_HEADER_LEN + payload.length ≤ STORE_VALUE_MAX) :
    encodeRecord payload STORE_VALUE_MAX = .ok ([STORE_RECORD_VERSION, 0] ++ le16 payload.length ++ payload) := by
  have header : STORE_RECORD_HEADER_LEN = 4 := rfl
  have size : STORE_VALUE_MAX = 256 := rfl
  have small : payload.length % 2 ^ 16 = payload.length := by omega
  rw [encodeRecord, if_neg (by omega), if_neg (by omega), small]

theorem decodeRecord_encoded {Message : Type} {decode : Octets → Option Message} {payload : Octets} {message : Message}
    (fits : STORE_RECORD_HEADER_LEN + payload.length ≤ STORE_VALUE_MAX) (decoded : decode payload = some message) :
    decodeRecord decode ([STORE_RECORD_VERSION, 0] ++ le16 payload.length ++ payload) = .ok message := by
  have header : STORE_RECORD_HEADER_LEN = 4 := rfl
  have size : STORE_VALUE_MAX = 256 := rfl
  have bound : payload.length < 2 ^ 16 := by omega
  simp only [le16, List.cons_append, List.nil_append, decodeRecord, ne_eq, not_true_eq_false, if_false,
    le16_toNat bound, decoded]

/-! ## Keys -/

section
variable (build : StoreBuild)

private theorem channel_name_digits : ∀ i : SlotIndex,
    keySuffix "channel/" (StoreKey.channel i).name.bytes = some (ascii (toString i.val)) ∧
    (StoreKey.channel i).name.bytes ≠ ascii "owner" ∧ ascii (toString i.val) ≠ [] ∧
    takeSign ((ascii (toString i.val)).dropWhile isSpace) = (false, ascii (toString i.val)) ∧
    (ascii (toString i.val)).takeWhile isDigit = ascii (toString i.val) ∧
    (ascii (toString i.val)).dropWhile isDigit = [] ∧ decimalValue (ascii (toString i.val)) = i.val := by
  decide

theorem strtoul_slot (i : SlotIndex) : strtoul build (ascii (toString i.val)) = (i.val, []) := by
  obtain ⟨-, -, digits, sign, taken, rest, value⟩ := channel_name_digits i
  have range : ¬ i.val ≥ 2 ^ build.ulongBits := by
    have wide : 2 ^ 32 ≤ 2 ^ build.ulongBits := Nat.pow_le_pow_right (by decide) build.ulongBits_ge
    have small := i.isLt
    have eight : MAX_CHANNELS = 8 := rfl
    omega
  simp only [strtoul, sign, taken, rest, value, if_neg digits, if_neg range]
  rfl

theorem parseChannelIndex_slot (i : SlotIndex) : parseChannelIndex build (ascii (toString i.val)) = some i := by
  obtain ⟨-, -, digits, -⟩ := channel_name_digits i
  simp only [parseChannelIndex, if_neg digits, strtoul_slot, ne_eq, not_true_eq_false, if_false, i.isLt, dif_pos]

theorem parseKey_name (key : StoreKey) : parseKey build key.name = .ok key := by
  cases key with
  | owner => exact if_pos (by decide)
  | channel i =>
    obtain ⟨suffix, named, -⟩ := channel_name_digits i
    simp only [parseKey, if_neg named, suffix, parseChannelIndex_slot]
  | config i =>
    have closed : ∀ i : Fin CONFIG_COUNT, (StoreKey.config i).name.bytes ≠ ascii "owner" ∧
        keySuffix "channel/" (StoreKey.config i).name.bytes = none ∧
        keySuffix "config/" (StoreKey.config i).name.bytes = some (ascii (configTable i).name) ∧
        indexForName configTable (ascii (configTable i).name) = some i := by decide
    obtain ⟨named, other, suffix, found⟩ := closed i
    simp only [parseKey, if_neg named, other, suffix, found]
  | module i =>
    have closed : ∀ i : Fin MODULE_COUNT, (StoreKey.module i).name.bytes ≠ ascii "owner" ∧
        keySuffix "channel/" (StoreKey.module i).name.bytes = none ∧
        keySuffix "config/" (StoreKey.module i).name.bytes = none ∧
        keySuffix "module/" (StoreKey.module i).name.bytes = some (ascii (moduleTable i).name) ∧
        indexForName moduleTable (ascii (moduleTable i).name) = some i := by decide +kernel
    obtain ⟨named, other, another, suffix, found⟩ := closed i
    simp only [parseKey, if_neg named, other, another, suffix, found]

theorem StoreKey.name_injective : Function.Injective StoreKey.name := by
  intro key other same
  have parsed := parseKey_name plainBuild key
  rw [same, parseKey_name] at parsed
  exact (Except.ok.inj parsed).symm

end

theorem mem_exportedKeys (key : StoreKey) : key ∈ exportedKeys := by
  cases key with
  | owner => exact List.mem_cons_self
  | channel i => simp [exportedKeys]
  | config i => simp [exportedKeys]
  | module i => simp [exportedKeys]

theorem exportedKeys_nodup : exportedKeys.Nodup := by decide

/-! ## One record -/

namespace StoreRecords

/-- nanopb's serialisation of an entry; the owner record is written by hand. -/
def payload (codec : StoreCodec) (store : StoreRecords) : StoreKey → Octets
  | .owner => []
  | .channel index => codec.encodeChannel (store.channels index)
  | .config index => codec.encodeConfig (store.configs index)
  | .module index => codec.encodeModule (store.modules index)

def exported (codec : StoreCodec) (store : StoreRecords) (key : StoreKey) : StoredRecord :=
  { name := key.name
    value :=
      match key with
      | .owner =>
        STORE_RECORD_VERSION :: ((CharArray.copyString store.longName.text : CharArray OWNER_LONG_NAME_LEN).bytes ++
          (CharArray.copyString store.shortName.text : CharArray OWNER_SHORT_NAME_LEN).bytes)
      | key => [STORE_RECORD_VERSION, 0] ++ le16 (store.payload codec key).length ++ store.payload codec key }

def takeOver (other store : StoreRecords) : StoreKey → StoreRecords
  | .owner =>
    { other with
      longName := other.longName.copyFixedString
        (CharArray.copyString store.longName.text : CharArray OWNER_LONG_NAME_LEN).bytes
      shortName := other.shortName.copyFixedString
        (CharArray.copyString store.shortName.text : CharArray OWNER_SHORT_NAME_LEN).bytes }
  | .channel index => other.withChannel index (store.channels index)
  | .config index => other.withConfig index (store.configs index)
  | .module index => other.withModule index (store.modules index)

/-- Two stores hold the same under a key. Behind the end of a name they may differ. -/
def SameAt (store other : StoreRecords) : StoreKey → Prop
  | .owner => other.longName.text = store.longName.text ∧ other.shortName.text = store.shortName.text
  | .channel index => other.channels index = store.channels index
  | .config index => other.configs index = store.configs index
  | .module index => other.modules index = store.modules index

/-- nanopb decodes what it encoded of this store. -/
structure Decodes (codec : StoreCodec) (store : StoreRecords) : Prop where
  channels : ∀ i, codec.decodeChannel (codec.encodeChannel (store.channels i)) = some (store.channels i)
  configs : ∀ i, codec.decodeConfig (codec.encodeConfig (store.configs i)) = some (store.configs i)
  modules : ∀ i, codec.decodeModule (codec.encodeModule (store.modules i)) = some (store.modules i)

end StoreRecords

section
variable {build : StoreBuild} {codec : StoreCodec} {store : StoreRecords}

theorem settingGet_exported (key : StoreKey)
    (fits : STORE_RECORD_HEADER_LEN + (store.payload codec key).length ≤ STORE_VALUE_MAX) :
    settingGet build codec store (some key.name) STORE_VALUE_MAX = .ok (store.exported codec key).value := by
  simp only [settingGet, parseKey_name]
  cases key with
  | owner => rfl
  | channel i => exact encodeRecord_fits fits
  | config i => exact encodeRecord_fits fits
  | module i => exact encodeRecord_fits fits

theorem settingSetOwner_exported (other : StoreRecords) :
    settingSetOwner other (store.exported codec .owner).value = (none, other.takeOver store .owner) := by
  have long := (CharArray.copyString store.longName.text : CharArray OWNER_LONG_NAME_LEN).length_eq
  have short := (CharArray.copyString store.shortName.text : CharArray OWNER_SHORT_NAME_LEN).length_eq
  have size : (store.exported codec .owner).value.length = 1 + OWNER_LONG_NAME_LEN + OWNER_SHORT_NAME_LEN := by
    simp only [StoreRecords.exported, List.length_cons, List.length_append, long, short]
    rfl
  have version : (store.exported codec .owner).value.head? = some STORE_RECORD_VERSION := rfl
  have names : (store.exported codec .owner).value.drop 1 =
      (CharArray.copyString store.longName.text : CharArray OWNER_LONG_NAME_LEN).bytes ++
        (CharArray.copyString store.shortName.text : CharArray OWNER_SHORT_NAME_LEN).bytes := rfl
  rw [settingSetOwner, if_neg (by rw [size, version]; exact fun wrong => wrong.elim (· rfl) (· rfl)),
    ← List.drop_drop, names, List.take_left' long, List.drop_left' long]
  rfl

theorem settingSet_exported (valid : store.Valid) (decodes : store.Decodes codec) (key : StoreKey)
    (fits : STORE_RECORD_HEADER_LEN + (store.payload codec key).length ≤ STORE_VALUE_MAX) (other : StoreRecords) :
    settingSet build codec other (some key.name) (some (store.exported codec key).value) =
      (none, other.takeOver store key) := by
  simp only [settingSet, parseKey_name]
  cases key with
  | owner => exact settingSetOwner_exported other
  | channel i =>
    simp only [StoreRecords.exported, StoreRecords.payload] at fits ⊢
    simp only [decodeRecord_encoded fits (decodes.channels i), (valid.channels i).1, if_true]
    rfl
  | config i =>
    simp only [StoreRecords.exported, StoreRecords.payload] at fits ⊢
    simp only [decodeRecord_encoded fits (decodes.configs i), if_pos (valid.configs i)]
    rfl
  | module i =>
    have accepted : moduleMessageIsValid (store.modules i) = true := by
      rw [moduleMessageIsValid, valid.modules i]
      exact indexForTag_own i
    simp only [StoreRecords.exported, StoreRecords.payload] at fits ⊢
    simp only [decodeRecord_encoded fits (decodes.modules i), if_pos (And.intro (valid.modules i) accepted)]
    rfl

namespace StoreRecords

theorem Valid.storedChannel (valid : store.Valid) (i : SlotIndex) :
    { store.channels i with index := (i.val : Int) } = store.channels i := by
  rw [← (valid.channels i).2]

theorem sameAt_takeOver (valid : store.Valid) (other : StoreRecords) (key : StoreKey) :
    store.SameAt (other.takeOver store key) key := by
  cases key with
  | owner =>
    exact ⟨CharArray.copyFixedString_copyString _ (CharArray.text_length_le valid.longName),
      CharArray.copyFixedString_copyString _ (CharArray.text_length_le valid.shortName)⟩
  | channel i =>
    simp only [SameAt, takeOver, withChannel, storeChannel, Function.update_self]
    exact valid.storedChannel i
  | config i => simp only [SameAt, takeOver, withConfig, Function.update_self]
  | module i => simp only [SameAt, takeOver, withModule, Function.update_self]

theorem SameAt.takeOver {other : StoreRecords} {another : StoreKey} (same : store.SameAt other another)
    (valid : store.Valid) (key : StoreKey) : store.SameAt (other.takeOver store key) another := by
  by_cases here : another = key
  · rw [here]
    exact sameAt_takeOver valid other key
  · cases key with
    | owner =>
      cases another with
      | owner => exact absurd rfl here
      | channel j => exact same
      | config j => exact same
      | module j => exact same
    | channel i =>
      cases another with
      | channel j =>
        have apart : j ≠ i := fun equal => here (congrArg StoreKey.channel equal)
        simp only [SameAt, StoreRecords.takeOver, withChannel, storeChannel, Function.update_of_ne apart]
        exact same
      | owner => exact same
      | config j => exact same
      | module j => exact same
    | config i =>
      cases another with
      | config j =>
        have apart : j ≠ i := fun equal => here (congrArg StoreKey.config equal)
        simp only [SameAt, StoreRecords.takeOver, withConfig, Function.update_of_ne apart]
        exact same
      | owner => exact same
      | channel j => exact same
      | module j => exact same
    | module i =>
      cases another with
      | module j =>
        have apart : j ≠ i := fun equal => here (congrArg StoreKey.module equal)
        simp only [SameAt, StoreRecords.takeOver, withModule, Function.update_of_ne apart]
        exact same
      | owner => exact same
      | channel j => exact same
      | config j => exact same

end StoreRecords

/-! ## All records -/

theorem exportLoop_accepted {exportFunc : ExportFunc} (accepts : ∀ before record, exportFunc before record = none)
    (fits : ∀ key, STORE_RECORD_HEADER_LEN + (store.payload codec key).length ≤ STORE_VALUE_MAX)
    (keys : List StoreKey) (emitted : List StoredRecord) :
    exportLoop build codec store exportFunc keys emitted = (none, emitted ++ keys.map (store.exported codec)) := by
  induction keys generalizing emitted with
  | nil => simp [exportLoop]
  | cons key rest ih =>
    have named : (⟨key.name, (store.exported codec key).value⟩ : StoredRecord) = store.exported codec key := rfl
    simp only [exportLoop, exportOne, settingGet_exported key (fits key), accepts, named, ih, List.map_cons,
      List.append_assoc, List.singleton_append]

theorem loadRecords_exported (valid : store.Valid) (decodes : store.Decodes codec)
    (fits : ∀ key, STORE_RECORD_HEADER_LEN + (store.payload codec key).length ≤ STORE_VALUE_MAX)
    {records : List StoredRecord} (all : ∀ record ∈ records, ∃ key, record = store.exported codec key)
    (other : StoreRecords) :
    ∃ last, Transition.run (loadRecord build codec) other records = some last ∧
      ∀ key, store.exported codec key ∈ records → store.SameAt last key := by
  have single : ∀ record ∈ records, ∀ state, ∃ next, loadRecord build codec state record = some next ∧
      (∀ key, key.name = record.name → store.SameAt next key) ∧
      ∀ another : StoredRecord, (∀ key, key.name = another.name → store.SameAt state key) →
        ∀ key, key.name = another.name → store.SameAt next key := by
    intro record member state
    obtain ⟨key, same⟩ := all record member
    refine ⟨state.takeOver store key, ?_, ?_, ?_⟩
    · have loaded : settingSet build codec state (some (store.exported codec key).name)
          (some (store.exported codec key).value) = (none, state.takeOver store key) :=
        settingSet_exported valid decodes key (fits key) state
      rw [same, loadRecord, loaded]
    · intro other named
      rw [same] at named
      rw [StoreKey.name_injective named]
      exact StoreRecords.sameAt_takeOver valid state key
    · intro another holds other named
      exact (holds other named).takeOver valid key
  obtain ⟨last, loaded, settled, -⟩ := Transition.run_establishes single other
  exact ⟨last, loaded, fun key member => settled _ member key rfl⟩

end

/-- An export hands out each of the 35 names once, and its records load, in any order and into any store,
to the names, channels, sections and module sections they were made from. -/
theorem export_reload (build : StoreBuild) (codec : StoreCodec) (store : StoreRecords) (exportFunc : ExportFunc)
    (valid : store.Valid) (decodes : store.Decodes codec)
    (fits : ∀ key, STORE_RECORD_HEADER_LEN + (store.payload codec key).length ≤ STORE_VALUE_MAX)
    (accepts : ∀ before record, exportFunc before record = none) :
    ∃ records, configStoreExport build codec store (some exportFunc) = (none, records) ∧
      records.length = 35 ∧ (records.map StoredRecord.name).Nodup ∧
      (∀ name, name ∈ records.map StoredRecord.name ↔ ∃ key : StoreKey, key.name = name) ∧
      ∀ order : List StoredRecord, order.Perm records → ∀ other : StoreRecords,
        ∃ last, Transition.run (loadRecord build codec) other order = some last ∧
          last.longName.text = store.longName.text ∧ last.shortName.text = store.shortName.text ∧
          last.channels = store.channels ∧ last.configs = store.configs ∧ last.modules = store.modules := by
  have names : (exportedKeys.map (store.exported codec)).map StoredRecord.name = exportedKeys.map StoreKey.name := by
    rw [List.map_map]
    rfl
  refine ⟨exportedKeys.map (store.exported codec), ?_, ?_, ?_, ?_, ?_⟩
  · exact exportLoop_accepted accepts fits exportedKeys []
  · rw [List.length_map]
    rfl
  · rw [names]
    exact exportedKeys_nodup.map StoreKey.name_injective
  · intro name
    rw [names, List.mem_map]
    constructor
    · intro found
      obtain ⟨key, -, same⟩ := found
      exact ⟨key, same⟩
    · intro found
      obtain ⟨key, same⟩ := found
      exact ⟨key, mem_exportedKeys key, same⟩
  · intro order permuted other
    have all : ∀ record ∈ order, ∃ key, record = store.exported codec key := by
      intro record member
      obtain ⟨key, -, same⟩ := List.mem_map.mp (permuted.mem_iff.mp member)
      exact ⟨key, same.symm⟩
    obtain ⟨last, loaded, settled⟩ := loadRecords_exported valid decodes fits all other
    have same : ∀ key, store.SameAt last key := by
      intro key
      apply settled key
      exact permuted.mem_iff.mpr (List.mem_map_of_mem (mem_exportedKeys key))
    refine ⟨last, loaded, (same .owner).1, (same .owner).2, ?_, ?_, ?_⟩
    · funext i
      exact same (.channel i)
    · funext i
      exact same (.config i)
    · funext i
      exact same (.module i)

theorem export_reload_seeded :
    ∃ records, configStoreExport plainBuild (wireCodec (seedRecords plainBuild plainConfig plainLive))
        (seedRecords plainBuild plainConfig plainLive) (some fun _ _ => none) = (none, records) ∧ records.length = 35 := by
  have valid : (seedRecords plainBuild plainConfig plainLive).Valid :=
    @seedRecords_valid plainBuild plainConfig plainLive 0 (by decide) rfl (by decide) rfl rfl
  have fits : ∀ key, STORE_RECORD_HEADER_LEN + ((seedRecords plainBuild plainConfig plainLive).payload
      (wireCodec (seedRecords plainBuild plainConfig plainLive)) key).length ≤ STORE_VALUE_MAX := by
    intro key
    cases key with
    | owner => decide
    | channel i =>
      revert i
      decide
    | config i =>
      revert i
      decide
    | module i =>
      revert i
      decide
  obtain ⟨records, exported, count, -⟩ := export_reload plainBuild
    (wireCodec (seedRecords plainBuild plainConfig plainLive)) (seedRecords plainBuild plainConfig plainLive)
    (fun _ _ => none) valid ⟨by decide, by decide, by decide⟩ fits (fun _ _ => rfl)
  exact ⟨records, exported, count⟩

end Meshtastic
