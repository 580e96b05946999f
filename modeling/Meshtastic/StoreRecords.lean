import Meshtastic.ConfigStore
import Mathlib.Data.List.TakeWhile

/-! The store of `meshtastic_config_store.c` entry by entry: two name arrays, eight channels, ten
configuration sections and sixteen module sections, the calls that write them, and the records under
which they are saved, each under a key of its own. -/

namespace Meshtastic
open Bytes

def STORE_RECORD_VERSION : UInt8 := 1
def STORE_RECORD_HEADER_LEN : Nat := 4
def STORE_VALUE_MAX : Nat := 256
abbrev OWNER_LONG_NAME_LEN : Nat := 40
abbrev OWNER_SHORT_NAME_LEN : Nat := 5

def ascii (text : String) : Octets := text.toList.map (fun c => UInt8.ofNat c.toNat)

/-! ## Character arrays -/

def CString.ofOctets (octets : Octets) : CString :=
  ⟨octets.takeWhile (· ≠ 0), fun present => by simpa using List.mem_takeWhile_imp present⟩

structure CharArray (size : Nat) where
  bytes : Octets
  length_eq : bytes.length = size
  deriving DecidableEq

namespace CharArray
variable {size : Nat}

def Terminated (array : CharArray size) : Prop := (0 : UInt8) ∈ array.bytes

instance (array : CharArray size) : Decidable array.Terminated := inferInstanceAs (Decidable (_ ∈ _))

def text (array : CharArray size) : CString := .ofOctets array.bytes

/-- `copy_string` into an array of `last + 1` characters: `strncpy` pads with NULs. -/
def copyString {last : Nat} (src : CString) : CharArray (last + 1) :=
  ⟨src.bytes.take last ++ List.replicate (last + 1 - (src.bytes.take last).length) 0, by
    simp only [List.length_append, List.length_replicate, List.length_take]
    omega⟩

/-- `copy_fixed_string`: the characters of `src` before a NUL, then a NUL; what stood behind it stays. -/
def copyFixedString {last : Nat} (dst : CharArray (last + 1)) (src : Octets) : CharArray (last + 1) :=
  let copied := (src.takeWhile (· ≠ 0)).take last
  ⟨copied ++ 0 :: dst.bytes.drop (copied.length + 1), by
    have bound : copied.length ≤ last := by simp [copied]
    simp only [List.length_append, List.length_cons, List.length_drop, dst.length_eq]
    omega⟩

end CharArray

/-! ## Messages -/

def CONFIG_DEVICE_TAG : Nat := 1
def CONFIG_LORA_TAG : Nat := 6
def CONFIG_BLUETOOTH_TAG : Nat := 7

/-- `meshtastic_Config`. The fields that the store only copies are kept as they are, in `others` or
`contents`. -/
inductive ConfigMessage where
  | device (config : DeviceConfig) (others : Octets)
  | lora (config : LoRaConfig) (others : Octets)
  | bluetooth (config : BluetoothConfig) (others : Octets)
  | other (tag : Nat) (contents : Octets)
      (unread : tag ≠ CONFIG_DEVICE_TAG ∧ tag ≠ CONFIG_LORA_TAG ∧ tag ≠ CONFIG_BLUETOOTH_TAG)
  deriving DecidableEq

namespace ConfigMessage

def whichPayloadVariant : ConfigMessage → Nat
  | device _ _ => CONFIG_DEVICE_TAG
  | lora _ _ => CONFIG_LORA_TAG
  | bluetooth _ _ => CONFIG_BLUETOOTH_TAG
  | other tag _ _ => tag

/-- `meshtastic_Config_init_zero` with a tag, and the given other fields. -/
def blank (tag : Nat) (others : Octets) : ConfigMessage :=
  if device : tag = CONFIG_DEVICE_TAG then .device {} others
  else if lora : tag = CONFIG_LORA_TAG then .lora {} others
  else if bluetooth : tag = CONFIG_BLUETOOTH_TAG then .bluetooth {} others
  else .other tag others ⟨device, lora, bluetooth⟩

/-- The device view of the union; the code takes it of the entry tagged so. -/
def deviceConfig : ConfigMessage → DeviceConfig
  | device config _ => config
  | _ => {}

def loraConfig : ConfigMessage → LoRaConfig
  | lora config _ => config
  | _ => {}

def bluetoothConfig : ConfigMessage → BluetoothConfig
  | bluetooth config _ => config
  | _ => {}

def mapDevice (change : DeviceConfig → DeviceConfig) : ConfigMessage → ConfigMessage
  | device config others => .device (change config) others
  | message => message

end ConfigMessage

structure ModuleMessage where
  whichPayloadVariant : Nat
  contents : Octets
  deriving DecidableEq

/-! ## The tables -/

abbrev CONFIG_COUNT : Nat := 10
abbrev MODULE_COUNT : Nat := 16

structure NamedConfig where
  name : String
  tag : Nat

def configTable : Fin CONFIG_COUNT → NamedConfig :=
  ([⟨"device", 1⟩, ⟨"position", 2⟩, ⟨"power", 3⟩, ⟨"network", 4⟩, ⟨"display", 5⟩, ⟨"lora", 6⟩,
    ⟨"bluetooth", 7⟩, ⟨"security", 8⟩, ⟨"sessionkey", 9⟩, ⟨"device_ui", 10⟩] : List NamedConfig).get

def moduleTable : Fin MODULE_COUNT → NamedConfig :=
  ([⟨"mqtt", 1⟩, ⟨"serial", 2⟩, ⟨"external_notification", 3⟩, ⟨"store_forward", 4⟩, ⟨"range_test", 5⟩,
    ⟨"telemetry", 6⟩, ⟨"canned_message", 7⟩, ⟨"audio", 8⟩, ⟨"remote_hardware", 9⟩, ⟨"neighbor_info", 10⟩,
    ⟨"ambient_lighting", 11⟩, ⟨"detection_sensor", 12⟩, ⟨"paxcounter", 13⟩, ⟨"statusmessage", 14⟩,
    ⟨"traffic_management", 15⟩, ⟨"tak", 16⟩] : List NamedConfig).get

section
variable {count : Nat} (table : Fin count → NamedConfig)

/-- `index_for_config_tag` and `index_for_module_tag`. -/
def indexForTag (tag : Nat) : Option (Fin count) := (List.finRange count).find? (fun i => (table i).tag = tag)

/-- `index_for_config_name` and `index_for_module_name`. -/
def indexForName (name : Octets) : Option (Fin count) :=
  (List.finRange count).find? (fun i => ascii (table i).name = name)

end

def DEVICE_INDEX : Fin CONFIG_COUNT := 0
def POSITION_INDEX : Fin CONFIG_COUNT := 1
def LORA_INDEX : Fin CONFIG_COUNT := 5
def BLUETOOTH_INDEX : Fin CONFIG_COUNT := 6
def MQTT_INDEX : Fin MODULE_COUNT := 0

/-! ## Validity -/

def configMessageIsValid (message : ConfigMessage) : Bool :=
  (indexForTag configTable message.whichPayloadVariant).isSome &&
    match message with
    | .device config _ => deviceRoleIsValid config.role && rebroadcastModeIsValid config.rebroadcastMode
    | .lora config _ => config.hopLimit ≤ 7
    | .bluetooth config _ => config.mode ≤ 2
    | .other _ _ _ => true

def moduleMessageIsValid (message : ModuleMessage) : Bool :=
  (indexForTag moduleTable message.whichPayloadVariant).isSome

/-! ## The store -/

structure StoreRecords where
  longName : CharArray OWNER_LONG_NAME_LEN
  shortName : CharArray OWNER_SHORT_NAME_LEN
  channels : Slots
  configs : Fin CONFIG_COUNT → ConfigMessage
  modules : Fin MODULE_COUNT → ModuleMessage

namespace StoreRecords

def withChannel (store : StoreRecords) (index : SlotIndex) (channel : Channel) : StoreRecords :=
  { store with channels := storeChannel store.channels index channel }

def withConfig (store : StoreRecords) (index : Fin CONFIG_COUNT) (message : ConfigMessage) : StoreRecords :=
  { store with configs := Function.update store.configs index message }

def withModule (store : StoreRecords) (index : Fin MODULE_COUNT) (message : ModuleMessage) : StoreRecords :=
  { store with modules := Function.update store.modules index message }

/-- What the rest of the stack reads of the store. -/
def view (store : StoreRecords) : Store :=
  { longName := store.longName.text
    shortName := store.shortName.text
    channels := store.channels
    device := (store.configs DEVICE_INDEX).deviceConfig
    lora := (store.configs LORA_INDEX).loraConfig
    bluetooth := (store.configs BLUETOOTH_INDEX).bluetoothConfig }

end StoreRecords

structure SettingsState where
  store : StoreRecords
  live : Live

/-- Build options: what `seed_config_defaults` and `seed_module_defaults` put into the fields that the
store only copies, the pairing mode (FIXED_PIN or NO_PIN), and the width of `unsigned long`, which C
fixes from below. -/
structure StoreBuild extends StoreEnv where
  pairing : bluetoothMode = 1 ∨ bluetoothMode = 2
  deviceOthers : Octets
  positionContents : Octets
  loraOthers : Octets
  bluetoothOthers : Octets
  mqttContents : Octets
  ulongBits : Nat
  ulongBits_ge : 32 ≤ ulongBits

structure StoreCodec where
  encodeChannel : Channel → Octets
  decodeChannel : Octets → Option Channel
  encodeConfig : ConfigMessage → Octets
  decodeConfig : Octets → Option ConfigMessage
  encodeModule : ModuleMessage → Octets
  decodeModule : Octets → Option ModuleMessage

section
variable (build : StoreBuild) (codec : StoreCodec)

def seedConfigDefaults (cfg : InitConfig) (live : Live) (index : Fin CONFIG_COUNT) : ConfigMessage :=
  if index = DEVICE_INDEX then
    .device { role := live.deviceRole, rebroadcastMode := live.rebroadcastMode } build.deviceOthers
  else if index = POSITION_INDEX then .blank (configTable index).tag build.positionContents
  else if index = LORA_INDEX then
    .lora
      { region := loraRegionFromFrequency cfg.frequency
        hopLimit := live.hopLimit.toUInt32
        txPower := live.txPower } build.loraOthers
  else if index = BLUETOOTH_INDEX then .bluetooth { mode := build.bluetoothMode } build.bluetoothOthers
  else .blank (configTable index).tag []

def seedModuleDefaults (index : Fin MODULE_COUNT) : ModuleMessage :=
  { whichPayloadVariant := (moduleTable index).tag
    contents := if index = MQTT_INDEX then build.mqttContents else [] }

/-- `meshtastic_config_store_seed` with a configuration. -/
def seedRecords (cfg : InitConfig) (live : Live) : StoreRecords :=
  { longName := .copyString (cfg.longName.getD build.nodeLongName)
    shortName := .copyString (cfg.shortName.getD build.nodeShortName)
    channels := fun i => { live.table.channelSlots i with index := i.val }
    configs := seedConfigDefaults build cfg live
    modules := seedModuleDefaults build }

/-! ## Calls. `none` means that a key lookup inside the call never returns. -/

/-- `meshtastic_channels_set_slot` on any arguments, with its error. -/
def channelsSetSlotChecked (t : ChannelTable) (index : UInt8) :
    Option Channel → Option (Except Errno ChannelTable)
  | none => some (.error .einval)
  | some channel =>
    if h : index.toNat < MAX_CHANNELS then (channelsSetSlot t ⟨index.toNat, h⟩ channel).map .ok
    else some (.error .einval)

/-- `meshtastic_config_store_apply_core`. Its slots are all in range, so no call it makes is refused. -/
def applyCore (st : SettingsState) : Option SettingsState :=
  (configStoreApplyCore build.toStoreEnv { store := st.store.view, live := st.live }).map fun next =>
    { st with live := next.live }

def setChannel (st : SettingsState) (index : UInt8) (channel : Option Channel) :
    Option (Option Errno × SettingsState) :=
  match channel with
  | none => some (some .einval, st)
  | some channel =>
    if h : index.toNat < MAX_CHANNELS then
      if channelIsValid channel then
        let st := { st with store := st.store.withChannel ⟨index.toNat, h⟩ channel }
        match channelsSetSlotChecked st.live.table index (some channel) with
        | none => none
        | some (.error err) => some (some err, st)
        | some (.ok table) => some (none, { st with live := { st.live with table := table } })
      else some (some .einval, st)
    else some (some .einval, st)

def setConfig (st : SettingsState) (config : Option ConfigMessage) : Option (Option Errno × SettingsState) :=
  match config with
  | none => some (some .einval, st)
  | some message =>
    if configMessageIsValid message then
      match indexForTag configTable message.whichPayloadVariant with
      | none => some (some .enoent, st)
      | some index =>
        (applyCore build { st with store := st.store.withConfig index message }).map fun st => (none, st)
    else some (some .einval, st)

def setModule (st : SettingsState) (module : Option ModuleMessage) : Option Errno × SettingsState :=
  match module with
  | none => (some .einval, st)
  | some message =>
    if moduleMessageIsValid message then
      match indexForTag moduleTable message.whichPayloadVariant with
      | none => (some .enoent, st)
      | some index => (none, { st with store := st.store.withModule index message })
    else (some .einval, st)

def setDeviceRole (st : SettingsState) (role : DeviceRole) : Option Errno × SettingsState :=
  if deviceRoleIsValid role then
    (none,
      { store := st.store.withConfig DEVICE_INDEX
          ((st.store.configs DEVICE_INDEX).mapDevice fun config => { config with role := role })
        live := { st.live with deviceRole := role } })
  else (some .einval, st)

def setRebroadcastMode (st : SettingsState) (mode : RebroadcastMode) : Option Errno × SettingsState :=
  if rebroadcastModeIsValid mode then
    (none,
      { store := st.store.withConfig DEVICE_INDEX
          ((st.store.configs DEVICE_INDEX).mapDevice fun config => { config with rebroadcastMode := mode })
        live := { st.live with rebroadcastMode := mode } })
  else (some .einval, st)

/-! ## Records -/

def le16 (value : Nat) : Octets := [UInt8.ofNat value, UInt8.ofNat (value / 2 ^ 8)]

/-- `encode_record`, given nanopb's serialisation of the message, into a buffer of `bufLen` bytes. -/
def encodeRecord (payload : Octets) (bufLen : Nat) : Except Errno Octets :=
  if bufLen < STORE_RECORD_HEADER_LEN then .error .einval
  else if payload.length > bufLen - STORE_RECORD_HEADER_LEN then .error .enomem
  else .ok ([STORE_RECORD_VERSION, 0] ++ le16 (payload.length % 2 ^ 16) ++ payload)

def decodeRecord {Message : Type} (decode : Octets → Option Message) : Octets → Except Errno Message
  | version :: _ :: low :: high :: payload =>
    if version ≠ STORE_RECORD_VERSION then .error .einval
    else if low.toNat + high.toNat * 2 ^ 8 ≠ payload.length then .error .einval
    else
      match decode payload with
      | none => .error .einval
      | some message => .ok message
  | _ => .error .einval

/-! ## Keys -/

def isSpace (c : UInt8) : Bool := c = 0x20 || (0x09 ≤ c && c ≤ 0x0d)
def isDigit (c : UInt8) : Bool := 0x30 ≤ c && c ≤ 0x39

def takeSign : Octets → Bool × Octets
  | 0x2b :: rest => (false, rest)
  | 0x2d :: rest => (true, rest)
  | rest => (false, rest)

def decimalValue (digits : Octets) : Nat := digits.foldl (fun value c => 10 * value + (c.toNat - 0x30)) 0

/-- `strtoul` with base 10: the value and the string behind the number. Without digits nothing is
taken; a value out of range gives the largest one, and a minus sign negates modulo the range. -/
def strtoul (text : Octets) : Nat × Octets :=
  let signed := takeSign (text.dropWhile isSpace)
  let digits := signed.2.takeWhile isDigit
  let rest := signed.2.dropWhile isDigit
  if digits = [] then (0, text)
  else if decimalValue digits ≥ 2 ^ build.ulongBits then (2 ^ build.ulongBits - 1, rest)
  else if signed.1 then ((2 ^ build.ulongBits - decimalValue digits) % 2 ^ build.ulongBits, rest)
  else (decimalValue digits, rest)

def parseChannelIndex (name : Octets) : Option SlotIndex :=
  if name = [] then none
  else if (strtoul build name).2 ≠ [] then none
  else if h : (strtoul build name).1 < MAX_CHANNELS then some ⟨(strtoul build name).1, h⟩
  else none

/-- The entry a key names, in the order in which the prefixes are tried. -/
inductive StoreKey where
  | owner
  | channel (index : SlotIndex)
  | config (index : Fin CONFIG_COUNT)
  | module (index : Fin MODULE_COUNT)
  deriving DecidableEq

def keySuffix (beginning : String) (key : Octets) : Option Octets :=
  if (ascii beginning).isPrefixOf key then some (key.drop (ascii beginning).length) else none

def parseKey (key : CString) : Except Errno StoreKey :=
  if key.bytes = ascii "owner" then .ok .owner
  else
    match keySuffix "channel/" key.bytes with
    | some name =>
      match parseChannelIndex build name with
      | none => .error .einval
      | some index => .ok (.channel index)
    | none =>
      match keySuffix "config/" key.bytes with
      | some name =>
        match indexForName configTable name with
        | none => .error .enoent
        | some index => .ok (.config index)
      | none =>
        match keySuffix "module/" key.bytes with
        | some name =>
          match indexForName moduleTable name with
          | none => .error .enoent
          | some index => .ok (.module index)
        | none => .error .enoent

/-! ## Saving and loading -/

/-- `setting_get_owner`: a packed record of version and names. -/
def settingGetOwner (store : StoreRecords) (bufLen : Nat) : Except Errno Octets :=
  if bufLen < 1 + OWNER_LONG_NAME_LEN + OWNER_SHORT_NAME_LEN then .error .enomem
  else
    let longName : CharArray OWNER_LONG_NAME_LEN := .copyString store.longName.text
    let shortName : CharArray OWNER_SHORT_NAME_LEN := .copyString store.shortName.text
    .ok (STORE_RECORD_VERSION :: (longName.bytes ++ shortName.bytes))

def settingSetOwner (store : StoreRecords) (buf : Octets) : Option Errno × StoreRecords :=
  if buf.length ≠ 1 + OWNER_LONG_NAME_LEN + OWNER_SHORT_NAME_LEN ∨ buf.head? ≠ some STORE_RECORD_VERSION then
    (some .einval, store)
  else
    (none,
      { store with
        longName := store.longName.copyFixedString ((buf.drop 1).take OWNER_LONG_NAME_LEN)
        shortName := store.shortName.copyFixedString (buf.drop (1 + OWNER_LONG_NAME_LEN)) })

/-- `meshtastic_config_store_setting_get` into a buffer of `bufLen` bytes; `none` is a NULL pointer. -/
def settingGet (store : StoreRecords) (key : Option CString) (bufLen : Nat) : Except Errno Octets :=
  match key with
  | none => .error .einval
  | some key =>
    match parseKey build key with
    | .error err => .error err
    | .ok .owner => settingGetOwner store bufLen
    | .ok (.channel index) => encodeRecord (codec.encodeChannel (store.channels index)) bufLen
    | .ok (.config index) => encodeRecord (codec.encodeConfig (store.configs index)) bufLen
    | .ok (.module index) => encodeRecord (codec.encodeModule (store.modules index)) bufLen

/-- `meshtastic_config_store_setting_set`; `none` is a NULL pointer. -/
def settingSet (store : StoreRecords) (key : Option CString) (buf : Option Octets) :
    Option Errno × StoreRecords :=
  match key, buf with
  | some key, some buf =>
    match parseKey build key with
    | .error err => (some err, store)
    | .ok .owner => settingSetOwner store buf
    | .ok (.channel index) =>
      match decodeRecord codec.decodeChannel buf with
      | .error _ => (some .einval, store)
      | .ok channel =>
        if channelIsValid channel then (none, store.withChannel index channel) else (some .einval, store)
    | .ok (.config index) =>
      match decodeRecord codec.decodeConfig buf with
      | .error _ => (some .einval, store)
      | .ok message =>
        if message.whichPayloadVariant = (configTable index).tag ∧ configMessageIsValid message then
          (none, store.withConfig index message)
        else (some .einval, store)
    | .ok (.module index) =>
      match decodeRecord codec.decodeModule buf with
      | .error _ => (some .einval, store)
      | .ok message =>
        if message.whichPayloadVariant = (moduleTable index).tag ∧ moduleMessageIsValid message then
          (none, store.withModule index message)
        else (some .einval, store)
  | _, _ => (some .einval, store)

/-! ## Export -/

structure StoredRecord where
  name : CString
  value : Octets
  deriving DecidableEq

/-- `snprintk` into `char name[40]`. -/
def exportName (text : String) : CString := (CString.ofOctets (ascii text)).truncate 39

def StoreKey.name : StoreKey → CString
  | owner => .ofOctets (ascii "owner")
  | channel index => exportName ("channel/" ++ toString index.val)
  | config index => exportName ("config/" ++ (configTable index).name)
  | module index => exportName ("module/" ++ (moduleTable index).name)

def exportedKeys : List StoreKey :=
  .owner :: ((List.finRange MAX_CHANNELS).map .channel ++
    ((List.finRange CONFIG_COUNT).map .config ++ (List.finRange MODULE_COUNT).map .module))

/-- The callback of an export. What it returns may depend on the records it was given before. -/
abbrev ExportFunc := List StoredRecord → StoredRecord → Option Errno

/-- `export_one`, with the records handed to the callback so far. -/
def exportOne (store : StoreRecords) (exportFunc : ExportFunc) (emitted : List StoredRecord) (name : CString) :
    Option Errno × List StoredRecord :=
  match settingGet build codec store (some name) STORE_VALUE_MAX with
  | .error err => (some err, emitted)
  | .ok value => (exportFunc emitted ⟨name, value⟩, emitted ++ [⟨name, value⟩])

def exportLoop (store : StoreRecords) (exportFunc : ExportFunc) :
    List StoreKey → List StoredRecord → Option Errno × List StoredRecord
  | [], emitted => (none, emitted)
  | key :: rest, emitted =>
    match exportOne build codec store exportFunc emitted key.name with
    | (some err, emitted) => (some err, emitted)
    | (none, emitted) => exportLoop store exportFunc rest emitted

/-- `meshtastic_config_store_export`; `none` is a NULL callback. -/
def configStoreExport (store : StoreRecords) : Option ExportFunc → Option Errno × List StoredRecord
  | none => (some .einval, [])
  | some exportFunc => exportLoop build codec store exportFunc exportedKeys []

def loadRecord (store : StoreRecords) (record : StoredRecord) : Option StoreRecords :=
  match settingSet build codec store (some record.name) (some record.value) with
  | (none, next) => some next
  | (some _, _) => none

/-! ## Runs -/

inductive SettingsCall where
  | setChannel (index : UInt8) (channel : Option Channel)
  | setConfig (config : Option ConfigMessage)
  | setModule (module : Option ModuleMessage)
  | setDeviceRole (role : DeviceRole)
  | setRebroadcastMode (mode : RebroadcastMode)
  | settingSet (key : Option CString) (buf : Option Octets)
  | applyCore

def SettingsState.call (st : SettingsState) : SettingsCall → Option (Option Errno × SettingsState)
  | .setChannel index channel => Meshtastic.setChannel st index channel
  | .setConfig config => Meshtastic.setConfig build st config
  | .setModule module => some (Meshtastic.setModule st module)
  | .setDeviceRole role => some (Meshtastic.setDeviceRole st role)
  | .setRebroadcastMode mode => some (Meshtastic.setRebroadcastMode st mode)
  | .settingSet key buf =>
    let result := Meshtastic.settingSet build codec st.store key buf
    some (result.1, { st with store := result.2 })
  | .applyCore => (Meshtastic.applyCore build st).map fun st => (none, st)

def SettingsState.step (st : SettingsState) (call : SettingsCall) : Option SettingsState :=
  (st.call build codec call).map Prod.snd

end

end Meshtastic
