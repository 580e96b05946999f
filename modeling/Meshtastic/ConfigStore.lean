import Meshtastic.Channels

/-! The configuration store of `meshtastic_config_store.c` beside the live state it is applied
to: the channel table, the device policy and the radio parameters. -/

namespace Meshtastic
open Bytes

def FREQ_US : UInt32 := 906875000
def FREQ_EU : UInt32 := 869525000

inductive RegionCode where
  | unset
  | us
  | eu433
  | eu868
  | other (code : Nat)
  deriving DecidableEq

def loraRegionFromFrequency (hz : UInt32) : RegionCode :=
  if 902000000 ≤ hz ∧ hz ≤ 928000000 then .us
  else if 869000000 ≤ hz ∧ hz ≤ 870000000 then .eu868
  else if 433000000 ≤ hz ∧ hz ≤ 434000000 then .eu433
  else .unset

def frequencyFromRegion : RegionCode → UInt32
  | .us => FREQ_US
  | .eu868 => FREQ_EU
  | .eu433 => 433175000
  | _ => 0

structure DeviceConfig where
  role : DeviceRole := .client
  rebroadcastMode : RebroadcastMode := .all
  deriving DecidableEq

/-- `overrideFrequency` holds the bits of the source's `float`. -/
structure LoRaConfig where
  region : RegionCode := .unset
  hopLimit : UInt32 := 0
  txPower : Int8 := 0
  overrideFrequency : UInt32 := 0
  deriving DecidableEq

structure BluetoothConfig where
  mode : Nat := 0
  deriving DecidableEq

/-- `meshtastic_Config`: one section. Sections whose contents the store only copies carry none. -/
inductive Config where
  | device (config : DeviceConfig)
  | position
  | power
  | network
  | display
  | lora (config : LoRaConfig)
  | bluetooth (config : BluetoothConfig)
  | security
  | sessionkey
  | deviceUi
  | unknown (tag : Nat)
  deriving DecidableEq

structure Store where
  longName : CString
  shortName : CString
  channels : Slots
  device : DeviceConfig
  lora : LoRaConfig
  bluetooth : BluetoothConfig

/-- What the running stack reads: the fields of `mt` and the statics of `meshtastic_channels.c`. -/
structure Live where
  longName : CString
  shortName : CString
  table : ChannelTable
  deviceRole : DeviceRole
  rebroadcastMode : RebroadcastMode
  hopLimit : UInt8
  txPower : Int8
  frequency : UInt32

structure ConfigState where
  store : Store
  live : Live

/-- Build options the store reads, and the conversion of a positive `override_frequency`
to Hz (`none` when the value is not positive). -/
structure StoreEnv where
  nodeLongName : CString
  nodeShortName : CString
  defaultHopLimit : UInt8
  txPower : Int8
  bluetoothMode : Nat
  overrideHz : UInt32 → Option UInt32

structure InitConfig extends ChannelConfig where
  longName : Option CString
  shortName : Option CString
  frequency : UInt32
  hopLimit : UInt8
  txPower : Int8

section
variable (env : StoreEnv)

def configStoreSeed (cfg : InitConfig) (live : Live) : Store :=
  { longName := (cfg.longName.getD env.nodeLongName).truncate 39
    shortName := (cfg.shortName.getD env.nodeShortName).truncate 4
    channels := fun i => { live.table.channelSlots i with index := i.val }
    device := { role := live.deviceRole, rebroadcastMode := live.rebroadcastMode }
    lora :=
      { region := loraRegionFromFrequency cfg.frequency
        hopLimit := live.hopLimit.toUInt32
        txPower := live.txPower }
    bluetooth := { mode := env.bluetoothMode } }

/-- The loop of `meshtastic_config_store_apply_core` over the stored slots. -/
def replaySlots (channels : Slots) (t : ChannelTable) (visited : List SlotIndex) :
    Option ChannelTable :=
  visited.foldlM (fun t i => channelsSetSlot t i (channels i)) t

def configStoreApplyCore (st : ConfigState) : Option ConfigState := do
  let table ← replaySlots st.store.channels st.live.table (List.finRange MAX_CHANNELS)
  let lora := st.store.lora
  let frequency := match env.overrideHz lora.overrideFrequency with
    | some hz => hz
    | none =>
      let hz := frequencyFromRegion lora.region
      if hz ≠ 0 then hz else st.live.frequency
  some
    { st with
      live :=
        { longName := st.store.longName
          shortName := st.store.shortName
          table := table
          deviceRole := st.store.device.role
          rebroadcastMode := st.store.device.rebroadcastMode
          hopLimit := if 1 ≤ lora.hopLimit ∧ lora.hopLimit ≤ 7 then lora.hopLimit.toUInt8
            else st.live.hopLimit
          txPower := if lora.txPower ≠ 0 then lora.txPower else st.live.txPower
          frequency := frequency } }

def channelIsValid (channel : Channel) : Bool :=
  channel.role.toNat ≤ 2 && channel.settings.psk.length ≤ 32

def deviceRoleIsValid (role : DeviceRole) : Bool := role.toNat ≤ 12
def rebroadcastModeIsValid (mode : RebroadcastMode) : Bool := mode.toNat ≤ 5

def configIsValid : Config → Bool
  | .device config => deviceRoleIsValid config.role && rebroadcastModeIsValid config.rebroadcastMode
  | .lora config => config.hopLimit ≤ 7
  | .bluetooth config => config.mode ≤ 2
  | .unknown _ => false
  | _ => true

def Store.withConfig (store : Store) : Config → Store
  | .device config => { store with device := config }
  | .lora config => { store with lora := config }
  | .bluetooth config => { store with bluetooth := config }
  | _ => store

def storeChannel (channels : Slots) (index : SlotIndex) (channel : Channel) : Slots :=
  Function.update channels index { channel with index := index.val }

/-- `meshtastic_config_store_set_channel` on any `uint8_t`. -/
def configStoreSetChannel (st : ConfigState) (index : UInt8) (channel : Channel) :
    Option (Except Errno ConfigState) :=
  if h : index.toNat < MAX_CHANNELS then
    if channelIsValid channel then do
      let i : SlotIndex := ⟨index.toNat, h⟩
      let channels := storeChannel st.store.channels i channel
      let table ← channelsSetSlot st.live.table i channel
      some (.ok { store := { st.store with channels := channels }, live := { st.live with table := table } })
    else some (.error .einval)
  else some (.error .einval)

def configStoreSetConfig (st : ConfigState) (config : Config) : Option (Except Errno ConfigState) :=
  if configIsValid config then do
    let st ← configStoreApplyCore env { st with store := st.store.withConfig config }
    some (.ok st)
  else some (.error .einval)

def configStoreSetDeviceRole (st : ConfigState) (role : DeviceRole) : Except Errno ConfigState :=
  if deviceRoleIsValid role then
    .ok { store := { st.store with device := { st.store.device with role := role } }
          live := { st.live with deviceRole := role } }
  else .error .einval

def configStoreSetRebroadcastMode (st : ConfigState) (mode : RebroadcastMode) : Except Errno ConfigState :=
  if rebroadcastModeIsValid mode then
    .ok { store := { st.store with device := { st.store.device with rebroadcastMode := mode } }
          live := { st.live with rebroadcastMode := mode } }
  else .error .einval

/-- The part of `meshtastic_init` that sets up channels and store. `saved` is what
`meshtastic_settings_init` loads over the seeded store. -/
def initStore (cfg : InitConfig) (before : Live) (saved : Option Store) : Option ConfigState := do
  let table ← channelsInitFromConfig before.table.chHash (some cfg.toChannelConfig)
  let live :=
    { before with
      table := table
      frequency := cfg.frequency
      hopLimit := if cfg.hopLimit = 0 then env.defaultHopLimit else cfg.hopLimit
      txPower := if cfg.txPower = 0 then env.txPower else cfg.txPower
      longName := cfg.longName.getD env.nodeLongName
      shortName := cfg.shortName.getD env.nodeShortName }
  configStoreApplyCore env { store := saved.getD (configStoreSeed env cfg live), live := live }

inductive StoreCall where
  | setChannel (index : UInt8) (channel : Channel)
  | setConfig (config : Config)
  | setDeviceRole (role : DeviceRole)
  | setRebroadcastMode (mode : RebroadcastMode)

def storeStep (st : ConfigState) (call : StoreCall) : Option ConfigState :=
  let result := match call with
    | .setChannel index channel => configStoreSetChannel st index channel
    | .setConfig config => configStoreSetConfig env st config
    | .setDeviceRole role => some (configStoreSetDeviceRole st role)
    | .setRebroadcastMode mode => some (configStoreSetRebroadcastMode st mode)
  result.bind Except.toOption

end

end Meshtastic
