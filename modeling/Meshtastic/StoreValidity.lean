import Meshtastic.StoreRecords
import Meshtastic.ConfigStoreReplay
import Meshtastic.DataCodec
import Mathlib.Data.List.Sort

/-! Every entry of the store stays valid under its own tag, whatever is written or loaded, and a call
that fails leaves the store as it was. -/

namespace Meshtastic
open Bytes Protobuf

/-! ## Names -/

namespace CharArray
variable {last : Nat}

theorem copyString_terminated (src : CString) : (copyString src : CharArray (last + 1)).Terminated := by
  apply List.mem_append_right
  apply List.mem_replicate.mpr
  refine ⟨?_, rfl⟩
  rw [List.length_take]
  omega

theorem copyFixedString_terminated (dst : CharArray (last + 1)) (src : Octets) :
    (dst.copyFixedString src).Terminated :=
  List.mem_append_right _ List.mem_cons_self

end CharArray

/-! ## Entries -/

section
variable {count : Nat} {table : Fin count → NamedConfig}

theorem indexForTag_eq_some {tag : Nat} {i : Fin count} (found : indexForTag table tag = some i) :
    (table i).tag = tag := by
  simpa using List.find?_some found

theorem indexForTag_own (i : Fin count) : (indexForTag table (table i).tag).isSome = true := by
  rw [indexForTag, List.find?_isSome]
  exact ⟨i, List.mem_finRange i, by simp⟩

end

theorem ConfigMessage.device_of_tag {message : ConfigMessage}
    (tagged : message.whichPayloadVariant = CONFIG_DEVICE_TAG) : ∃ config others, message = .device config others := by
  cases message with
  | device config others => exact ⟨config, others, rfl⟩
  | lora config others => exact absurd tagged (by decide : CONFIG_LORA_TAG ≠ CONFIG_DEVICE_TAG)
  | bluetooth config others => exact absurd tagged (by decide : CONFIG_BLUETOOTH_TAG ≠ CONFIG_DEVICE_TAG)
  | other tag contents unread => exact absurd tagged unread.1

@[simp] theorem ConfigMessage.blank_tag (tag : Nat) (others : Octets) :
    (ConfigMessage.blank tag others).whichPayloadVariant = tag := by
  unfold ConfigMessage.blank
  split_ifs with device lora bluetooth
  · exact device.symm
  · exact lora.symm
  · exact bluetooth.symm
  · rfl

theorem configMessageIsValid_blank (i : Fin CONFIG_COUNT) (others : Octets) :
    configMessageIsValid (.blank (configTable i).tag others) = true := by
  simp only [configMessageIsValid, ConfigMessage.blank_tag, indexForTag_own, Bool.true_and]
  unfold ConfigMessage.blank
  split_ifs <;> rfl

/-- The store holds each entry under its own tag, in range, and its names end. -/
structure StoreRecords.Valid (store : StoreRecords) : Prop where
  configs : ∀ i, (store.configs i).whichPayloadVariant = (configTable i).tag ∧
    configMessageIsValid (store.configs i) = true
  modules : ∀ i, (store.modules i).whichPayloadVariant = (moduleTable i).tag
  channels : ∀ i, channelIsValid (store.channels i) = true ∧ (store.channels i).index = i.val
  longName : store.longName.Terminated
  shortName : store.shortName.Terminated

/-- What an accepted call does to the store. -/
inductive StoreWrite (store : StoreRecords) : StoreRecords → Prop
  | nothing : StoreWrite store store
  | channel (index : SlotIndex) (channel : Channel) (valid : channelIsValid channel = true) :
      StoreWrite store (store.withChannel index channel)
  | config (index : Fin CONFIG_COUNT) (message : ConfigMessage)
      (tagged : message.whichPayloadVariant = (configTable index).tag) (valid : configMessageIsValid message = true) :
      StoreWrite store (store.withConfig index message)
  | module (index : Fin MODULE_COUNT) (message : ModuleMessage)
      (tagged : message.whichPayloadVariant = (moduleTable index).tag) :
      StoreWrite store (store.withModule index message)
  | names (long short : Octets) :
      StoreWrite store { store with
        longName := store.longName.copyFixedString long
        shortName := store.shortName.copyFixedString short }
  | role (role : DeviceRole) (valid : deviceRoleIsValid role = true) :
      StoreWrite store (store.withConfig DEVICE_INDEX
        ((store.configs DEVICE_INDEX).mapDevice fun config => { config with role := role }))
  | mode (mode : RebroadcastMode) (valid : rebroadcastModeIsValid mode = true) :
      StoreWrite store (store.withConfig DEVICE_INDEX
        ((store.configs DEVICE_INDEX).mapDevice fun config => { config with rebroadcastMode := mode }))

namespace StoreRecords
variable {store next : StoreRecords}

theorem Valid.withChannel (valid : store.Valid) (index : SlotIndex) {channel : Channel}
    (accepted : channelIsValid channel = true) : (store.withChannel index channel).Valid := by
  refine { valid with channels := ?_ }
  intro i
  by_cases here : i = index
  · simp only [here, StoreRecords.withChannel, storeChannel, Function.update_self]
    exact ⟨accepted, trivial⟩
  · simp only [StoreRecords.withChannel, storeChannel, Function.update_of_ne here]
    exact valid.channels i

theorem Valid.withConfig (valid : store.Valid) {index : Fin CONFIG_COUNT} {message : ConfigMessage}
    (tagged : message.whichPayloadVariant = (configTable index).tag) (accepted : configMessageIsValid message = true) :
    (store.withConfig index message).Valid := by
  refine { valid with configs := ?_ }
  intro i
  by_cases here : i = index
  · simp only [here, StoreRecords.withConfig, Function.update_self]
    exact ⟨tagged, accepted⟩
  · simp only [StoreRecords.withConfig, Function.update_of_ne here]
    exact valid.configs i

theorem Valid.withModule (valid : store.Valid) {index : Fin MODULE_COUNT} {message : ModuleMessage}
    (tagged : message.whichPayloadVariant = (moduleTable index).tag) : (store.withModule index message).Valid := by
  refine { valid with modules := ?_ }
  intro i
  by_cases here : i = index
  · simp only [here, StoreRecords.withModule, Function.update_self]
    exact tagged
  · simp only [StoreRecords.withModule, Function.update_of_ne here]
    exact valid.modules i

theorem Valid.mapDevice (valid : store.Valid) (change : DeviceConfig → DeviceConfig)
    (kept : ∀ config, deviceRoleIsValid config.role = true → rebroadcastModeIsValid config.rebroadcastMode = true →
      deviceRoleIsValid (change config).role = true ∧ rebroadcastModeIsValid (change config).rebroadcastMode = true) :
    (store.withConfig DEVICE_INDEX ((store.configs DEVICE_INDEX).mapDevice change)).Valid := by
  obtain ⟨tagged, accepted⟩ := valid.configs DEVICE_INDEX
  obtain ⟨config, others, same⟩ := ConfigMessage.device_of_tag tagged
  rw [same] at accepted ⊢
  simp only [configMessageIsValid, Bool.and_eq_true] at accepted
  obtain ⟨known, role, mode⟩ := accepted
  have changed := kept config role mode
  apply valid.withConfig
  · rfl
  · simp only [ConfigMessage.mapDevice, configMessageIsValid, Bool.and_eq_true]
    exact ⟨known, changed⟩

theorem Valid.write (valid : store.Valid) (written : StoreWrite store next) : next.Valid := by
  cases written with
  | nothing => exact valid
  | channel index channel accepted => exact valid.withChannel index accepted
  | config index message tagged accepted => exact valid.withConfig tagged accepted
  | module index message tagged => exact valid.withModule tagged
  | names long short =>
    exact { valid with
      longName := CharArray.copyFixedString_terminated store.longName long
      shortName := CharArray.copyFixedString_terminated store.shortName short }
  | role role accepted => exact valid.mapDevice _ (fun _ _ mode => ⟨accepted, mode⟩)
  | mode mode accepted => exact valid.mapDevice _ (fun _ role _ => ⟨role, accepted⟩)

end StoreRecords

/-! ## Calls -/

section
variable {build : StoreBuild} {codec : StoreCodec} {st next : SettingsState} {ret : Option Errno}

/-- A call fails and leaves the store, or returns 0 with one entry written. -/
def Outcome (store : StoreRecords) (ret : Option Errno) (next : StoreRecords) : Prop :=
  (ret ≠ none ∧ next = store) ∨ (ret = none ∧ StoreWrite store next)

theorem Outcome.refused {store : StoreRecords} (err : Errno) : Outcome store (some err) store :=
  .inl ⟨Option.some_ne_none err, rfl⟩

theorem Outcome.wrote {store next : StoreRecords} (written : StoreWrite store next) : Outcome store none next :=
  .inr ⟨rfl, written⟩

theorem applyCore_store {next : SettingsState} (done : applyCore build st = some next) : next.store = st.store := by
  obtain ⟨applied, -, same⟩ := Option.map_eq_some_iff.mp done
  rw [← same]

theorem channelsSetSlotChecked_inRange {t : ChannelTable} {index : UInt8} (range : index.toNat < MAX_CHANNELS)
    (channel : Channel) :
    channelsSetSlotChecked t index (some channel) = (channelsSetSlot t ⟨index.toNat, range⟩ channel).map .ok :=
  dif_pos range

theorem setChannel_outcome {index : UInt8} {channel : Option Channel}
    (done : setChannel st index channel = some (ret, next)) : Outcome st.store ret next.store := by
  unfold setChannel at done
  cases channel with
  | none =>
    cases done
    exact .refused _
  | some channel =>
    simp only at done
    split_ifs at done with range accepted
    · rw [channelsSetSlotChecked_inRange range] at done
      cases written : channelsSetSlot st.live.table ⟨index.toNat, range⟩ channel with
      | none =>
        rw [written] at done
        cases done
      | some table =>
        rw [written] at done
        cases done
        exact .wrote (.channel _ channel accepted)
    · cases done
      exact .refused _
    · cases done
      exact .refused _

theorem setConfig_outcome {config : Option ConfigMessage}
    (done : setConfig build st config = some (ret, next)) : Outcome st.store ret next.store := by
  unfold setConfig at done
  cases config with
  | none =>
    cases done
    exact .refused _
  | some message =>
    simp only at done
    split_ifs at done with accepted
    · cases found : indexForTag configTable message.whichPayloadVariant with
      | none =>
        rw [found] at done
        cases done
        exact .refused _
      | some index =>
        rw [found] at done
        obtain ⟨applied, replayed, same⟩ := Option.map_eq_some_iff.mp done
        cases same
        rw [applyCore_store replayed]
        exact .wrote (.config index message (indexForTag_eq_some found).symm accepted)
    · cases done
      exact .refused _

theorem setModule_outcome (module : Option ModuleMessage) :
    Outcome st.store (setModule st module).1 (setModule st module).2.store := by
  cases module with
  | none => exact .refused _
  | some message =>
    simp only [setModule]
    split_ifs with accepted
    · cases found : indexForTag moduleTable message.whichPayloadVariant with
      | none => exact .refused _
      | some index => exact .wrote (.module index message (indexForTag_eq_some found).symm)
    · exact .refused _

theorem settingSetOwner_outcome (store : StoreRecords) (buf : Octets) :
    Outcome store (settingSetOwner store buf).1 (settingSetOwner store buf).2 := by
  unfold settingSetOwner
  split_ifs
  · exact .refused _
  · exact .wrote (.names _ _)

/-- A record is taken over only by the entry that its key names and its tag belongs to. -/
theorem settingSet_outcome (store : StoreRecords) (key : Option CString) (buf : Option Octets) :
    Outcome store (settingSet build codec store key buf).1 (settingSet build codec store key buf).2 := by
  unfold settingSet
  split
  · rename_i key buf
    split
    · exact .refused _
    · exact settingSetOwner_outcome store buf
    · split
      · exact .refused _
      · split_ifs with accepted
        · exact .wrote (.channel _ _ accepted)
        · exact .refused _
    · split
      · exact .refused _
      · split_ifs with accepted
        · exact .wrote (.config _ _ accepted.1 accepted.2)
        · exact .refused _
    · split
      · exact .refused _
      · split_ifs with accepted
        · exact .wrote (.module _ _ accepted.1)
        · exact .refused _
  · exact .refused _

theorem SettingsState.call_outcome {call : SettingsCall} (done : st.call build codec call = some (ret, next)) :
    Outcome st.store ret next.store := by
  cases call with
  | setChannel index channel => exact setChannel_outcome done
  | setConfig config => exact setConfig_outcome done
  | setModule module =>
    obtain ⟨code, state⟩ := Prod.mk.inj (Option.some.inj done)
    rw [← code, ← state]
    exact setModule_outcome module
  | setDeviceRole role =>
    simp only [SettingsState.call, setDeviceRole, Option.some.injEq] at done
    split_ifs at done with accepted
    · cases done
      exact .wrote (.role role accepted)
    · cases done
      exact .refused _
  | setRebroadcastMode mode =>
    simp only [SettingsState.call, setRebroadcastMode, Option.some.injEq] at done
    split_ifs at done with accepted
    · cases done
      exact .wrote (.mode mode accepted)
    · cases done
      exact .refused _
  | settingSet key buf =>
    obtain ⟨code, state⟩ := Prod.mk.inj (Option.some.inj done)
    rw [← code, ← state]
    exact settingSet_outcome st.store key buf
  | applyCore =>
    obtain ⟨applied, replayed, same⟩ := Option.map_eq_some_iff.mp done
    cases same
    rw [applyCore_store replayed]
    exact .wrote .nothing

theorem SettingsState.step_valid (st : SettingsState) (call : SettingsCall) (next : SettingsState)
    (valid : st.store.Valid) (_ : True) (taken : st.step build codec call = some next) : next.store.Valid := by
  obtain ⟨⟨ret, after⟩, done, same⟩ := Option.map_eq_some_iff.mp taken
  cases same
  rcases SettingsState.call_outcome done with ⟨-, kept⟩ | ⟨-, written⟩
  · rw [kept]
    exact valid
  · exact valid.write written

/-! ## The seeded store -/

theorem channelsInitFromConfig_valid {chHash : UInt8} {cfg : ChannelConfig} {t : ChannelTable}
    (short : cfg.psk.length ≤ 32) (done : channelsInitFromConfig chHash (some cfg) = some t) (i : SlotIndex) :
    channelIsValid { t.channelSlots i with index := (i.val : Int) } = true := by
  have defaults : ∀ t ∈ channelsInitDefaults 0, (t.channelSlots 0).role = .primary ∧
      (t.channelSlots 0).hasSettings = true ∧ ∀ j, channelIsValid (t.channelSlots j) = true := by decide
  obtain ⟨start, started, name, -, slots⟩ := channelsInitFromConfig_slots done
  obtain ⟨role, settings, valid⟩ := defaults start started
  change channelIsValid (t.channelSlots i) = true
  rw [slots]
  by_cases here : i = 0
  · rw [here, Function.update_self]
    simp only [fixupChannel, settings, if_true]
    split_ifs
    all_goals
      simp only [channelIsValid, role, Bool.and_eq_true, decide_eq_true_eq]
      exact ⟨by decide, short⟩
  · rw [Function.update_of_ne here]
    exact valid i

theorem seedRecords_valid (build : StoreBuild) {cfg : InitConfig} {live : Live} {chHash : UInt8}
    (short : cfg.psk.length ≤ 32)
    (channels : channelsInitFromConfig chHash (some cfg.toChannelConfig) = some live.table)
    (hops : live.hopLimit ≤ 7) (role : deviceRoleIsValid live.deviceRole = true)
    (mode : rebroadcastModeIsValid live.rebroadcastMode = true) : (seedRecords build cfg live).Valid where
  configs := by
    intro i
    change (seedConfigDefaults build cfg live i).whichPayloadVariant = _ ∧ _
    change _ ∧ configMessageIsValid (seedConfigDefaults build cfg live i) = true
    unfold seedConfigDefaults
    split_ifs with device position lora bluetooth
    · rw [device]
      refine ⟨rfl, ?_⟩
      simp only [configMessageIsValid, role, mode]
      rfl
    · exact ⟨ConfigMessage.blank_tag _ _, configMessageIsValid_blank i _⟩
    · rw [lora]
      refine ⟨rfl, ?_⟩
      have bounded : live.hopLimit.toUInt32 ≤ 7 := by
        rw [UInt32.le_iff_toNat_le, UInt8.toNat_toUInt32]
        exact UInt8.le_iff_toNat_le.mp hops
      simp only [configMessageIsValid, bounded]
      rfl
    · rw [bluetooth]
      refine ⟨rfl, ?_⟩
      have bounded : build.bluetoothMode ≤ 2 := by
        rcases build.pairing with fixed | none
        · omega
        · omega
      simp only [configMessageIsValid, bounded]
      rfl
    · exact ⟨ConfigMessage.blank_tag _ _, configMessageIsValid_blank i _⟩
  modules := fun _ => rfl
  channels := fun i => ⟨channelsInitFromConfig_valid short channels i, rfl⟩
  longName := CharArray.copyString_terminated _
  shortName := CharArray.copyString_terminated _

end

/-- From the store that `meshtastic_init` seeds, any calls with any arguments keep every entry valid, and
a call that returns an error leaves the store as it was. -/
theorem config_store_valid_and_atomic (build : StoreBuild) (codec : StoreCodec) (cfg : InitConfig) (live : Live)
    (chHash : UInt8) (calls : List SettingsCall) {last : SettingsState}
    (psk : cfg.psk.length = 16 ∨ cfg.psk.length = 32)
    (channels : channelsInitFromConfig chHash (some cfg.toChannelConfig) = some live.table)
    (hops : live.hopLimit ≤ 7) (role : deviceRoleIsValid live.deviceRole = true)
    (mode : rebroadcastModeIsValid live.rebroadcastMode = true)
    (done : Transition.run (SettingsState.step build codec) ⟨seedRecords build cfg live, live⟩ calls = some last) :
    last.store.Valid ∧
    ∀ call err next, last.call build codec call = some (some err, next) → next.store = last.store := by
  have short : cfg.psk.length ≤ 32 := by
    rcases psk with half | whole
    · omega
    · omega
  constructor
  · exact Transition.run_invariant SettingsState.step_valid (seedRecords_valid build short channels hops role mode)
      (Transition.guarded_true _ calls) done
  · intro call err next failed
    rcases SettingsState.call_outcome failed with ⟨-, kept⟩ | ⟨success, -⟩
    · exact kept
    · cases success

/-! ## A build, and its messages on the wire -/

def plainBuild : StoreBuild :=
  { plainEnv with
    pairing := Or.inr rfl
    deviceOthers := []
    positionContents := encodeFields [⟨13, .varint 2⟩]
    loraOthers := encodeFields [⟨1, .varint 1⟩, ⟨9, .varint 1⟩]
    bluetoothOthers := encodeFields [⟨1, .varint 1⟩]
    mqttContents := []
    ulongBits := 32
    ulongBits_ge := Nat.le_refl 32 }

def RegionCode.toNat : RegionCode → Nat
  | unset => 0
  | us => 1
  | eu433 => 2
  | eu868 => 3
  | other code => code

def channelSettingsFields (settings : ChannelSettings) : List Field :=
  optionalField (settings.channelNum != 0) 1 (.varint settings.channelNum.toNat) ++
  (optionalField (settings.psk != []) 2 (.bytes settings.psk) ++
  (optionalField (settings.name.bytes != []) 3 (.bytes settings.name.bytes) ++
  (optionalField (settings.id != 0) 4 (.fixed32 settings.id) ++
  (optionalField settings.uplinkEnabled 5 (.varint 1) ++
  (optionalField settings.downlinkEnabled 6 (.varint 1) ++
  match settings.moduleSettings with
  | none => []
  | some module =>
    [⟨7, .bytes (encodeFields
      (optionalField (module.positionPrecision != 0) 1 (.varint module.positionPrecision.toNat) ++
      optionalField module.isMuted 2 (.varint 1)))⟩])))))

def channelFields (channel : Channel) : List Field :=
  optionalField (channel.index != 0) 1 (.varint (channel.index % 2 ^ 64).toNat) ++
  (optionalField channel.hasSettings 2 (.bytes (encodeFields (channelSettingsFields channel.settings))) ++
  optionalField (channel.role.toNat != 0) 3 (.varint channel.role.toNat))

def sectionFields (tag : Nat) (named : List Field) (others : Octets) : List Field :=
  [⟨tag, .bytes (encodeFields
    ((named ++ (decodeFields others.length others).getD []).insertionSort (fun a b => a.number ≤ b.number)))⟩]

def configFields : ConfigMessage → List Field
  | .device config others => sectionFields CONFIG_DEVICE_TAG
      (optionalField (config.role.toNat != 0) 1 (.varint config.role.toNat) ++
      optionalField (config.rebroadcastMode.toNat != 0) 6 (.varint config.rebroadcastMode.toNat)) others
  | .lora config others => sectionFields CONFIG_LORA_TAG
      (optionalField (config.region.toNat != 0) 7 (.varint config.region.toNat) ++
      (optionalField (config.hopLimit != 0) 8 (.varint config.hopLimit.toNat) ++
      (optionalField (config.txPower != 0) 10 (.varint (config.txPower.toInt % 2 ^ 64).toNat) ++
      optionalField (config.overrideFrequency != 0) 14 (.fixed32 config.overrideFrequency)))) others
  | .bluetooth config others => sectionFields CONFIG_BLUETOOTH_TAG
      (optionalField (config.mode != 0) 2 (.varint config.mode)) others
  | .other tag contents _ => [⟨tag, .bytes contents⟩]

/-- The wire format for the messages of one store; what is not one of them is not decoded. -/
def wireCodec (store : StoreRecords) : StoreCodec where
  encodeChannel channel := encodeFields (channelFields channel)
  decodeChannel octets := (List.ofFn store.channels).find? (fun channel => encodeFields (channelFields channel) = octets)
  encodeConfig message := encodeFields (configFields message)
  decodeConfig octets := (List.ofFn store.configs).find? (fun message => encodeFields (configFields message) = octets)
  encodeModule message := encodeFields [⟨message.whichPayloadVariant, .bytes message.contents⟩]
  decodeModule octets := (List.ofFn store.modules).find? (fun message =>
    encodeFields [⟨message.whichPayloadVariant, .bytes message.contents⟩] = octets)

def plainLive : Live :=
  { coldLive with
    table := (channelsInitFromConfig 0 (some plainConfig.toChannelConfig)).getD coldLive.table
    hopLimit := 3, txPower := 20, frequency := FREQ_EU }

theorem config_store_valid_and_atomic_corruptRecord :
    ∃ last, Transition.run (SettingsState.step plainBuild (wireCodec (seedRecords plainBuild plainConfig plainLive)))
        ⟨seedRecords plainBuild plainConfig plainLive, plainLive⟩
        [.setChannel 1 (some openSecondary), .setConfig (some (.lora { hopLimit := 9 } [])),
          .settingSet (some ⟨ascii "channel/1", by decide⟩) (some [1, 0, 2, 0, 0xff]), .setDeviceRole .router] = some last ∧
      last.store.Valid :=
  ⟨_, rfl, (config_store_valid_and_atomic plainBuild (wireCodec (seedRecords plainBuild plainConfig plainLive))
    plainConfig plainLive 0
    [.setChannel 1 (some openSecondary), .setConfig (some (.lora { hopLimit := 9 } [])),
      .settingSet (some ⟨ascii "channel/1", by decide⟩) (some [1, 0, 2, 0, 0xff]), .setDeviceRole .router]
    (Or.inl rfl) rfl (by decide) rfl rfl rfl).1⟩

end Meshtastic
