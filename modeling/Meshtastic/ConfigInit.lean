import Meshtastic.KeyLookup
import Meshtastic.StoreExport

/-! What `meshtastic_init` sets from its argument makes a trip through the configuration store
before the radio starts: seeded, then applied. The channel table, the policy and the names survive
the trip; a frequency survives it when its region code stands for that frequency. -/

namespace Meshtastic
open Bytes

/-! ## A replay over a table at rest -/

/-- Every slot is as `channel_fixup` leaves it, every hash is the computed one, and only the primary
slot is PRIMARY. -/
structure ChannelTable.AtRest (t : ChannelTable) : Prop where
  coherent : t.Coherent
  normal : ∀ j, fixupChannel j (t.channelSlots j) = t.channelSlots j
  single : ∀ j, (t.channelSlots j).role = .primary → j = t.primaryIndex
  cached : t.chHash = t.channelHashes t.primaryIndex

theorem fixupChannel_index (index : SlotIndex) (channel : Channel) :
    (fixupChannel index channel).index = index.val := by
  unfold fixupChannel
  cases channel.hasSettings with
  | false =>
    simp only [Bool.false_eq_true, if_false]
    split_ifs <;> rfl
  | true =>
    simp only [if_true]
    split_ifs <;> rfl

theorem ChannelTable.AtRest.indexed {t : ChannelTable} (rest : t.AtRest) (i : SlotIndex) :
    { t.channelSlots i with index := (i.val : Int) } = t.channelSlots i := by
  have index : (t.channelSlots i).index = i.val := by
    rw [← rest.normal i]
    exact fixupChannel_index i _
  rw [← index]

theorem ChannelTable.withSlot_same (t : ChannelTable) (i : SlotIndex) :
    t.withSlot i (t.channelSlots i) = t := by
  rw [ChannelTable.withSlot, Function.update_eq_self]

theorem ChannelTable.AtRest.channelFixup {t : ChannelTable} (rest : t.AtRest) (i : SlotIndex) :
    channelFixup t i = some t := by
  have hashed := rest.coherent i
  unfold Meshtastic.channelFixup
  rw [rest.normal i, ChannelTable.withSlot_same]
  simp only [hashed, Option.bind_eq_bind, Option.bind_some, Function.update_eq_self]

theorem demoteOtherPrimary_none {t : ChannelTable} {index : SlotIndex}
    (single : ∀ j, (t.channelSlots j).role = .primary → j = index) :
    demoteOtherPrimary t index = some t := by
  have turn : ∀ i, demoteOne index t i = some t := by
    intro i
    unfold demoteOne
    by_cases here : i = index
    · rw [if_pos here]
    · rw [if_neg here, if_neg fun role => here (single i role)]
  unfold demoteOtherPrimary
  generalize List.finRange MAX_CHANNELS = visited
  induction visited with
  | nil => rfl
  | cons i visited ih =>
    rw [List.foldlM_cons, turn i]
    exact ih

theorem ChannelTable.AtRest.channelsSetSlot {t : ChannelTable} (rest : t.AtRest) (i : SlotIndex) :
    channelsSetSlot t i (t.channelSlots i) = some t := by
  have cached : (if i = t.primaryIndex then { t with chHash := t.channelHashes t.primaryIndex } else t) = t := by
    split_ifs
    · rw [← rest.cached]
    · rfl
  unfold Meshtastic.channelsSetSlot
  simp only [rest.indexed i, ChannelTable.withSlot_same, Option.bind_eq_bind]
  by_cases role : (t.channelSlots i).role = .primary
  · have here : i = t.primaryIndex := rest.single i role
    have promoted : { t with primaryIndex := i } = t := by rw [here]
    rw [if_pos role, promoted, demoteOtherPrimary_none fun j other => (rest.single j other).trans here.symm]
    simp only [Option.bind_some, rest.channelFixup i, cached]
  · simp only [if_neg role, Option.bind_some, rest.channelFixup i, cached]

theorem ChannelTable.AtRest.replaySlots {t : ChannelTable} (rest : t.AtRest) (visited : List SlotIndex) :
    replaySlots t.channelSlots t visited = some t := by
  induction visited with
  | nil => rfl
  | cons i visited ih =>
    unfold Meshtastic.replaySlots at ih ⊢
    rw [List.foldlM_cons, rest.channelsSetSlot i]
    exact ih

theorem channelFixup_primary_returns {t : ChannelTable} {index : SlotIndex}
    (role : (t.channelSlots index).role = .primary) : ∃ next, channelFixup t index = some next := by
  apply channelFixup_returns
  intro both
  have inherits := (fixupChannel_inherits index _).mp both.1
  rw [inherits.2.1] at role
  contradiction

/-- The table `meshtastic_init` builds from its argument. -/
theorem channelsInitFromConfig_atRest (chHash : UInt8) (cfg : ChannelConfig) :
    ∃ t, channelsInitFromConfig chHash (some cfg) = some t ∧ t.AtRest := by
  have returned : ∃ t, channelsInitFromConfig chHash (some cfg) = some t := by
    obtain ⟨start, started, -⟩ := channelsInitDefaults_spec chHash
    have primaryRole : (start.channelSlots 0).role = .primary := by
      have role : ∀ t ∈ channelsInitDefaults 0, (t.channelSlots 0).role = .primary := by decide
      rw [channelsInitDefaults_eq] at started
      obtain ⟨zero, startedZero, same⟩ := Option.map_eq_some_iff.mp started
      rw [← same]
      exact role zero startedZero
    simp only [channelsInitFromConfig, started, Option.bind_eq_bind, Option.bind_some, Option.bind_eq_some_iff]
    apply exists_comm.mp
    refine (channelFixup_primary_returns ?_).imp fun next fixed => ⟨_, fixed, rfl⟩
    simp only [ChannelTable.withSlot, Function.update_self]
    exact primaryRole
  obtain ⟨t, done⟩ := returned
  obtain ⟨coherent, primary, normal, others⟩ := channelsInitFromConfig_spec done
  refine ⟨t, done, coherent, normal, ?_, ?_⟩
  · intro j role
    by_contra other
    rw [others j (fun here => other (here.trans primary.symm))] at role
    contradiction
  · simp only [channelsInitFromConfig, Option.bind_eq_bind, Option.bind_eq_some_iff] at done
    obtain ⟨start, started, fixed, recomputed, last⟩ := done
    cases last
    rfl

/-! ## The trip through the store -/

/-- The checks `meshtastic_init` makes of the values of its argument. -/
structure InitConfig.Accepted (cfg : InitConfig) : Prop where
  psk : cfg.psk.length = 16 ∨ cfg.psk.length = 32
  channelName : cfg.channelName ≠ none
  frequency : cfg.frequency ≠ 0

/-- `mt` and the channel table when `meshtastic_init` comes to seed the store. -/
def initLive (env : StoreEnv) (cfg : InitConfig) (before : Live) : Option Live := do
  let table ← channelsInitFromConfig before.table.chHash (some cfg.toChannelConfig)
  some
    { before with
      table := table
      frequency := cfg.frequency
      hopLimit := if cfg.hopLimit = 0 then env.defaultHopLimit else cfg.hopLimit
      txPower := if cfg.txPower = 0 then env.txPower else cfg.txPower
      longName := cfg.longName.getD env.nodeLongName
      shortName := cfg.shortName.getD env.nodeShortName }

/-- What the application configured is still what the stack runs with: the names as far as the store
has room for them, the rest unchanged. -/
structure Live.Kept (configured applied : Live) : Prop where
  frequency : applied.frequency = configured.frequency
  hopLimit : applied.hopLimit = configured.hopLimit
  txPower : applied.txPower = configured.txPower
  table : applied.table = configured.table
  deviceRole : applied.deviceRole = configured.deviceRole
  rebroadcastMode : applied.rebroadcastMode = configured.rebroadcastMode
  longName : applied.longName = configured.longName.truncate (OWNER_LONG_NAME_LEN - 1)
  shortName : applied.shortName = configured.shortName.truncate (OWNER_SHORT_NAME_LEN - 1)

def FrequencyKept (hz : UInt32) : Prop :=
  hz = FREQ_US ∨ hz = FREQ_EU ∨ hz = 433175000 ∨
    (¬(902000000 ≤ hz ∧ hz ≤ 928000000) ∧ ¬(869000000 ≤ hz ∧ hz ≤ 870000000) ∧
      ¬(433000000 ≤ hz ∧ hz ≤ 434000000))

instance (hz : UInt32) : Decidable (FrequencyKept hz) := inferInstanceAs (Decidable (_ ∨ _))

/-- The frequency applied from a region code made of `hz`, over `hz` itself. -/
theorem frequencyFromRegion_eq_iff (hz : UInt32) :
    (if frequencyFromRegion (loraRegionFromFrequency hz) ≠ 0 then
      frequencyFromRegion (loraRegionFromFrequency hz) else hz) = hz ↔ FrequencyKept hz := by
  unfold loraRegionFromFrequency FrequencyKept
  simp only [← UInt32.toNat_inj, UInt32.le_iff_toNat_le]
  split_ifs with us eu868 eu433
  all_goals simp [frequencyFromRegion, FREQ_US, FREQ_EU] at *
  all_goals omega

theorem CharArray.copyString_text {last : Nat} (src : CString) :
    (copyString src : CharArray (last + 1)).text = src.truncate last := by
  unfold CharArray.text CString.ofOctets CString.truncate
  simp only [copyString_takeWhile]

theorem restored_hopLimit (hopLimit : UInt8) :
    (if 1 ≤ hopLimit.toUInt32 ∧ hopLimit.toUInt32 ≤ 7 then hopLimit.toUInt32.toUInt8 else hopLimit) = hopLimit := by
  rw [UInt8.toUInt8_toUInt32, ite_self]

theorem applyCore_seed (build : StoreBuild) (zeroUnset : build.overrideHz 0 = none) {cfg : InitConfig} {live : Live}
    (rest : live.table.AtRest) (frequency : live.frequency = cfg.frequency) :
    applyCore build ⟨seedRecords build cfg live, live⟩ =
      some
        { store := seedRecords build cfg live
          live :=
            { live with
              longName := (cfg.longName.getD build.nodeLongName).truncate (OWNER_LONG_NAME_LEN - 1)
              shortName := (cfg.shortName.getD build.nodeShortName).truncate (OWNER_SHORT_NAME_LEN - 1)
              frequency :=
                if frequencyFromRegion (loraRegionFromFrequency cfg.frequency) ≠ 0 then
                  frequencyFromRegion (loraRegionFromFrequency cfg.frequency)
                else cfg.frequency } } := by
  have channels : (seedRecords build cfg live).view.channels = live.table.channelSlots :=
    funext fun i => rest.indexed i
  have lora : (seedRecords build cfg live).view.lora =
      { region := loraRegionFromFrequency cfg.frequency
        hopLimit := live.hopLimit.toUInt32
        txPower := live.txPower } := rfl
  have device : (seedRecords build cfg live).view.device =
      { role := live.deviceRole, rebroadcastMode := live.rebroadcastMode } := rfl
  have long : (seedRecords build cfg live).view.longName =
      (cfg.longName.getD build.nodeLongName).truncate (OWNER_LONG_NAME_LEN - 1) := CharArray.copyString_text _
  have short : (seedRecords build cfg live).view.shortName =
      (cfg.shortName.getD build.nodeShortName).truncate (OWNER_SHORT_NAME_LEN - 1) := CharArray.copyString_text _
  have power : (if live.txPower ≠ 0 then live.txPower else live.txPower) = live.txPower := ite_self _
  simp only [applyCore, configStoreApplyCore, channels, rest.replaySlots, Option.bind_eq_bind, Option.bind_some,
    Option.map_some, lora, device, long, short, zeroUnset, restored_hopLimit, power, frequency]

/-- Seeding the store and applying it keeps what `meshtastic_init` took from its argument exactly when
the frequency is one its region code stands for, or in no band. -/
theorem init_keeps_config_iff (build : StoreBuild) (cfg : InitConfig) (before : Live)
    (zeroUnset : build.overrideHz 0 = none) :
    (∃ live st, initLive build.toStoreEnv cfg before = some live ∧
      applyCore build ⟨seedRecords build cfg live, live⟩ = some st ∧ live.Kept st.live) ↔
    FrequencyKept cfg.frequency := by
  obtain ⟨table, started, rest⟩ := channelsInitFromConfig_atRest before.table.chHash cfg.toChannelConfig
  have configured : ∃ live, initLive build.toStoreEnv cfg before = some live ∧ live.table = table ∧
      live.frequency = cfg.frequency ∧ live.longName = cfg.longName.getD build.nodeLongName ∧
      live.shortName = cfg.shortName.getD build.nodeShortName := by
    simp only [initLive, started]
    exact ⟨_, rfl, rfl, rfl, rfl, rfl⟩
  obtain ⟨live, initialised, atTable, frequency, long, short⟩ := configured
  rw [← atTable] at rest
  have applied := applyCore_seed build zeroUnset rest frequency
  rw [← frequencyFromRegion_eq_iff]
  constructor
  · intro kept
    obtain ⟨other, st, same, done, kept⟩ := kept
    cases initialised.symm.trans same
    cases applied.symm.trans done
    exact kept.frequency.trans frequency
  · intro restored
    refine ⟨live, _, initialised, applied, ?_, rfl, rfl, rfl, rfl, rfl, ?_, ?_⟩
    · exact restored.trans frequency.symm
    · rw [long]
    · rw [short]

theorem init_keeps_config_eu : ∃ live st, initLive plainBuild.toStoreEnv plainConfig coldLive = some live ∧
    applyCore plainBuild ⟨seedRecords plainBuild plainConfig live, live⟩ = some st ∧ live.Kept st.live :=
  (init_keeps_config_iff plainBuild plainConfig coldLive rfl).mpr (by decide)

def midBandConfig : InitConfig := { plainConfig with frequency := 915000000 }

/-- The radio is set up for 906.875 MHz where the application asked for 915 MHz. -/
theorem init_moves_frequency :
    midBandConfig.Accepted ∧ midBandConfig.hopLimit ≤ 7 ∧
    ∃ live st, initLive plainBuild.toStoreEnv midBandConfig coldLive = some live ∧
      applyCore plainBuild ⟨seedRecords plainBuild midBandConfig live, live⟩ = some st ∧
      live.frequency = 915000000 ∧ st.live.frequency = FREQ_US ∧ ¬live.Kept st.live := by
  refine ⟨⟨Or.inl rfl, nofun, by decide⟩, by decide, ?_⟩
  refine ⟨_, _, rfl, rfl, rfl, rfl, ?_⟩
  intro kept
  exact absurd kept.frequency (by decide)

end Meshtastic
