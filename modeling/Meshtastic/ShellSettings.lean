import Meshtastic.ConfigStoreReplay
import Meshtastic.ShellConfig

/-! What any number of configuration commands leaves: the running configuration is the stored one, but for slots that
were stored as PRIMARY before another slot became it. -/

namespace Meshtastic
open Bytes

inductive ShellCommand where
  | channelSet (argv : List CString)
  | channelDisable (argv : List CString)
  | deviceRole (argv : List CString)
  | deviceRebroadcast (argv : List CString)

def ShellCommand.run (build : ShellBuild) (st : SettingsState) : ShellCommand → Option (ShellAnswer × SettingsState)
  | .channelSet argv => cmdChannelSet build st argv
  | .channelDisable argv => cmdChannelDisable build st argv
  | .deviceRole argv => some (cmdDeviceRole build st argv)
  | .deviceRebroadcast argv => some (cmdDeviceRebroadcast build st argv)

def SettingsState.commandStep (build : ShellBuild) (st : SettingsState) (command : ShellCommand) : Option SettingsState :=
  (command.run build st).map Prod.snd

def StoreRecords.device (store : StoreRecords) : DeviceConfig := (store.configs DEVICE_INDEX).deviceConfig

/-- The running configuration is what the store holds; of the slots stored as PRIMARY one is. -/
structure SettingsState.Mirrors (st : SettingsState) : Prop where
  valid : st.store.Valid
  slots : ∀ j, st.live.table.channelSlots j = settled st.store.channels st.live.table.primaryIndex j
  role : st.live.deviceRole = st.store.device.role
  mode : st.live.rebroadcastMode = st.store.device.rebroadcastMode

/-- What a command does: nothing, or one change that the store has accepted. -/
inductive CommandEffect (st : SettingsState) : Option Errno → SettingsState → Prop
  | nothing (code : Option Errno) : CommandEffect st code st
  | slot {index : SlotIndex} {channel : Channel} {next : SettingsState} (set : SlotSet st next index channel) :
      CommandEffect st none next
  | role {role : DeviceRole} (valid : deviceRoleIsValid role = true) : CommandEffect st none (setDeviceRole st role).2
  | mode {mode : RebroadcastMode} (valid : rebroadcastModeIsValid mode = true) :
      CommandEffect st none (setRebroadcastMode st mode).2

section
variable {build : ShellBuild} {st next : SettingsState} {answer : ShellAnswer} {argv : List CString}

theorem setChannel_effect {index : SlotIndex} {channel : Channel} {code : Option Errno}
    (done : setChannel st (UInt8.ofNat index.val) (some channel) = some (code, next)) : CommandEffect st code next := by
  cases code with
  | none => exact .slot (setChannel_accepted done)
  | some err =>
    obtain ⟨-, kept, -⟩ := setChannel_rejected done
    rw [kept]
    exact .nothing _

theorem cmdChannelSet_effect (done : cmdChannelSet build st argv = some (answer, next)) :
    CommandEffect st answer.code next := by
  by_cases ordered : ∃ index options, Orders build argv index options
  · obtain ⟨index, options, orders⟩ := ordered
    obtain ⟨line, called⟩ := cmdChannelSet_orders st orders
    rw [called] at done
    obtain ⟨⟨code, after⟩, stored, same⟩ := Option.map_eq_some_iff.mp done
    cases same
    exact setChannel_effect stored
  · obtain ⟨refusal, kept, -⟩ := cmdChannelSet_disorder st fun index options orders => ordered ⟨index, options, orders⟩
    rw [kept] at done
    cases done
    exact .nothing _

theorem cmdChannelDisable_effect (done : cmdChannelDisable build st argv = some (answer, next)) :
    CommandEffect st answer.code next := by
  unfold cmdChannelDisable at done
  split at done
  · cases parsed : shellParseChannelIndex build.toStoreBuild _ with
    | error line =>
      rw [parsed] at done
      cases done
      exact .nothing _
    | ok index =>
      simp only [parsed] at done
      cases stored : setChannel st (UInt8.ofNat index.val)
          (some { st.live.table.channelSlots index with role := .disabled, hasSettings := true }) with
      | none =>
        rw [stored] at done
        cases done
      | some result =>
        obtain ⟨code, after⟩ := result
        have effect := setChannel_effect stored
        rw [stored] at done
        cases code with
        | none =>
          cases done
          exact effect
        | some err =>
          cases done
          exact effect
  · cases done
    exact .nothing _

theorem cmdDeviceRole_effect (st : SettingsState) (argv : List CString) :
    CommandEffect st (cmdDeviceRole build st argv).1.code (cmdDeviceRole build st argv).2 := by
  unfold cmdDeviceRole
  split
  · exact .nothing _
  · cases shellParseDeviceRole _ with
    | error line => exact .nothing _
    | ok role =>
      have effect := @CommandEffect.role st role
      simp only [setDeviceRole] at effect ⊢
      split_ifs with valid
      · rw [if_pos valid] at effect
        exact effect valid
      · exact .nothing _
  · exact .nothing _

theorem cmdDeviceRebroadcast_effect (st : SettingsState) (argv : List CString) :
    CommandEffect st (cmdDeviceRebroadcast build st argv).1.code (cmdDeviceRebroadcast build st argv).2 := by
  unfold cmdDeviceRebroadcast
  split
  · exact .nothing _
  · cases shellParseRebroadcastMode _ with
    | error line => exact .nothing _
    | ok mode =>
      have effect := @CommandEffect.mode st mode
      simp only [setRebroadcastMode] at effect ⊢
      split_ifs with valid
      · rw [if_pos valid] at effect
        exact effect valid
      · exact .nothing _
  · exact .nothing _

theorem ShellCommand.run_effect {command : ShellCommand} (done : command.run build st = some (answer, next)) :
    CommandEffect st answer.code next := by
  cases command with
  | channelSet argv => exact cmdChannelSet_effect done
  | channelDisable argv => exact cmdChannelDisable_effect done
  | deviceRole argv =>
    have effect := @cmdDeviceRole_effect build st argv
    rw [Option.some.inj done] at effect
    exact effect
  | deviceRebroadcast argv =>
    have effect := @cmdDeviceRebroadcast_effect build st argv
    rw [Option.some.inj done] at effect
    exact effect

end

/-! ## Store and running configuration -/

section
variable {st next : SettingsState}

theorem StoreRecords.Valid.device_change {store : StoreRecords} (valid : store.Valid)
    (change : DeviceConfig → DeviceConfig) :
    (store.withConfig DEVICE_INDEX ((store.configs DEVICE_INDEX).mapDevice change)).device = change store.device := by
  have tagged := (valid.configs DEVICE_INDEX).1
  simp only [StoreRecords.device, StoreRecords.withConfig, Function.update_self]
  cases entry : store.configs DEVICE_INDEX with
  | device config others => rfl
  | lora config others =>
    rw [entry] at tagged
    cases tagged
  | bluetooth config others =>
    rw [entry] at tagged
    cases tagged
  | other tag others apart =>
    rw [entry] at tagged
    exact absurd tagged apart.1

theorem SettingsState.Mirrors.slotSet (mirrors : st.Mirrors) {index : SlotIndex} {channel : Channel}
    (set : SlotSet st next index channel) : next.Mirrors := by
  have live := set.live
  refine ⟨?_, ?_, ?_, ?_⟩
  · rw [set.store]
    exact mirrors.valid.withChannel index set.valid
  · obtain ⟨-, kept⟩ := channelsSetSlot_settled (storeChannel st.store.channels index channel)
      (by rw [storeChannel, Function.update_self]; exact set.table)
    intro j
    rw [set.store]
    apply kept j
    by_cases here : j = index
    · exact .inl here
    · refine .inr ((mirrors.slots j).trans (settled_congr ?_))
      rw [storeChannel, Function.update_of_ne here]
  · rw [live, set.store]
    exact mirrors.role
  · rw [live, set.store]
    exact mirrors.mode

theorem SettingsState.Mirrors.deviceRole (mirrors : st.Mirrors) {role : DeviceRole}
    (known : deviceRoleIsValid role = true) : (setDeviceRole st role).2.Mirrors := by
  have device := mirrors.valid.device_change fun config => { config with role := role }
  simp only [setDeviceRole, if_pos known]
  refine ⟨mirrors.valid.write (.role role known), mirrors.slots, ?_, ?_⟩
  · rw [device]
  · rw [device]
    exact mirrors.mode

theorem SettingsState.Mirrors.rebroadcastMode (mirrors : st.Mirrors) {mode : RebroadcastMode}
    (known : rebroadcastModeIsValid mode = true) : (setRebroadcastMode st mode).2.Mirrors := by
  have device := mirrors.valid.device_change fun config => { config with rebroadcastMode := mode }
  simp only [setRebroadcastMode, if_pos known]
  refine ⟨mirrors.valid.write (.mode mode known), mirrors.slots, ?_, ?_⟩
  · rw [device]
    exact mirrors.role
  · rw [device]

theorem SettingsState.Mirrors.effect (mirrors : st.Mirrors) {code : Option Errno} (effect : CommandEffect st code next) :
    next.Mirrors := by
  cases effect with
  | nothing => exact mirrors
  | slot set => exact mirrors.slotSet set
  | role known => exact mirrors.deviceRole known
  | mode known => exact mirrors.rebroadcastMode known

theorem applyCore_mirrors {build : StoreBuild} {loaded : SettingsState} (valid : loaded.store.Valid)
    (applied : applyCore build loaded = some st) : st.Mirrors := by
  obtain ⟨config, replayed, same⟩ := Option.map_eq_some_iff.mp applied
  subst same
  obtain ⟨-, table, role, mode⟩ := configStoreApplyCore_eq_some replayed
  obtain ⟨-, slots⟩ := replaySlots_settled _ table
  exact ⟨valid, fun j => slots j (.inl (List.mem_finRange j)), role, mode⟩

theorem CommandEffect.failed_kept {err : Errno} (effect : CommandEffect st (some err) next) : next = st := by
  generalize gave : some err = code at effect
  cases effect with
  | nothing => rfl
  | slot set => cases gave
  | role known => cases gave
  | mode known => cases gave

theorem SettingsState.Mirrors.known (mirrors : st.Mirrors) :
    deviceRoleIsValid st.live.deviceRole = true ∧ rebroadcastModeIsValid st.live.rebroadcastMode = true := by
  obtain ⟨tagged, accepted⟩ := mirrors.valid.configs DEVICE_INDEX
  obtain ⟨config, others, same⟩ := ConfigMessage.device_of_tag tagged
  have device : st.store.device = config := by rw [StoreRecords.device, same]; rfl
  rw [same] at accepted
  simp only [configMessageIsValid, Bool.and_eq_true] at accepted
  rw [mirrors.role, mirrors.mode, device]
  exact accepted.2

/-! ## Names that are shown -/

theorem shellDeviceRoleName_typed {role : DeviceRole} (known : deviceRoleIsValid role = true)
    (named : role ≠ .routerClient ∧ role ≠ .repeater) :
    shellParseDeviceRole (lit (shellDeviceRoleName role)) = .ok role := by
  refine shellParseDeviceRole_eq_ok.mpr ⟨?_, rfl⟩
  cases role with
  | routerClient => exact absurd rfl named.1
  | repeater => exact absurd rfl named.2
  | unrecognized beyond =>
    have small : 13 + beyond ≤ 12 := of_decide_eq_true known
    omega
  | _ => simp [shellDeviceRoleName]

theorem shellRebroadcastModeName_typed {mode : RebroadcastMode} (known : rebroadcastModeIsValid mode = true) :
    shellParseRebroadcastMode (lit (shellRebroadcastModeName mode)) = .ok mode := by
  refine shellParseRebroadcastMode_eq_ok.mpr ⟨?_, rfl⟩
  cases mode with
  | unrecognized beyond =>
    have small : 6 + beyond ≤ 5 := of_decide_eq_true known
    omega
  | _ => simp [shellRebroadcastModeName]

end

/-! ## Whole sessions -/

/-- On a device that has been started with a valid store, every session of configuration commands, whatever their
words, leaves a valid store and a running configuration that is the stored one, but for slots that were stored as
PRIMARY before another slot became it; a command that fails changes nothing; and the names that are then shown for
the role and the mode set the same on any device where they are typed, unless the role is one of the two that have
no name. -/
theorem shell_mirrors_store (build : ShellBuild) {loaded start : SettingsState} (valid : loaded.store.Valid)
    (started : applyCore build.toStoreBuild loaded = some start) (commands : List ShellCommand) {last : SettingsState}
    (whole : Transition.run (SettingsState.commandStep build) start commands = some last) :
    last.Mirrors ∧
    (∀ (command : ShellCommand) answer err next, command.run build last = some (answer, next) →
      answer.code = some err → next = last) ∧
    (last.live.deviceRole = .routerClient ∨ last.live.deviceRole = .repeater ∨ ∀ (other : SettingsState) word,
      (cmdDeviceRole build other [word, lit (shellDeviceRoleName last.live.deviceRole)]).2.live.deviceRole =
        last.live.deviceRole) ∧
    (∀ (other : SettingsState) word,
      (cmdDeviceRebroadcast build other
          [word, lit (shellRebroadcastModeName last.live.rebroadcastMode)]).2.live.rebroadcastMode =
        last.live.rebroadcastMode) := by
  have mirrors : last.Mirrors := by
    refine Transition.run_invariant ?_ (applyCore_mirrors valid started) (Transition.guarded_true start commands) whole
    intro st command next before _ taken
    obtain ⟨⟨answer, after⟩, done, same⟩ := Option.map_eq_some_iff.mp taken
    subst same
    exact before.effect (ShellCommand.run_effect done)
  obtain ⟨knownRole, knownMode⟩ := mirrors.known
  refine ⟨mirrors, ?_, ?_, ?_⟩
  · intro command answer err next done gave
    have effect := ShellCommand.run_effect done
    rw [gave] at effect
    exact effect.failed_kept
  · by_cases unnamed : last.live.deviceRole = .routerClient ∨ last.live.deviceRole = .repeater
    · exact unnamed.imp_right .inl
    · refine .inr (.inr fun other word => ?_)
      have read := shellDeviceRoleName_typed knownRole (not_or.mp unnamed)
      simp only [cmdDeviceRole, read, setDeviceRole, knownRole, if_true]
  · intro other word
    have read := shellRebroadcastModeName_typed knownMode
    simp only [cmdDeviceRebroadcast, read, setRebroadcastMode, knownMode, if_true]

def movedCommands : List ShellCommand :=
  [.channelSet [lit "set", lit "1", lit "role", lit "primary", lit "psk", lit "default"],
    .channelSet [lit "set", lit "1", lit "psk", lit "11"], .deviceRole [lit "role", lit "router_late"]]

def movedStart : SettingsState := (applyCore plainShell.toStoreBuild plainDevice).getD plainDevice

def movedLast : SettingsState :=
  (Transition.run (SettingsState.commandStep plainShell) movedStart movedCommands).getD plainDevice

theorem shell_mirrors_store_moved :
    (movedLast.store.channels 0).role = .primary ∧ (movedLast.live.table.channelSlots 0).role = .secondary ∧
    movedLast.Mirrors ∧
    (cmdDeviceRole plainShell plainDevice [lit "role", lit "router_late"]).2.live.deviceRole = .routerLate := by
  have valid : plainDevice.store.Valid :=
    @seedRecords_valid plainBuild plainConfig plainLive 0 (by decide) rfl (by decide) rfl rfl
  obtain ⟨mirrors, -, role, -⟩ := shell_mirrors_store plainShell valid
    (show applyCore plainShell.toStoreBuild plainDevice = some movedStart from rfl) movedCommands
    (show _ = some movedLast from rfl)
  refine ⟨rfl, rfl, mirrors, ?_⟩
  rcases role with unnamed | unnamed | typed
  · exact absurd unnamed (by decide)
  · exact absurd unnamed (by decide)
  · exact typed plainDevice (lit "role")

end Meshtastic
