import Meshtastic.ChannelsCoherence

/-! The roles in the channel table: one primary slot at most, where `primary_index` points, the hash of
that slot in `mt.ch_hash`, no hash for a disabled slot, and slots that know their own index. Calls keep
all of it; only `meshtastic_channels_init_from_config` without a configuration may leave an old
`mt.ch_hash` behind. -/

namespace Meshtastic
open Bytes

abbrev SetSlotCall := UInt8 × Option Channel

/-- `meshtastic_channels_set_slot` on any arguments: a refused call changes nothing. -/
def setSlotCall (t : ChannelTable) : SetSlotCall → Option ChannelTable
  | (index, some channel) =>
    if h : index.toNat < MAX_CHANNELS then channelsSetSlot t ⟨index.toNat, h⟩ channel else some t
  | (_, none) => some t

structure ChannelTable.RolesValid (t : ChannelTable) : Prop where
  primary : ∀ j, (t.channelSlots j).role = .primary → j = t.primaryIndex
  disabled : ∀ j, (t.channelSlots j).role = .disabled → t.channelHashes j = 0
  normal : ∀ j, fixupChannel j (t.channelSlots j) = t.channelSlots j

/-- The role invariant of the table and `mt`. -/
structure ChannelTable.RoleInvariant (t : ChannelTable) : Prop where
  primary : ∀ j, (t.channelSlots j).role = .primary → j = t.primaryIndex
  primaryHash : t.chHash = t.channelHashes t.primaryIndex
  disabled : ∀ j, (t.channelSlots j).role = .disabled → t.channelHashes j = 0
  own : ∀ j, (t.channelSlots j).hasSettings = true ∧ (t.channelSlots j).index = j.val

/-- The other slots stay as they are, except that a call which promotes a slot makes the primary one
secondary. A call that names no slot promotes none. -/
def LeavesOthers (t : ChannelTable) (call : SetSlotCall) (next : ChannelTable) : Prop :=
  ∀ j : SlotIndex, j.val ≠ call.1.toNat →
    next.channelSlots j =
      if call.1.toNat < MAX_CHANNELS ∧ call.2.map Channel.role = some .primary ∧
          (t.channelSlots j).role = .primary
      then { t.channelSlots j with role := .secondary } else t.channelSlots j

/-! ## One call -/

theorem fixupChannel_own (index : SlotIndex) (ch : Channel) :
    (fixupChannel index ch).hasSettings = true ∧ (fixupChannel index ch).index = index.val := by
  simp only [fixupChannel]
  cases settings : ch.hasSettings with
  | true =>
    simp only [if_true]
    split
    · exact ⟨rfl, rfl⟩
    · exact ⟨rfl, rfl⟩
  | false =>
    simp only [Bool.false_eq_true, if_false]
    split
    · exact ⟨rfl, rfl⟩
    · exact ⟨rfl, rfl⟩

theorem hashOf_disabled {ch primary : Channel} {hash : UInt8} (off : ch.role = .disabled)
    (computed : hashOf ch primary = some hash) : hash = 0 := by
  have disabled : ch.Off := .inr off
  simp only [hashOf, keyOf, disabled, if_true] at computed
  exact (Option.some.inj computed).symm

theorem demotedChannel_of_normal {j : SlotIndex} {ch : Channel} (normal : fixupChannel j ch = ch) :
    demotedChannel j ch = { ch with role := .secondary } := by
  obtain ⟨settings, own⟩ := fixupChannel_own j ch
  rw [normal] at settings own
  have renamed : ch.settings.name ≠ CHANNEL_DEFAULT := by
    intro legacy
    have name := congrArg (fun other => other.settings.name) normal
    simp only [fixupChannel, settings, if_true, legacy] at name
    exact absurd name (by decide)
  simp only [demotedChannel, fixupChannel, settings, if_true, renamed, if_false, ← own]

theorem fixupChannel_role (index : SlotIndex) (ch : Channel) :
    (fixupChannel index ch).role = if ch.hasSettings then ch.role else .disabled := by
  simp only [fixupChannel]
  cases settings : ch.hasSettings with
  | true =>
    simp only [if_true]
    split <;> rfl
  | false =>
    simp only [Bool.false_eq_true, if_false]
    split <;> rfl

section
variable {t next : ChannelTable} {index : SlotIndex} {channel : Channel}

theorem ChannelTable.RolesValid.other (valid : t.RolesValid) (done : channelsSetSlot t index channel = some next)
    {j : SlotIndex} (other : j ≠ index) :
    (channel.role = .primary ∧ (t.channelSlots j).role = .primary ∧
        next.channelSlots j = { t.channelSlots j with role := .secondary }) ∨
      (¬(channel.role = .primary ∧ (t.channelSlots j).role = .primary) ∧
        next.channelSlots j = t.channelSlots j ∧ next.channelHashes j = t.channelHashes j) := by
  obtain ⟨-, -, -, others⟩ := channelsSetSlot_eq_some done
  by_cases demoted : channel.role = .primary ∧ (t.channelSlots j).role = .primary
  · left
    refine ⟨demoted.1, demoted.2, ?_⟩
    rw [((others j other).1 demoted).1]
    exact demotedChannel_of_normal (valid.normal j)
  · right
    exact ⟨demoted, (others j other).2 demoted⟩

theorem ChannelTable.RolesValid.setSlot (valid : t.RolesValid) (done : channelsSetSlot t index channel = some next) :
    next.RolesValid := by
  obtain ⟨moved, written, computed, -⟩ := channelsSetSlot_eq_some done
  refine ⟨?_, ?_, ?_⟩
  · intro j primary
    rw [moved]
    by_cases here : j = index
    · rw [here, written, fixupChannel_role] at primary
      split at primary
      · rw [if_pos primary]
        exact here
      · cases primary
    · rcases valid.other done here with ⟨-, -, contents⟩ | ⟨kept, contents, -⟩
      · rw [contents] at primary
        cases primary
      · rw [contents] at primary
        rw [if_neg (fun promotes => kept ⟨promotes, primary⟩)]
        exact valid.primary j primary
  · intro j off
    by_cases here : j = index
    · rw [here] at off ⊢
      exact hashOf_disabled off computed
    · rcases valid.other done here with ⟨-, -, contents⟩ | ⟨-, contents, hash⟩
      · rw [contents] at off
        cases off
      · rw [contents] at off
        rw [hash]
        exact valid.disabled j off
  · intro j
    by_cases here : j = index
    · rw [here, written]
      exact fixupChannel_idem index channel
    · rcases valid.other done here with ⟨-, -, contents⟩ | ⟨-, contents, -⟩
      · rw [contents, ← demotedChannel_of_normal (valid.normal j)]
        exact fixupChannel_idem j _
      · rw [contents]
        exact valid.normal j

theorem channelsSetSlot_primaryHash (cached : t.chHash = t.channelHashes t.primaryIndex)
    (done : channelsSetSlot t index channel = some next) : next.chHash = next.channelHashes next.primaryIndex := by
  obtain ⟨moved, -, -, others⟩ := channelsSetSlot_eq_some done
  rw [channelsSetSlot_chHash done]
  split
  · rfl
  · rename_i elsewhere
    have unpromoted : channel.role ≠ .primary := by
      intro promotes
      rw [if_pos promotes] at moved
      exact elsewhere moved.symm
    rw [if_neg unpromoted] at moved
    rw [moved] at elsewhere ⊢
    rw [cached, ((others t.primaryIndex (Ne.symm elsewhere)).2 (fun both => unpromoted both.1)).2]

end

/-! ## Whole runs -/

theorem setSlotCall_cases {t next : ChannelTable} {call : SetSlotCall} (done : setSlotCall t call = some next) :
    (∃ (index : SlotIndex) (channel : Channel), call.1.toNat = index.val ∧ call.2 = some channel ∧
        channelsSetSlot t index channel = some next) ∨
      ((call.2 = none ∨ MAX_CHANNELS ≤ call.1.toNat) ∧ next = t) := by
  obtain ⟨index, channel⟩ := call
  cases channel with
  | none =>
    cases done
    exact .inr ⟨.inl rfl, rfl⟩
  | some channel =>
    simp only [setSlotCall] at done
    split at done
    · rename_i inside
      exact .inl ⟨⟨index.toNat, inside⟩, channel, rfl, rfl, done⟩
    · rename_i outside
      cases done
      exact .inr ⟨.inr (Nat.le_of_not_lt outside), rfl⟩

theorem setSlotCall_leavesOthers {t next : ChannelTable} {call : SetSlotCall} (valid : t.RolesValid)
    (done : setSlotCall t call = some next) : LeavesOthers t call next := by
  intro j other
  rcases setSlotCall_cases done with ⟨index, channel, place, given, written⟩ | ⟨refused, same⟩
  · have elsewhere : j ≠ index := by
      intro here
      apply other
      rw [place, here]
    have inside : call.1.toNat < MAX_CHANNELS := place ▸ index.isLt
    rw [given, Option.map_some]
    rcases valid.other written elsewhere with ⟨promotes, primary, contents⟩ | ⟨kept, contents, -⟩
    · rw [if_pos ⟨inside, congrArg some promotes, primary⟩]
      exact contents
    · rw [if_neg (fun both => kept ⟨Option.some.inj both.2.1, both.2.2⟩)]
      exact contents
  · rw [same, if_neg]
    intro both
    obtain ⟨inside, promotes, -⟩ := both
    rcases refused with missing | outside
    · rw [missing] at promotes
      cases promotes
    · omega

theorem setSlotCall_rolesValid (t : ChannelTable) (call : SetSlotCall) (next : ChannelTable)
    (valid : t.RolesValid) (_ : True) (done : setSlotCall t call = some next) : next.RolesValid := by
  rcases setSlotCall_cases done with ⟨index, channel, -, -, written⟩ | ⟨-, same⟩
  · exact valid.setSlot written
  · rw [same]
    exact valid

theorem setSlotCall_primaryHash (t : ChannelTable) (call : SetSlotCall) (next : ChannelTable)
    (cached : t.chHash = t.channelHashes t.primaryIndex) (_ : True) (done : setSlotCall t call = some next) :
    next.chHash = next.channelHashes next.primaryIndex := by
  rcases setSlotCall_cases done with ⟨index, channel, -, -, written⟩ | ⟨-, same⟩
  · exact channelsSetSlot_primaryHash cached written
  · rw [same]
    exact cached

theorem channelsInitFromConfig_rolesValid {chHash : UInt8} {cfg : Option ChannelConfig} {start : ChannelTable}
    (init : channelsInitFromConfig chHash cfg = some start) : start.RolesValid := by
  obtain ⟨coherent, primaryIndex, normal, others⟩ := channelsInitFromConfig_spec init
  refine ⟨?_, ?_, normal⟩
  · intro j primary
    rw [primaryIndex]
    by_contra other
    rw [others j other] at primary
    cases primary
  · intro j off
    exact hashOf_disabled off (coherent.hashOf j)

/-- Without a configuration `mt.ch_hash` keeps the value it had. -/
theorem channelsInitFromConfig_primaryHash {chHash : UInt8} {cfg : Option ChannelConfig} {start : ChannelTable}
    (init : channelsInitFromConfig chHash cfg = some start) :
    start.chHash = start.channelHashes start.primaryIndex ↔ cfg ≠ none ∨ chHash = 0x08 := by
  cases cfg with
  | none =>
    have computed : ∀ t ∈ channelsInitDefaults 0, t.channelHashes t.primaryIndex = 0x08 := by decide
    rw [channelsInitFromConfig, channelsInitDefaults_eq] at init
    obtain ⟨t, defaults, same⟩ := Option.map_eq_some_iff.mp init
    rw [← same, computed t defaults]
    simp only [ne_eq, not_true, false_or]
  | some cfg =>
    simp only [channelsInitFromConfig, Option.bind_eq_bind, Option.bind_eq_some_iff] at init
    obtain ⟨t, -, fixed, -, same⟩ := init
    cases same
    simp

/-- From `meshtastic_channels_init_from_config`, the role invariant holds after any calls and each call
leaves the other slots alone, exactly when a configuration was given or `mt.ch_hash` already held the hash
of the default primary slot. -/
theorem channel_roles_hold_iff (chHash : UInt8) (cfg : Option ChannelConfig) {start : ChannelTable}
    (init : channelsInitFromConfig chHash cfg = some start) :
    (∀ calls last, Transition.run setSlotCall start calls = some last →
      last.RoleInvariant ∧ ∀ call next, setSlotCall last call = some next → LeavesOthers last call next) ↔
      cfg ≠ none ∨ chHash = 0x08 := by
  rw [← channelsInitFromConfig_primaryHash init]
  constructor
  · intro always
    exact (always [] start rfl).1.primaryHash
  · intro cached calls last done
    have free : Transition.Guarded setSlotCall (fun _ _ => True) start calls := Transition.guarded_true start calls
    have valid := Transition.run_invariant setSlotCall_rolesValid (channelsInitFromConfig_rolesValid init) free done
    have hash := Transition.run_invariant setSlotCall_primaryHash cached free done
    refine ⟨⟨valid.primary, hash, valid.disabled, ?_⟩, ?_⟩
    · intro j
      rw [← valid.normal j]
      exact fixupChannel_own j _
    · intro call next taken
      exact setSlotCall_leavesOthers valid taken

theorem channel_roles_hold_configured :
    ∃ start last, channelsInitFromConfig 0 (some ⟨defaultPsk, some CHANNEL_LONGFAST⟩) = some start ∧
      Transition.run setSlotCall start [(1, some { role := .primary })] = some last ∧
      last.RoleInvariant ∧ last.primaryIndex = 1 := by
  refine ⟨_, _, rfl, rfl, ?_, rfl⟩
  exact (((channel_roles_hold_iff 0 (some ⟨defaultPsk, some CHANNEL_LONGFAST⟩) rfl).mpr (.inl (by decide)))
    [(1, some { role := .primary })] _ rfl).1

/-- Without a configuration a fresh `mt` keeps the hash 0, where the primary slot has `0x08`. -/
theorem channel_roles_stale_hash :
    ∃ start, channelsInitFromConfig 0 none = some start ∧ start.chHash = 0 ∧
      start.channelHashes start.primaryIndex = 0x08 ∧ ¬start.RoleInvariant := by
  refine ⟨_, rfl, rfl, by decide, ?_⟩
  intro valid
  exact absurd valid.primaryHash (by decide)

end Meshtastic
