import Meshtastic.StoreValidity

/-! When key lookups end. `channel_get_key` goes from a secondary slot without a PSK to the slot at
`primary_index`; it comes back from there unless that slot is one of these too. -/

namespace Meshtastic
open Bytes

/-- The slot at `primary_index` answers lookups itself. -/
def ChannelTable.KeyEnds (t : ChannelTable) : Prop := ¬(t.channelSlots t.primaryIndex).Inherits

theorem keyOf_eq_none {ch primary : Channel} : keyOf ch primary = none ↔ ch.Inherits ∧ primary.Inherits := by
  unfold keyOf
  by_cases inherits : ch.Inherits
  · by_cases chain : primary.Inherits
    · simp [inherits, inherits.not_off, chain]
    · simp [inherits, inherits.not_off, chain]
  · by_cases off : ch.Off
    · simp [inherits, off]
    · simp [inherits, off]

theorem hashOf_eq_none {ch primary : Channel} : hashOf ch primary = none ↔ ch.Inherits ∧ primary.Inherits := by
  rw [← keyOf_eq_none]
  unfold hashOf
  cases keyOf ch primary with
  | none => simp
  | some result => cases result <;> simp

theorem channelGetKey_ends {t : ChannelTable} :
    (∀ i, ∃ result, channelGetKey t.channelSlots t.primaryIndex i = some result) ↔ t.KeyEnds := by
  constructor
  · intro ends chain
    obtain ⟨result, looked⟩ := ends t.primaryIndex
    rw [channelGetKey_eq, keyOf_eq_none.mpr ⟨chain, chain⟩] at looked
    cases looked
  · intro ends i
    apply Option.ne_none_iff_exists'.mp
    rw [channelGetKey_eq]
    intro endless
    exact ends (keyOf_eq_none.mp endless).2

section
variable {t next : ChannelTable} {index : SlotIndex} {channel : Channel}

/-! ## One slot -/

theorem channelFixup_returns (t : ChannelTable) (index : SlotIndex)
    (ends : ¬((fixupChannel index (t.channelSlots index)).Inherits ∧
      ((t.withSlot index (fixupChannel index (t.channelSlots index))).channelSlots t.primaryIndex).Inherits)) :
    ∃ next, channelFixup t index = some next := by
  have hash : ∃ hash, channelGenerateHash (t.withSlot index (fixupChannel index (t.channelSlots index))).channelSlots
      t.primaryIndex index = some hash := by
    apply Option.ne_none_iff_exists'.mp
    rw [channelGenerateHash_eq, Ne, hashOf_eq_none]
    simpa only [ChannelTable.withSlot, Function.update_self] using ends
  obtain ⟨hash, computed⟩ := hash
  refine ⟨{ t.withSlot index (fixupChannel index (t.channelSlots index)) with
    channelHashes := Function.update t.channelHashes index hash }, ?_⟩
  simp only [channelFixup, Option.bind_eq_bind]
  change (channelGenerateHash _ t.primaryIndex index).bind _ = _
  rw [computed]
  rfl

theorem demote_returns (visited : List SlotIndex) {t : ChannelTable} (atIndex : t.primaryIndex = index)
    (promoted : (t.channelSlots index).role = .primary) :
    ∃ next, visited.foldlM (demoteOne index) t = some next ∧ next.primaryIndex = index ∧
      next.channelSlots index = t.channelSlots index := by
  induction visited generalizing t with
  | nil => exact ⟨t, rfl, atIndex, rfl⟩
  | cons i rest ih =>
    have first : ∃ middle, demoteOne index t i = some middle ∧ middle.primaryIndex = index ∧
        middle.channelSlots index = t.channelSlots index := by
      unfold demoteOne
      by_cases here : i = index
      · exact ⟨t, if_pos here, atIndex, rfl⟩
      · rw [if_neg here]
        by_cases primary : (t.channelSlots i).role = .primary
        · rw [if_pos primary]
          have apart : index ≠ i := fun same => here same.symm
          obtain ⟨middle, done⟩ := channelFixup_returns (t.withSlot i { t.channelSlots i with role := .secondary }) i (by
            intro both
            have inherits := both.2
            simp only [ChannelTable.withSlot, atIndex, Function.update_of_ne apart] at inherits
            rw [inherits.2.1] at promoted
            cases promoted)
          obtain ⟨written, primaryKept, -, -, -⟩ := channelFixup_eq_some done
          refine ⟨middle, done, primaryKept.trans atIndex, ?_⟩
          rw [written, Function.update_of_ne apart]
          simp only [ChannelTable.withSlot, Function.update_of_ne apart]
        · exact ⟨t, if_neg primary, atIndex, rfl⟩
    obtain ⟨middle, taken, atMiddle, kept⟩ := first
    obtain ⟨next, later, atNext, keptLater⟩ := ih atMiddle (kept ▸ promoted)
    refine ⟨next, ?_, atNext, keptLater.trans kept⟩
    rw [List.foldlM_cons, taken]
    exact later

theorem channelsSetSlot_ends (ends : t.KeyEnds) (done : channelsSetSlot t index channel = some next) :
    next.KeyEnds := by
  obtain ⟨moved, -, computed, others⟩ := channelsSetSlot_eq_some done
  intro chain
  by_cases here : next.primaryIndex = index
  · rw [here] at computed chain
    rw [hashOf_self_inherits chain] at computed
    cases computed
  · have unpromoted : channel.role ≠ .primary := by
      intro promotes
      rw [if_pos promotes] at moved
      exact here moved
    rw [if_neg unpromoted] at moved
    rw [((others _ here).2 (fun both => unpromoted both.1)).1, moved] at chain
    exact ends chain

theorem channelsSetSlot_returns_iff (ends : t.KeyEnds) :
    (∃ next, channelsSetSlot t index channel = some next) ↔ (index = t.primaryIndex → ¬channel.Inherits) := by
  constructor
  · intro returned here inherits
    obtain ⟨next, done⟩ := returned
    obtain ⟨moved, written, computed, -⟩ := channelsSetSlot_eq_some done
    have secondary : channel.role ≠ .primary := by
      rw [inherits.2.1]
      decide
    rw [if_neg secondary, ← here] at moved
    rw [moved, written, hashOf_self_inherits ((fixupChannel_inherits index channel).mpr inherits)] at computed
    cases computed
  · intro own
    by_cases promotes : channel.role = .primary
    · obtain ⟨moved, demoted, atIndex, written⟩ := demote_returns (List.finRange MAX_CHANNELS)
        (t := { t.withSlot index { channel with index := index.val } with primaryIndex := index }) rfl
        (by simpa [ChannelTable.withSlot] using promotes)
      have fixed := channelFixup_returns moved index (by
        intro both
        have inherits := (fixupChannel_inherits index _).mp both.1
        simp only [written, ChannelTable.withSlot, Function.update_self] at inherits
        exact absurd inherits.2.1 (by simp [promotes]))
      obtain ⟨last, done⟩ := fixed
      refine ⟨if index = last.primaryIndex then { last with chHash := last.channelHashes last.primaryIndex } else last, ?_⟩
      simp only [channelsSetSlot, if_pos promotes, demoteOtherPrimary, demoted, Option.bind_eq_bind, Option.bind_some, done]
    · have fixed := channelFixup_returns (t.withSlot index { channel with index := index.val }) index (by
        intro both
        have inherits : channel.Inherits := by
          have stored := (fixupChannel_inherits index _).mp both.1
          simpa [ChannelTable.withSlot, Channel.Inherits] using stored
        by_cases here : index = t.primaryIndex
        · exact own here inherits
        · have chain := both.2
          have apart : t.primaryIndex ≠ index := fun same => here same.symm
          simp only [ChannelTable.withSlot, Function.update_of_ne apart] at chain
          exact ends chain)
      obtain ⟨last, done⟩ := fixed
      refine ⟨if index = last.primaryIndex then { last with chHash := last.channelHashes last.primaryIndex } else last, ?_⟩
      simp only [channelsSetSlot, if_neg promotes, Option.bind_eq_bind, Option.bind_some, done]

/-! ## All slots -/

/-- A replay of stored slots ends unless it writes the primary slot, as one that takes its key from the
primary slot, before it has met a slot stored as PRIMARY. -/
theorem replaySlots_returns_iff {channels : Slots} (visited : List SlotIndex) (sorted : visited.Pairwise (· < ·))
    {t : ChannelTable} (ends : t.KeyEnds) :
    (∃ last, replaySlots channels t visited = some last) ↔
      (t.primaryIndex ∈ visited → (channels t.primaryIndex).Inherits →
        ∃ j ∈ visited, j < t.primaryIndex ∧ (channels j).role = .primary) := by
  induction visited generalizing t with
  | nil => exact ⟨fun _ none => (List.not_mem_nil none).elim, fun _ => ⟨t, rfl⟩⟩
  | cons k rest ih =>
    obtain ⟨below, sortedRest⟩ := List.pairwise_cons.mp sorted
    have fresh : k ∉ rest := fun member => lt_irrefl k (below k member)
    constructor
    · intro returned member inherits
      obtain ⟨last, done⟩ := returned
      obtain ⟨next, first, later⟩ := replaySlots_cons done
      have nextEnds := channelsSetSlot_ends ends first
      have moved := (channelsSetSlot_eq_some first).1
      have own := (channelsSetSlot_returns_iff ends).mp ⟨next, first⟩
      cases List.mem_cons.mp member with
      | inl here => exact absurd (here ▸ inherits) (own here.symm)
      | inr behind =>
        by_cases promotes : (channels k).role = .primary
        · exact ⟨k, List.mem_cons_self, below _ behind, promotes⟩
        · rw [if_neg promotes] at moved
          rw [← moved] at behind inherits ⊢
          obtain ⟨j, inRest, lower, primary⟩ := (ih sortedRest nextEnds).mp ⟨last, later⟩ behind inherits
          exact ⟨j, List.mem_cons_of_mem k inRest, lower, primary⟩
    · intro allowed
      have own : k = t.primaryIndex → ¬(channels k).Inherits := by
        intro here inherits
        obtain ⟨j, inside, lower, -⟩ := allowed (here ▸ List.mem_cons_self) (here ▸ inherits)
        rw [← here] at lower
        cases List.mem_cons.mp inside with
        | inl same => exact absurd lower (same ▸ lt_irrefl j)
        | inr behind => exact absurd lower (lt_asymm (below j behind))
      obtain ⟨next, first⟩ := (channelsSetSlot_returns_iff ends).mpr own
      have moved := (channelsSetSlot_eq_some first).1
      have rest := (ih sortedRest (channelsSetSlot_ends ends first)).mpr (by
        intro behind inherits
        by_cases promotes : (channels k).role = .primary
        · rw [if_pos promotes] at moved
          exact absurd (moved ▸ behind) fresh
        · rw [if_neg promotes] at moved
          rw [moved] at behind inherits ⊢
          obtain ⟨j, inside, lower, primary⟩ := allowed (List.mem_cons_of_mem k behind) inherits
          cases List.mem_cons.mp inside with
          | inl same => exact absurd (same ▸ primary) promotes
          | inr inRest => exact ⟨j, inRest, lower, primary⟩)
      obtain ⟨last, later⟩ := rest
      refine ⟨last, ?_⟩
      simp only [replaySlots, List.foldlM_cons, Option.bind_eq_bind, first, Option.bind_some]
      exact later

theorem replaySlots_ends {channels : Slots} (visited : List SlotIndex) {t last : ChannelTable} (ends : t.KeyEnds)
    (done : replaySlots channels t visited = some last) : last.KeyEnds := by
  induction visited generalizing t with
  | nil =>
    cases done
    exact ends
  | cons k rest ih =>
    obtain ⟨next, first, later⟩ := replaySlots_cons done
    exact ih (channelsSetSlot_ends ends first) later

end

/-! ## Calls -/

/-- A replay of the store ends: the live primary slot is not stored as one that takes its key from the
primary slot, or a lower slot is stored as PRIMARY and takes its place first. -/
def SettingsState.ReplayEnds (st : SettingsState) : Prop :=
  (st.store.channels st.live.table.primaryIndex).Inherits →
    ∃ j, j < st.live.table.primaryIndex ∧ (st.store.channels j).role = .primary

instance (st : SettingsState) : Decidable st.ReplayEnds := inferInstanceAs (Decidable (_ → ∃ _, _ ∧ _))

/-- The calls after which lookups still end. -/
def KeepsKeys (st : SettingsState) : SettingsCall → Prop
  | .setChannel index channel =>
    ∀ ch ∈ channel, index.toNat = st.live.table.primaryIndex.val → ¬ch.Inherits
  | .setConfig config => ∀ message ∈ config, configMessageIsValid message = true → st.ReplayEnds
  | .applyCore => st.ReplayEnds
  | _ => True

instance (st : SettingsState) : ∀ call, Decidable (KeepsKeys st call)
  | .setChannel index channel =>
    inferInstanceAs (Decidable (∀ ch ∈ channel, index.toNat = st.live.table.primaryIndex.val → ¬ch.Inherits))
  | .setConfig config =>
    inferInstanceAs (Decidable (∀ message ∈ config, configMessageIsValid message = true → st.ReplayEnds))
  | .setModule _ => isTrue trivial
  | .setDeviceRole _ => isTrue trivial
  | .setRebroadcastMode _ => isTrue trivial
  | .settingSet _ _ => isTrue trivial
  | .applyCore => inferInstanceAs (Decidable st.ReplayEnds)

section
variable {build : StoreBuild} {codec : StoreCodec} {st next : SettingsState}

theorem applyCore_eq_some (done : applyCore build st = some next) :
    replaySlots st.store.channels st.live.table (List.finRange MAX_CHANNELS) = some next.live.table := by
  obtain ⟨applied, replayed, same⟩ := Option.map_eq_some_iff.mp done
  rw [← same]
  exact (configStoreApplyCore_eq_some replayed).2.1

theorem applyCore_returns_iff (ends : st.live.table.KeyEnds) :
    (∃ next, applyCore build st = some next) ↔ st.ReplayEnds := by
  have replays : (∃ next, applyCore build st = some next) ↔
      ∃ last, replaySlots st.store.channels st.live.table (List.finRange MAX_CHANNELS) = some last := by
    constructor
    · intro returned
      obtain ⟨next, done⟩ := returned
      exact ⟨next.live.table, applyCore_eq_some done⟩
    · intro returned
      obtain ⟨last, done⟩ := returned
      have view : st.store.view.channels = st.store.channels := rfl
      simp only [applyCore, configStoreApplyCore, view, done, Option.bind_eq_bind, Option.bind_some, Option.map_some]
      exact ⟨_, rfl⟩
  rw [replays, replaySlots_returns_iff _ (List.pairwise_lt_finRange MAX_CHANNELS) ends]
  simp only [List.mem_finRange, true_and, true_implies]
  rfl

theorem setChannel_returns_iff (ends : st.live.table.KeyEnds) (index : UInt8) (channel : Option Channel) :
    (∃ result, setChannel st index channel = some result) ↔ KeepsKeys st (.setChannel index channel) := by
  cases channel with
  | none => exact ⟨fun _ ch none => (Option.not_mem_none ch none).elim, fun _ => ⟨_, rfl⟩⟩
  | some channel =>
    have only : KeepsKeys st (.setChannel index (some channel)) ↔
        (index.toNat = st.live.table.primaryIndex.val → ¬channel.Inherits) := by
      simp [KeepsKeys]
    rw [only]
    by_cases range : index.toNat < MAX_CHANNELS
    · have place : (⟨index.toNat, range⟩ : SlotIndex) = st.live.table.primaryIndex ↔
          index.toNat = st.live.table.primaryIndex.val := Fin.ext_iff
      by_cases valid : channelIsValid channel = true
      · have slot := @channelsSetSlot_returns_iff st.live.table ⟨index.toNat, range⟩ channel ends
        rw [place] at slot
        rw [← slot]
        simp only [setChannel, dif_pos range, if_pos valid, channelsSetSlotChecked_inRange range]
        cases channelsSetSlot st.live.table ⟨index.toNat, range⟩ channel with
        | none => simp
        | some table => simp
      · have keyed : ¬channel.Inherits := by
          intro inherits
          apply valid
          simp [channelIsValid, inherits.2.1, inherits.2.2, ChannelRole.toNat]
        simp only [setChannel, dif_pos range, if_neg valid]
        exact ⟨fun _ _ => keyed, fun _ => ⟨_, rfl⟩⟩
    · have elsewhere : index.toNat ≠ st.live.table.primaryIndex.val := by
        have inside := st.live.table.primaryIndex.isLt
        omega
      simp only [setChannel, dif_neg range]
      exact ⟨fun _ here => absurd here elsewhere, fun _ => ⟨_, rfl⟩⟩

theorem setConfig_returns_iff (ends : st.live.table.KeyEnds) (config : Option ConfigMessage) :
    (∃ result, setConfig build st config = some result) ↔ KeepsKeys st (.setConfig config) := by
  cases config with
  | none => exact ⟨fun _ message none => (Option.not_mem_none message none).elim, fun _ => ⟨_, rfl⟩⟩
  | some message =>
    have only : KeepsKeys st (.setConfig (some message)) ↔ (configMessageIsValid message = true → st.ReplayEnds) := by
      simp [KeepsKeys]
    rw [only]
    by_cases valid : configMessageIsValid message = true
    · have known : (indexForTag configTable message.whichPayloadVariant).isSome = true := by
        simp only [configMessageIsValid, Bool.and_eq_true] at valid
        exact valid.1
      obtain ⟨index, found⟩ := Option.isSome_iff_exists.mp known
      have replay := @applyCore_returns_iff build { st with store := st.store.withConfig index message } ends
      simp only [setConfig, found, true_implies, valid]
      constructor
      · intro returned
        obtain ⟨result, done⟩ := returned
        obtain ⟨next, applied, -⟩ := Option.map_eq_some_iff.mp done
        exact replay.mp ⟨next, applied⟩
      · intro allowed
        obtain ⟨next, applied⟩ := replay.mpr allowed
        exact ⟨(none, next), by rw [applied]; rfl⟩
    · simp only [setConfig, if_neg valid]
      exact ⟨fun _ accepted => absurd accepted valid, fun _ => ⟨_, rfl⟩⟩

theorem step_returns_iff (st : SettingsState) (call : SettingsCall) (ends : st.live.table.KeyEnds) :
    (∃ next, st.step build codec call = some next) ↔ KeepsKeys st call := by
  have returns : (∃ next, st.step build codec call = some next) ↔ ∃ result, st.call build codec call = some result := by
    simp only [SettingsState.step, Option.map_eq_some_iff]
    constructor
    · intro stepped
      obtain ⟨-, result, done, -⟩ := stepped
      exact ⟨result, done⟩
    · intro called
      obtain ⟨result, done⟩ := called
      exact ⟨result.2, result, done, rfl⟩
  rw [returns]
  cases call with
  | setChannel index channel => exact setChannel_returns_iff ends index channel
  | setConfig config => exact setConfig_returns_iff ends config
  | setModule module => exact ⟨fun _ => trivial, fun _ => ⟨_, rfl⟩⟩
  | setDeviceRole role => exact ⟨fun _ => trivial, fun _ => ⟨_, rfl⟩⟩
  | setRebroadcastMode mode => exact ⟨fun _ => trivial, fun _ => ⟨_, rfl⟩⟩
  | settingSet key buf => exact ⟨fun _ => trivial, fun _ => ⟨_, rfl⟩⟩
  | applyCore =>
    rw [KeepsKeys, ← @applyCore_returns_iff build st ends]
    simp only [SettingsState.call, Option.map_eq_some_iff]
    constructor
    · intro called
      obtain ⟨-, next, done, -⟩ := called
      exact ⟨next, done⟩
    · intro applied
      obtain ⟨next, done⟩ := applied
      exact ⟨(none, next), next, done, rfl⟩

def TableChange (t next : ChannelTable) : Prop :=
  next = t ∨ (∃ index channel, channelsSetSlot t index channel = some next) ∨
    ∃ channels visited, replaySlots channels t visited = some next

theorem TableChange.ends {t next : ChannelTable} (change : TableChange t next) (ends : t.KeyEnds) : next.KeyEnds := by
  rcases change with kept | ⟨index, channel, written⟩ | ⟨channels, visited, replayed⟩
  · rw [kept]
    exact ends
  · exact channelsSetSlot_ends ends written
  · exact replaySlots_ends visited ends replayed

theorem setChannel_table {index : UInt8} {channel : Option Channel} {ret : Option Errno}
    (done : st.call build codec (.setChannel index channel) = some (ret, next)) :
    TableChange st.live.table next.live.table := by
  simp only [SettingsState.call, setChannel] at done
  cases channel with
  | none =>
    cases done
    exact Or.inl rfl
  | some channel =>
    simp only at done
    split_ifs at done with range valid
    · rw [channelsSetSlotChecked_inRange range] at done
      cases written : channelsSetSlot st.live.table ⟨index.toNat, range⟩ channel with
      | none =>
        rw [written] at done
        cases done
      | some table =>
        rw [written] at done
        cases done
        exact Or.inr (Or.inl ⟨⟨index.toNat, range⟩, channel, written⟩)
    · cases done
      exact Or.inl rfl
    · cases done
      exact Or.inl rfl

theorem setConfig_table {config : Option ConfigMessage} {ret : Option Errno}
    (done : st.call build codec (.setConfig config) = some (ret, next)) :
    TableChange st.live.table next.live.table := by
  simp only [SettingsState.call, setConfig] at done
  cases config with
  | none =>
    cases done
    exact Or.inl rfl
  | some message =>
    simp only at done
    split_ifs at done with valid
    · cases found : indexForTag configTable message.whichPayloadVariant with
      | none =>
        rw [found] at done
        cases done
        exact Or.inl rfl
      | some index =>
        rw [found] at done
        obtain ⟨applied, replayed, same⟩ := Option.map_eq_some_iff.mp done
        cases same
        have table := applyCore_eq_some replayed
        exact Or.inr (Or.inr ⟨_, _, table⟩)
    · cases done
      exact Or.inl rfl

theorem call_table {call : SettingsCall} {ret : Option Errno} (done : st.call build codec call = some (ret, next)) :
    TableChange st.live.table next.live.table := by
  cases call with
  | setChannel index channel => exact setChannel_table done
  | setConfig config => exact setConfig_table done
  | setModule module =>
    simp only [SettingsState.call, setModule, Option.some.injEq] at done
    cases module with
    | none =>
      cases done
      exact Or.inl rfl
    | some message =>
      simp only at done
      split_ifs at done
      · split at done <;> cases done <;> exact Or.inl rfl
      · cases done
        exact Or.inl rfl
  | setDeviceRole role =>
    simp only [SettingsState.call, setDeviceRole, Option.some.injEq] at done
    split_ifs at done <;> cases done <;> exact Or.inl rfl
  | setRebroadcastMode mode =>
    simp only [SettingsState.call, setRebroadcastMode, Option.some.injEq] at done
    split_ifs at done <;> cases done <;> exact Or.inl rfl
  | settingSet key buf =>
    cases done
    exact Or.inl rfl
  | applyCore =>
    obtain ⟨applied, replayed, same⟩ := Option.map_eq_some_iff.mp done
    cases same
    exact Or.inr (Or.inr ⟨_, _, applyCore_eq_some replayed⟩)

theorem step_ends (st : SettingsState) (call : SettingsCall) (next : SettingsState) (ends : st.live.table.KeyEnds)
    (taken : st.step build codec call = some next) : next.live.table.KeyEnds := by
  obtain ⟨⟨ret, after⟩, done, same⟩ := Option.map_eq_some_iff.mp taken
  cases same
  exact (call_table done).ends ends

end

/-- From the state in which `meshtastic_init` seeds the store, over whatever is loaded, applied and set
after that: every call returns and every lookup ends in every state, exactly when no call writes to the
primary slot a channel that takes its key from the primary slot. -/
theorem key_lookups_end_iff (build : StoreBuild) (codec : StoreCodec) (cfg : InitConfig) (live : Live)
    (chHash : UInt8) (channels : channelsInitFromConfig chHash (some cfg.toChannelConfig) = some live.table)
    (calls : List SettingsCall) :
    ((∃ last, Transition.run (SettingsState.step build codec) ⟨seedRecords build cfg live, live⟩ calls = some last) ∧
      Transition.Always (SettingsState.step build codec)
        (fun st => ∀ i, ∃ result, channelGetKey st.live.table.channelSlots st.live.table.primaryIndex i = some result)
        ⟨seedRecords build cfg live, live⟩ calls) ↔
    Transition.Guarded (SettingsState.step build codec) KeepsKeys ⟨seedRecords build cfg live, live⟩ calls := by
  have start : live.table.KeyEnds := (channelsInitFromConfig_spec channels).1.primary_own
  have whole : (∃ last, Transition.run (SettingsState.step build codec) ⟨seedRecords build cfg live, live⟩ calls =
        some last) ↔
      Transition.Guarded (SettingsState.step build codec) KeepsKeys ⟨seedRecords build cfg live, live⟩ calls :=
    Transition.completes_iff_guarded step_returns_iff step_ends start calls
  have always := @Transition.always_of_invariant SettingsState SettingsCall (SettingsState.step build codec)
    (fun _ _ => True) (fun st => st.live.table.KeyEnds) _
    (fun st call next ends _ taken => step_ends st call next ends taken) (fun st ends => channelGetKey_ends.mpr ends)
    ⟨seedRecords build cfg live, live⟩ calls start (Transition.guarded_true _ calls)
  rw [← whole]
  exact ⟨fun both => both.1, fun completed => ⟨completed, always⟩⟩

theorem key_lookups_end_iff_movedPrimary :
    ∃ last, Transition.run (SettingsState.step plainBuild (wireCodec (seedRecords plainBuild plainConfig plainLive)))
      ⟨seedRecords plainBuild plainConfig plainLive, plainLive⟩
      [.applyCore, .setChannel 1 (some otherPrimary), .setChannel 0 (some openSecondary)] = some last :=
  ((key_lookups_end_iff plainBuild (wireCodec (seedRecords plainBuild plainConfig plainLive)) plainConfig plainLive 0 rfl
    [.applyCore, .setChannel 1 (some otherPrimary), .setChannel 0 (some openSecondary)]).mpr (by decide)).1

/-- Slot 0 is the primary one and becomes a secondary slot without a PSK: `channel_fixup` looks up its key
at `primary_index`, which is slot 0 again. -/
theorem key_lookup_endless :
    ∃ st, Transition.run (SettingsState.step plainBuild (wireCodec (seedRecords plainBuild plainConfig plainLive)))
        ⟨seedRecords plainBuild plainConfig plainLive, plainLive⟩ [.applyCore] = some st ∧
      channelIsValid openSecondary = true ∧ st.live.table.primaryIndex = 0 ∧
      (∀ depth, channelGetKeyWithin (st.live.table.withSlot 0 openSecondary).channelSlots 0 depth 0 = none) ∧
      st.call plainBuild (wireCodec (seedRecords plainBuild plainConfig plainLive)) (.setChannel 0 (some openSecondary)) =
        none := by
  refine ⟨_, rfl, rfl, rfl, ?_, rfl⟩
  intro depth
  induction depth with
  | zero => rfl
  | succ depth ih => exact ih

end Meshtastic
