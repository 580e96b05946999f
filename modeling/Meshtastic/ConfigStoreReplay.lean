import Meshtastic.ChannelsCoherence
import Meshtastic.ConfigStore

/-! Replaying the store over the live channel table. The store keeps each slot as it was set,
the live table also demotes: what the live slots are is a function of the stored slots and of
the primary index, and a replay leaves it alone when the stored roles lead to the same primary. -/

namespace Meshtastic
open Bytes

/-! ## The live slots as a function of the stored slots -/

theorem fixupChannel_role_primary {index : SlotIndex} {ch : Channel} :
    (fixupChannel index ch).role = .primary ↔ ch.hasSettings = true ∧ ch.role = .primary := by
  unfold fixupChannel
  cases ch.hasSettings with
  | false =>
    simp only [Bool.false_eq_true, if_false, false_and, iff_false]
    split_ifs <;> simp
  | true =>
    simp only [if_true, true_and]
    split_ifs <;> rfl

theorem demotedChannel_not_primary (index : SlotIndex) (ch : Channel) :
    (demotedChannel index ch).role ≠ .primary := by
  intro primary
  have both := fixupChannel_role_primary.mp primary
  simp at both

def settled (channels : Slots) (primaryIndex j : SlotIndex) : Channel :=
  let ch := fixupChannel j (channels j)
  if j ≠ primaryIndex ∧ ch.role = .primary then demotedChannel j ch else ch

theorem settled_congr {channels channels' : Slots} {primaryIndex j : SlotIndex}
    (same : channels j = channels' j) :
    settled channels primaryIndex j = settled channels' primaryIndex j := by
  rw [settled, settled, same]

/-- A live slot that inherits comes from a stored slot that is on and has no PSK. -/
theorem settled_inherits {channels : Slots} {primaryIndex j : SlotIndex}
    (inherits : (settled channels primaryIndex j).Inherits) :
    ¬(channels j).Off ∧ (channels j).settings.psk = [] := by
  unfold settled at inherits
  simp only at inherits
  split_ifs at inherits with demoted
  · have stored := fixupChannel_role_primary.mp demoted.2
    have on : ¬(channels j).Off := by
      intro off
      rcases off with missing | disabled
      · simp [stored.1] at missing
      · simp [stored.2] at disabled
    refine ⟨on, ?_⟩
    rw [← (fixupChannel_psk on).1]
    exact ((fixupChannel_inherits j _).mp inherits).2.2
  · have own := (fixupChannel_inherits j (channels j)).mp inherits
    exact ⟨own.not_off, own.2.2⟩

theorem channelsSetSlot_settled (channels : Slots) {t next : ChannelTable} {k : SlotIndex}
    (done : channelsSetSlot t k (channels k) = some next) :
    next.primaryIndex = (if (channels k).role = .primary then k else t.primaryIndex) ∧
    ∀ j, j = k ∨ t.channelSlots j = settled channels t.primaryIndex j →
      next.channelSlots j = settled channels next.primaryIndex j := by
  obtain ⟨primary, written, -, others⟩ := channelsSetSlot_eq_some done
  refine ⟨primary, ?_⟩
  intro j known
  by_cases here : j = k
  · subst j
    have first : ¬(k ≠ next.primaryIndex ∧ (fixupChannel k (channels k)).role = .primary) := by
      intro both
      rw [primary, if_pos (fixupChannel_role_primary.mp both.2).2] at both
      exact both.1 rfl
    rw [written, settled, if_neg first]
  · have before := known.resolve_left here
    by_cases promotes : (channels k).role = .primary
    · rw [primary, if_pos promotes]
      by_cases was : (t.channelSlots j).role = .primary
      · rw [((others j here).1 ⟨promotes, was⟩).1, before]
        rw [before] at was
        unfold settled at was ⊢
        simp only at was ⊢
        split_ifs at was with demoted
        · exact False.elim (demotedChannel_not_primary j _ was)
        · rw [if_neg demoted, if_pos ⟨here, was⟩]
      · rw [((others j here).2 fun both => was both.2).1, before]
        rw [before] at was
        unfold settled at was ⊢
        simp only at was ⊢
        split_ifs at was with demoted
        · rw [if_pos demoted, if_pos ⟨here, demoted.2⟩]
        · rw [if_neg demoted, if_neg fun both => was both.2]
    · rw [primary, if_neg promotes, ((others j here).2 fun both => promotes both.1).1, before]

/-! ## The replay -/

def lastPrimary (channels : Slots) (primaryIndex : SlotIndex) (visited : List SlotIndex) : SlotIndex :=
  visited.foldl (fun primary i => if (channels i).role = .primary then i else primary) primaryIndex

theorem replaySlots_cons {channels : Slots} {t last : ChannelTable} {k : SlotIndex} {rest : List SlotIndex}
    (done : replaySlots channels t (k :: rest) = some last) :
    ∃ next, channelsSetSlot t k (channels k) = some next ∧ replaySlots channels next rest = some last := by
  simp only [replaySlots, List.foldlM_cons, Option.bind_eq_bind, Option.bind_eq_some_iff] at done
  exact done

theorem replaySlots_settled {channels : Slots} (visited : List SlotIndex) {t last : ChannelTable}
    (done : replaySlots channels t visited = some last) :
    last.primaryIndex = lastPrimary channels t.primaryIndex visited ∧
    ∀ j, j ∈ visited ∨ t.channelSlots j = settled channels t.primaryIndex j →
      last.channelSlots j = settled channels last.primaryIndex j := by
  induction visited generalizing t with
  | nil =>
    cases done
    refine ⟨rfl, ?_⟩
    intro j known
    exact known.resolve_left List.not_mem_nil
  | cons k rest ih =>
    obtain ⟨next, first, later⟩ := replaySlots_cons done
    obtain ⟨primary, kept⟩ := channelsSetSlot_settled channels first
    obtain ⟨reached, slots⟩ := ih later
    refine ⟨by rw [reached, primary]; rfl, ?_⟩
    intro j known
    apply slots j
    rcases known with member | before
    · rcases List.mem_cons.mp member with here | inRest
      · exact .inr (kept j (.inl here))
      · exact .inl inRest
    · exact .inr (kept j (.inr before))

/-- The stored roles lead to this primary: it is the highest slot stored as PRIMARY, or none is. -/
def PrimaryOnTop (channels : Slots) (primaryIndex : SlotIndex) : Prop :=
  ∀ j, (channels j).role = .primary → j ≤ primaryIndex ∧ (channels primaryIndex).role = .primary

/-- While another slot is still stored as PRIMARY, every enabled slot below the primary is stored
with a PSK of its own. -/
def KeyedBelow (channels : Slots) (primaryIndex : SlotIndex) : Prop :=
  ∀ q, (channels q).role = .primary → q ≠ primaryIndex →
    ∀ j, j < primaryIndex → ¬(channels j).Off → (channels j).settings.psk ≠ []

instance (channels : Slots) (primaryIndex : SlotIndex) : Decidable (PrimaryOnTop channels primaryIndex) :=
  inferInstanceAs (Decidable (∀ _, _))
instance (channels : Slots) (primaryIndex : SlotIndex) : Decidable (KeyedBelow channels primaryIndex) :=
  inferInstanceAs (Decidable (∀ _, _))

theorem lastPrimary_of_none {channels : Slots} (primaryIndex : SlotIndex) {visited : List SlotIndex}
    (none : ∀ i ∈ visited, (channels i).role ≠ .primary) :
    lastPrimary channels primaryIndex visited = primaryIndex := by
  induction visited with
  | nil => rfl
  | cons k rest ih =>
    have here : (channels k).role ≠ .primary := none k List.mem_cons_self
    show lastPrimary channels (if (channels k).role = .primary then k else primaryIndex) rest = primaryIndex
    rw [if_neg here]
    exact ih fun i member => none i (List.mem_cons_of_mem k member)

theorem lastPrimary_of_top {channels : Slots} {top : SlotIndex} (primary : (channels top).role = .primary)
    (highest : ∀ j, (channels j).role = .primary → j ≤ top) (start : SlotIndex) {visited : List SlotIndex}
    (sorted : visited.Pairwise (· < ·)) (member : top ∈ visited) :
    lastPrimary channels start visited = top := by
  induction visited generalizing start with
  | nil => exact False.elim (List.not_mem_nil member)
  | cons k rest ih =>
    obtain ⟨above, sortedRest⟩ := List.pairwise_cons.mp sorted
    show lastPrimary channels (if (channels k).role = .primary then k else start) rest = top
    by_cases here : k = top
    · subst k
      rw [if_pos primary]
      apply lastPrimary_of_none
      intro i inRest promoted
      have order : top < i := above i inRest
      exact Fin.not_le.mpr order (highest i promoted)
    · exact ih _ sortedRest ((List.mem_cons.mp member).resolve_left (Ne.symm here))

theorem lastPrimary_onTop {channels : Slots} {primaryIndex : SlotIndex} (onTop : PrimaryOnTop channels primaryIndex) :
    lastPrimary channels primaryIndex (List.finRange MAX_CHANNELS) = primaryIndex := by
  by_cases stored : ∃ j, (channels j).role = .primary
  · obtain ⟨j, primary⟩ := stored
    exact lastPrimary_of_top (onTop j primary).2 (fun i promoted => (onTop i promoted).1) primaryIndex
      (List.pairwise_lt_finRange MAX_CHANNELS) (List.mem_finRange primaryIndex)
  · exact lastPrimary_of_none primaryIndex fun i _ primary => stored ⟨i, primary⟩

theorem channelsSetSlot_hash_below {channels : Slots} {top j k : SlotIndex} (onTop : PrimaryOnTop channels top)
    (keyed : KeyedBelow channels top) {t next : ChannelTable}
    (slots : ∀ j, t.channelSlots j = settled channels t.primaryIndex j)
    (candidate : t.primaryIndex = top ∨ (channels t.primaryIndex).role = .primary) (order : j < k)
    (hash : hashOf (t.channelSlots j) (t.channelSlots t.primaryIndex) = some (t.channelHashes j))
    (done : channelsSetSlot t k (channels k) = some next) :
    hashOf (next.channelSlots j) (next.channelSlots next.primaryIndex) = some (next.channelHashes j) := by
  obtain ⟨primary, kept⟩ := channelsSetSlot_settled channels done
  obtain ⟨-, -, -, others⟩ := channelsSetSlot_eq_some done
  have elsewhere : j ≠ k := Fin.ne_of_lt order
  by_cases demoted : (channels k).role = .primary ∧ (t.channelSlots j).role = .primary
  · exact ((others j elsewhere).1 demoted).2
  obtain ⟨slotKept, hashKept⟩ := (others j elsewhere).2 demoted
  rw [slotKept, hashKept, ← hash]
  by_cases moved : next.primaryIndex = t.primaryIndex
  · rw [kept next.primaryIndex (.inr (slots next.primaryIndex)), slots t.primaryIndex, moved]
  · have promotes : (channels k).role = .primary := by
      by_contra other
      exact moved (by rw [primary, if_neg other])
    have atK : next.primaryIndex = k := by rw [primary, if_pos promotes]
    have leftover : ∃ q, (channels q).role = .primary ∧ q ≠ top := by
      by_cases isTop : k = top
      · refine ⟨t.primaryIndex, candidate.resolve_left ?_, ?_⟩
        all_goals
          intro atTop
          exact moved (by rw [atK, isTop, atTop])
      · exact ⟨k, promotes, isTop⟩
    obtain ⟨q, stored, different⟩ := leftover
    have bound : k ≤ top := (onTop k promotes).1
    apply hashOf_congr
    intro inherits
    rw [slots j] at inherits
    obtain ⟨on, empty⟩ := settled_inherits inherits
    exact False.elim (keyed q stored different j (Fin.lt_of_lt_of_le order bound) on empty)

/-- Hashes of the slots already replayed are right throughout the replay. -/
theorem replaySlots_hashes {channels : Slots} {top : SlotIndex} (onTop : PrimaryOnTop channels top)
    (keyed : KeyedBelow channels top) (rest : List SlotIndex) (sorted : rest.Pairwise (· < ·))
    (seen : SlotIndex → Prop) (below : ∀ j, seen j → ∀ k ∈ rest, j < k) {t last : ChannelTable}
    (slots : ∀ j, t.channelSlots j = settled channels t.primaryIndex j)
    (candidate : t.primaryIndex = top ∨ (channels t.primaryIndex).role = .primary)
    (hashes : ∀ j, seen j →
      hashOf (t.channelSlots j) (t.channelSlots t.primaryIndex) = some (t.channelHashes j))
    (done : replaySlots channels t rest = some last) :
    ∀ j, seen j ∨ j ∈ rest →
      hashOf (last.channelSlots j) (last.channelSlots last.primaryIndex) = some (last.channelHashes j) := by
  induction rest generalizing t seen with
  | nil =>
    cases done
    intro j known
    exact hashes j (known.resolve_right List.not_mem_nil)
  | cons k rest ih =>
    obtain ⟨next, first, later⟩ := replaySlots_cons done
    obtain ⟨primary, kept⟩ := channelsSetSlot_settled channels first
    obtain ⟨-, -, computed, -⟩ := channelsSetSlot_eq_some first
    obtain ⟨above, sortedRest⟩ := List.pairwise_cons.mp sorted
    have slotsNext : ∀ j, next.channelSlots j = settled channels next.primaryIndex j :=
      fun j => kept j (.inr (slots j))
    have candidateNext : next.primaryIndex = top ∨ (channels next.primaryIndex).role = .primary := by
      rw [primary]
      split_ifs with promotes
      · exact .inr promotes
      · exact candidate
    have hashesNext : ∀ j, seen j ∨ j = k →
        hashOf (next.channelSlots j) (next.channelSlots next.primaryIndex) = some (next.channelHashes j) := by
      intro j known
      rcases known with wasSeen | here
      · exact channelsSetSlot_hash_below onTop keyed slots candidate (below j wasSeen k List.mem_cons_self)
          (hashes j wasSeen) first
      · subst here
        exact computed
    have belowNext : ∀ j, seen j ∨ j = k → ∀ i ∈ rest, j < i := by
      intro j known i member
      rcases known with wasSeen | here
      · exact below j wasSeen i (List.mem_cons_of_mem k member)
      · exact here ▸ above i member
    intro j known
    apply ih sortedRest (fun j => seen j ∨ j = k) belowNext slotsNext candidateNext hashesNext later j
    rcases known with wasSeen | member
    · exact .inl (.inl wasSeen)
    · rcases List.mem_cons.mp member with here | inRest
      · exact .inl (.inr here)
      · exact .inr inRest

/-! ## Agreement over whole runs -/

/-- What the live side of a configuration state is, given its stored side. -/
structure ConfigState.Agrees (st : ConfigState) : Prop where
  slots : ∀ j, st.live.table.channelSlots j = settled st.store.channels st.live.table.primaryIndex j
  onTop : PrimaryOnTop st.store.channels st.live.table.primaryIndex
  keyed : KeyedBelow st.store.channels st.live.table.primaryIndex
  coherent : st.live.table.Coherent
  role : st.live.deviceRole = st.store.device.role
  mode : st.live.rebroadcastMode = st.store.device.rebroadcastMode

variable {env : StoreEnv}

theorem configStoreApplyCore_eq_some {st next : ConfigState} (done : configStoreApplyCore env st = some next) :
    next.store = st.store ∧
    replaySlots st.store.channels st.live.table (List.finRange MAX_CHANNELS) = some next.live.table ∧
    next.live.deviceRole = st.store.device.role ∧
    next.live.rebroadcastMode = st.store.device.rebroadcastMode := by
  simp only [configStoreApplyCore, Option.bind_eq_bind, Option.bind_eq_some_iff] at done
  obtain ⟨table, replayed, same⟩ := done
  cases same
  exact ⟨rfl, replayed, rfl, rfl⟩

/-- A replay over slots that already come from the store changes no slot and no primary index,
and leaves every hash as the table determines it. -/
theorem configStoreApplyCore_agrees {st next : ConfigState}
    (slots : ∀ j, st.live.table.channelSlots j = settled st.store.channels st.live.table.primaryIndex j)
    (onTop : PrimaryOnTop st.store.channels st.live.table.primaryIndex)
    (keyed : KeyedBelow st.store.channels st.live.table.primaryIndex)
    (done : configStoreApplyCore env st = some next) :
    next.Agrees ∧ next.live.table.channelSlots = st.live.table.channelSlots ∧
      next.live.table.primaryIndex = st.live.table.primaryIndex := by
  obtain ⟨store, replayed, role, mode⟩ := configStoreApplyCore_eq_some done
  obtain ⟨reached, slotsNext⟩ := replaySlots_settled _ replayed
  have primary : next.live.table.primaryIndex = st.live.table.primaryIndex :=
    reached.trans (lastPrimary_onTop onTop)
  have same : ∀ j, next.live.table.channelSlots j = st.live.table.channelSlots j := by
    intro j
    rw [slotsNext j (.inr (slots j)), primary, slots j]
  have hashes := replaySlots_hashes onTop keyed _ (List.pairwise_lt_finRange MAX_CHANNELS)
    (fun _ => False) (fun _ none => False.elim none) slots (.inl rfl) (fun _ none => False.elim none) replayed
  refine ⟨⟨?_, ?_, ?_, ?_, ?_, ?_⟩, funext same, primary⟩
  · intro j
    rw [store, primary, same j]
    exact slots j
  · rw [store, primary]
    exact onTop
  · rw [store, primary]
    exact keyed
  · intro j
    rw [channelGenerateHash_eq]
    exact hashes j (.inr (List.mem_finRange j))
  · rw [store]
    exact role
  · rw [store]
    exact mode

theorem ConfigState.Agrees.applyCore {st next : ConfigState} {store : Store} (agrees : st.Agrees)
    (channels : store.channels = st.store.channels)
    (done : configStoreApplyCore env { st with store := store } = some next) :
    next.live.table.channelSlots = st.live.table.channelSlots ∧
    next.live.table.channelHashes = st.live.table.channelHashes ∧
    next.live.table.primaryIndex = st.live.table.primaryIndex := by
  obtain ⟨later, slots, primary⟩ := configStoreApplyCore_agrees (by rw [channels]; exact agrees.slots)
    (by rw [channels]; exact agrees.onTop) (by rw [channels]; exact agrees.keyed) done
  refine ⟨slots, ?_, primary⟩
  funext j
  have recomputed := later.coherent j
  rw [slots, primary] at recomputed
  exact (Option.some.inj ((agrees.coherent j).symm.trans recomputed)).symm

theorem initStore_agrees {cfg : InitConfig} {before : Live} {st : ConfigState}
    (booted : initStore env cfg before none = some st) : st.Agrees := by
  simp only [initStore, Option.bind_eq_bind, Option.bind_eq_some_iff, Option.getD_none] at booted
  obtain ⟨table, started, applied⟩ := booted
  obtain ⟨-, primary, normal, others⟩ := channelsInitFromConfig_spec started
  have notPrimary : ∀ j, (table.channelSlots j).role = .primary → j = 0 := by
    intro j role
    by_contra other
    rw [others j other] at role
    contradiction
  refine (configStoreApplyCore_agrees ?_ ?_ ?_ applied).1
  · intro j
    have seeded : fixupChannel j { table.channelSlots j with index := (j.val : Int) } = table.channelSlots j :=
      normal j
    show table.channelSlots j = settled (fun i => { table.channelSlots i with index := i.val }) table.primaryIndex j
    simp only [settled, seeded]
    rw [if_neg fun both => both.1 ((notPrimary j both.2).trans primary.symm)]
  · intro j role
    have atPrimary : j = table.primaryIndex := (notPrimary j role).trans primary.symm
    exact ⟨Fin.le_of_eq atPrimary, atPrimary ▸ role⟩
  · intro q role other
    exact False.elim (other ((notPrimary q role).trans primary.symm))

/-- A set_channel call after which the stored roles still lead to the live primary, and which
leaves no stale hash. -/
structure StoredInPlace (st : ConfigState) (index : SlotIndex) (channel : Channel) : Prop where
  hashes : SetSlotInPlace st.live.table (index, channel)
  onTop : PrimaryOnTop (storeChannel st.store.channels index channel)
    (if channel.role = .primary then index else st.live.table.primaryIndex)
  keyed : KeyedBelow (storeChannel st.store.channels index channel)
    (if channel.role = .primary then index else st.live.table.primaryIndex)

instance (st : ConfigState) (index : SlotIndex) (channel : Channel) : Decidable (StoredInPlace st index channel) :=
  decidable_of_iff
    (SetSlotInPlace st.live.table (index, channel) ∧
      PrimaryOnTop (storeChannel st.store.channels index channel)
        (if channel.role = .primary then index else st.live.table.primaryIndex) ∧
      KeyedBelow (storeChannel st.store.channels index channel)
        (if channel.role = .primary then index else st.live.table.primaryIndex))
    ⟨fun all => ⟨all.1, all.2.1, all.2.2⟩, fun all => ⟨all.hashes, all.onTop, all.keyed⟩⟩

def CallInPlace (st : ConfigState) : StoreCall → Prop
  | .setChannel index channel => ∀ h : index.toNat < MAX_CHANNELS, StoredInPlace st ⟨index.toNat, h⟩ channel
  | _ => True

instance (st : ConfigState) (call : StoreCall) : Decidable (CallInPlace st call) :=
  match call with
  | .setChannel index channel =>
    inferInstanceAs (Decidable (∀ h : index.toNat < MAX_CHANNELS, StoredInPlace st ⟨index.toNat, h⟩ channel))
  | .setConfig _ => isTrue trivial
  | .setDeviceRole _ => isTrue trivial
  | .setRebroadcastMode _ => isTrue trivial

theorem configStoreSetChannel_agrees {st next : ConfigState} {index : UInt8} {channel : Channel}
    (agrees : st.Agrees) (inPlace : CallInPlace st (.setChannel index channel))
    (done : configStoreSetChannel st index channel = some (.ok next)) : next.Agrees := by
  unfold configStoreSetChannel at done
  by_cases range : index.toNat < MAX_CHANNELS
  · by_cases valid : channelIsValid channel = true
    · simp only [range, valid, dite_true, if_true, Option.bind_eq_bind, Option.bind_eq_some_iff] at done
      obtain ⟨table, written, same⟩ := done
      cases same
      obtain ⟨hashes, onTop, keyed⟩ := inPlace range
      obtain ⟨primary, slots⟩ :=
        channelsSetSlot_settled (storeChannel st.store.channels ⟨index.toNat, range⟩ channel)
          (by rw [storeChannel, Function.update_self]; exact written)
      rw [storeChannel, Function.update_self] at primary
      simp only at primary
      rw [← primary] at onTop keyed
      refine ⟨?_, onTop, keyed, setSlotStep_coherent _ (_, channel) _ agrees.coherent hashes written,
        agrees.role, agrees.mode⟩
      intro j
      apply slots j
      by_cases here : j = ⟨index.toNat, range⟩
      · exact .inl here
      · refine .inr ((agrees.slots j).trans (settled_congr ?_))
        rw [storeChannel, Function.update_of_ne here]
    · simp [range, valid] at done
  · simp [range] at done

theorem Store.withConfig_channels (store : Store) (config : Config) :
    (store.withConfig config).channels = store.channels := by
  cases config <;> rfl

theorem configStoreSetConfig_eq_some {st next : ConfigState} {config : Config}
    (done : configStoreSetConfig env st config = some (.ok next)) :
    configStoreApplyCore env { st with store := st.store.withConfig config } = some next := by
  simp only [configStoreSetConfig] at done
  split_ifs at done with valid
  · simp only [Option.bind_eq_bind, Option.bind_eq_some_iff, Option.some.injEq, Except.ok.injEq] at done
    obtain ⟨applied, returned, same⟩ := done
    rw [returned, same]
  · cases done

theorem storeStep_agrees (st : ConfigState) (call : StoreCall) (next : ConfigState) (agrees : st.Agrees)
    (inPlace : CallInPlace st call) (taken : storeStep env st call = some next) : next.Agrees := by
  simp only [storeStep, Option.bind_eq_some_iff] at taken
  obtain ⟨result, called, accepted⟩ := taken
  have accept : result = .ok next := by
    cases result with
    | error err => cases accepted
    | ok value => exact congrArg Except.ok (Option.some.inj accepted)
  subst accept
  cases call with
  | setChannel index channel => exact configStoreSetChannel_agrees agrees inPlace called
  | setConfig config =>
    have applied := configStoreSetConfig_eq_some called
    have channels : (st.store.withConfig config).channels = st.store.channels :=
      Store.withConfig_channels st.store config
    exact (configStoreApplyCore_agrees (by rw [channels]; exact agrees.slots)
      (by rw [channels]; exact agrees.onTop) (by rw [channels]; exact agrees.keyed) applied).1
  | setDeviceRole role =>
    simp only [configStoreSetDeviceRole, Option.some.injEq] at called
    split_ifs at called with valid
    cases called
    exact { agrees with role := rfl }
  | setRebroadcastMode mode =>
    simp only [configStoreSetRebroadcastMode, Option.some.injEq] at called
    split_ifs at called with valid
    cases called
    exact { agrees with mode := rfl }

theorem initStore_saved {cfg : InitConfig} {before : Live} {saved : Store} {st : ConfigState}
    (booted : initStore env cfg before (some saved) = some st) :
    st.live.table.primaryIndex = lastPrimary saved.channels 0 (List.finRange MAX_CHANNELS) ∧
    ∀ j, st.live.table.channelSlots j = settled saved.channels st.live.table.primaryIndex j := by
  simp only [initStore, Option.bind_eq_bind, Option.bind_eq_some_iff, Option.getD_some] at booted
  obtain ⟨table, started, applied⟩ := booted
  obtain ⟨-, primary, -, -⟩ := channelsInitFromConfig_spec started
  obtain ⟨-, replayed, -, -⟩ := configStoreApplyCore_eq_some applied
  obtain ⟨reached, slots⟩ := replaySlots_settled _ replayed
  refine ⟨?_, fun j => slots j (.inl (List.mem_finRange j))⟩
  rw [reached]
  show lastPrimary saved.channels table.primaryIndex _ = _
  rw [primary]

theorem ConfigState.Agrees.reboot {cfg : InitConfig} {before : Live} {st next : ConfigState}
    (agrees : st.Agrees)
    (kept : (∃ j, (st.store.channels j).role = .primary) ∨ st.live.table.primaryIndex = 0)
    (booted : initStore env cfg before (some st.store) = some next) :
    next.live.table.primaryIndex = st.live.table.primaryIndex ∧
      next.live.table.channelSlots = st.live.table.channelSlots := by
  obtain ⟨reached, slots⟩ := initStore_saved booted
  have primary : next.live.table.primaryIndex = st.live.table.primaryIndex := by
    rw [reached]
    by_cases stored : ∃ j, (st.store.channels j).role = .primary
    · obtain ⟨j, role⟩ := stored
      exact lastPrimary_of_top (agrees.onTop j role).2 (fun i promoted => (agrees.onTop i promoted).1) 0
        (List.pairwise_lt_finRange MAX_CHANNELS) (List.mem_finRange _)
    · rw [kept.resolve_left stored]
      exact lastPrimary_of_none 0 fun i _ role => stored ⟨i, role⟩
  refine ⟨primary, ?_⟩
  funext j
  rw [slots j, primary, agrees.slots j]

/-- In every state reached by calls that keep the stored roles in line with the live primary, one
more replay changes nothing, setting a section leaves the channel table alone, and a restart from
the saved store finds the same primary channel. -/
theorem store_replay_is_noop (env : StoreEnv) (cfg : InitConfig) (before : Live) (calls : List StoreCall)
    {start st : ConfigState} (booted : initStore env cfg before none = some start)
    (inPlace : Transition.Guarded (storeStep env) CallInPlace start calls)
    (done : Transition.run (storeStep env) start calls = some st) :
    (∀ next, configStoreApplyCore env st = some next →
      next.live.table.channelSlots = st.live.table.channelSlots ∧
      next.live.table.channelHashes = st.live.table.channelHashes ∧
      next.live.table.primaryIndex = st.live.table.primaryIndex ∧
      next.live.deviceRole = st.live.deviceRole ∧
      next.live.rebroadcastMode = st.live.rebroadcastMode) ∧
    (∀ config next, storeStep env st (.setConfig config) = some next →
      next.live.table.channelSlots = st.live.table.channelSlots ∧
      next.live.table.channelHashes = st.live.table.channelHashes ∧
      next.live.table.primaryIndex = st.live.table.primaryIndex) ∧
    (∀ cfg' before' next, initStore env cfg' before' (some st.store) = some next →
      (∃ j, (st.store.channels j).role = .primary) ∨ st.live.table.primaryIndex = 0 →
      next.live.table.primaryIndex = st.live.table.primaryIndex ∧
      next.live.table.channelSlots = st.live.table.channelSlots) := by
  have agrees : st.Agrees :=
    Transition.run_invariant storeStep_agrees (initStore_agrees booted) inPlace done
  refine ⟨?_, ?_, fun _ _ _ rebooted kept => agrees.reboot kept rebooted⟩
  · intro next applied
    obtain ⟨slots, hashes, primary⟩ := agrees.applyCore rfl applied
    obtain ⟨-, -, role, mode⟩ := configStoreApplyCore_eq_some applied
    exact ⟨slots, hashes, primary, role.trans agrees.role.symm, mode.trans agrees.mode.symm⟩
  · intro config next taken
    have channels := Store.withConfig_channels st.store config
    simp only [storeStep, Option.bind_eq_some_iff] at taken
    obtain ⟨result, called, accepted⟩ := taken
    cases result with
    | error err => cases accepted
    | ok value =>
      cases accepted
      exact agrees.applyCore channels (configStoreSetConfig_eq_some called)

def plainEnv : StoreEnv :=
  { nodeLongName := CString.empty, nodeShortName := CString.empty, defaultHopLimit := 3, txPower := 20,
    bluetoothMode := 2, overrideHz := fun _ => none }

def plainConfig : InitConfig :=
  { psk := defaultPsk, channelName := some CHANNEL_LONGFAST, longName := none, shortName := none,
    frequency := FREQ_EU, hopLimit := 0, txPower := 0 }

def coldLive : Live :=
  { longName := CString.empty, shortName := CString.empty
    table := ⟨fun _ => {}, fun _ => 0, 0, 0⟩
    deviceRole := .client, rebroadcastMode := .all, hopLimit := 0, txPower := 0, frequency := 0 }

theorem store_replay_is_noop_movedUp :
    ∃ start st next, initStore plainEnv plainConfig coldLive none = some start ∧
      Transition.run (storeStep plainEnv) start
        [.setChannel 2 otherPrimary, .setConfig .power, .setDeviceRole .router] = some st ∧
      configStoreApplyCore plainEnv st = some next ∧ st.live.table.primaryIndex = 2 ∧
      next.live.table.primaryIndex = st.live.table.primaryIndex := by
  refine ⟨_, _, _, rfl, rfl, rfl, rfl, ?_⟩
  exact ((store_replay_is_noop plainEnv plainConfig coldLive
    [.setChannel 2 otherPrimary, .setConfig .power, .setDeviceRole .router] rfl (by decide) rfl).1 _ rfl).2.2.1

/-- Promoting slot 5 and then slot 3 leaves both stored as PRIMARY: setting any section moves the
live primary back to slot 5, and so does a restart. -/
theorem store_replay_moves_primary :
    ∃ start st next rebooted, initStore plainEnv plainConfig coldLive none = some start ∧
      Transition.run (storeStep plainEnv) start
        [.setChannel 5 otherPrimary, .setChannel 3 otherPrimary] = some st ∧
      configStoreApplyCore plainEnv st = some next ∧
      storeStep plainEnv st (.setConfig .power) = some next ∧
      initStore plainEnv plainConfig coldLive (some st.store) = some rebooted ∧
      st.live.table.primaryIndex = 3 ∧ next.live.table.primaryIndex = 5 ∧
      rebooted.live.table.primaryIndex = 5 :=
  ⟨_, _, _, _, rfl, rfl, rfl, rfl, rfl, rfl, rfl, rfl⟩

end Meshtastic
