import Meshtastic.Channels
import Meshtastic.Lib.Run

/-! When the cached hashes agree with the table. A slot's hash reads the slot itself and,
for a secondary slot without a PSK, the primary slot; `channelsSetSlot` recomputes only
the slots it writes. -/

namespace Meshtastic
open Bytes

/-! ## What a lookup reads -/

/-- A slot without a usable key of its own or inherited. -/
def Channel.Off (ch : Channel) : Prop := ch.hasSettings = false ∨ ch.role = .disabled

def Channel.Inherits (ch : Channel) : Prop :=
  ch.hasSettings = true ∧ ch.role = .secondary ∧ ch.settings.psk = []

instance (ch : Channel) : Decidable ch.Off := inferInstanceAs (Decidable (_ ∨ _))
instance (ch : Channel) : Decidable ch.Inherits := inferInstanceAs (Decidable (_ ∧ _))

def Channel.ownKey (ch : Channel) : Option Octets :=
  if ch.Off then none else some (expandPsk ch.settings.psk)

theorem Channel.Inherits.not_off {ch : Channel} (inherits : ch.Inherits) : ¬ch.Off := by
  intro off
  rcases off with missing | disabled
  · simp [inherits.1] at missing
  · simp [inherits.2.1] at disabled

/-- `channel_get_key` as a function of the slot and of the primary slot. -/
def keyOf (ch primary : Channel) : Option (Except Errno Octets) :=
  if ch.Off then some (.error .enoent)
  else if ch.Inherits then
    if primary.Inherits then none
    else some (match primary.ownKey with | none => .error .enoent | some key => .ok key)
  else some (.ok (expandPsk ch.settings.psk))

theorem inherits_iff {ch : Channel} (on : ¬ch.Off) :
    ch.Inherits ↔ ch.settings.psk = [] ∧ ch.role = .secondary := by
  have present : ch.hasSettings = true := by
    cases h : ch.hasSettings with
    | true => rfl
    | false => exact False.elim (on (.inl h))
  constructor
  · intro inherits
    exact ⟨inherits.2.2, inherits.2.1⟩
  · intro empty
    exact ⟨present, empty.2, empty.1⟩

private theorem within_succ (slots : Slots) (primaryIndex index : SlotIndex) (depth : Nat) :
    channelGetKeyWithin slots primaryIndex (depth + 1) index =
      if (slots index).Off then some (.error .enoent)
      else if (slots index).Inherits then channelGetKeyWithin slots primaryIndex depth primaryIndex
      else some (.ok (expandPsk (slots index).settings.psk)) := by
  by_cases off : (slots index).Off
  · rw [if_pos off, channelGetKeyWithin]
    exact if_pos off
  · rw [if_neg off, channelGetKeyWithin]
    apply (if_neg off).trans
    exact if_congr (inherits_iff off).symm rfl rfl

/-- The primary slot either answers at once or the recursion never ends. -/
private theorem within_primary (slots : Slots) (primaryIndex : SlotIndex) (depth : Nat) :
    channelGetKeyWithin slots primaryIndex (depth + 1) primaryIndex =
      if (slots primaryIndex).Inherits then none
      else some (match (slots primaryIndex).ownKey with | none => .error .enoent | some key => .ok key) := by
  induction depth with
  | zero =>
    rw [within_succ]
    by_cases off : (slots primaryIndex).Off
    · have own : ¬(slots primaryIndex).Inherits := fun inherits => inherits.not_off off
      simp [off, own, Channel.ownKey]
    · simp [off, Channel.ownKey, channelGetKeyWithin]
  | succ depth ih =>
    rw [within_succ, ih]
    by_cases off : (slots primaryIndex).Off
    · have own : ¬(slots primaryIndex).Inherits := fun inherits => inherits.not_off off
      simp [off, own, Channel.ownKey]
    · by_cases inherits : (slots primaryIndex).Inherits
      · simp [off, inherits]
      · simp [off, inherits, Channel.ownKey]

theorem channelGetKeyWithin_eq (slots : Slots) (primaryIndex index : SlotIndex) (depth : Nat) :
    channelGetKeyWithin slots primaryIndex (depth + 2) index =
      keyOf (slots index) (slots primaryIndex) := by
  rw [within_succ, within_primary]
  rfl

/-- A lookup that two levels do not settle is not settled by any number of levels. -/
theorem channelGetKeyWithin_stable (slots : Slots) (primaryIndex index : SlotIndex) (depth : Nat) :
    channelGetKeyWithin slots primaryIndex (depth + 2) index =
      channelGetKey slots primaryIndex index := by
  rw [channelGetKey, channelGetKeyWithin_eq, channelGetKeyWithin_eq slots primaryIndex index 0]

theorem channelGetKey_eq (slots : Slots) (primaryIndex index : SlotIndex) :
    channelGetKey slots primaryIndex index = keyOf (slots index) (slots primaryIndex) :=
  channelGetKeyWithin_eq slots primaryIndex index 0

def Channel.shownName (ch : Channel) : CString :=
  if ch.hasSettings = false ∨ ch.settings.name = CString.empty then CHANNEL_LONGFAST
  else ch.settings.name

/-- `channel_generate_hash` as a function of the slot and of the primary slot. -/
def hashOf (ch primary : Channel) : Option UInt8 :=
  match keyOf ch primary with
  | none => none
  | some (.error _) => some 0
  | some (.ok key) =>
    let nameHash := xorAll ch.shownName.bytes
    some (if key.length = 0 then nameHash else nameHash ^^^ xorAll key)

theorem channelGenerateHash_eq (slots : Slots) (primaryIndex index : SlotIndex) :
    channelGenerateHash slots primaryIndex index = hashOf (slots index) (slots primaryIndex) := by
  rw [channelGenerateHash, channelGetKey_eq]
  rfl

/-- Only inheriting slots read the primary slot, and of it only its key. -/
theorem hashOf_congr {ch first second : Channel}
    (same : ch.Inherits → first.ownKey = second.ownKey ∧ (first.Inherits ↔ second.Inherits)) :
    hashOf ch first = hashOf ch second := by
  have keys : keyOf ch first = keyOf ch second := by
    unfold keyOf
    by_cases inherits : ch.Inherits
    · obtain ⟨key, chain⟩ := same inherits
      simp only [inherits, if_true, key, chain]
    · simp only [inherits, if_false]
  rw [hashOf, hashOf, keys]

theorem hashOf_self_inherits {ch : Channel} (inherits : ch.Inherits) : hashOf ch ch = none := by
  simp [hashOf, keyOf, inherits, inherits.not_off]

/-! ## What an update writes -/

theorem fixupChannel_off (index : SlotIndex) (ch : Channel) :
    (fixupChannel index ch).Off ↔ ch.Off := by
  unfold fixupChannel Channel.Off
  cases ch.hasSettings with
  | false =>
    simp only [Bool.false_eq_true, if_false]
    split_ifs <;> simp
  | true =>
    simp only [if_true]
    split_ifs <;> simp

theorem fixupChannel_psk {index : SlotIndex} {ch : Channel} (on : ¬ch.Off) :
    (fixupChannel index ch).settings.psk = ch.settings.psk ∧
      (fixupChannel index ch).role = ch.role := by
  have present : ch.hasSettings = true := by
    cases h : ch.hasSettings with
    | true => rfl
    | false => exact False.elim (on (.inl h))
  unfold fixupChannel
  simp only [present, if_true]
  split_ifs <;> simp

theorem fixupChannel_ownKey (index : SlotIndex) (ch : Channel) :
    (fixupChannel index ch).ownKey = ch.ownKey := by
  unfold Channel.ownKey
  by_cases off : ch.Off
  · rw [if_pos off, if_pos ((fixupChannel_off index ch).mpr off)]
  · rw [if_neg off, if_neg (mt (fixupChannel_off index ch).mp off), (fixupChannel_psk off).1]

theorem fixupChannel_inherits (index : SlotIndex) (ch : Channel) :
    (fixupChannel index ch).Inherits ↔ ch.Inherits := by
  by_cases off : ch.Off
  · have fixed := (fixupChannel_off index ch).mpr off
    exact ⟨fun inherits => False.elim (inherits.not_off fixed),
      fun inherits => False.elim (inherits.not_off off)⟩
  · rw [inherits_iff off, inherits_iff (mt (fixupChannel_off index ch).mp off),
      (fixupChannel_psk off).1, (fixupChannel_psk off).2]

theorem fixupChannel_idem (index : SlotIndex) (ch : Channel) :
    fixupChannel index (fixupChannel index ch) = fixupChannel index ch := by
  have renamed : CString.empty ≠ CHANNEL_DEFAULT := by decide
  unfold fixupChannel
  cases ch.hasSettings with
  | false => simp [renamed]
  | true =>
    by_cases default : ch.settings.name = CHANNEL_DEFAULT
    · simp [default, renamed]
    · simp [default]

theorem hashOf_fixup_primary (index : SlotIndex) (ch primary : Channel) :
    hashOf ch (fixupChannel index primary) = hashOf ch primary :=
  hashOf_congr fun _ => ⟨fixupChannel_ownKey index primary, fixupChannel_inherits index primary⟩

theorem channelFixup_eq_some {t next : ChannelTable} {index : SlotIndex}
    (done : channelFixup t index = some next) :
    next.channelSlots = Function.update t.channelSlots index (fixupChannel index (t.channelSlots index)) ∧
    next.primaryIndex = t.primaryIndex ∧ next.chHash = t.chHash ∧
    hashOf (next.channelSlots index) (next.channelSlots next.primaryIndex) =
      some (next.channelHashes index) ∧
    ∀ i, i ≠ index → next.channelHashes i = t.channelHashes i := by
  simp only [channelFixup, ChannelTable.withSlot, Option.bind_eq_bind, Option.bind_eq_some_iff] at done
  obtain ⟨hash, computed, same⟩ := done
  cases same
  rw [channelGenerateHash_eq] at computed
  refine ⟨rfl, rfl, rfl, ?_, ?_⟩
  · simpa using computed
  · intro i other
    exact Function.update_of_ne other hash t.channelHashes

def demotedChannel (i : SlotIndex) (ch : Channel) : Channel :=
  fixupChannel i { ch with role := .secondary }

/-- One turn of the loop of `demote_other_primary`: another PRIMARY slot is demoted and hashed, any
other slot is passed over. -/
private theorem demoteOne_eq_some {index i : SlotIndex} {t next : ChannelTable}
    (done : demoteOne index t i = some next) :
    (¬(i ≠ index ∧ (t.channelSlots i).role = .primary) ∧ next = t) ∨
    (i ≠ index ∧ (t.channelSlots i).role = .primary ∧ next.primaryIndex = t.primaryIndex ∧
      next.chHash = t.chHash ∧
      next.channelSlots = Function.update t.channelSlots i (demotedChannel i (t.channelSlots i)) ∧
      hashOf (next.channelSlots i) (next.channelSlots next.primaryIndex) = some (next.channelHashes i) ∧
      ∀ j, j ≠ i → next.channelHashes j = t.channelHashes j) := by
  unfold demoteOne at done
  split_ifs at done with here promoted
  · cases done
    exact .inl ⟨fun both => both.1 here, rfl⟩
  · obtain ⟨written, primaryKept, hashKept, computed, others⟩ := channelFixup_eq_some done
    simp only [ChannelTable.withSlot, Function.update_self, Function.update_idem] at written
    exact .inr ⟨here, promoted, primaryKept, hashKept, written, computed, others⟩
  · cases done
    exact .inl ⟨fun both => promoted both.2, rfl⟩

private theorem demote_loop {index : SlotIndex} (visited : List SlotIndex) (distinct : visited.Nodup)
    {t next : ChannelTable} (atIndex : t.primaryIndex = index)
    (done : visited.foldlM (demoteOne index) t = some next) :
    next.primaryIndex = index ∧ next.chHash = t.chHash ∧
    ∀ j, (j ∈ visited → j ≠ index → (t.channelSlots j).role = .primary →
        next.channelSlots j = demotedChannel j (t.channelSlots j) ∧
        hashOf (next.channelSlots j) (t.channelSlots index) = some (next.channelHashes j)) ∧
      (¬(j ∈ visited ∧ j ≠ index ∧ (t.channelSlots j).role = .primary) →
        next.channelSlots j = t.channelSlots j ∧ next.channelHashes j = t.channelHashes j) := by
  induction visited generalizing t with
  | nil =>
    cases done
    simp [atIndex]
  | cons i rest ih =>
    simp only [List.foldlM_cons, Option.bind_eq_bind, Option.bind_eq_some_iff] at done
    obtain ⟨middle, first, later⟩ := done
    obtain ⟨absent, distinctRest⟩ := List.nodup_cons.mp distinct
    rcases demoteOne_eq_some first with ⟨passed, same⟩ |
      ⟨here, promoted, primaryKept, hashKept, written, computed, others⟩
    · subst same
      obtain ⟨primary, hash, slots⟩ := ih distinctRest atIndex later
      refine ⟨primary, hash, fun j => ⟨?_, ?_⟩⟩
      · intro member other role
        have inRest : j ∈ rest := by
          rcases List.mem_cons.mp member with atHead | inTail
          · subst atHead
            exact False.elim (passed ⟨other, role⟩)
          · exact inTail
        exact (slots j).1 inRest other role
      · intro none
        exact (slots j).2 fun present => none ⟨List.mem_cons_of_mem _ present.1, present.2⟩
    · have middleIndex : middle.primaryIndex = index := primaryKept.trans atIndex
      have atPrimary : middle.channelSlots index = t.channelSlots index := by
        rw [written, Function.update_of_ne (Ne.symm here)]
      obtain ⟨primary, hash, slots⟩ := ih distinctRest middleIndex later
      refine ⟨primary, hash.trans hashKept, fun j => ?_⟩
      by_cases same : j = i
      · -- the rest of the loop does not come back to the slot it has just demoted
        subst j
        obtain ⟨slotKept, hashSame⟩ := (slots i).2 fun present => absent present.1
        refine ⟨fun _ _ _ => ⟨?_, ?_⟩, fun none => ?_⟩
        · rw [slotKept, written, Function.update_self]
        · rw [slotKept, hashSame, ← computed, middleIndex, atPrimary]
        · exact False.elim (none ⟨List.mem_cons_self, here, promoted⟩)
      · have slotBefore : middle.channelSlots j = t.channelSlots j := by
          rw [written, Function.update_of_ne same]
        have inRest : j ∈ i :: rest ↔ j ∈ rest := by simp [same]
        rw [← slotBefore, ← others j same, ← atPrimary, inRest]
        exact slots j

private theorem setSlot_stages {t next : ChannelTable} {index : SlotIndex} {channel : Channel}
    (done : channelsSetSlot t index channel = some next) :
    ∃ moved fixed,
      (if channel.role = .primary then
        demoteOtherPrimary { t.withSlot index { channel with index := index.val } with primaryIndex := index } index
      else some (t.withSlot index { channel with index := index.val })) = some moved ∧
      channelFixup moved index = some fixed ∧ next.channelSlots = fixed.channelSlots ∧
      next.channelHashes = fixed.channelHashes ∧ next.primaryIndex = fixed.primaryIndex ∧
      next.chHash = (if index = fixed.primaryIndex then fixed.channelHashes fixed.primaryIndex else fixed.chHash) := by
  unfold channelsSetSlot at done
  by_cases promotes : channel.role = .primary
  all_goals
    simp only [promotes, if_true, if_false, Option.bind_eq_bind, Option.bind_eq_some_iff,
      Option.bind_some] at done ⊢
  · obtain ⟨moved, demoted, fixed, recomputed, same⟩ := done
    refine ⟨moved, fixed, demoted, recomputed, ?_⟩
    cases same
    split_ifs <;> simp
  · obtain ⟨fixed, recomputed, same⟩ := done
    refine ⟨_, fixed, rfl, recomputed, ?_⟩
    cases same
    split_ifs <;> simp

/-- `meshtastic_channels_set_slot`: the slots it leaves, the primary index, and which hashes
it has recomputed. -/
theorem channelsSetSlot_eq_some {t next : ChannelTable} {index : SlotIndex} {channel : Channel}
    (done : channelsSetSlot t index channel = some next) :
    next.primaryIndex = (if channel.role = .primary then index else t.primaryIndex) ∧
    next.channelSlots index = fixupChannel index channel ∧
    hashOf (next.channelSlots index) (next.channelSlots next.primaryIndex) =
      some (next.channelHashes index) ∧
    ∀ j, j ≠ index →
      (channel.role = .primary ∧ (t.channelSlots j).role = .primary →
        next.channelSlots j = demotedChannel j (t.channelSlots j) ∧
        hashOf (next.channelSlots j) (next.channelSlots next.primaryIndex) =
          some (next.channelHashes j)) ∧
      (¬(channel.role = .primary ∧ (t.channelSlots j).role = .primary) →
        next.channelSlots j = t.channelSlots j ∧ next.channelHashes j = t.channelHashes j) := by
  obtain ⟨demoted, fixed, moved, recomputed, slotsNext, hashesNext, primaryNext, -⟩ := setSlot_stages done
  obtain ⟨written, primaryKept, -, computed, others⟩ := channelFixup_eq_some recomputed
  rw [slotsNext, hashesNext, primaryNext]
  by_cases promotes : channel.role = .primary
  · rw [if_pos promotes] at moved
    obtain ⟨primary, -, slots⟩ := demote_loop (List.finRange MAX_CHANNELS) (List.nodup_finRange _)
      (t := { t.withSlot index { channel with index := index.val } with primaryIndex := index }) rfl moved
    simp only [ChannelTable.withSlot, Function.update_self] at slots
    have atIndex : demoted.channelSlots index = { channel with index := (index.val : Int) } := by
      simpa using ((slots index).2 fun present => present.2.1 rfl).1
    have fixedIndex : fixed.channelSlots index = fixupChannel index channel := by
      rw [written, Function.update_self, atIndex]
      rfl
    have primaryFixed : fixed.primaryIndex = index := primaryKept.trans primary
    refine ⟨by rw [if_pos promotes, primaryFixed], fixedIndex, computed, ?_⟩
    intro j other
    have slotKept : fixed.channelSlots j = demoted.channelSlots j := by
      rw [written, Function.update_of_ne other]
    have before : Function.update t.channelSlots index { channel with index := (index.val : Int) } j =
        t.channelSlots j := Function.update_of_ne other _ _
    rw [slotKept, others j other]
    constructor
    · intro both
      obtain ⟨contents, hash⟩ := (slots j).1 (List.mem_finRange j) other (before ▸ both.2)
      refine ⟨contents.trans (by rw [before]), ?_⟩
      -- the loop ran before the promoted slot itself was normalised
      rw [primaryFixed, fixedIndex, ← hash]
      exact hashOf_fixup_primary index _ channel
    · intro neither
      obtain ⟨contents, hash⟩ := (slots j).2 fun present => neither ⟨promotes, before ▸ present.2.2⟩
      exact ⟨contents.trans before, hash⟩
  · rw [if_neg promotes] at moved
    cases moved
    refine ⟨by rw [if_neg promotes, primaryKept]; rfl, ?_, computed, ?_⟩
    · rw [written, Function.update_self]
      simp only [ChannelTable.withSlot, Function.update_self]
      rfl
    · intro j other
      refine ⟨fun both => False.elim (promotes both.1), fun _ => ?_⟩
      rw [written, Function.update_of_ne other, others j other]
      exact ⟨Function.update_of_ne other _ _, rfl⟩

theorem channelsSetSlot_chHash {t next : ChannelTable} {index : SlotIndex} {channel : Channel}
    (done : channelsSetSlot t index channel = some next) :
    next.chHash = if index = next.primaryIndex then next.channelHashes next.primaryIndex else t.chHash := by
  obtain ⟨demoted, fixed, moved, recomputed, -, hashesNext, primaryNext, hashNext⟩ := setSlot_stages done
  obtain ⟨-, primaryKept, hashKept, -, -⟩ := channelFixup_eq_some recomputed
  rw [hashNext, hashesNext, primaryNext]
  split_ifs with atPrimary
  · rfl
  · by_cases promotes : channel.role = .primary
    · rw [if_pos promotes] at moved
      obtain ⟨primary, -, -⟩ := demote_loop (List.finRange MAX_CHANNELS) (List.nodup_finRange _)
        (t := { t.withSlot index { channel with index := index.val } with primaryIndex := index }) rfl moved
      exact absurd (primaryKept.trans primary).symm atPrimary
    · rw [if_neg promotes] at moved
      cases moved
      exact hashKept

/-! ## Coherence over whole runs -/

/-- Every cached hash is the one `channel_generate_hash` computes from the current table. -/
def ChannelTable.Coherent (t : ChannelTable) : Prop :=
  ∀ j, channelGenerateHash t.channelSlots t.primaryIndex j = some (t.channelHashes j)

instance (t : ChannelTable) : Decidable t.Coherent := inferInstanceAs (Decidable (∀ _, _))

theorem ChannelTable.Coherent.hashOf {t : ChannelTable} (coherent : t.Coherent) (j : SlotIndex) :
    hashOf (t.channelSlots j) (t.channelSlots t.primaryIndex) = some (t.channelHashes j) := by
  rw [← channelGenerateHash_eq]
  exact coherent j

theorem ChannelTable.Coherent.primary_own {t : ChannelTable} (coherent : t.Coherent) :
    ¬(t.channelSlots t.primaryIndex).Inherits := by
  intro inherits
  have computed := coherent.hashOf t.primaryIndex
  rw [hashOf_self_inherits inherits] at computed
  contradiction

theorem channelsInitDefaults_eq (chHash : UInt8) :
    channelsInitDefaults chHash = (channelsInitDefaults 0).map (fun t => { t with chHash := chHash }) := rfl

theorem channelsInitFromConfig_slots {chHash : UInt8} {cfg : ChannelConfig} {t : ChannelTable}
    (done : channelsInitFromConfig chHash (some cfg) = some t) :
    ∃ start ∈ channelsInitDefaults 0, ∃ name, t.primaryIndex = start.primaryIndex ∧
      t.channelSlots = Function.update start.channelSlots 0 (fixupChannel 0 { start.channelSlots 0 with
        settings := { (start.channelSlots 0).settings with name := name, psk := cfg.psk } }) := by
  simp only [channelsInitFromConfig, channelsInitDefaults_eq chHash, Option.bind_eq_bind, Option.bind_eq_some_iff,
    Option.map_eq_some_iff] at done
  obtain ⟨_, ⟨start, started, same⟩, fixed, recomputed, last⟩ := done
  cases same
  cases last
  obtain ⟨written, kept, -⟩ := channelFixup_eq_some recomputed
  simp only [ChannelTable.withSlot, Function.update_self, Function.update_idem] at written
  exact ⟨start, started, _, kept, written⟩

theorem channelsInitDefaults_spec (chHash : UInt8) :
    ∃ t, channelsInitDefaults chHash = some t ∧ t.Coherent ∧ t.primaryIndex = 0 ∧
      (∀ j, fixupChannel j (t.channelSlots j) = t.channelSlots j) ∧
      ∀ j, j ≠ 0 → (t.channelSlots j).role = .disabled := by
  have computed : ∀ t ∈ channelsInitDefaults 0, t.Coherent ∧ t.primaryIndex = 0 ∧
      (∀ j, fixupChannel j (t.channelSlots j) = t.channelSlots j) ∧
      ∀ j, j ≠ 0 → (t.channelSlots j).role = .disabled := by
    decide
  cases returned : channelsInitDefaults 0 with
  | none =>
    have returns : (channelsInitDefaults 0).isSome = true := by decide
    rw [returned] at returns
    contradiction
  | some t =>
    obtain ⟨coherent, primary, normal, others⟩ := computed t returned
    exact ⟨{ t with chHash := chHash }, by rw [channelsInitDefaults_eq, returned]; rfl, coherent, primary, normal,
      others⟩

theorem channelsInitFromConfig_spec {chHash : UInt8} {cfg : Option ChannelConfig} {t : ChannelTable}
    (done : channelsInitFromConfig chHash cfg = some t) :
    t.Coherent ∧ t.primaryIndex = 0 ∧ (∀ j, fixupChannel j (t.channelSlots j) = t.channelSlots j) ∧
      ∀ j, j ≠ 0 → (t.channelSlots j).role = .disabled := by
  obtain ⟨start, started, coherent, primary, normal, others⟩ := channelsInitDefaults_spec chHash
  cases cfg with
  | none =>
    simp only [channelsInitFromConfig, started] at done
    cases done
    exact ⟨coherent, primary, normal, others⟩
  | some cfg =>
    simp only [channelsInitFromConfig, started, Option.bind_eq_bind, Option.bind_some,
      Option.bind_eq_some_iff] at done
    obtain ⟨fixed, recomputed, same⟩ := done
    cases same
    obtain ⟨written, primaryKept, -, computed, hashes⟩ := channelFixup_eq_some recomputed
    have disabled : ∀ j, j ≠ 0 → fixed.channelSlots j = start.channelSlots j := by
      intro j other
      rw [written, Function.update_of_ne other]
      exact Function.update_of_ne other _ _
    refine ⟨?_, primaryKept.trans primary, ?_, fun j other => by rw [disabled j other]; exact others j other⟩
    all_goals
      intro j
      by_cases here : j = 0
    · subst j
      rw [channelGenerateHash_eq]
      exact computed
    · rw [channelGenerateHash_eq]
      have idle : ¬(start.channelSlots j).Inherits := fun inherits => inherits.not_off (.inr (others j here))
      show hashOf (fixed.channelSlots j) (fixed.channelSlots fixed.primaryIndex) = some (fixed.channelHashes j)
      rw [disabled j here, hashes j here]
      exact (hashOf_congr fun inherits => False.elim (idle inherits)).trans (coherent.hashOf j)
    · subst j
      rw [written, Function.update_self]
      exact fixupChannel_idem 0 _
    · rw [disabled j here]
      exact normal j

/-- What slots that inherit see of the primary slot: whether it is on, and the XOR of its key. -/
def Channel.keyHash (ch : Channel) : Option UInt8 := ch.ownKey.map xorAll

theorem hashOf_eq_of_keyHash {ch first second : Channel} (own : ¬first.Inherits) (own' : ¬second.Inherits)
    (same : first.keyHash = second.keyHash) : hashOf ch first = hashOf ch second := by
  unfold hashOf keyOf
  by_cases off : ch.Off
  · simp only [off, if_true]
  by_cases inherits : ch.Inherits
  · simp only [off, inherits, own, own', if_true, if_false]
    unfold Channel.keyHash at same
    cases firstKey : first.ownKey with
    | none =>
      rw [firstKey] at same
      rw [Option.map_eq_none_iff.mp same.symm]
    | some key =>
      rw [firstKey] at same
      obtain ⟨key', secondKey, equal⟩ := Option.map_eq_some_iff.mp same.symm
      have folded : ∀ k : Octets, (if k.length = 0 then xorAll ch.shownName.bytes
          else xorAll ch.shownName.bytes ^^^ xorAll k) = xorAll ch.shownName.bytes ^^^ xorAll k := by
        intro k
        split_ifs with empty
        · rw [List.length_eq_zero_iff.mp empty]
          simp [xorAll]
        · rfl
      rw [secondKey]
      simp only [folded]
      rw [equal]
  · simp only [off, inherits, if_false]

/-- A call that leaves no other slot with a stale hash: it neither writes the primary slot nor
promotes a slot, or no other slot inherits the primary key, or the key it writes to the primary
slot folds to the same hash as the one it replaces. -/
def SetSlotInPlace (t : ChannelTable) (call : SlotIndex × Channel) : Prop :=
  (call.1 ≠ t.primaryIndex ∧ call.2.role ≠ .primary) ∨
  (∀ j, j ≠ call.1 → ¬(t.channelSlots j).Inherits) ∨
  call.2.keyHash = (t.channelSlots t.primaryIndex).keyHash

instance (t : ChannelTable) (call : SlotIndex × Channel) : Decidable (SetSlotInPlace t call) :=
  inferInstanceAs (Decidable (_ ∨ _))

def setSlotStep (t : ChannelTable) (call : SlotIndex × Channel) : Option ChannelTable :=
  channelsSetSlot t call.1 call.2

theorem setSlotStep_coherent (t : ChannelTable) (call : SlotIndex × Channel) (next : ChannelTable)
    (coherent : t.Coherent) (inPlace : SetSlotInPlace t call) (taken : setSlotStep t call = some next) :
    next.Coherent := by
  obtain ⟨index, channel⟩ := call
  obtain ⟨primary, written, computed, others⟩ := channelsSetSlot_eq_some taken
  intro j
  rw [channelGenerateHash_eq]
  by_cases here : j = index
  · subst j
    exact computed
  by_cases demoted : channel.role = .primary ∧ (t.channelSlots j).role = .primary
  · exact ((others j here).1 demoted).2
  obtain ⟨slotKept, hashKept⟩ := (others j here).2 demoted
  rw [slotKept, hashKept, ← coherent.hashOf j]
  by_cases untouched : index ≠ t.primaryIndex ∧ channel.role ≠ .primary
  · have primaryKept : next.primaryIndex = t.primaryIndex := by rw [primary, if_neg untouched.2]
    rw [primaryKept, ((others t.primaryIndex untouched.1.symm).2 fun both => untouched.2 both.1).1]
  · have atIndex : next.primaryIndex = index := by
      rw [primary]
      split_ifs with promotes
      · rfl
      · exact (not_not.mp fun moved => untouched ⟨moved, promotes⟩).symm
    rw [atIndex] at computed ⊢
    rcases inPlace with elsewhere | alone | sameKey
    · exact False.elim (untouched elsewhere)
    · exact hashOf_congr fun inherits => False.elim (alone j here inherits)
    · have ownNew : ¬(next.channelSlots index).Inherits := by
        intro inherits
        rw [hashOf_self_inherits inherits] at computed
        contradiction
      apply hashOf_eq_of_keyHash ownNew coherent.primary_own
      rw [written, ← sameKey, Channel.keyHash, fixupChannel_ownKey]
      rfl

theorem setSlotRun_coherent {cfg : Option ChannelConfig} {chHash : UInt8} {start last : ChannelTable}
    {calls : List (SlotIndex × Channel)} (init : channelsInitFromConfig chHash cfg = some start)
    (inPlace : Transition.Guarded setSlotStep SetSlotInPlace start calls)
    (done : Transition.run setSlotStep start calls = some last) : last.Coherent :=
  Transition.run_invariant setSlotStep_coherent (channelsInitFromConfig_spec init).1 inPlace done

/-- In every state reached by calls that leave no stale hash the table is coherent, and two such
histories that end in the same slots and primary index end in the same hashes. -/
theorem channelHashes_determined (cfg cfg' : Option ChannelConfig) (chHash chHash' : UInt8)
    (calls calls' : List (SlotIndex × Channel)) {start start' last last' : ChannelTable}
    (init : channelsInitFromConfig chHash cfg = some start)
    (inPlace : Transition.Guarded setSlotStep SetSlotInPlace start calls)
    (done : Transition.run setSlotStep start calls = some last)
    (init' : channelsInitFromConfig chHash' cfg' = some start')
    (inPlace' : Transition.Guarded setSlotStep SetSlotInPlace start' calls')
    (done' : Transition.run setSlotStep start' calls' = some last') :
    last.Coherent ∧ last'.Coherent ∧
    (last.channelSlots = last'.channelSlots → last.primaryIndex = last'.primaryIndex →
      last.channelHashes = last'.channelHashes) := by
  have coherent := setSlotRun_coherent init inPlace done
  have coherent' := setSlotRun_coherent init' inPlace' done'
  refine ⟨coherent, coherent', ?_⟩
  intro slots primary
  funext j
  have first := coherent j
  rw [slots, primary, coherent' j] at first
  exact (Option.some.inj first).symm

def openSecondary : Channel := { hasSettings := true, role := .secondary }

def otherPrimary : Channel :=
  { hasSettings := true, role := .primary, settings := { psk := 0x55 :: List.replicate 15 0 } }

theorem channelHashes_determined_rekeyFirst :
    ∃ start last, channelsInitFromConfig 0 none = some start ∧
      Transition.run setSlotStep start [(0, otherPrimary), (1, openSecondary)] = some last ∧
      last.Coherent := by
  refine ⟨_, _, rfl, rfl, ?_⟩
  exact (channelHashes_determined none none 0 0 [(0, otherPrimary), (1, openSecondary)] [] rfl
    (by decide) rfl rfl trivial rfl).1

/-- Rekeying the primary slot after a slot inherited its key leaves that slot's hash stale, and
the same two calls in the other order end in the same slots with another hash. -/
theorem channelHashes_stale_after_rekey :
    (∃ start last, channelsInitFromConfig 0 none = some start ∧
      Transition.run setSlotStep start [(1, openSecondary), (0, otherPrimary)] = some last ∧
      ¬last.Coherent) ∧
    (∃ start last last', channelsInitFromConfig 0 none = some start ∧
      Transition.run setSlotStep start [(1, openSecondary), (0, otherPrimary)] = some last ∧
      Transition.run setSlotStep start [(0, otherPrimary), (1, openSecondary)] = some last' ∧
      last.channelSlots = last'.channelSlots ∧ last.primaryIndex = last'.primaryIndex ∧
      last.channelHashes ≠ last'.channelHashes) := by
  constructor
  · exact ⟨_, _, rfl, rfl, by decide⟩
  · exact ⟨_, _, _, rfl, rfl, rfl, by decide, rfl, by decide⟩

end Meshtastic
