import Meshtastic.ChannelRoles
import Meshtastic.KeyLookup
import Meshtastic.Reactions

/-! The slot on which a packet goes out. `meshtastic_channels_resolve_send_index` ends at `primary_index`,
which may stand on a disabled slot; `send_packet_prepare` and the application calls have ideas of their
own about what the caller asked for. -/

namespace Meshtastic
open Bytes

/-! ## Resolution -/

def ChannelTable.SendsResolve (t : ChannelTable) : Prop :=
  ∀ (nodedb : NodeDbGet) (dest : UInt32) (channelIndex wireHash : UInt8),
    (t.channelSlots (channelsResolveSendIndex t nodedb dest channelIndex wireHash)).role ≠ .disabled ∧
    ∃ key, channelGetKey t.channelSlots t.primaryIndex
      (channelsResolveSendIndex t nodedb dest channelIndex wireHash) = some (.ok key)

section
variable {t next : ChannelTable}

theorem enabledSlot_eq_some {index : UInt8} {slot : SlotIndex} (enabled : enabledSlot t index = some slot) :
    (t.channelSlots slot).role ≠ .disabled := by
  unfold enabledSlot at enabled
  split_ifs at enabled with inside off
  · cases enabled
    exact off

theorem enabledSlot_disabled {slot : SlotIndex} (off : (t.channelSlots slot).role = .disabled) :
    enabledSlot t (UInt8.ofNat slot.val) = none := by
  unfold enabledSlot
  simp only [slot_toNat, slot.isLt, dite_true, if_pos off]

def hashSlot (t : ChannelTable) (wireHash : UInt8) : Option SlotIndex :=
  if wireHash = 0 then none
  else (List.finRange MAX_CHANNELS).find? (fun i => channelsDecryptForHash t i wireHash)

def peerSlot (t : ChannelTable) (nodedb : NodeDbGet) (dest : UInt32) : Option SlotIndex :=
  if dest = 0 ∨ dest = NODE_BROADCAST then none
  else match nodedb dest with
    | some channel => if channel = 0 then none else enabledSlot t channel
    | none => none

theorem channelsResolveSendIndex_eq (t : ChannelTable) (nodedb : NodeDbGet) (dest : UInt32)
    (channelIndex wireHash : UInt8) :
    channelsResolveSendIndex t nodedb dest channelIndex wireHash =
      (enabledSlot t channelIndex).getD (((hashSlot t wireHash).or (peerSlot t nodedb dest)).getD t.primaryIndex) := by
  unfold channelsResolveSendIndex
  cases enabledSlot t channelIndex with
  | some slot => rfl
  | none =>
    generalize hash : hashSlot t wireHash = byHash
    unfold hashSlot at hash
    simp only [hash]
    cases byHash with
    | some slot => rfl
    | none => rfl

theorem hashSlot_eq_some (valid : t.RolesValid) {wireHash : UInt8} {slot : SlotIndex}
    (found : hashSlot t wireHash = some slot) : (t.channelSlots slot).role ≠ .disabled := by
  unfold hashSlot at found
  split_ifs at found with zero
  have matched := List.find?_some found
  simp only [channelsDecryptForHash, beq_iff_eq] at matched
  intro off
  exact zero (matched.symm.trans (valid.disabled slot off))

theorem peerSlot_eq_some {nodedb : NodeDbGet} {dest : UInt32} {slot : SlotIndex}
    (found : peerSlot t nodedb dest = some slot) : (t.channelSlots slot).role ≠ .disabled := by
  unfold peerSlot at found
  split_ifs at found
  split at found
  · split_ifs at found
    exact enabledSlot_eq_some found
  · cases found

theorem channelsResolveSendIndex_cases (valid : t.RolesValid) (nodedb : NodeDbGet) (dest : UInt32)
    (channelIndex wireHash : UInt8) :
    (t.channelSlots (channelsResolveSendIndex t nodedb dest channelIndex wireHash)).role ≠ .disabled ∨
      channelsResolveSendIndex t nodedb dest channelIndex wireHash = t.primaryIndex := by
  rw [channelsResolveSendIndex_eq]
  cases asked : enabledSlot t channelIndex with
  | some slot => exact Or.inl (enabledSlot_eq_some asked)
  | none =>
    cases hashed : hashSlot t wireHash with
    | some slot => exact Or.inl (hashSlot_eq_some valid hashed)
    | none =>
      cases peer : peerSlot t nodedb dest with
      | some slot => exact Or.inl (peerSlot_eq_some peer)
      | none => exact Or.inr rfl

theorem ChannelTable.RolesValid.not_off (valid : t.RolesValid) {i : SlotIndex}
    (enabled : (t.channelSlots i).role ≠ .disabled) : ¬(t.channelSlots i).Off := by
  have settings := (fixupChannel_own i (t.channelSlots i)).1
  rw [valid.normal i] at settings
  intro off
  cases off with
  | inl missing =>
    rw [settings] at missing
    cases missing
  | inr disabled => exact enabled disabled

theorem channelGetKey_of_enabled (valid : t.RolesValid) (ends : t.KeyEnds)
    (primary : (t.channelSlots t.primaryIndex).role ≠ .disabled) {i : SlotIndex}
    (enabled : (t.channelSlots i).role ≠ .disabled) :
    ∃ key, channelGetKey t.channelSlots t.primaryIndex i = some (.ok key) := by
  have on := valid.not_off enabled
  have primaryOn := valid.not_off primary
  rw [channelGetKey_eq]
  unfold keyOf
  rw [if_neg on]
  by_cases inherits : (t.channelSlots i).Inherits
  · rw [if_pos inherits, if_neg ends]
    simp only [Channel.ownKey, if_neg primaryOn]
    exact ⟨_, rfl⟩
  · rw [if_neg inherits]
    exact ⟨_, rfl⟩

theorem sendsResolve_iff (valid : t.RolesValid) (ends : t.KeyEnds) :
    t.SendsResolve ↔ (t.channelSlots t.primaryIndex).role ≠ .disabled := by
  constructor
  · intro resolve
    have last : channelsResolveSendIndex t (fun _ => none) 0 CHANNEL_INDEX_INVALID 0 = t.primaryIndex := by
      have invalid : enabledSlot t CHANNEL_INDEX_INVALID = none := dif_neg (by decide)
      simp only [channelsResolveSendIndex, invalid, if_true, true_or]
      rfl
    have chosen := (resolve (fun _ => none) 0 CHANNEL_INDEX_INVALID 0).1
    rw [last] at chosen
    exact chosen
  · intro primary nodedb dest channelIndex wireHash
    have enabled : (t.channelSlots (channelsResolveSendIndex t nodedb dest channelIndex wireHash)).role ≠ .disabled := by
      cases channelsResolveSendIndex_cases valid nodedb dest channelIndex wireHash with
      | inl chosen => exact chosen
      | inr last =>
        rw [last]
        exact primary
    exact ⟨enabled, channelGetKey_of_enabled valid ends primary enabled⟩

/-! ## Runs of slot edits -/

def KeepsPrimaryOn (t : ChannelTable) (call : SetSlotCall) : Prop :=
  ∀ channel ∈ call.2, call.1.toNat < MAX_CHANNELS → channel.Off →
    channel.role ≠ .primary ∧ call.1.toNat ≠ t.primaryIndex.val

instance (t : ChannelTable) (call : SetSlotCall) : Decidable (KeepsPrimaryOn t call) :=
  inferInstanceAs (Decidable (∀ channel ∈ call.2, _ → _ → _))

theorem fixupChannel_role_disabled (index : SlotIndex) (ch : Channel) :
    (fixupChannel index ch).role = .disabled ↔ ch.Off := by
  rw [fixupChannel_role]
  unfold Channel.Off
  cases ch.hasSettings with
  | false => simp
  | true => simp

theorem setSlotCall_primary_iff {call : SetSlotCall}
    (primary : (t.channelSlots t.primaryIndex).role ≠ .disabled) (done : setSlotCall t call = some next) :
    (next.channelSlots next.primaryIndex).role ≠ .disabled ↔ KeepsPrimaryOn t call := by
  rcases setSlotCall_cases done with ⟨index, channel, place, given, written⟩ | ⟨refused, same⟩
  · have only : KeepsPrimaryOn t call ↔ (channel.Off → channel.role ≠ .primary ∧ index ≠ t.primaryIndex) := by
      have inside : call.1.toNat < MAX_CHANNELS := place ▸ index.isLt
      rw [place] at inside
      simp only [KeepsPrimaryOn, given, Option.mem_def, Option.some.injEq, forall_eq', place, inside, true_implies,
        ne_eq, Fin.ext_iff]
    obtain ⟨moved, contents, -, others⟩ := channelsSetSlot_eq_some written
    rw [only]
    by_cases here : next.primaryIndex = index
    · rw [here, contents, Ne, fixupChannel_role_disabled]
      constructor
      · exact fun on off => absurd off on
      · intro kept off
        obtain ⟨unpromoted, elsewhere⟩ := kept off
        rw [if_neg unpromoted] at moved
        exact elsewhere (here.symm.trans moved)
    · have unpromoted : channel.role ≠ .primary := by
        intro promotes
        rw [if_pos promotes] at moved
        exact here moved
      have unchanged := ((others next.primaryIndex here).2 (fun both => unpromoted both.1)).1
      rw [if_neg unpromoted] at moved
      rw [unchanged, moved]
      have elsewhere : index ≠ t.primaryIndex := fun equal => here (moved.trans equal.symm)
      exact ⟨fun _ _ => ⟨unpromoted, elsewhere⟩, fun _ => primary⟩
  · rw [same]
    refine ⟨fun _ channel given inside => ?_, fun _ => primary⟩
    cases refused with
    | inl missing =>
      rw [missing] at given
      cases given
    | inr outside => omega

theorem setSlotCall_ends (ends : t.KeyEnds) {call : SetSlotCall} (done : setSlotCall t call = some next) :
    next.KeyEnds := by
  rcases setSlotCall_cases done with ⟨index, channel, -, -, written⟩ | ⟨-, same⟩
  · exact channelsSetSlot_ends ends written
  · rw [same]
    exact ends

end

theorem channelsInitFromConfig_primary {chHash : UInt8} {cfg : Option ChannelConfig} {t : ChannelTable}
    (booted : channelsInitFromConfig chHash cfg = some t) : (t.channelSlots t.primaryIndex).role = .primary := by
  have defaults : ∀ t ∈ channelsInitDefaults 0, t.primaryIndex = 0 ∧ (t.channelSlots 0).role = .primary ∧
      (t.channelSlots 0).hasSettings = true := by decide
  cases cfg with
  | none =>
    rw [channelsInitFromConfig, channelsInitDefaults_eq] at booted
    obtain ⟨start, started, same⟩ := Option.map_eq_some_iff.mp booted
    obtain ⟨primary, role, -⟩ := defaults start started
    rw [← same]
    simp only [primary, role]
  | some cfg =>
    obtain ⟨start, started, name, kept, slots⟩ := channelsInitFromConfig_slots booted
    obtain ⟨primary, role, settings⟩ := defaults start started
    simp only [kept, slots, primary, Function.update_self, fixupChannel_role, settings, if_true, role]

/-- Over any slot edits that return, every packet finds a usable slot in every table on the way, exactly when
no edit leaves `primary_index` on a slot that is off. -/
theorem send_resolution_usable_iff (chHash : UInt8) (cfg : Option ChannelConfig) {start last : ChannelTable}
    (booted : channelsInitFromConfig chHash cfg = some start) (calls : List SetSlotCall)
    (done : Transition.run setSlotCall start calls = some last) :
    Transition.Always setSlotCall ChannelTable.SendsResolve start calls ↔
      Transition.Guarded setSlotCall KeepsPrimaryOn start calls := by
  have valid := channelsInitFromConfig_rolesValid booted
  have ends : start.KeyEnds := (channelsInitFromConfig_spec booted).1.primary_own
  have primary : (start.channelSlots start.primaryIndex).role ≠ .disabled := by
    rw [channelsInitFromConfig_primary booted]
    decide
  apply @Transition.always_iff_guarded _ _ setSlotCall KeepsPrimaryOn (fun t => t.RolesValid ∧ t.KeyEnds) _ _ _ _ _ _
    ⟨valid, ends⟩ ((sendsResolve_iff valid ends).mpr primary) done
  · intro t call next kept taken
    exact ⟨setSlotCall_rolesValid t call next kept.1 trivial taken, setSlotCall_ends kept.2 taken⟩
  · intro t call next kept good taken
    have valid' := setSlotCall_rolesValid t call next kept.1 trivial taken
    rw [sendsResolve_iff valid' (setSlotCall_ends kept.2 taken)]
    exact setSlotCall_primary_iff ((sendsResolve_iff kept.1 kept.2).mp good) taken

theorem send_resolution_usable_promoted :
    ∃ start last, channelsInitFromConfig 0 none = some start ∧
      Transition.run setSlotCall start [(2, some otherPrimary), (0, some { role := .disabled })] = some last ∧
      Transition.Always setSlotCall ChannelTable.SendsResolve start
        [(2, some otherPrimary), (0, some { role := .disabled })] :=
  ⟨_, _, rfl, rfl, (send_resolution_usable_iff 0 none rfl [(2, some otherPrimary), (0, some { role := .disabled })]
    rfl).mpr (by decide)⟩

/-- Disabling slot 0 leaves `primary_index` there: a packet without an index and a hash resolves to a slot
that is disabled and has no key. -/
theorem send_resolution_disabled :
    ∃ start t, channelsInitFromConfig 0 none = some start ∧
      Transition.run setSlotCall start [(0, some { role := .disabled })] = some t ∧
      channelsResolveSendIndex t (fun _ => none) NODE_BROADCAST CHANNEL_INDEX_INVALID 0 = 0 ∧
      (t.channelSlots 0).role = .disabled ∧
      channelGetKey t.channelSlots t.primaryIndex 0 = some (.error .enoent) ∧ ¬t.SendsResolve := by
  refine ⟨_, _, rfl, rfl, rfl, rfl, rfl, ?_⟩
  intro resolve
  exact (resolve (fun _ => none) NODE_BROADCAST CHANNEL_INDEX_INVALID 0).1 rfl

/-! ## Application calls -/

def strlen (text : Octets) : Nat := (text.takeWhile (· ≠ 0)).length

/-- The packet of `meshtastic_send_data`; what the initializer leaves out is zero, the slot included. -/
def dataPacket (dest portnum : UInt32) (payload : Octets) : Packet :=
  { to_ := dest, portnum := portnum, payload := payload }

section
variable {cfg : Kconfig}

def sendData (codec : Codec) (answer : Answer) (node : Node cfg) (dest portnum : UInt32) (payload : Octets)
    (wait : Wait) : Option (Option Errno × Node cfg) :=
  sendPacket codec answer node (dataPacket dest portnum payload) wait

/-- `meshtastic_send_text`; `none` is NULL. -/
def sendText (codec : Codec) (answer : Answer) (node : Node cfg) (dest : UInt32) (text : Option Octets) :
    Option (Option Errno × Node cfg) :=
  match text with
  | none => some (some .einval, node)
  | some text =>
    let len := strlen text
    if len = 0 ∨ len > MAX_TEXT_LEN then some (some .einval, node)
    else sendData codec answer node dest PORT_TEXT_MESSAGE (text.take len) .forever

inductive SendCall where
  | setSlot (call : SetSlotCall)
  | viaPacket (answer : Answer) (packet : Packet) (wait : Wait)
  | viaData (answer : Answer) (dest portnum : UInt32) (payload : Octets) (wait : Wait)
  | viaText (answer : Answer) (dest : UInt32) (text : Option Octets)

def SendCall.respond (codec : Codec) (node : Node cfg) : SendCall → Option (Option Errno × Node cfg)
  | .setSlot call => (setSlotCall node.table call).map fun t =>
      (if call.1.toNat < MAX_CHANNELS ∧ call.2.isSome then none else some .einval, { node with table := t })
  | .viaPacket answer packet wait => sendPacket codec answer node packet wait
  | .viaData answer dest portnum payload wait => sendData codec answer node dest portnum payload wait
  | .viaText answer dest text => sendText codec answer node dest text

def sendStep (codec : Codec) (node : Node cfg) (call : SendCall) : Option (Node cfg) :=
  (call.respond codec node).map Prod.snd

def SendCall.given : SendCall → Option (Answer × Packet)
  | .setSlot _ => none
  | .viaPacket answer packet _ => some (answer, packet)
  | .viaData answer dest portnum payload _ => some (answer, dataPacket dest portnum payload)
  | .viaText answer dest text =>
    text.map fun text => (answer, dataPacket dest PORT_TEXT_MESSAGE (text.take (strlen text)))

/-- Sends that do not choose a slot. -/
def SendCall.application : SendCall → Bool
  | .viaData _ _ _ _ _ => true
  | .viaText _ _ _ => true
  | _ => false

theorem SendCall.respond_given {codec : Codec} {node next : Node cfg} {call : SendCall} {given : Answer × Packet}
    (hands : call.given = some given) (done : call.respond codec node = some (none, next)) :
    ∃ wait, sendPacket codec given.1 node given.2 wait = some (none, next) := by
  cases call with
  | setSlot call => cases hands
  | viaPacket answer packet wait =>
    cases hands
    exact ⟨wait, done⟩
  | viaData answer dest portnum payload wait =>
    cases hands
    exact ⟨wait, done⟩
  | viaText answer dest text =>
    cases text with
    | none => cases hands
    | some text =>
      cases hands
      simp only [respond, sendText] at done
      split_ifs at done with refused
      · cases done
      · exact ⟨.forever, done⟩

theorem SendCall.application_given {call : SendCall} {given : Answer × Packet} (plain : call.application = true)
    (hands : call.given = some given) : given.2.channelIndex = 0 ∧ given.2.channel = 0 := by
  cases call with
  | setSlot call => cases plain
  | viaPacket answer packet wait => cases plain
  | viaData answer dest portnum payload wait =>
    cases hands
    exact ⟨rfl, rfl⟩
  | viaText answer dest text =>
    obtain ⟨text, -, same⟩ := Option.map_eq_some_iff.mp hands
    cases same
    exact ⟨rfl, rfl⟩

theorem SendCall.given_of_application {codec : Codec} {node next : Node cfg} {call : SendCall}
    (plain : call.application = true) (done : call.respond codec node = some (none, next)) :
    ∃ given, call.given = some given := by
  cases call with
  | setSlot call => cases plain
  | viaPacket answer packet wait => cases plain
  | viaData answer dest portnum payload wait => exact ⟨_, rfl⟩
  | viaText answer dest text =>
    cases text with
    | none => cases done
    | some text => exact ⟨_, rfl⟩

/-! ## The frame on air -/

/-- A frame is on air, and every frame that is has the key and the hash of the slot. -/
def Node.TransmitsOn (codec : Codec) (node next : Node cfg) (slot : SlotIndex) : Prop :=
  (∃ wire, Effect.handed wire ∈ node.newEffects next) ∧
  ∀ wire, Effect.handed wire ∈ node.newEffects next →
    ∃ local_ key, Effect.built local_ key wire ∈ node.newEffects next ∧ SentOn codec node.table slot local_ key wire

/-- Frames on the two slots have the same key and the same hash. -/
def ChannelTable.SameOnAir (t : ChannelTable) (slot other : SlotIndex) : Prop :=
  channelGetKey t.channelSlots t.primaryIndex slot = channelGetKey t.channelSlots t.primaryIndex other ∧
    t.channelHashes slot = t.channelHashes other

instance (t : ChannelTable) (slot other : SlotIndex) : Decidable (t.SameOnAir slot other) :=
  inferInstanceAs (Decidable (_ ∧ _))

theorem SentOn.iff_sameOnAir {codec : Codec} {t : ChannelTable} {slot other : SlotIndex} {local_ : Packet}
    {key wire : Octets} (sent : SentOn codec t other local_ key wire) :
    SentOn codec t slot local_ key wire ↔ t.SameOnAir other slot := by
  rw [sent.iff_same, ChannelTable.SameOnAir, sent.1]
  exact and_congr_left' eq_comm

theorem sendPacket_transmitsOn_iff {codec : Codec} {answer : Answer} {node next : Node cfg} {packet : Packet}
    {wait : Wait} {slot : SlotIndex} (sent : sendPacket codec answer node packet wait = some (none, next)) :
    node.TransmitsOn codec next slot ↔
      node.table.SameOnAir (channelsResolveSendIndex node.table answer.nodedb packet.to_
        (if packet.channelIndex = CHANNEL_INDEX_INVALID then channelsPrimaryIndex node.table
          else packet.channelIndex) packet.channel) slot := by
  obtain ⟨wire, reports, made, grown, quiet⟩ := sendPacket_transmits sent
  have effects := Node.newEffects_map grown
  have sentOn := buildWirePacket_sentOn made
  have handed : ∀ other, Effect.handed other ∈ node.newEffects next ↔ other = wire := by
    intro other
    rw [effects]
    exact handed_mem_iff quiet _ _ wire other
  have built : ∀ local_ key, Effect.built local_ key wire ∈ node.newEffects next ↔
      local_ = node.fillPacket packet (node.drawId packet.id).1 ∧
        key = wireKey node.table answer.nodedb (node.fillPacket packet (node.drawId packet.id).1) := by
    intro local_ key
    rw [effects, List.mem_append]
    constructor
    · intro member
      cases member with
      | inl report => cases quiet _ report
      | inr frame => simpa using frame
    · intro same
      rw [same.1, same.2]
      exact Or.inr (List.mem_cons_of_mem _ List.mem_cons_self)
  have chosen := @SentOn.iff_sameOnAir codec node.table slot _ _ _ _ sentOn
  simp only [Node.TransmitsOn, handed, exists_eq, forall_eq, built, true_and]
  constructor
  · intro found
    obtain ⟨local_, key, same, onSlot⟩ := found
    rw [same.1, same.2] at onSlot
    exact chosen.mp onSlot
  · intro same
    exact ⟨_, _, ⟨rfl, rfl⟩, chosen.mpr same⟩

/-- The fallbacks end on the primary channel, if not on its slot. -/
def ChannelTable.EndsOnPrimary (t : ChannelTable) (fallback : Option SlotIndex) : Prop :=
  ∀ slot ∈ fallback, t.SameOnAir slot t.primaryIndex

instance (t : ChannelTable) (fallback : Option SlotIndex) : Decidable (t.EndsOnPrimary fallback) :=
  inferInstanceAs (Decidable (∀ slot ∈ fallback, _))

theorem ChannelTable.sameOnAir_getD_iff (t : ChannelTable) (fallback : Option SlotIndex) :
    t.SameOnAir (fallback.getD t.primaryIndex) t.primaryIndex ↔ t.EndsOnPrimary fallback := by
  cases fallback with
  | none =>
    constructor
    · intro _ slot missing
      cases missing
    · intro _
      exact ⟨rfl, rfl⟩
  | some slot => simp only [Option.getD_some, EndsOnPrimary, Option.mem_def, Option.some.injEq, forall_eq']

/-! ## Application sends -/

def SentOnPrimary (codec : Codec) (node : Node cfg) (call : SendCall) (next : Node cfg) : Prop :=
  call.application = true → call.respond codec node = some (none, next) →
    (node.table.channelSlots node.table.primaryIndex).role ≠ .disabled →
    node.TransmitsOn codec next node.table.primaryIndex

/-- Slot 0, which the packet names, stands for the primary channel; when it is disabled, the peer's slot does. -/
def NamesPrimary (codec : Codec) (node : Node cfg) (call : SendCall) (next : Node cfg) : Prop :=
  call.application = true → call.respond codec node = some (none, next) →
    (node.table.channelSlots node.table.primaryIndex).role ≠ .disabled →
    ∀ given ∈ call.given,
      if (node.table.channelSlots 0).role ≠ .disabled then node.table.SameOnAir 0 node.table.primaryIndex
      else node.table.EndsOnPrimary (peerSlot node.table given.1.nodedb given.2.to_)

/-- Over any slot edits and sends, every application send is on the primary channel exactly when what its
packet names is. -/
theorem application_sends_on_primary_iff (codec : Codec) (node : Node cfg) (calls : List SendCall) :
    Transition.Each (sendStep codec) (SentOnPrimary codec) node calls ↔
      Transition.Each (sendStep codec) (NamesPrimary codec) node calls := by
  apply Transition.each_congr
  intro node call next _
  apply forall_congr'
  intro plain
  apply forall_congr'
  intro done
  apply imp_congr_right
  intro enabled
  obtain ⟨given, hands⟩ := SendCall.given_of_application plain done
  obtain ⟨wait, sent⟩ := SendCall.respond_given hands done
  obtain ⟨index, hash⟩ := SendCall.application_given plain hands
  have unhashed : hashSlot node.table 0 = none := if_pos rfl
  have named : ¬(0 : UInt8) = CHANNEL_INDEX_INVALID := by decide
  rw [sendPacket_transmitsOn_iff sent, index, hash, if_neg named, channelsResolveSendIndex_eq, unhashed, Option.none_or]
  simp only [hands, Option.mem_def, Option.some.injEq, forall_eq']
  have asked : enabledSlot node.table 0 =
      if (node.table.channelSlots 0).role = .disabled then none else some 0 := dif_pos (by decide)
  rw [asked]
  by_cases off : (node.table.channelSlots 0).role = .disabled
  · rw [if_pos off, if_neg (not_not.mpr off), Option.getD_none]
    exact node.table.sameOnAir_getD_iff _
  · rw [if_neg off, if_pos off, Option.getD_some]

def bootedNode (t : ChannelTable) : Node smallKconfig :=
  { Node.powerOn smallKconfig t with nodeId := 0x11, initialized := true }

/-- The primary role has moved to slot 1 and slot 0 is a secondary channel: there the data goes out. -/
theorem application_send_off_primary :
    ∃ start next last, channelsInitFromConfig 0 none = some start ∧
      sendStep (dataCodec fun _ _ _ => 0) (bootedNode start) (.setSlot (1, some otherPrimary)) = some next ∧
      next.table.primaryIndex = 1 ∧ (next.table.channelSlots 1).role = .primary ∧
      sendData (dataCodec fun _ _ _ => 0) plainAnswer next NODE_BROADCAST PORT_TEXT_MESSAGE [0x68, 0x69] .noWait =
        some (none, last) ∧
      next.TransmitsOn (dataCodec fun _ _ _ => 0) last 0 ∧
      ¬Transition.Each (sendStep (dataCodec fun _ _ _ => 0)) (SentOnPrimary (dataCodec fun _ _ _ => 0))
        (bootedNode start) [.setSlot (1, some otherPrimary),
          .viaData plainAnswer NODE_BROADCAST PORT_TEXT_MESSAGE [0x68, 0x69] .noWait] := by
  refine ⟨_, _, _, rfl, rfl, rfl, rfl, rfl, ?_, ?_⟩
  · exact (@sendPacket_transmitsOn_iff _ _ plainAnswer _ _
      (dataPacket NODE_BROADCAST PORT_TEXT_MESSAGE [0x68, 0x69]) .noWait _ rfl).mpr (by decide)
  · intro each
    have sentOn := ((each _ rfl).2 _ rfl).1 rfl rfl (by decide)
    exact absurd ((@sendPacket_transmitsOn_iff _ _ plainAnswer _ _
      (dataPacket NODE_BROADCAST PORT_TEXT_MESSAGE [0x68, 0x69]) .noWait _ rfl).mp sentOn) (by decide)

/-! ## The resolution order -/

def SentAsAsked (codec : Codec) (node : Node cfg) (call : SendCall) (next : Node cfg) : Prop :=
  ∀ given ∈ call.given, call.respond codec node = some (none, next) →
    node.TransmitsOn codec next (channelsResolveSendIndex node.table given.1.nodedb given.2.to_ given.2.channelIndex
      given.2.channel)

/-- When no slot is asked for and the primary one is enabled, hash and peer lead to the primary channel. -/
def LeadsToPrimary (codec : Codec) (node : Node cfg) (call : SendCall) (next : Node cfg) : Prop :=
  ∀ given ∈ call.given, call.respond codec node = some (none, next) →
    given.2.channelIndex = CHANNEL_INDEX_INVALID →
    (node.table.channelSlots node.table.primaryIndex).role ≠ .disabled →
    node.table.EndsOnPrimary
      ((hashSlot node.table given.2.channel).or (peerSlot node.table given.1.nodedb given.2.to_))

theorem ChannelTable.SameOnAir.comm {t : ChannelTable} {slot other : SlotIndex} :
    t.SameOnAir slot other ↔ t.SameOnAir other slot := by
  unfold SameOnAir
  rw [eq_comm, @eq_comm _ (t.channelHashes slot)]

/-- Over any slot edits and sends, every packet goes out as asked exactly when those without a slot are led
to the primary channel: `send_packet_prepare` has named it for them. -/
theorem sends_as_asked_iff (codec : Codec) (node : Node cfg) (calls : List SendCall) :
    Transition.Each (sendStep codec) (SentAsAsked codec) node calls ↔
      Transition.Each (sendStep codec) (LeadsToPrimary codec) node calls := by
  apply Transition.each_congr
  intro node call next _
  apply forall_congr'
  intro given
  apply forall_congr'
  intro hands
  apply forall_congr'
  intro done
  obtain ⟨wait, sent⟩ := SendCall.respond_given hands done
  rw [sendPacket_transmitsOn_iff sent]
  by_cases open_ : given.2.channelIndex = CHANNEL_INDEX_INVALID
  · have invalid : enabledSlot node.table CHANNEL_INDEX_INVALID = none := dif_neg (by decide)
    rw [if_pos open_, forall_prop_of_true open_, open_, channelsResolveSendIndex_eq, channelsResolveSendIndex_eq,
      invalid, Option.getD_none]
    by_cases off : (node.table.channelSlots node.table.primaryIndex).role = .disabled
    · have missing : enabledSlot node.table (channelsPrimaryIndex node.table) = none := enabledSlot_disabled off
      rw [missing, Option.getD_none]
      exact iff_of_true ⟨rfl, rfl⟩ (fun on => absurd off on)
    · have found : enabledSlot node.table (channelsPrimaryIndex node.table) = some node.table.primaryIndex :=
        enabledSlot_ofNat off
      rw [found, Option.getD_some, ChannelTable.SameOnAir.comm, node.table.sameOnAir_getD_iff]
      exact ⟨fun leads _ => leads, fun leads => leads off⟩
  · rw [if_neg open_]
    exact iff_of_true ⟨rfl, rfl⟩ (fun same => absurd same open_)

def hashedText : Packet :=
  { to_ := NODE_BROADCAST, portnum := PORT_TEXT_MESSAGE, payload := [0x68, 0x69], channel := 0x5f,
    channelIndex := CHANNEL_INDEX_INVALID }

/-- The hash leads to slot 2, but the text goes out on the primary channel. -/
theorem send_not_as_asked :
    ∃ start next last, channelsInitFromConfig 0 none = some start ∧
      sendStep (dataCodec fun _ _ _ => 0) (bootedNode start) (.setSlot (2, some secondChannel)) = some next ∧
      channelsResolveSendIndex next.table (fun _ => none) NODE_BROADCAST CHANNEL_INDEX_INVALID 0x5f = 2 ∧
      sendPacket (dataCodec fun _ _ _ => 0) plainAnswer next hashedText .noWait = some (none, last) ∧
      next.TransmitsOn (dataCodec fun _ _ _ => 0) last 0 ∧
      ¬Transition.Each (sendStep (dataCodec fun _ _ _ => 0)) (SentAsAsked (dataCodec fun _ _ _ => 0))
        (bootedNode start) [.setSlot (2, some secondChannel), .viaPacket plainAnswer hashedText .noWait] := by
  refine ⟨_, _, _, rfl, rfl, rfl, rfl, ?_, ?_⟩
  · exact (@sendPacket_transmitsOn_iff _ _ plainAnswer _ _ hashedText .noWait _ rfl).mpr (by decide)
  · intro each
    have sentOn := ((each _ rfl).2 _ rfl).1 _ rfl rfl
    exact absurd ((@sendPacket_transmitsOn_iff _ _ plainAnswer _ _ hashedText .noWait _ rfl).mp sentOn) (by decide)

end

end Meshtastic
