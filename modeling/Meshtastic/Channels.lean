import Meshtastic.Core
import Mathlib.Data.Fintype.Basic
import Mathlib.Logic.Function.Basic

/-! The channel table of `meshtastic_channels.c`: eight slots, a cached wire hash for each
and the index of the primary slot. -/

namespace Meshtastic
open Bytes

/-- A NUL-terminated string: the characters before the terminator. -/
structure CString where
  bytes : Octets
  noNul : (0 : UInt8) ∉ bytes
  deriving DecidableEq

def CString.empty : CString := ⟨[], by decide⟩

def CString.truncate (text : CString) (count : Nat) : CString :=
  ⟨text.bytes.take count, fun present => text.noNul (List.mem_of_mem_take present)⟩

def CHANNEL_LONGFAST : CString := ⟨[0x4c, 0x6f, 0x6e, 0x67, 0x46, 0x61, 0x73, 0x74], by decide⟩
def CHANNEL_DEFAULT : CString := ⟨[0x44, 0x65, 0x66, 0x61, 0x75, 0x6c, 0x74], by decide⟩

def defaultPsk : Octets :=
  [0xd4, 0xf1, 0xbb, 0x3a, 0x20, 0x29, 0x07, 0x59, 0xf0, 0xbc, 0xff, 0xab, 0xcf, 0x4e, 0x69, 0x01]

inductive ChannelRole where
  | disabled
  | primary
  | secondary
  | unrecognized (beyond : Nat)
  deriving DecidableEq

def ChannelRole.toNat : ChannelRole → Nat
  | disabled => 0
  | primary => 1
  | secondary => 2
  | unrecognized beyond => 3 + beyond

structure ModuleSettings where
  positionPrecision : UInt32 := 0
  isMuted : Bool := false
  deriving DecidableEq

/-- `meshtastic_ChannelSettings`. A decoded PSK has at most 32 bytes, a name at most 11. -/
structure ChannelSettings where
  channelNum : UInt32 := 0
  psk : Octets := []
  name : CString := CString.empty
  id : UInt32 := 0
  uplinkEnabled : Bool := false
  downlinkEnabled : Bool := false
  moduleSettings : Option ModuleSettings := none
  deriving DecidableEq

structure Channel where
  index : Int := 0
  hasSettings : Bool := false
  settings : ChannelSettings := {}
  role : ChannelRole := .disabled
  deriving DecidableEq

abbrev SlotIndex := Fin MAX_CHANNELS
abbrev Slots := SlotIndex → Channel

/-- The static tables of `meshtastic_channels.c` and the primary hash kept in `mt`. -/
structure ChannelTable where
  channelSlots : Slots
  channelHashes : SlotIndex → UInt8
  primaryIndex : SlotIndex
  chHash : UInt8

def ChannelTable.withSlot (t : ChannelTable) (index : SlotIndex) (channel : Channel) : ChannelTable :=
  { t with channelSlots := Function.update t.channelSlots index channel }

/-! ## Keys -/

def expandShortPsk (pskIndex : UInt8) : Octets :=
  if pskIndex > 1 then defaultPsk.take 15 ++ [0x01 + (pskIndex - 1)] else defaultPsk

def padPsk (key : Octets) : Octets :=
  if key.length < 16 then key ++ List.replicate (16 - key.length) 0
  else if 16 < key.length ∧ key.length < 32 then key ++ List.replicate (32 - key.length) 0
  else key

/-- The key a slot's own PSK bytes stand for. The empty key means cleartext. -/
def expandPsk : Octets → Octets
  | [] => []
  | [pskIndex] => if pskIndex = 0 then [] else padPsk (expandShortPsk pskIndex)
  | psk => padPsk psk

/-- `channel_get_key` with a bound on the depth of its recursion; `none` when the bound is hit. -/
def channelGetKeyWithin (slots : Slots) (primaryIndex : SlotIndex) :
    Nat → SlotIndex → Option (Except Errno Octets)
  | 0, _ => none
  | depth + 1, index =>
    let ch := slots index
    if ch.hasSettings = false ∨ ch.role = .disabled then
      some (.error .enoent)
    else if ch.settings.psk = [] ∧ ch.role = .secondary then
      -- an empty PSK on a secondary slot inherits the primary slot's key
      channelGetKeyWithin slots primaryIndex depth primaryIndex
    else
      some (.ok (expandPsk ch.settings.psk))

/-- `channel_get_key`: `none` when the lookup recurses forever. Two levels decide, see
`channelGetKeyWithin_stable`. -/
def channelGetKey (slots : Slots) (primaryIndex index : SlotIndex) :
    Option (Except Errno Octets) :=
  channelGetKeyWithin slots primaryIndex 2 index

def channelsGetName (slots : Slots) (index : SlotIndex) : CString :=
  if (slots index).hasSettings = false ∨ (slots index).settings.name = CString.empty then
    CHANNEL_LONGFAST
  else (slots index).settings.name

def channelGenerateHash (slots : Slots) (primaryIndex index : SlotIndex) : Option UInt8 :=
  match channelGetKey slots primaryIndex index with
  | none => none
  | some (.error _) => some 0
  | some (.ok key) =>
    let nameHash := xorAll (channelsGetName slots index).bytes
    some (if key.length = 0 then nameHash else nameHash ^^^ xorAll key)

/-! ## Table updates. `none` means that a key lookup inside the call never returns. -/

def fixupChannel (index : SlotIndex) (channel : Channel) : Channel :=
  let ch := { channel with index := index.val }
  let ch := if ch.hasSettings then ch
    else { ch with role := .disabled, settings := {}, hasSettings := true }
  if ch.settings.name = CHANNEL_DEFAULT then
    { ch with settings := { ch.settings with name := CString.empty } }
  else ch

def channelFixup (t : ChannelTable) (index : SlotIndex) : Option ChannelTable := do
  let t := t.withSlot index (fixupChannel index (t.channelSlots index))
  let hash ← channelGenerateHash t.channelSlots t.primaryIndex index
  some { t with channelHashes := Function.update t.channelHashes index hash }

/-- One iteration of the loop of `demote_other_primary`. -/
def demoteOne (index : SlotIndex) (t : ChannelTable) (i : SlotIndex) :
    Option ChannelTable :=
  if i = index then some t
  else if (t.channelSlots i).role = .primary then
    channelFixup (t.withSlot i { t.channelSlots i with role := .secondary }) i
  else some t

def demoteOtherPrimary (t : ChannelTable) (index : SlotIndex) : Option ChannelTable :=
  (List.finRange MAX_CHANNELS).foldlM (demoteOne index) t

/-- `meshtastic_channels_set_slot` for an index in range. -/
def channelsSetSlot (t : ChannelTable) (index : SlotIndex) (channel : Channel) :
    Option ChannelTable := do
  let t := t.withSlot index { channel with index := index.val }
  let t ← if channel.role = .primary then
      demoteOtherPrimary { t with primaryIndex := index } index
    else some t
  let t ← channelFixup t index
  some (if index = t.primaryIndex then { t with chHash := t.channelHashes t.primaryIndex } else t)

/-- The part of `struct meshtastic_config` that the channel table reads. -/
structure ChannelConfig where
  psk : Octets
  channelName : Option CString

def channelsInitDefaults (chHash : UInt8) : Option ChannelTable := do
  let disabled : Channel := { role := .disabled, hasSettings := true }
  let primary : Channel :=
    { role := .primary
      hasSettings := true
      settings :=
        { name := CHANNEL_LONGFAST
          psk := defaultPsk
          uplinkEnabled := true
          downlinkEnabled := true
          moduleSettings := some { positionPrecision := 13 } } }
  let t : ChannelTable :=
    { channelSlots := Function.update (fun _ => disabled) 0 primary
      channelHashes := fun _ => 0
      primaryIndex := 0
      chHash := chHash }
  let t ← ((List.finRange MAX_CHANNELS).drop 1).foldlM channelFixup t
  channelFixup t 0

/-- `meshtastic_channels_init_from_config`, given the value `mt.ch_hash` had before. -/
def channelsInitFromConfig (chHash : UInt8) : Option ChannelConfig → Option ChannelTable
  | none => channelsInitDefaults chHash
  | some cfg => do
    let t ← channelsInitDefaults chHash
    let ch := t.channelSlots 0
    let name := match cfg.channelName with
      | some text => text.truncate 11
      | none => ch.settings.name
    let t := t.withSlot 0 { ch with settings := { ch.settings with name := name, psk := cfg.psk } }
    let t ← channelFixup t 0
    some { t with chHash := t.channelHashes t.primaryIndex }

/-! ## Lookups -/

def channelsDecryptForHash (t : ChannelTable) (index : SlotIndex) (wireHash : UInt8) : Bool :=
  t.channelHashes index == wireHash

/-- `meshtastic_channels_get_hash` on any `uint8_t`. -/
def channelsGetHash (t : ChannelTable) (index : UInt8) : UInt8 :=
  if h : index.toNat < MAX_CHANNELS then t.channelHashes ⟨index.toNat, h⟩ else 0

/-- `index` names a slot of the table that is not disabled. -/
def enabledSlot (t : ChannelTable) (index : UInt8) : Option (SlotIndex) :=
  if h : index.toNat < MAX_CHANNELS then
    if (t.channelSlots ⟨index.toNat, h⟩).role = .disabled then none else some ⟨index.toNat, h⟩
  else none

/-- The channel NodeDB has stored for a node, when the node is known. Without NodeDB no
node is known. -/
abbrev NodeDbGet := UInt32 → Option UInt8

def channelsResolveSendIndex (t : ChannelTable) (nodedb : NodeDbGet) (dest : UInt32)
    (channelIndex wireHash : UInt8) : SlotIndex :=
  match enabledSlot t channelIndex with
  | some index => index
  | none =>
    let byHash := if wireHash = 0 then none
      else (List.finRange MAX_CHANNELS).find? (fun i => channelsDecryptForHash t i wireHash)
    match byHash with
    | some index => index
    | none =>
      let byPeer := if dest = 0 ∨ dest = NODE_BROADCAST then none
        else match nodedb dest with
          | some channel => if channel = 0 then none else enabledSlot t channel
          | none => none
      byPeer.getD t.primaryIndex

def channelsUplinkEnabled (t : ChannelTable) (index : UInt8) : Bool :=
  if h : index.toNat < MAX_CHANNELS then
    let ch := t.channelSlots ⟨index.toNat, h⟩
    !(ch.role = .disabled || !ch.hasSettings) && ch.settings.uplinkEnabled
  else false

def channelsDownlinkEnabled (t : ChannelTable) (index : UInt8) : Bool :=
  if h : index.toNat < MAX_CHANNELS then
    let ch := t.channelSlots ⟨index.toNat, h⟩
    !(ch.role = .disabled || !ch.hasSettings) && ch.settings.downlinkEnabled
  else false

def channelsMatchesMqttName (t : ChannelTable) (channelId : CString) : Bool :=
  (List.finRange MAX_CHANNELS).any fun i =>
    (t.channelSlots i).role ≠ .disabled && channelId = channelsGetName t.channelSlots i

/-! ## Device policy -/

def isRebroadcaster (role : DeviceRole) (mode : RebroadcastMode) : Bool :=
  role != .clientMute && mode != .none

/-- `meshtastic_decode_known_only`: whether policy lets a packet of `from_` be decoded. -/
def decodeKnownOnly (mode : RebroadcastMode) (nodedb : NodeDbGet) (from_ : UInt32) : Bool :=
  mode != .knownOnly || (nodedb from_).isSome

theorem decodeKnownOnly_eq_false {mode : RebroadcastMode} {nodedb : NodeDbGet} {from_ : UInt32} :
    decodeKnownOnly mode nodedb from_ = false ↔ mode = .knownOnly ∧ (nodedb from_).isSome = false := by
  simp [decodeKnownOnly]

example : (channelsInitFromConfig 0 (some ⟨defaultPsk, some CHANNEL_LONGFAST⟩)).map (·.chHash) =
    some 0x08 := by decide

end Meshtastic
