import Meshtastic.ChannelsCoherence
import Meshtastic.Packet

/-! `channel_get_key` in the buffer of its caller: the PSK is copied over zeros, expanded in place and
lengthened. Whatever the buffer held before, what comes out is the key the settings stand for. -/

namespace Meshtastic
open Bytes

structure ChannelKey where
  bytes : Octets
  bytes_length : bytes.length = 32
  len : Nat

namespace ChannelKey

def used (key : ChannelKey) : Octets := key.bytes.take key.len

/-- `memset` to zero. -/
def zeroed (key : ChannelKey) : ChannelKey :=
  { key with bytes := List.replicate 32 0, bytes_length := List.length_replicate }

/-- `memcpy` to the front; what stands behind the copy stays. -/
def copyIn (key : ChannelKey) (src : Octets) : ChannelKey :=
  { key with
    bytes := (src ++ key.bytes.drop src.length).take 32
    bytes_length := by
      have size := key.bytes_length
      simp only [List.length_take, List.length_append, List.length_drop]
      omega }

def addAt (key : ChannelKey) (position : Nat) (value : UInt8) : ChannelKey :=
  { key with
    bytes := key.bytes.modify position (· + value)
    bytes_length := by rw [List.length_modify, key.bytes_length] }

end ChannelKey

def expandShortPskIn (pskIndex : UInt8) (key : ChannelKey) : ChannelKey :=
  let key : ChannelKey := { key.copyIn defaultPsk with len := defaultPsk.length }
  if pskIndex > 1 then key.addAt (defaultPsk.length - 1) (pskIndex - 1) else key

/-- The zero padding at the end of `channel_get_key`: the length alone is raised. -/
def padLen (key : ChannelKey) : ChannelKey :=
  if key.len < 16 then { key with len := 16 }
  else if key.len > 16 ∧ key.len < 32 then { key with len := 32 }
  else key

/-- `channel_get_key` on the caller's buffer, with a bound on the depth of its recursion; `none` when
the bound is hit. -/
def channelGetKeyIn (slots : Slots) (primaryIndex : SlotIndex) :
    Nat → SlotIndex → ChannelKey → Option (Except Errno Unit × ChannelKey)
  | 0, _, _ => none
  | depth + 1, index, key =>
    let ch := slots index
    if ch.hasSettings = false ∨ ch.role = .disabled then
      some (.error .enoent, key)
    else
      let key : ChannelKey := { key.zeroed.copyIn ch.settings.psk with len := ch.settings.psk.length }
      if key.len = 0 then
        if ch.role = .secondary then channelGetKeyIn slots primaryIndex depth primaryIndex key
        else some (.ok (), key)
      else if key.len = 1 then
        let pskIndex := key.bytes.headD 0
        if pskIndex = 0 then some (.ok (), { key with len := 0 })
        else some (.ok (), padLen (expandShortPskIn pskIndex key))
      else some (.ok (), padLen key)

/-- `channel_generate_hash` with whatever its `key` variable holds on entry. -/
def channelGenerateHashIn (slots : Slots) (primaryIndex : SlotIndex) (depth : Nat) (index : SlotIndex)
    (key : ChannelKey) : Option UInt8 :=
  match channelGetKeyIn slots primaryIndex depth index key with
  | none => none
  | some (.error _, _) => some 0
  | some (.ok (), key) =>
    let nameHash := xorAll (channelsGetName slots index).bytes
    some (if key.len = 0 then nameHash else nameHash ^^^ xorAll key.used)

/-! ## The reference -/

def effectiveKey : Octets → Octets
  | [] => []
  | [pskIndex] =>
    if pskIndex = 0 then []
    else defaultPsk.take 15 ++ [UInt8.ofNat ((0x01 + (pskIndex.toNat - 1)) % 256)]
  | psk => psk

def padToAes (key : Octets) : Octets :=
  if key.length = 0 then []
  else if key.length ≤ 16 then key ++ List.replicate (16 - key.length) 0
  else key ++ List.replicate (32 - key.length) 0

def keySource (slots : Slots) (primaryIndex index : SlotIndex) : Channel :=
  if (slots index).Inherits then slots primaryIndex else slots index

def referenceKey (slots : Slots) (primaryIndex index : SlotIndex) : Octets :=
  padToAes (effectiveKey (keySource slots primaryIndex index).settings.psk)

theorem effectiveKey_length_le {psk : Octets} (short : psk.length ≤ 32) : (effectiveKey psk).length ≤ 32 := by
  unfold effectiveKey
  split
  · exact Nat.zero_le _
  · split_ifs
    · exact Nat.zero_le _
    · simp [defaultPsk]
  · exact short

theorem padToAes_length {key : Octets} (short : key.length ≤ 32) :
    (padToAes key).length = 0 ∨ (padToAes key).length = 16 ∨ (padToAes key).length = 32 := by
  unfold padToAes
  split_ifs with empty small
  · exact Or.inl rfl
  · refine Or.inr (Or.inl ?_)
    rw [List.length_append, List.length_replicate]
    omega
  · refine Or.inr (Or.inr ?_)
    rw [List.length_append, List.length_replicate]
    omega

theorem xorAll_padToAes (key : Octets) : xorAll (padToAes key) = xorAll key := by
  unfold padToAes
  split_ifs with empty
  · rw [List.eq_nil_of_length_eq_zero empty]
  all_goals rw [xorAll_append, xorAll_zeros, UInt8.xor_zero]

theorem shortPsk_last {pskIndex : UInt8} (given : pskIndex ≠ 0) :
    (0x01 : UInt8) + (pskIndex - 1) = UInt8.ofNat ((0x01 + (pskIndex.toNat - 1)) % 256) := by
  have positive : pskIndex.toNat ≠ 0 := fun none => given (UInt8.toNat_inj.mp none)
  have bound := pskIndex.toNat_lt
  apply UInt8.toNat_inj.mp
  rw [UInt8.toNat_add, UInt8.toNat_sub, UInt8.toNat_ofNat']
  simp only [UInt8.toNat_ofNat]
  omega

theorem expandShortPsk_eq {pskIndex : UInt8} (given : pskIndex ≠ 0) :
    expandShortPsk pskIndex = effectiveKey [pskIndex] := by
  simp only [effectiveKey, given, if_false, ← shortPsk_last given]
  unfold expandShortPsk
  split_ifs with large
  · rfl
  · have one : pskIndex = 1 := by
      have positive : pskIndex.toNat ≠ 0 := fun none => given (UInt8.toNat_inj.mp none)
      have small : pskIndex.toNat ≤ 1 := by simpa [UInt8.lt_iff_toNat_lt] using large
      apply UInt8.toNat_inj.mp
      show pskIndex.toNat = 1
      omega
    rw [one]
    decide

theorem padPsk_eq {key : Octets} (given : key ≠ []) (short : key.length ≤ 32) : padPsk key = padToAes key := by
  have size : key.length ≠ 0 := fun none => given (List.eq_nil_of_length_eq_zero none)
  unfold padPsk padToAes
  rw [if_neg size]
  split_ifs with low high middle
  · rfl
  · omega
  · omega
  · rfl
  · have exact : 16 - key.length = 0 := by omega
    rw [exact, List.replicate_zero, List.append_nil]
  · have exact : 32 - key.length = 0 := by omega
    rw [exact, List.replicate_zero, List.append_nil]

theorem expandPsk_eq {psk : Octets} (short : psk.length ≤ 32) : expandPsk psk = padToAes (effectiveKey psk) := by
  match psk with
  | [] => rfl
  | [pskIndex] =>
    by_cases zero : pskIndex = 0
    · simp [expandPsk, effectiveKey, padToAes, zero]
    · have given : effectiveKey [pskIndex] ≠ [] := by simp [effectiveKey, zero]
      rw [expandPsk, if_neg zero, expandShortPsk_eq zero, padPsk_eq given (effectiveKey_length_le short)]
  | first :: second :: rest =>
    show padPsk (first :: second :: rest) = padToAes (first :: second :: rest)
    exact padPsk_eq (List.cons_ne_nil _ _) short

/-! ## The buffer -/

namespace ChannelKey

def Holds (key : ChannelKey) (bytes : Octets) : Prop :=
  key.len = bytes.length ∧ key.bytes = bytes ++ List.replicate (32 - bytes.length) 0

theorem holds_copyIn_zeroed (key : ChannelKey) {src : Octets} (short : src.length ≤ 32) :
    Holds { key.zeroed.copyIn src with len := src.length } src := by
  refine ⟨rfl, ?_⟩
  simp only [copyIn, zeroed, List.drop_replicate]
  apply List.take_of_length_le
  rw [List.length_append, List.length_replicate]
  omega

theorem Holds.used {key : ChannelKey} {bytes : Octets} (holds : key.Holds bytes) : key.used = bytes := by
  rw [ChannelKey.used, holds.1, holds.2, List.take_left]

theorem Holds.padLen {key : ChannelKey} {bytes : Octets} (holds : key.Holds bytes) (short : bytes.length ≤ 32) :
    (padLen key).Holds (padPsk bytes) := by
  have pad : ∀ size, bytes.length ≤ size → size ≤ 32 →
      Holds { key with len := size } (bytes ++ List.replicate (size - bytes.length) 0) := by
    intro size low high
    have length : (bytes ++ List.replicate (size - bytes.length) 0).length = size := by
      rw [List.length_append, List.length_replicate]
      omega
    refine ⟨length.symm, ?_⟩
    have split : 32 - bytes.length = (size - bytes.length) + (32 - size) := by omega
    rw [length, List.append_assoc, List.replicate_append_replicate, ← split]
    exact holds.2
  unfold Meshtastic.padLen padPsk
  rw [holds.1]
  split_ifs with low middle
  · exact pad 16 (Nat.le_of_lt low) (by decide)
  · exact pad 32 (Nat.le_of_lt middle.2) (by decide)
  · exact holds

theorem Holds.expandShortPskIn {key : ChannelKey} {pskIndex : UInt8} (holds : key.Holds [pskIndex]) :
    (expandShortPskIn pskIndex key).Holds (expandShortPsk pskIndex) := by
  unfold Meshtastic.expandShortPskIn expandShortPsk
  split_ifs
  · refine ⟨rfl, ?_⟩
    simp only [addAt, copyIn, holds.2]
    rfl
  · refine ⟨rfl, ?_⟩
    simp only [copyIn, holds.2]
    rfl

end ChannelKey

def SameLookup : Option (Except Errno Unit × ChannelKey) → Option (Except Errno Octets) → Prop
  | none, none => True
  | some (.error err, _), some (.error err') => err = err'
  | some (.ok (), key), some (.ok bytes) => key.Holds bytes
  | _, _ => False

section
variable {slots : Slots} {primaryIndex index : SlotIndex} {depth : Nat} {key : ChannelKey}

def PskFits (slots : Slots) : Prop := ∀ i, (slots i).settings.psk.length ≤ 32

instance (slots : Slots) : Decidable (PskFits slots) := inferInstanceAs (Decidable (∀ _, _))

/-- Whatever the buffer holds, the lookup in it is the lookup of the bytes. -/
theorem channelGetKeyIn_same (fits : PskFits slots) (primaryIndex : SlotIndex) (depth : Nat) (index : SlotIndex)
    (key : ChannelKey) :
    SameLookup (channelGetKeyIn slots primaryIndex depth index key)
      (channelGetKeyWithin slots primaryIndex depth index) := by
  induction depth generalizing index key with
  | zero => exact trivial
  | succ depth ih =>
    have copied := key.holds_copyIn_zeroed (fits index)
    have room := fits index
    unfold channelGetKeyIn channelGetKeyWithin
    by_cases off : (slots index).hasSettings = false ∨ (slots index).role = .disabled
    · simp only [if_pos off]
      exact rfl
    simp only [if_neg off]
    generalize (slots index).settings.psk = psk at copied room ⊢
    cases psk with
    | nil =>
      by_cases secondary : (slots index).role = .secondary
      · simp only [secondary, List.length_nil, and_self, if_true]
        exact ih primaryIndex _
      · simp only [secondary, List.length_nil, and_false, if_true, if_false]
        exact copied
    | cons first tail =>
      cases tail with
      | nil =>
        have read : (key.zeroed.copyIn [first]).bytes.headD 0 = first := by rw [copied.2]; rfl
        simp only [List.length_singleton, Nat.one_ne_zero, List.cons_ne_nil, false_and, if_true, if_false, read]
        by_cases zero : first = 0
        · simp only [zero, if_true]
          subst first
          exact ⟨rfl, copied.2⟩
        · simp only [zero, if_false, expandPsk]
          have longer : (expandShortPsk first).length ≤ 32 := by
            rw [expandShortPsk_eq zero]
            exact effectiveKey_length_le room
          exact copied.expandShortPskIn.padLen longer
      | cons second rest =>
        have several : (first :: second :: rest).length ≠ 0 ∧ (first :: second :: rest).length ≠ 1 := by simp
        simp only [several.1, several.2, List.cons_ne_nil, false_and, if_false]
        exact copied.padLen room

theorem channelGetKeyWithin_ok {bytes : Octets}
    (found : channelGetKeyWithin slots primaryIndex depth index = some (.ok bytes)) :
    bytes = expandPsk (keySource slots primaryIndex index).settings.psk := by
  induction depth generalizing index with
  | zero => cases found
  | succ depth ih =>
    unfold channelGetKeyWithin at found
    by_cases off : (slots index).Off
    · rw [if_pos (show _ ∨ _ from off)] at found
      cases found
    · rw [if_neg (show ¬(_ ∨ _) from off)] at found
      unfold keySource
      by_cases inherits : (slots index).Inherits
      · rw [if_pos ((inherits_iff off).mp inherits)] at found
        rw [if_pos inherits, ih found, keySource, ite_self]
      · rw [if_neg (mt (inherits_iff off).mpr inherits)] at found
        cases found
        rw [if_neg inherits]

theorem keySource_fits (fits : PskFits slots) (primaryIndex index : SlotIndex) :
    (keySource slots primaryIndex index).settings.psk.length ≤ 32 := by
  unfold keySource
  split_ifs
  · exact fits primaryIndex
  · exact fits index

theorem channelGetKeyIn_holds {result : ChannelKey} (fits : PskFits slots)
    (found : channelGetKeyIn slots primaryIndex depth index key = some (.ok (), result)) (stale : ChannelKey) :
    ∃ other, channelGetKeyIn slots primaryIndex depth index stale = some (.ok (), other) ∧
      other.Holds (referenceKey slots primaryIndex index) := by
  have first := channelGetKeyIn_same fits primaryIndex depth index key
  have second := channelGetKeyIn_same fits primaryIndex depth index stale
  rw [found] at first
  cases looked : channelGetKeyWithin slots primaryIndex depth index with
  | none =>
    rw [looked] at first
    exact False.elim first
  | some answer =>
    cases answer with
    | error err =>
      rw [looked] at first
      exact False.elim first
    | ok bytes =>
      rw [looked] at second
      have reference : bytes = referenceKey slots primaryIndex index :=
        (channelGetKeyWithin_ok looked).trans (expandPsk_eq (keySource_fits fits primaryIndex index))
      rw [← reference]
      match result : channelGetKeyIn slots primaryIndex depth index stale with
      | none =>
        rw [result] at second
        exact False.elim second
      | some (.error err, other) =>
        rw [result] at second
        exact False.elim second
      | some (.ok (), other) =>
        rw [result] at second
        exact ⟨other, rfl, second⟩

end

theorem decryptMeshEncryptedKey_admits (codec : Codec) (from_ id : UInt32) {enc key : Octets} (given : enc.length ≠ 0)
    (short : enc.length ≤ PAYLOAD_MAX) (sizes : key.length = 0 ∨ key.length = 16 ∨ key.length = 32) :
    decryptMeshEncryptedKey codec from_ id enc key ≠ .error .einval := by
  have guard : ¬(key.length ≠ 0 ∧ key.length ≠ 16 ∧ key.length ≠ 32) := by omega
  have crypts : key.length ≠ 0 → key.length = 16 ∨ key.length = 24 ∨ key.length = 32 := by omega
  unfold decryptMeshEncryptedKey ctrCrypt
  rw [if_neg given, if_neg (Nat.not_lt.mpr short), if_neg guard]
  split
  · rename_i err failed
    split_ifs at failed with clear fits
    exact False.elim (fits (crypts clear))
  · split
    · nofun
    · split_ifs <;> nofun

/-- A lookup that succeeds leaves the reference key in the buffer, of a length the decryption takes, and
the hash is that of the name and of the key without its padding, whatever the buffers held before. -/
theorem channel_key_normalised (slots : Slots) (primaryIndex index : SlotIndex) (depth : Nat)
    (key result : ChannelKey) (fits : PskFits slots)
    (found : channelGetKeyIn slots primaryIndex depth index key = some (.ok (), result)) :
    (result.len = 0 ∨ result.len = 16 ∨ result.len = 32) ∧
    result.len = (referenceKey slots primaryIndex index).length ∧
    result.used = referenceKey slots primaryIndex index ∧
    (∀ (codec : Codec) (from_ id : UInt32) (enc : Octets), enc.length ≠ 0 → enc.length ≤ PAYLOAD_MAX →
      decryptMeshEncryptedKey codec from_ id enc result.used ≠ .error .einval) ∧
    ∀ stale, channelGenerateHashIn slots primaryIndex depth index stale =
      some (xorAll (channelsGetName slots index).bytes ^^^
        xorAll (effectiveKey (keySource slots primaryIndex index).settings.psk)) := by
  obtain ⟨other, again, holds⟩ := channelGetKeyIn_holds fits found key
  cases found.symm.trans again
  have sizes : (referenceKey slots primaryIndex index).length = 0 ∨
      (referenceKey slots primaryIndex index).length = 16 ∨ (referenceKey slots primaryIndex index).length = 32 :=
    padToAes_length (effectiveKey_length_le (keySource_fits fits primaryIndex index))
  refine ⟨holds.1 ▸ sizes, holds.1, holds.used, ?_, ?_⟩
  · intro codec from_ id enc given short
    rw [holds.used]
    exact decryptMeshEncryptedKey_admits codec from_ id given short sizes
  · intro stale
    obtain ⟨left, looked, holds⟩ := channelGetKeyIn_holds fits found stale
    simp only [channelGenerateHashIn, looked, holds.used]
    have hidden : xorAll (effectiveKey (keySource slots primaryIndex index).settings.psk) =
        xorAll (referenceKey slots primaryIndex index) := (xorAll_padToAes _).symm
    rw [hidden, holds.1]
    split_ifs with empty
    · rw [List.eq_nil_of_length_eq_zero empty]
      exact congrArg some (UInt8.xor_zero).symm
    · rfl

def fourBytePrimary : Slots :=
  Function.update (fun _ => openSecondary) 0
    { hasSettings := true, role := .primary, settings := { psk := [1, 2, 3, 4] } }

def dirtyKey : ChannelKey := ⟨List.replicate 32 0xff, List.length_replicate, 32⟩

theorem channel_key_normalised_inherited :
    ∃ result, channelGetKeyIn fourBytePrimary 0 2 1 dirtyKey = some (.ok (), result) ∧
      result.used = [1, 2, 3, 4, 0, 0, 0, 0, 0, 0, 0, 0, 0, 0, 0, 0] := by
  refine ⟨_, rfl, ?_⟩
  have reference := (channel_key_normalised fourBytePrimary 0 1 2 dirtyKey _ (by decide) rfl).2.2.1
  exact reference.trans (by decide)

end Meshtastic
