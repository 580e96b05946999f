import Meshtastic.Lib.Bytes

/-! The protobuf wire format: base-128 varints and sequences of numbered fields with
varint, 32-bit, 64-bit and length-delimited values. -/

namespace Protobuf
open Bytes

def encodeVarint : (groups : Nat) → Nat → Octets
  | 0, _ => []
  | groups + 1, value =>
    if value < 128 then [UInt8.ofNat value]
    else UInt8.ofNat (value % 128 + 128) :: encodeVarint groups (value / 128)

def decodeVarint : (groups : Nat) → Octets → Option (Nat × Octets)
  | 0, _ => none
  | _ + 1, [] => none
  | groups + 1, octet :: rest =>
    if octet.toNat < 128 then some (octet.toNat, rest)
    else (decodeVarint groups rest).map (fun (high, rest) => (octet.toNat - 128 + 128 * high, rest))

private theorem decodeVarint_last {groups value : Nat} (small : value < 128) (rest : Octets) :
    decodeVarint (groups + 1) (encodeVarint (groups + 1) value ++ rest) = some (value, rest) := by
  have octet : (UInt8.ofNat value).toNat = value := by
    simp only [UInt8.toNat_ofNat']
    omega
  rw [encodeVarint, if_pos small, List.singleton_append, decodeVarint, octet, if_pos small]

theorem decodeVarint_encodeVarint (groups value : Nat) (rest : Octets) (bound : value < 128 ^ (groups + 1)) :
    decodeVarint (groups + 1) (encodeVarint (groups + 1) value ++ rest) = some (value, rest) := by
  induction groups generalizing value with
  | zero => exact decodeVarint_last (by omega) rest
  | succ groups ih =>
    by_cases small : value < 128
    · exact decodeVarint_last small rest
    · have octet : (UInt8.ofNat (value % 128 + 128)).toNat = value % 128 + 128 := by
        simp only [UInt8.toNat_ofNat']
        omega
      have high : value / 128 < 128 ^ (groups + 1) := by
        rw [Nat.pow_succ] at bound
        omega
      rw [encodeVarint, if_neg small, List.cons_append, decodeVarint, octet, if_neg (by omega), ih _ high]
      simp only [Option.map_some, Option.some.injEq, Prod.mk.injEq, and_true]
      omega

def varintGroups : Nat := 10

theorem decodeVarint_wide {value : Nat} (bound : value < 2 ^ 64) (rest : Octets) :
    decodeVarint varintGroups (encodeVarint varintGroups value ++ rest) = some (value, rest) := by
  have wide : 2 ^ 64 < 128 ^ (9 + 1) := by decide
  exact decodeVarint_encodeVarint 9 value rest (by omega)

inductive WireValue where
  | varint (value : Nat)
  | fixed32 (word : UInt32)
  | fixed64 (low high : UInt32)
  | bytes (octets : Octets)
  deriving DecidableEq

structure Field where
  number : Nat
  value : WireValue
  deriving DecidableEq

/-- What fits in the encoding: 29-bit numbers, 64-bit varints, 31-bit lengths. -/
def Field.Fits (field : Field) : Prop :=
  field.number < 2 ^ 29 ∧
  match field.value with
  | .varint value => value < 2 ^ 64
  | .fixed32 _ => True
  | .fixed64 _ _ => True
  | .bytes octets => octets.length < 2 ^ 31

def WireValue.wireType : WireValue → Nat
  | .varint _ => 0
  | .fixed32 _ => 5
  | .fixed64 _ _ => 1
  | .bytes _ => 2

def encodeValue : WireValue → Octets
  | .varint value => encodeVarint varintGroups value
  | .fixed32 word => le32 word
  | .fixed64 low high => le32 low ++ le32 high
  | .bytes octets => encodeVarint varintGroups octets.length ++ octets

def encodeField (field : Field) : Octets :=
  encodeVarint varintGroups (field.number * 8 + field.value.wireType) ++ encodeValue field.value

def decodeValue (wireType : Nat) (octets : Octets) : Option (WireValue × Octets) :=
  if wireType = 0 then
    (decodeVarint varintGroups octets).map (fun (value, rest) => (.varint value, rest))
  else if wireType = 2 then
    (decodeVarint varintGroups octets).bind (fun (length, rest) =>
      if rest.length < length then none else some (.bytes (rest.take length), rest.drop length))
  else if wireType = 5 then
    match octets with
    | b0 :: b1 :: b2 :: b3 :: rest => some (.fixed32 (getLe32 b0 b1 b2 b3), rest)
    | _ => none
  else if wireType = 1 then
    match octets with
    | b0 :: b1 :: b2 :: b3 :: b4 :: b5 :: b6 :: b7 :: rest =>
      some (.fixed64 (getLe32 b0 b1 b2 b3) (getLe32 b4 b5 b6 b7), rest)
    | _ => none
  else none

def decodeField (octets : Octets) : Option (Field × Octets) :=
  (decodeVarint varintGroups octets).bind (fun (key, rest) =>
    (decodeValue (key % 8) rest).map (fun (value, rest) => (⟨key / 8, value⟩, rest)))

def decodeFields : (fuel : Nat) → Octets → Option (List Field)
  | _, [] => some []
  | 0, _ => none
  | fuel + 1, octets =>
    (decodeField octets).bind (fun (field, rest) => (decodeFields fuel rest).map (field :: ·))

def encodeFields (fields : List Field) : Octets := fields.flatMap encodeField

theorem encodeVarint_ne_nil (groups value : Nat) : encodeVarint (groups + 1) value ≠ [] := by
  unfold encodeVarint
  split
  · exact List.cons_ne_nil _ _
  · exact List.cons_ne_nil _ _

theorem encodeField_ne_nil (field : Field) : encodeField field ≠ [] := by
  intro empty
  exact encodeVarint_ne_nil _ _ (List.append_eq_nil_iff.mp empty).1

theorem decodeValue_encodeValue {field : Field} (fits : field.Fits) (rest : Octets) :
    decodeValue field.value.wireType (encodeValue field.value ++ rest) = some (field.value, rest) := by
  obtain ⟨number, value⟩ := field
  cases value with
  | varint value =>
    simp only [decodeValue, WireValue.wireType, encodeValue, if_true]
    rw [decodeVarint_wide fits.2]
    rfl
  | fixed32 word =>
    show some (WireValue.fixed32 (getLe32 _ _ _ _), rest) = some (WireValue.fixed32 word, rest)
    rw [getLe32_le32]
  | fixed64 low high =>
    show some (WireValue.fixed64 (getLe32 _ _ _ _) (getLe32 _ _ _ _), rest) = some (WireValue.fixed64 low high, rest)
    rw [getLe32_le32, getLe32_le32]
  | bytes octets =>
    have length : octets.length < 2 ^ 64 := by
      have short := fits.2
      simp only at short
      omega
    simp only [decodeValue, WireValue.wireType, encodeValue, List.append_assoc, if_true]
    rw [if_neg (by decide), decodeVarint_wide length]
    simp

theorem decodeField_encodeField {field : Field} (fits : field.Fits) (rest : Octets) :
    decodeField (encodeField field ++ rest) = some (field, rest) := by
  have type : field.value.wireType < 8 := by
    unfold WireValue.wireType
    split <;> decide
  have key : field.number * 8 + field.value.wireType < 2 ^ 64 := by
    have number := fits.1
    omega
  have low : (field.number * 8 + field.value.wireType) % 8 = field.value.wireType := by omega
  have high : (field.number * 8 + field.value.wireType) / 8 = field.number := by omega
  rw [decodeField, encodeField, List.append_assoc, decodeVarint_wide key]
  simp only [Option.bind_some, low, high, decodeValue_encodeValue fits, Option.map_some]

theorem decodeFields_encodeFields (fields : List Field) (fits : ∀ field ∈ fields, field.Fits) (fuel : Nat)
    (enough : (encodeFields fields).length ≤ fuel) :
    decodeFields fuel (encodeFields fields) = some fields := by
  induction fields generalizing fuel with
  | nil =>
    unfold encodeFields decodeFields
    rfl
  | cons field rest ih =>
    have split : encodeFields (field :: rest) = encodeField field ++ encodeFields rest := rfl
    have positive := List.length_pos_iff.mpr (encodeField_ne_nil field)
    rw [split, List.length_append] at enough
    cases fuel with
    | zero => omega
    | succ fuel =>
      have step : decodeFields (fuel + 1) (encodeFields (field :: rest)) =
          (decodeField (encodeFields (field :: rest))).bind
            (fun (field, rest) => (decodeFields fuel rest).map (field :: ·)) := by
        rw [decodeFields]
        rw [split]
        intro empty
        exact encodeField_ne_nil field (List.append_eq_nil_iff.mp empty).1
      rw [step, split, decodeField_encodeField (fits field List.mem_cons_self)]
      simp only [Option.bind_some]
      rw [ih (fun other member => fits other (List.mem_cons_of_mem field member)) fuel (by omega)]
      rfl

end Protobuf
