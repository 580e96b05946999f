import Mathlib.Algebra.Ring.Int.Defs
import Mathlib.Algebra.Ring.Nat
import Mathlib.Logic.Function.Basic

/-! Octet strings: little-endian 32-bit words, the XOR of a string of octets, and
XOR with a keystream. -/

namespace Bytes

abbrev Octets := List UInt8

def le32 (word : UInt32) : Octets :=
  [UInt8.ofNat word.toNat, UInt8.ofNat (word.toNat / 2 ^ 8),
    UInt8.ofNat (word.toNat / 2 ^ 16), UInt8.ofNat (word.toNat / 2 ^ 24)]

def getLe32 (b0 b1 b2 b3 : UInt8) : UInt32 :=
  UInt32.ofNat (b0.toNat + 2 ^ 8 * b1.toNat + 2 ^ 16 * b2.toNat + 2 ^ 24 * b3.toNat)

@[simp] theorem le32_length (word : UInt32) : (le32 word).length = 4 := rfl

theorem getLe32_le32 (word : UInt32) :
    getLe32 (UInt8.ofNat word.toNat) (UInt8.ofNat (word.toNat / 2 ^ 8))
      (UInt8.ofNat (word.toNat / 2 ^ 16)) (UInt8.ofNat (word.toNat / 2 ^ 24)) = word := by
  have bound := word.toNat_lt
  apply UInt32.toNat_inj.mp
  simp only [getLe32, UInt32.toNat_ofNat', UInt8.toNat_ofNat']
  omega

theorem le32_getLe32 (b0 b1 b2 b3 : UInt8) : le32 (getLe32 b0 b1 b2 b3) = [b0, b1, b2, b3] := by
  have bounds := And.intro (And.intro b0.toNat_lt b1.toNat_lt) (And.intro b2.toNat_lt b3.toNat_lt)
  simp only [le32, getLe32, List.cons.injEq, and_true, ← UInt8.toNat_inj, UInt32.toNat_ofNat', UInt8.toNat_ofNat']
  omega

theorem le32_injective : Function.Injective le32 := by
  intro word other same
  simp only [le32, List.cons.injEq, and_true] at same
  obtain ⟨b0, b1, b2, b3⟩ := same
  rw [← getLe32_le32 word, ← getLe32_le32 other, b0, b1, b2, b3]

def xorAll (octets : Octets) : UInt8 := octets.foldl (· ^^^ ·) 0

private theorem foldl_xor (octets : Octets) (start : UInt8) :
    octets.foldl (· ^^^ ·) start = start ^^^ xorAll octets := by
  induction octets generalizing start with
  | nil => simp [xorAll]
  | cons head tail ih =>
    simp only [xorAll, List.foldl_cons]
    rw [ih, ih (0 ^^^ head), UInt8.zero_xor, UInt8.xor_assoc]

theorem xorAll_append (first second : Octets) :
    xorAll (first ++ second) = xorAll first ^^^ xorAll second := by
  simp only [xorAll, List.foldl_append]
  exact foldl_xor second _

@[simp] theorem xorAll_zeros (count : Nat) : xorAll (List.replicate count 0) = 0 := by
  induction count with
  | zero => rfl
  | succ count ih =>
    rw [List.replicate_succ', xorAll_append, ih]
    rfl

def xorStream (keystream : Nat → UInt8) (octets : Octets) : Octets :=
  octets.mapIdx (fun i octet => octet ^^^ keystream i)

@[simp] theorem xorStream_length (keystream : Nat → UInt8) (octets : Octets) :
    (xorStream keystream octets).length = octets.length := by
  simp [xorStream]

@[simp] theorem xorStream_xorStream (keystream : Nat → UInt8) (octets : Octets) :
    xorStream keystream (xorStream keystream octets) = octets := by
  apply List.ext_getElem
  · simp
  · intro i _ _
    simp only [xorStream, List.getElem_mapIdx]
    rw [UInt8.xor_assoc, UInt8.xor_self, UInt8.xor_zero]

/-! ## Hexadecimal digits -/

theorem div_eq_of_digit {first second : Nat} (shift : Nat)
    (digit : first / 2 ^ shift % 16 = second / 2 ^ shift % 16)
    (above : first / 2 ^ (shift + 4) = second / 2 ^ (shift + 4)) : first / 2 ^ shift = second / 2 ^ shift := by
  have split (value : Nat) : value / 2 ^ (shift + 4) = value / 2 ^ shift / 16 := by
    rw [Nat.pow_add, Nat.div_div_eq_div_mul]
  rw [split, split] at above
  calc first / 2 ^ shift = 16 * (first / 2 ^ shift / 16) + first / 2 ^ shift % 16 := (Nat.div_add_mod _ 16).symm
    _ = 16 * (second / 2 ^ shift / 16) + second / 2 ^ shift % 16 := by rw [above, digit]
    _ = second / 2 ^ shift := Nat.div_add_mod _ 16

end Bytes
