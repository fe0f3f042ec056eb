/-
**Numbers in little-endian order.**

`littleEndian width number` writes the low `width` bytes of a number, the lowest first, and
`ofLittleEndian` reads them back. Writing what was read gives the bytes
(`littleEndian_ofLittleEndian`).
-/

import FlatVolume.Bytes.Field

namespace FlatVolume

/-- The low `width` bytes of a number, the lowest first. -/
def littleEndian : (width number : Nat) → Bytes
  | 0, _ => []
  | width + 1, number => UInt8.ofNat number :: littleEndian width (number / 256)

/-- The number whose bytes are given, the lowest first. -/
def ofLittleEndian : Bytes → Nat
  | [] => 0
  | byte :: rest => byte.toNat + 256 * ofLittleEndian rest

@[simp] theorem length_littleEndian (width number : Nat) :
    (littleEndian width number).length = width := by
  induction width generalizing number with
  | zero => rfl
  | succ width hypothesis => simp [littleEndian, hypothesis]

/-- Writing back gives the bytes that were read. -/
theorem littleEndian_ofLittleEndian (bytes : Bytes) :
    littleEndian bytes.length (ofLittleEndian bytes) = bytes := by
  induction bytes with
  | nil => rfl
  | cons byte rest hypothesis =>
    have small := byte.toNat_lt
    have low : UInt8.ofNat (byte.toNat + 256 * ofLittleEndian rest) = byte := by
      apply UInt8.toNat_inj.mp
      rw [UInt8.toNat_ofNat']
      omega
    have high : (byte.toNat + 256 * ofLittleEndian rest) / 256 = ofLittleEndian rest := by omega
    simp only [List.length_cons, littleEndian, ofLittleEndian, low, high, hypothesis]

end FlatVolume
