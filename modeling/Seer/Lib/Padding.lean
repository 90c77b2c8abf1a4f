import Mathlib.Data.List.Basic
import Mathlib.Data.UInt

/-!
# Padding to full blocks

PKCS#7 padding for a block of up to 255 bytes: always at least one byte, each of them the
number of bytes added. It can be taken off again, and a list of full blocks whose end looks
like padding is the padding of what stands before it.
-/
namespace Seer.Lib

variable {block : Nat} {data : List UInt8}

/-- How many bytes are added to `size` bytes. -/
def padLength (block size : Nat) : Nat := block - size % block

def pad (block : Nat) (data : List UInt8) : List UInt8 :=
  data ++ List.replicate (padLength block data.length) (UInt8.ofNat (padLength block data.length))

theorem padLength_pos (block : Nat) (positive : 0 < block) (size : Nat) : 0 < padLength block size := by
  have below := Nat.mod_lt size positive
  unfold padLength
  omega

theorem padLength_le (block size : Nat) : padLength block size ≤ block := Nat.sub_le _ _

/-- The number of bytes added fits in a byte. -/
theorem toNat_padLength (block : Nat) (fits : block < 256) (size : Nat) :
    (UInt8.ofNat (padLength block size)).toNat = padLength block size := by
  have small := padLength_le block size
  rw [UInt8.toNat_ofNat']
  exact Nat.mod_eq_of_lt (by omega)

theorem length_pad (block : Nat) (data : List UInt8) :
    (pad block data).length = data.length + padLength block data.length := by
  simp [pad]

theorem length_pad_mod (block : Nat) (positive : 0 < block) (data : List UInt8) :
    (pad block data).length % block = 0 := by
  have below := Nat.mod_lt data.length positive
  have split := Nat.div_add_mod data.length block
  have whole : (pad block data).length = block * (data.length / block + 1) := by
    rw [length_pad, padLength, Nat.mul_add, Nat.mul_one]
    omega
  rw [whole, Nat.mul_mod_right]

/-- The last byte says how many were added. -/
theorem getLast_pad (block : Nat) (positive : 0 < block) (data : List UInt8) :
    (pad block data)[(pad block data).length - 1]? =
      some (UInt8.ofNat (padLength block data.length)) := by
  have added := padLength_pos block positive data.length
  rw [length_pad]
  unfold pad
  rw [List.getElem?_append_right (by omega), List.getElem?_replicate, if_pos (by omega)]

/-- A tail of `count` bytes that all say `count`, after which full blocks end, is the
padding of what stands before it. -/
theorem pad_take {count : Nat} (positive : 0 < count) (fits : count ≤ block)
    (full : data.length % block = 0) (inside : count ≤ data.length)
    (tail : data.drop (data.length - count) = List.replicate count (UInt8.ofNat count)) :
    pad block (data.take (data.length - count)) = data := by
  have size : (data.take (data.length - count)).length = data.length - count := by
    rw [List.length_take]
    omega
  have same : padLength block (data.length - count) = count := by
    obtain ⟨blocks, whole⟩ := Nat.dvd_of_mod_eq_zero full
    -- The last block holds `block - count` bytes of data, none if it is all padding.
    cases blocks with
    | zero => omega
    | succ blocks =>
      have rest : data.length - count = (block - count) + block * blocks := by
        rw [whole, Nat.mul_add, Nat.mul_one]
        omega
      rw [padLength, rest, Nat.add_mul_mod_self_left]
      by_cases all : count = block
      · simp [all]
      · rw [Nat.mod_eq_of_lt (by omega)]
        omega
  rw [pad, size, same, ← tail, List.take_append_drop]

end Seer.Lib
