import Microgrid.Puf.Ecc

/-!
# Bit arrays in allocated memory

`bit_array.c` as it is written: `malloc` leaves anything in the buffer, an operation sets or
clears one bit of one byte, and the length in bits says how far the buffer counts. `BitArray`
has the bits alone. Each operation on the buffer fails its assertion where the one on the bits
does, and otherwise leaves a buffer that stores its result, so what was in the memory is never
read: not by the operations, nor by the four loops of `ecc.c` that fill such an array.
-/

namespace Microgrid.Puf

/-- `SET_BIT`. -/
def setBit (val : UInt8) (bit : Nat) : UInt8 := val ||| 1 <<< UInt8.ofNat bit

/-- `CLEAR_BIT`. -/
def clearBit (val : UInt8) (bit : Nat) : UInt8 := val &&& ~~~(1 <<< UInt8.ofNat bit)

/-- The struct `BitArray` of the source. -/
structure BitBuffer where
  data : Bytes
  bitLen : Nat
  len : Nat

/-- What `malloc` returns, by size. -/
structure Malloc where
  content : Nat → Bytes
  size : ∀ len, (content len).length = len

namespace BitBuffer

/-- `bitArray_init`. -/
def init (malloc : Malloc) (len : Nat) : BitBuffer := ⟨malloc.content len, 0, len⟩

/-- `bitArray_get`; `none` is the failed assertion, here and below. -/
def get (arr : BitBuffer) (bitNum : Nat) : Option Bool := do
  guard (bitNum < arr.bitLen)
  return getBit (arr.data.getD (bitNum / 8) 0) (bitNum % 8)

/-- `bitArray_set`. -/
def set (arr : BitBuffer) (bitNum : Nat) (bit : Bool) : Option BitBuffer := do
  guard (bitNum < arr.bitLen)
  let byteNum := bitNum / 8
  let bitInByte := bitNum % 8
  let byte := arr.data.getD byteNum 0
  return { arr with
    data := arr.data.set byteNum (if bit then setBit byte bitInByte else clearBit byte bitInByte) }

/-- `bitArray_append`. -/
def append (arr : BitBuffer) (bit : Bool) : Option BitBuffer := do
  guard (arr.len * 8 > arr.bitLen)
  let arr := { arr with bitLen := arr.bitLen + 1 }
  arr.set (arr.bitLen - 1) bit

/-- `bitArray_remove`. -/
def remove (arr : BitBuffer) : Option BitBuffer := do
  guard (arr.bitLen > 0)
  return { arr with bitLen := arr.bitLen - 1 }

/-- `bitArray_getBytes`. -/
def getBytes (arr : BitBuffer) : Nat := arr.bitLen / 8

/-- `bitArray_copyData`: the buffer afterwards, and the number of bytes written to it. -/
def copyData (arr : BitBuffer) (buffer : Bytes) : Option (Bytes × Nat) := do
  let validBytes := arr.getBytes
  guard (buffer.length ≥ validBytes)
  return (arr.data.take validBytes ++ buffer.drop validBytes, validBytes)

end BitBuffer

/-- An operation that changes an array. -/
inductive BitOperation where
  | append (bit : Bool)
  | set (bitNum : Nat) (bit : Bool)
  | remove

/-- The operation on a buffer. -/
def BitBuffer.apply (arr : BitBuffer) : BitOperation → Option BitBuffer
  | .append bit => arr.append bit
  | .set bitNum bit => arr.set bitNum bit
  | .remove => arr.remove

/-- The operation on the bits. -/
def BitArray.apply (arr : BitArray) : BitOperation → Option BitArray
  | .append bit => arr.append bit
  | .set bitNum bit =>
    if bitNum < arr.bits.length then
      some ⟨arr.bits.set bitNum bit, arr.len, by rw [List.length_set]; exact arr.fits⟩
    else none
  | .remove =>
    if 0 < arr.bits.length then
      some ⟨arr.bits.dropLast, arr.len, by
        rw [List.length_dropLast]; exact (Nat.sub_le _ _).trans arr.fits⟩
    else none

/-! ### One operation -/

/-- The bits of a single one, and of its complement. -/
theorem getBit_one : ∀ bit < 8, ∀ place < 8,
    getBit (1 <<< UInt8.ofNat bit) place = decide (place = bit) ∧
      getBit (~~~(1 <<< UInt8.ofNat bit)) place = !decide (place = bit) := by
  decide +kernel

/-- `SET_BIT` and `CLEAR_BIT` write one bit and keep the others. -/
theorem getBit_written (val : UInt8) (bit : Bool) {bitInByte place : Nat} (written : bitInByte < 8)
    (read : place < 8) :
    getBit (if bit then setBit val bitInByte else clearBit val bitInByte) place =
      if place = bitInByte then bit else getBit val place := by
  obtain ⟨one, complement⟩ := getBit_one bitInByte written place read
  cases bit with
  | true =>
    rw [if_pos rfl, setBit, getBit, UInt8.toNat_or, Nat.testBit_or, ← getBit, ← getBit, one]
    by_cases same : place = bitInByte
    · simp [same]
    · simp [same]
  | false =>
    rw [if_neg Bool.false_ne_true, clearBit, getBit, UInt8.toNat_and, Nat.testBit_and, ← getBit,
      ← getBit, complement]
    by_cases same : place = bitInByte
    · simp [same]
    · simp [same]

/-- Writing one bit of a stored byte changes that bit of the array only. -/
theorem arrayGetBit_written (data : Bytes) (bit : Bool) {bitNum : Nat}
    (stored : bitNum / 8 < data.length) (other : Nat) :
    arrayGetBit (data.set (bitNum / 8) (if bit then setBit (data.getD (bitNum / 8) 0) (bitNum % 8)
      else clearBit (data.getD (bitNum / 8) 0) (bitNum % 8))) other =
      if other = bitNum then bit else arrayGetBit data other := by
  have place : ∀ num : Nat, num % 8 < 8 := fun num => Nat.mod_lt num (by decide)
  by_cases sameByte : other / 8 = bitNum / 8
  · have sameBit : other % 8 = bitNum % 8 ↔ other = bitNum := by omega
    rw [arrayGetBit, sameByte, List.getD_eq_getElem?_getD, List.getElem?_set_self stored,
      Option.getD_some, getBit_written _ _ (place bitNum) (place other), arrayGetBit, sameByte]
    simp only [sameBit]
  · have distinct : other ≠ bitNum := by
      rintro rfl
      exact sameByte rfl
    rw [arrayGetBit, List.getD_eq_getElem?_getD, List.getElem?_set_ne (Ne.symm sameByte),
      ← List.getD_eq_getElem?_getD, ← arrayGetBit, if_neg distinct]

/-- The buffer stores the bits. -/
structure Stores (buffer : BitBuffer) (arr : BitArray) : Prop where
  size : buffer.data.length = buffer.len
  len : buffer.len = arr.len
  bitLen : buffer.bitLen = arr.bits.length
  bits : ∀ bitNum < arr.bits.length, arrayGetBit buffer.data bitNum = arr.bits.getD bitNum false

/-- A new array stores nothing, whatever is in the memory. -/
theorem stores_init (malloc : Malloc) (len : Nat) :
    Stores (.init malloc len) (.init len) where
  size := malloc.size len
  len := rfl
  bitLen := rfl
  bits := fun _ inside => absurd inside (Nat.not_lt_zero _)

/-- Where a bit is stored, there is a byte. -/
theorem Stores.stored {buffer : BitBuffer} {arr : BitArray} (stores : Stores buffer arr)
    {bitNum : Nat} (inside : bitNum < arr.len * 8) : bitNum / 8 < buffer.data.length := by
  have size := stores.size
  have len := stores.len
  omega

theorem Stores.set {buffer : BitBuffer} {arr : BitArray} (stores : Stores buffer arr)
    (bitNum : Nat) (bit : Bool) :
    Option.Rel Stores (buffer.set bitNum bit) (arr.apply (.set bitNum bit)) := by
  by_cases inside : bitNum < arr.bits.length
  · have fits := arr.fits
    have stored := stores.stored (show bitNum < arr.len * 8 by omega)
    have within : bitNum < buffer.bitLen := by
      rw [stores.bitLen]
      exact inside
    rw [BitBuffer.set, BitArray.apply, guard, if_pos within, if_pos inside]
    refine .some ⟨?_, stores.len, ?_, ?_⟩
    · exact List.length_set.trans stores.size
    · exact stores.bitLen.trans List.length_set.symm
    · intro other below
      dsimp only at below ⊢
      rw [List.length_set] at below
      rw [arrayGetBit_written buffer.data bit stored other, stores.bits other below]
      by_cases same : other = bitNum
      · rw [if_pos same, same, List.getD_eq_getElem?_getD, List.getElem?_set_self inside,
          Option.getD_some]
      · rw [if_neg same, List.getD_eq_getElem?_getD, List.getD_eq_getElem?_getD,
          List.getElem?_set_ne (Ne.symm same)]
  · have outside : ¬bitNum < buffer.bitLen := by
      rw [stores.bitLen]
      exact inside
    rw [BitBuffer.set, BitArray.apply, guard, if_neg outside, if_neg inside]
    exact .none

theorem Stores.append {buffer : BitBuffer} {arr : BitArray} (stores : Stores buffer arr)
    (bit : Bool) : Option.Rel Stores (buffer.append bit) (arr.append bit) := by
  by_cases room : arr.len * 8 > arr.bits.length
  · have free : buffer.len * 8 > buffer.bitLen := by
      rw [stores.len, stores.bitLen]
      exact room
    have stored := stores.stored room
    rw [BitBuffer.append, BitArray.append, guard, if_pos free, dif_pos room]
    simp only [BitBuffer.set, guard, Option.pure_def, Option.bind_eq_bind, Option.bind_some,
      Nat.add_sub_cancel, Nat.lt_add_one, if_true, stores.bitLen]
    refine .some ⟨?_, stores.len, ?_, ?_⟩
    · exact List.length_set.trans stores.size
    · exact (@List.length_append _ arr.bits [bit]).symm
    · intro other below
      dsimp only at below ⊢
      rw [List.length_append, List.length_singleton] at below
      rw [arrayGetBit_written buffer.data bit stored other]
      by_cases last : other = arr.bits.length
      · rw [if_pos last, last, List.getD_eq_getElem?_getD, List.getElem?_concat_length,
          Option.getD_some]
      · have earlier : other < arr.bits.length := by omega
        rw [if_neg last, stores.bits other earlier, List.getD_append _ _ _ _ earlier]
  · have full : ¬buffer.len * 8 > buffer.bitLen := by
      rw [stores.len, stores.bitLen]
      exact room
    rw [BitBuffer.append, BitArray.append, guard, if_neg full, dif_neg room]
    exact .none

theorem Stores.remove {buffer : BitBuffer} {arr : BitArray} (stores : Stores buffer arr) :
    Option.Rel Stores buffer.remove (arr.apply .remove) := by
  by_cases some : 0 < arr.bits.length
  · have positive : buffer.bitLen > 0 := by
      rw [stores.bitLen]
      exact some
    rw [BitBuffer.remove, BitArray.apply, guard, if_pos positive, if_pos some]
    refine .some ⟨stores.size, stores.len, ?_, ?_⟩
    · exact (congrArg (· - 1) stores.bitLen).trans List.length_dropLast.symm
    · intro other below
      dsimp only at below ⊢
      rw [List.length_dropLast] at below
      rw [stores.bits other (by omega), List.getD_eq_getElem?_getD, List.getD_eq_getElem?_getD,
        List.getElem?_dropLast, if_pos below]
  · have empty : ¬buffer.bitLen > 0 := by
      rw [stores.bitLen]
      exact some
    rw [BitBuffer.remove, BitArray.apply, guard, if_neg empty, if_neg some]
    exact .none

/-- Every operation fails on the buffer where it fails on the bits, and otherwise leaves a
buffer that stores its result. -/
theorem Stores.apply {buffer : BitBuffer} {arr : BitArray} (stores : Stores buffer arr)
    (operation : BitOperation) :
    Option.Rel Stores (buffer.apply operation) (arr.apply operation) := by
  cases operation with
  | append bit => exact stores.append bit
  | set bitNum bit => exact stores.set bitNum bit
  | remove => exact stores.remove

/-! ### What a buffer answers -/

/-- A stored bit is read. -/
theorem Stores.get {buffer : BitBuffer} {arr : BitArray} (stores : Stores buffer arr)
    (bitNum : Nat) : buffer.get bitNum = arr.bits[bitNum]? := by
  by_cases inside : bitNum < arr.bits.length
  · have within : bitNum < buffer.bitLen := by
      rw [stores.bitLen]
      exact inside
    have read := stores.bits bitNum inside
    rw [arrayGetBit, List.getD_eq_getElem?_getD (l := arr.bits),
      List.getElem?_eq_getElem inside, Option.getD_some] at read
    rw [BitBuffer.get, guard, if_pos within, List.getElem?_eq_getElem inside, ← read]
    rfl
  · have outside : ¬bitNum < buffer.bitLen := by
      rw [stores.bitLen]
      exact inside
    rw [BitBuffer.get, guard, if_neg outside, List.getElem?_eq_none (Nat.not_lt.mp inside)]
    rfl

/-- A byte is determined by its bits. -/
theorem byte_ext {left right : UInt8} (same : ∀ place < 8, getBit left place = getBit right place) :
    left = right := by
  refine UInt8.toNat_inj.mp (Nat.eq_of_testBit_eq fun place => ?_)
  by_cases inside : place < 8
  · exact same place inside
  · have beyond : ∀ byte : UInt8, byte.toNat < 2 ^ place := fun byte =>
      byte.toNat_lt.trans_le (Nat.pow_le_pow_right (by decide) (Nat.not_lt.mp inside))
    rw [Nat.testBit_lt_two_pow (beyond left), Nat.testBit_lt_two_pow (beyond right)]

/-- The whole bytes of the buffer are the packed bits. -/
theorem Stores.take {buffer : BitBuffer} {arr : BitArray} (stores : Stores buffer arr) :
    buffer.data.take buffer.getBytes = arr.copyData := by
  have valid : buffer.getBytes = arr.bits.length / 8 := by
    rw [BitBuffer.getBytes, stores.bitLen]
  have fits := arr.fits
  have size := stores.size
  have len := stores.len
  have room : arr.bits.length / 8 ≤ buffer.data.length := by omega
  refine List.ext_getElem ?_ fun index inTaken inPacked => byte_ext fun place inside => ?_
  · rw [valid, List.length_take, BitArray.copyData, packBytes_length, Nat.min_eq_left room]
  · rw [BitArray.copyData, packBytes_length] at inPacked
    have whole : (index * 8 + place) / 8 = index := by omega
    have rest : (index * 8 + place) % 8 = place := by omega
    have inBuffer : index < buffer.data.length := by omega
    have bit := stores.bits (index * 8 + place) (by omega)
    have packed := arrayGetBit_packBytes arr.bits
      (show index * 8 + place < arr.bits.length / 8 * 8 by omega)
    rw [arrayGetBit, whole, rest, List.getD_eq_getElem?_getD] at bit packed
    rw [List.getElem?_eq_getElem inBuffer, Option.getD_some] at bit
    rw [List.getElem?_eq_getElem (by rw [packBytes_length]; exact inPacked), Option.getD_some]
      at packed
    rw [List.getElem_take, bit]
    exact packed.symm

/-- The buffer afterwards has the packed bits at its front. -/
theorem Stores.copyData {buffer : BitBuffer} {arr : BitArray} (stores : Stores buffer arr)
    (out : Bytes) :
    buffer.copyData out =
      if arr.copyData.length ≤ out.length then
        some (arr.copyData ++ out.drop arr.copyData.length, arr.copyData.length)
      else none := by
  have valid : buffer.getBytes = arr.copyData.length := by
    rw [BitBuffer.getBytes, stores.bitLen, BitArray.copyData, packBytes_length]
  rw [BitBuffer.copyData, stores.take, guard, valid]
  by_cases fits : arr.copyData.length ≤ out.length
  · rw [if_pos fits, if_pos fits]
    rfl
  · rw [if_neg fits, if_neg fits]
    rfl

/-! ### Any number of operations -/

/-- Steps that are related step by step are related in sequence. -/
theorem rel_foldlM {α β γ : Type} {related : α → β → Prop} {step : α → γ → Option α}
    {other : β → γ → Option β}
    (follows : ∀ {left right}, related left right → ∀ item,
      Option.Rel related (step left item) (other right item))
    (items : List γ) {left : α} {right : β} (start : related left right) :
    Option.Rel related (items.foldlM step left) (items.foldlM other right) := by
  induction items generalizing left right with
  | nil => exact .some start
  | cons item items inductionHypothesis =>
    rw [List.foldlM_cons, List.foldlM_cons]
    have first := follows start item
    cases taken : step left item with
    | none =>
      cases matched : other right item with
      | none => exact .none
      | some next =>
        rw [taken, matched] at first
        cases first
    | some next =>
      cases matched : other right item with
      | none =>
        rw [taken, matched] at first
        cases first
      | some next' =>
        rw [taken, matched] at first
        cases first with
        | some same => exact inductionHypothesis same

/-- The buffer answers from the bits: bit by bit, by its length in bytes, and with the bytes it
copies out, in front of what was in the target. All of its bits lie in the memory. -/
structure Answers (buffer : BitBuffer) (arr : BitArray) : Prop where
  room : buffer.bitLen ≤ buffer.data.length * 8
  get : ∀ bitNum, buffer.get bitNum = arr.bits[bitNum]?
  getBytes : buffer.getBytes = arr.bits.length / 8
  copyData : ∀ out, buffer.copyData out =
    if arr.copyData.length ≤ out.length then
      some (arr.copyData ++ out.drop arr.copyData.length, arr.copyData.length)
    else none

/-- Whatever `malloc` returns, and whatever is done to an array: an assertion fails exactly if
it does on the bits, and otherwise the buffer answers from the bits. -/
theorem buffer_answers (malloc : Malloc) (len : Nat) (operations : List BitOperation) :
    Option.Rel Answers (operations.foldlM BitBuffer.apply (.init malloc len))
      (operations.foldlM BitArray.apply (.init len)) := by
  have stored := rel_foldlM (fun stores operation => Stores.apply stores operation) operations
    (stores_init malloc len)
  generalize operations.foldlM BitBuffer.apply (.init malloc len) = buffer at stored ⊢
  generalize operations.foldlM BitArray.apply (.init len) = arr at stored ⊢
  cases stored with
  | none => exact .none
  | some stores =>
    refine .some ⟨?_, stores.get, congrArg (· / 8) stores.bitLen, stores.copyData⟩
    rw [stores.bitLen, stores.size, stores.len]
    exact BitArray.fits _

/-! ### The loops of `ecc.c` -/

section Loops

variable (malloc : Malloc)

/-- `create_puf_mask`: the mask afterwards, and `mask_hw`. -/
def createPufMaskIn (pufFreq : List Nat) (mask : Bytes) : Option (Bytes × Nat) := do
  guard (pufFreq.length = mask.length * 8)
  let (arr, maskHw) ← pufFreq.foldlM (fun (arr, maskHw) freq => do
    let bit := stableBit freq
    let maskHw := maskHw + bit.toNat
    let arr ← BitBuffer.append arr bit
    return (arr, maskHw)) (BitBuffer.init malloc mask.length, 0)
  let maskHw := maskHw - maskHw % 64
  let (mask, _) ← arr.copyData mask
  return (mask, maskHw)

/-- `create_puf_reference`. -/
def createPufReferenceIn (pufFreq : List Nat) (pufReference : Bytes) : Option Bytes := do
  guard (pufFreq.length = pufReference.length * 8)
  let arr ← pufFreq.foldlM (fun arr freq => BitBuffer.append arr (referenceBit freq))
    (BitBuffer.init malloc pufReference.length)
  let (pufReference, _) ← arr.copyData pufReference
  return pufReference

/-- The loop of `apply_puf_mask`. -/
def applyLoopIn (maskHw : Nat) (mask pufResponse : Bytes) :
    List Nat → BitBuffer → Nat → Option BitBuffer
  | [], arr, _ => some arr
  | i :: rest, arr, bitCounter =>
    if arrayGetBit mask i then do
      let arr ← arr.append (arrayGetBit pufResponse i)
      let bitCounter := bitCounter + 1
      if bitCounter ≥ maskHw then some arr
      else applyLoopIn maskHw mask pufResponse rest arr bitCounter
    else applyLoopIn maskHw mask pufResponse rest arr bitCounter

/-- `apply_puf_mask`. -/
def applyPufMaskIn (mask : Bytes) (maskHw : Nat) (pufResponse result : Bytes) : Option Bytes := do
  guard (result.length = maskHw / 8)
  let arr ← applyLoopIn maskHw mask pufResponse (List.range (mask.length * 8))
    (BitBuffer.init malloc result.length) 0
  let (result, _) ← arr.copyData result
  return result

/-- `correct_data`. -/
def correctDataIn (maskedData eccData result : Bytes) : Option (Bytes × Nat) := do
  guard (result.length = maskedData.length / 8)
  let (arr, errors) ← (List.range maskedData.length).foldlM (fun (arr, errors) i => do
    let codeWord := maskedData.getD i 0 ^^^ eccData.getD i 0
    let arr ← BitBuffer.append arr (majority codeWord)
    let codeWord := if majority codeWord then ~~~codeWord else codeWord
    return (arr, errors + hwTable.getD codeWord.toNat 0)) (BitBuffer.init malloc result.length, 0)
  let (result, _) ← arr.copyData result
  return (result, errors)

end Loops

/-- Appending one bit for each item while something else is counted. -/
theorem foldlM_counted {σ γ : Type} (append : σ → Bool → Option σ) (bit : γ → Bool)
    (counts : γ → Nat) (items : List γ) (start : σ) (count : Nat) :
    items.foldlM (fun (arr, count) item => do
        let arr ← append arr (bit item)
        return (arr, count + counts item)) (start, count) =
      ((items.map bit).foldlM append start).map fun arr => (arr, count + (items.map counts).sum) := by
  induction items generalizing start count with
  | nil => simp
  | cons item items inductionHypothesis =>
    simp only [List.map_cons, List.foldlM_cons]
    cases append start (bit item) with
    | none => rfl
    | some next =>
      refine (inductionHypothesis next (count + counts item)).trans ?_
      rw [List.sum_cons, Nat.add_assoc]
      rfl

/-- Filling a whole buffer copies just the packed bits, whatever is done with them. -/
theorem filled_copy (malloc : Malloc) (bits : List Bool) {out : Bytes}
    (whole : bits.length / 8 = out.length) {α : Type} (rest : Bytes × Nat → Option α) :
    ((bits.foldlM BitBuffer.append (.init malloc out.length)).bind fun arr =>
        (arr.copyData out).bind rest) =
      (bits.foldlM BitArray.append (.init out.length)).bind fun arr =>
        rest (arr.copyData, out.length) := by
  have stored := rel_foldlM (fun stores bit => Stores.append stores bit) bits
    (stores_init malloc out.length)
  cases filled : bits.foldlM BitArray.append (.init out.length) with
  | none =>
    rw [filled] at stored
    generalize bits.foldlM BitBuffer.append (.init malloc out.length) = buffer at stored ⊢
    cases stored
    rfl
  | some arr =>
    have holds : arr.bits = bits := BitArray.append_bits filled
    have length : arr.copyData.length = out.length := by
      rw [BitArray.copyData, packBytes_length, holds, whole]
    rw [filled] at stored
    generalize bits.foldlM BitBuffer.append (.init malloc out.length) = buffer at stored ⊢
    cases stored with
    | some stores =>
      rw [Option.bind_some, stores.copyData, length, if_pos le_rfl, List.drop_length,
        List.append_nil]
      rfl

/-- Ones are counted by their values. -/
theorem sum_toNat (bits : List Bool) : (bits.map Bool.toNat).sum = bits.count true := by
  induction bits with
  | nil => rfl
  | cons bit bits inductionHypothesis =>
    rw [List.map_cons, List.sum_cons, inductionHypothesis]
    cases bit with
    | false => rw [List.count_cons_of_ne (by decide), Bool.toNat_false, Nat.zero_add]
    | true => rw [List.count_cons_self, Bool.toNat_true, Nat.add_comm]

/-- The loop of `create_puf_mask`. -/
theorem createPufMaskIn_eq (malloc : Malloc) (pufFreq : List Nat) (mask : Bytes) :
    createPufMaskIn malloc pufFreq mask = createPufMask pufFreq mask.length := by
  by_cases size : pufFreq.length = mask.length * 8
  · have whole : (pufFreq.map stableBit).length / 8 = mask.length := by
      rw [List.length_map, size]
      omega
    have counted := foldlM_counted BitBuffer.append stableBit (fun freq => (stableBit freq).toNat)
      pufFreq (.init malloc mask.length) 0
    have ones : (pufFreq.map fun freq => (stableBit freq).toNat).sum =
        (pufFreq.map stableBit).count true := by
      rw [← sum_toNat, List.map_map]
      rfl
    rw [createPufMaskIn, createPufMask, guard, if_pos size]
    dsimp only [Option.bind_eq_bind, Option.pure_def, Option.bind_some] at counted ⊢
    rw [counted, ones, Option.bind_map, Nat.zero_add]
    exact filled_copy malloc _ whole fun copied => some (copied.1,
      (pufFreq.map stableBit).count true - (pufFreq.map stableBit).count true % 64)
  · rw [createPufMaskIn, createPufMask, guard, if_neg size]
    rfl

/-- The loop of `create_puf_reference`. -/
theorem createPufReferenceIn_eq (malloc : Malloc) (pufFreq : List Nat) (pufReference : Bytes) :
    createPufReferenceIn malloc pufFreq pufReference =
      createPufReference pufFreq pufReference.length := by
  by_cases size : pufFreq.length = pufReference.length * 8
  · have whole : (pufFreq.map referenceBit).length / 8 = pufReference.length := by
      rw [List.length_map, size]
      omega
    rw [createPufReferenceIn, createPufReference, guard, if_pos size]
    dsimp only [Option.bind_eq_bind, Option.pure_def, Option.bind_some]
    rw [← List.foldlM_map]
    exact filled_copy malloc _ whole fun copied => some copied.1
  · rw [createPufReferenceIn, createPufReference, guard, if_neg size]
    rfl

/-- Reading two arrays by index reads them side by side. -/
theorem range_getD_xor {left right : Bytes} (same : left.length = right.length) :
    (List.range left.length).map (fun i => left.getD i 0 ^^^ right.getD i 0) =
      List.zipWith (· ^^^ ·) left right := by
  refine List.ext_getElem ?_ fun i inRange inBoth => ?_
  · rw [List.length_map, List.length_range, List.length_zipWith, same, Nat.min_self]
  · rw [List.length_map, List.length_range] at inRange
    rw [List.getElem_map, List.getElem_range, List.getElem_zipWith,
      List.getD_eq_getElem _ _ inRange, List.getD_eq_getElem _ _ (same ▸ inRange)]

/-- The loop of `correct_data`. -/
theorem correctDataIn_eq (malloc : Malloc) {maskedData eccData : Bytes}
    (same : maskedData.length = eccData.length) (result : Bytes) :
    correctDataIn malloc maskedData eccData result =
      correctData maskedData eccData result.length := by
  by_cases size : result.length = maskedData.length / 8
  · have read := range_getD_xor same
    set codeWords := List.zipWith (· ^^^ ·) maskedData eccData with codeWordsNamed
    have whole : (codeWords.map majority).length / 8 = result.length := by
      rw [List.length_map, codeWordsNamed, List.length_zipWith, same, Nat.min_self, size, same]
    have counted := foldlM_counted BitBuffer.append majority (fun codeWord =>
      hwTable.getD (if majority codeWord then ~~~codeWord else codeWord).toNat 0) codeWords
      (.init malloc result.length) 0
    rw [← read, List.foldlM_map, read] at counted
    rw [correctDataIn, correctData, guard, if_pos size]
    dsimp only [Option.bind_eq_bind, Option.pure_def, Option.bind_some] at counted ⊢
    rw [counted, Option.bind_map, Nat.zero_add, hammingWeight, List.map_map]
    exact filled_copy malloc _ whole fun copied => some (copied.1, (codeWords.map fun codeWord =>
      hwTable.getD (if majority codeWord then ~~~codeWord else codeWord).toNat 0).sum)
  · rw [correctDataIn, correctData, guard, if_neg size]
    rfl

/-- Appending keeps the size of the buffer. -/
theorem append_len {arr result : BitArray} {bit : Bool} (appended : arr.append bit = some result) :
    result.len = arr.len := by
  rw [BitArray.append] at appended
  split at appended
  · rw [← Option.some.inj appended]
  · cases appended

/-- So does the loop of `apply_puf_mask`. -/
theorem applyLoop_len {maskHw : Nat} {pairs : List (Bool × Bool)} {arr result : BitArray}
    {counter : Nat} (finished : applyLoop maskHw pairs arr counter = some result) :
    result.len = arr.len := by
  induction pairs generalizing arr counter with
  | nil => rw [← Option.some.inj finished]
  | cons pair pairs inductionHypothesis =>
    obtain ⟨marked, bit⟩ := pair
    cases marked with
    | false => exact inductionHypothesis finished
    | true =>
      rw [applyLoop] at finished
      obtain ⟨next, appended, rest⟩ := Option.bind_eq_some_iff.mp finished
      rw [← append_len appended]
      split at rest
      · rw [← Option.some.inj rest]
      · exact inductionHypothesis rest

/-- The loop of `apply_puf_mask` on a buffer, place by place. -/
theorem applyLoopIn_stores (maskHw : Nat) (mask pufResponse : Bytes) (places : List Nat)
    {buffer : BitBuffer} {arr : BitArray} (stores : Stores buffer arr) (counter : Nat) :
    Option.Rel Stores (applyLoopIn maskHw mask pufResponse places buffer counter)
      (applyLoop maskHw (places.map fun i => (arrayGetBit mask i, arrayGetBit pufResponse i)) arr
        counter) := by
  induction places generalizing buffer arr counter with
  | nil => exact .some stores
  | cons i places inductionHypothesis =>
    rw [applyLoopIn, List.map_cons]
    cases marked : arrayGetBit mask i with
    | false => exact inductionHypothesis stores counter
    | true =>
      have appended := stores.append (arrayGetBit pufResponse i)
      rw [if_pos rfl, applyLoop]
      generalize buffer.append (arrayGetBit pufResponse i) = next at appended ⊢
      generalize arr.append (arrayGetBit pufResponse i) = next' at appended ⊢
      cases appended with
      | none => exact .none
      | some stored =>
        dsimp only [Option.bind_eq_bind, Option.bind_some]
        split
        · exact .some stored
        · exact inductionHypothesis stored (counter + 1)

/-- The loop of `apply_puf_mask`. What the mask does not fill stays as it was in the target. -/
theorem applyPufMaskIn_eq (malloc : Malloc) {mask pufResponse : Bytes}
    (same : mask.length = pufResponse.length) (maskHw : Nat) (result : Bytes) :
    applyPufMaskIn malloc mask maskHw pufResponse result =
      (applyPufMask mask maskHw pufResponse result.length).map fun selected =>
        selected ++ result.drop selected.length := by
  by_cases size : result.length = maskHw / 8
  · have read : (List.range (mask.length * 8)).map (fun i =>
        (arrayGetBit mask i, arrayGetBit pufResponse i)) =
          (readBits mask).zip (readBits pufResponse) := by
      rw [readBits, readBits, ← same, List.zip_map']
    have stored := applyLoopIn_stores maskHw mask pufResponse (List.range (mask.length * 8))
      (stores_init malloc result.length) 0
    rw [read] at stored
    rw [applyPufMaskIn, applyPufMask, guard, if_pos size]
    dsimp only [Option.bind_eq_bind, Option.pure_def, Option.bind_some]
    cases finished : applyLoop maskHw ((readBits mask).zip (readBits pufResponse))
        (BitArray.init result.length) 0 with
    | none =>
      rw [finished] at stored
      generalize applyLoopIn maskHw mask pufResponse (List.range (mask.length * 8))
        (.init malloc result.length) 0 = buffer at stored ⊢
      cases stored
      rfl
    | some arr =>
      have len : arr.len = result.length := applyLoop_len finished
      have fits : arr.copyData.length ≤ result.length := by
        have bound := arr.fits
        rw [BitArray.copyData, packBytes_length]
        omega
      rw [finished] at stored
      generalize applyLoopIn maskHw mask pufResponse (List.range (mask.length * 8))
        (.init malloc result.length) 0 = buffer at stored ⊢
      cases stored with
      | some stores =>
        rw [Option.bind_some, stores.copyData, if_pos fits]
        rfl
  · rw [applyPufMaskIn, applyPufMask, guard, if_neg size]
    rfl

/-- The four functions over allocated memory, against what they compute on bits. -/
structure LoopsAgree (malloc : Malloc) : Prop where
  createPufMask : ∀ pufFreq mask,
    createPufMaskIn malloc pufFreq mask = createPufMask pufFreq mask.length
  createPufReference : ∀ pufFreq pufReference,
    createPufReferenceIn malloc pufFreq pufReference =
      createPufReference pufFreq pufReference.length
  applyPufMask : ∀ mask maskHw pufResponse result, mask.length = pufResponse.length →
    applyPufMaskIn malloc mask maskHw pufResponse result =
      (applyPufMask mask maskHw pufResponse result.length).map fun selected =>
        selected ++ result.drop selected.length
  correctData : ∀ maskedData eccData result, maskedData.length = eccData.length →
    correctDataIn malloc maskedData eccData result = correctData maskedData eccData result.length

/-- Whatever `malloc` leaves in the memory, the four functions fail where those on bits do, and
write what those compute. -/
theorem loops_agree (malloc : Malloc) : LoopsAgree malloc where
  createPufMask := createPufMaskIn_eq malloc
  createPufReference := createPufReferenceIn_eq malloc
  applyPufMask := fun _ maskHw _ result same => applyPufMaskIn_eq malloc same maskHw result
  correctData := fun _ _ result same => correctDataIn_eq malloc same result

end Microgrid.Puf
