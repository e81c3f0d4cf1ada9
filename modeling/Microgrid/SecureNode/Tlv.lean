import Mathlib.Algebra.Order.BigOperators.Group.List
import Mathlib.Tactic.Ring
import Microgrid.Foundation.PythonValues
import Microgrid.Wire.HexText

/-!
# Length-prefixed fields

The records that the secure-node protocol hashes and encrypts are lists of byte strings,
each behind a two-byte big-endian length. `struct.pack` raises for a value that does not
fit its width, so packing is partial; parsing answers `None` where the data end early.
-/

namespace Microgrid.SecureNode

open PythonValues

/-- The `width` low bytes of a number, most significant first. -/
def bigEndian : ℕ → ℕ → Bytes
  | 0, _ => []
  | width + 1, value => bigEndian width (value / 256) ++ [UInt8.ofNat value]

/-- The number a byte string spells, most significant byte first. -/
def fromBigEndian (data : Bytes) : ℕ := data.foldl (fun total byte => total * 256 + byte.toNat) 0

/-- `struct.pack` of one unsigned number: width 2 for `>H`, 4 for `>I`, 8 for `>Q`. -/
def structPack (width value : ℕ) : Except PyException Bytes :=
  if value < 256 ^ width then .ok (bigEndian width value) else .error .struct

/-- `struct.unpack` of one unsigned number. -/
def structUnpack (width : ℕ) (data : Bytes) : Except PyException ℕ :=
  if data.length = width then .ok (fromBigEndian data) else .error .struct

/-- The joined fields, each with its length in front. -/
def packFields : List Bytes → Except PyException Bytes
  | [] => .ok []
  | part :: parts => do
    let length ← structPack 2 part.length
    let rest ← packFields parts
    pure (length ++ part ++ rest)

/-- `_make_reg_reg`. -/
def makeRegReg (smgReg tsB : Bytes) (mNum : ℕ) (idA idB sesId : Bytes) :
    Except PyException Bytes := do
  let mB ← structPack 4 mNum
  packFields [smgReg, tsB, mB, idA, idB, sesId]

/-- `_parse_tlv`, on what is left of `data` at the current position. -/
def parseTlv : ℕ → Bytes → Option (List Bytes)
  | 0, _ => some []
  | nFields + 1, data =>
    if data.length < 2 then none
    else
      let ln := fromBigEndian (data.take 2)
      let rest := data.drop 2
      if rest.length < ln then none
      else (parseTlv nFields (rest.drop ln)).map (rest.take ln :: ·)

@[simp] theorem bigEndian_length (width value : ℕ) : (bigEndian width value).length = width := by
  induction width generalizing value with
  | zero => rfl
  | succ width inductionHypothesis =>
    rw [bigEndian, List.length_append, inductionHypothesis, List.length_singleton]

/-- The written bytes spell the number, cut off at their width. -/
theorem fromBigEndian_bigEndian (width value : ℕ) :
    fromBigEndian (bigEndian width value) = value % 256 ^ width := by
  induction width generalizing value with
  | zero => rw [pow_zero, Nat.mod_one]; rfl
  | succ width inductionHypothesis =>
    have last : (UInt8.ofNat value).toNat = value % 256 := UInt8.toNat_ofNat'
    have front := inductionHypothesis (value / 256)
    unfold fromBigEndian at front
    rw [fromBigEndian, bigEndian, List.foldl_append, front, List.foldl_cons, List.foldl_nil, last,
      pow_succ', Nat.mod_mul, mul_comm, add_comm]

/-- What was packed fits its width. -/
theorem structPack_ok {width value : ℕ} {data : Bytes} (packed : structPack width value = .ok data) :
    value < 256 ^ width ∧ data = bigEndian width value := by
  rw [structPack] at packed
  split at packed
  · next fits => exact ⟨fits, (Except.ok.inj packed).symm⟩
  · cases packed

/-- What was packed unpacks to itself. -/
theorem structUnpack_structPack {width value : ℕ} {data : Bytes}
    (packed : structPack width value = .ok data) : structUnpack width data = .ok value := by
  obtain ⟨fits, rfl⟩ := structPack_ok packed
  rw [structUnpack, if_pos (bigEndian_length width value), fromBigEndian_bigEndian,
    Nat.mod_eq_of_lt fits]

/-- Packing raises nothing as long as every field is short enough for its length. -/
theorem packFields_ok (parts : List Bytes) (short : ∀ part ∈ parts, part.length < 256 ^ 2) :
    ∃ data, packFields parts = .ok data := by
  induction parts with
  | nil => exact ⟨[], rfl⟩
  | cons part parts inductionHypothesis =>
    obtain ⟨rest, packed⟩ :=
      inductionHypothesis fun other member => short other (List.mem_cons_of_mem _ member)
    refine ⟨bigEndian 2 part.length ++ part ++ rest, ?_⟩
    rw [packFields, structPack, if_pos (short part List.mem_cons_self), packed]
    rfl

/-- A record takes two bytes beside each field, and every field is short. -/
theorem packFields_length {parts : List Bytes} {data : Bytes} (packed : packFields parts = .ok data) :
    data.length = (parts.map fun part => part.length + 2).sum ∧
      ∀ part ∈ parts, part.length < 256 ^ 2 := by
  induction parts generalizing data with
  | nil =>
    rw [← Except.ok.inj packed]
    exact ⟨rfl, fun _ member => (List.not_mem_nil member).elim⟩
  | cons part parts inductionHypothesis =>
    obtain ⟨length, header, packed⟩ := bind_ok packed
    obtain ⟨rest, later, packed⟩ := bind_ok packed
    obtain ⟨size, small⟩ := inductionHypothesis later
    obtain ⟨fits, rfl⟩ := structPack_ok header
    constructor
    · rw [← Except.ok.inj packed, List.length_append, List.length_append, bigEndian_length, size,
        List.map_cons, List.sum_cons]
      omega
    · intro other member
      rcases List.mem_cons.mp member with rfl | after
      · exact fits
      · exact small other after

/-- A record of a few fields is far from the limit of the cipher. -/
theorem packFields_short {parts : List Bytes} {data : Bytes} (packed : packFields parts = .ok data)
    (few : parts.length < 2 ^ 14) : data.length < 2 ^ 31 := by
  obtain ⟨size, small⟩ := packFields_length packed
  have bound := List.sum_le_card_nsmul (parts.map fun part => part.length + 2) (2 ^ 16 + 1) (by
    intro width member
    obtain ⟨part, source, rfl⟩ := List.mem_map.mp member
    have short := small part source
    omega)
  rw [← size, List.length_map, Nat.nsmul_eq_mul] at bound
  omega

/-- Parsing returns the fields that were packed, whatever follows them. -/
theorem parseTlv_packFields {parts : List Bytes} {data : Bytes} (packed : packFields parts = .ok data)
    (suffix : Bytes) : parseTlv parts.length (data ++ suffix) = some parts := by
  induction parts generalizing data with
  | nil => rfl
  | cons part parts inductionHypothesis =>
    obtain ⟨prefixBytes, header, packed⟩ := bind_ok packed
    obtain ⟨rest, later, packed⟩ := bind_ok packed
    obtain ⟨fits, rfl⟩ := structPack_ok header
    have joined : data ++ suffix = bigEndian 2 part.length ++ (part ++ (rest ++ suffix)) := by
      rw [← Except.ok.inj packed, List.append_assoc, List.append_assoc]
    have front : (data ++ suffix).take 2 = bigEndian 2 part.length := by
      rw [joined, List.take_left' (bigEndian_length 2 _)]
    have body : (data ++ suffix).drop 2 = part ++ (rest ++ suffix) := by
      rw [joined, List.drop_left' (bigEndian_length 2 _)]
    have length : fromBigEndian ((data ++ suffix).take 2) = part.length := by
      rw [front, fromBigEndian_bigEndian, Nat.mod_eq_of_lt fits]
    have enough : ¬(data ++ suffix).length < 2 := by
      rw [joined, List.length_append, bigEndian_length]
      omega
    rw [List.length_cons, parseTlv, if_neg enough]
    simp only [length, body]
    rw [if_neg (by rw [List.length_append]; omega), List.drop_left, List.take_left,
      inductionHypothesis later]
    rfl

end Microgrid.SecureNode
