import Mathlib.Data.List.Basic
import Microgrid.Wire.HexText

/-!
# HMAC and HKDF

The keyed hash of RFC 2104 and the extract-and-expand key derivation of RFC 5869, over an
arbitrary hash function with its block and digest sizes. Output blocks are numbered from
one; block zero is empty.
-/

namespace Microgrid.KeyDerivation

variable (hash : Bytes → Bytes) (blockLen hashLen : ℕ)

/-- The key of a hash block: hashed if it is longer than a block, then filled up with zeros. -/
def blockKey (key : Bytes) : Bytes :=
  let short := if blockLen < key.length then hash key else key
  short ++ List.replicate (blockLen - short.length) 0

/-- HMAC, with the inner padding byte 0x36 and the outer one 0x5C. -/
def hmac (key text : Bytes) : Bytes :=
  let inner := (blockKey hash blockLen key).map (· ^^^ 0x36)
  let outer := (blockKey hash blockLen key).map (· ^^^ 0x5C)
  hash (outer ++ hash (inner ++ text))

/-- HKDF-Extract. A salt that is not provided is a string of zeros. -/
def extract (salt : Option Bytes) (ikm : Bytes) : Bytes :=
  hmac hash blockLen (salt.getD (List.replicate hashLen 0)) ikm

/-- The output blocks T(0), T(1), T(2), … of HKDF-Expand. -/
def block (prk info : Bytes) : ℕ → Bytes
  | 0 => []
  | index + 1 =>
    hmac hash blockLen prk (block prk info index ++ info ++ [UInt8.ofNat (index + 1)])

/-- T(1) up to T(count), one after the other. -/
def blocks (prk info : Bytes) (count : ℕ) : Bytes :=
  (List.range count).flatMap fun index => block hash blockLen prk info (index + 1)

/-- HKDF-Expand: the first octets of as many blocks as are needed. -/
def expand (prk info : Bytes) (length : ℕ) : Bytes :=
  (blocks hash blockLen prk info ((length + hashLen - 1) / hashLen)).take length

/-- HKDF. There are 255 output blocks at most. -/
def hkdf (salt : Option Bytes) (ikm info : Bytes) (length : ℕ) : Option Bytes :=
  if length ≤ 255 * hashLen then
    some (expand hash blockLen hashLen (extract hash blockLen hashLen salt ikm) info length)
  else none

variable {hash blockLen hashLen}

/-- One block more is appended. -/
theorem blocks_succ (prk info : Bytes) (count : ℕ) :
    blocks hash blockLen prk info (count + 1) =
      blocks hash blockLen prk info count ++ block hash blockLen prk info (count + 1) := by
  rw [blocks, List.range_succ, List.flatMap_append]
  simp [blocks]

/-- No salt is the same as an empty one: both keys fill a block with zeros. -/
theorem extract_none (small : hashLen ≤ blockLen) (ikm : Bytes) :
    extract hash blockLen hashLen none ikm = extract hash blockLen hashLen (some []) ikm := by
  have zeros : blockKey hash blockLen (List.replicate hashLen 0) = blockKey hash blockLen [] := by
    have short : ¬blockLen < (List.replicate hashLen (0 : UInt8)).length := by
      rw [List.length_replicate]
      exact not_lt.mpr small
    have empty : ¬blockLen < ([] : Bytes).length := Nat.not_lt_zero _
    rw [blockKey, blockKey, if_neg short, if_neg empty, List.length_replicate, List.nil_append,
      List.length_nil, Nat.sub_zero, List.replicate_append_replicate]
    congr 1
    omega
  simp only [extract, Option.getD_none, Option.getD_some, hmac, zeros]

/-- Fewer blocks are a prefix of more. -/
theorem blocks_start (prk info : Bytes) {few many : ℕ} (fewer : few ≤ many) :
    blocks hash blockLen prk info few <+: blocks hash blockLen prk info many := by
  induction many, fewer using Nat.le_induction with
  | base => exact List.prefix_rfl
  | succ many _ inductionHypothesis =>
    rw [blocks_succ]
    exact inductionHypothesis.trans (List.prefix_append _ _)

/-- Enough blocks for a length. -/
theorem le_blocks (positive : 0 < hashLen) (length : ℕ) :
    length ≤ (length + hashLen - 1) / hashLen * hashLen := by
  have bound := Nat.lt_div_mul_add positive (a := length + hashLen - 1)
  omega

section Lengths

variable (digests : ∀ data, (hash data).length = hashLen)

include digests

theorem block_length (prk info : Bytes) (index : ℕ) :
    (block hash blockLen prk info (index + 1)).length = hashLen := by
  rw [block, hmac]
  exact digests _

theorem blocks_length (prk info : Bytes) (count : ℕ) :
    (blocks hash blockLen prk info count).length = count * hashLen := by
  induction count with
  | zero => simp [blocks]
  | succ count inductionHypothesis =>
    rw [blocks_succ, List.length_append, inductionHypothesis, block_length digests, Nat.succ_mul]

theorem expand_length (positive : 0 < hashLen) (prk info : Bytes) (length : ℕ) :
    (expand hash blockLen hashLen prk info length).length = length := by
  rw [expand, List.length_take, blocks_length digests, Nat.min_eq_left (le_blocks positive length)]

/-- A shorter output is a prefix of a longer one. -/
theorem expand_start (positive : 0 < hashLen) (prk info : Bytes) {short long : ℕ}
    (shorter : short ≤ long) : expand hash blockLen hashLen prk info short <+:
      expand hash blockLen hashLen prk info long := by
  have fewer : (short + hashLen - 1) / hashLen ≤ (long + hashLen - 1) / hashLen :=
    Nat.div_le_div_right (by omega)
  obtain ⟨rest, whole⟩ := @blocks_start hash blockLen prk info _ _ fewer
  have enough : short ≤ (blocks hash blockLen prk info ((short + hashLen - 1) / hashLen)).length := by
    rw [blocks_length digests]
    exact le_blocks positive short
  have same : expand hash blockLen hashLen prk info short =
      (expand hash blockLen hashLen prk info long).take short := by
    rw [expand, expand, List.take_take, Nat.min_eq_left shorter, ← whole,
      List.take_append_of_le_length enough]
  rw [same]
  exact List.take_prefix _ _

end Lengths

end Microgrid.KeyDerivation
