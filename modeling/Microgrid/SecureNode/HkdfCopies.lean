import Microgrid.Foundation.KeyDerivation
import Microgrid.SecureNode.CryptoUtils

/-!
# The two copies of the key derivation

`crypto_utils.py` and `pc_client.py` each carry their own HKDF over SHA-256, with the padding
and the expansion written as loops. The round counter of the expansion goes into one byte,
and `bytes([256])` raises. Both copies are compared with the derivation of RFC 5869.
-/

namespace Microgrid

open PythonValues

/-- `padded[i] = b` for the bytes `b` in turn, with `i` counting up from `start`. -/
def writeBytes (padded : Bytes) : ℕ → Bytes → Bytes
  | _, [] => padded
  | start, value :: values => writeBytes (padded.set start value) (start + 1) values

namespace CryptoUtils

variable (sha256 : Bytes → Bytes)

/-- `_xor_pad`. -/
def xorPad (key : Bytes) (padByte : UInt8) (blockSize : ℕ) : Bytes :=
  let key := if blockSize < key.length then sha256 key else key
  let padded := writeBytes (List.replicate blockSize 0) 0 (key.map (· ^^^ padByte))
  writeBytes padded key.length (List.replicate (blockSize - key.length) padByte)

/-- `hmac_sha256`, with `_IPAD`, `_OPAD` and `_BLOCK_SIZE`. -/
def hmacSha256 (key msg : Bytes) : Bytes :=
  let ipad := xorPad sha256 key 0x36 64
  let opad := xorPad sha256 key 0x5C 64
  let inner := sha256 (ipad ++ msg)
  sha256 (opad ++ inner)

/-- `hkdf_extract`. -/
def hkdfExtract (salt ikm : Bytes) : Bytes :=
  let salt := if salt = [] then List.replicate 32 0 else salt
  hmacSha256 sha256 salt ikm

/-- The loop of `hkdf_expand`. -/
def hkdfExpandLoop (prk info : Bytes) (length : ℕ) (okm tPrev : Bytes) (counter : ℕ) :
    Except PyException Bytes :=
  if okm.length < length then
    if counter < 256 then
      let tNext := hmacSha256 sha256 prk (tPrev ++ info ++ [UInt8.ofNat counter])
      hkdfExpandLoop prk info length (okm ++ tNext) tNext (counter + 1)
    else .error .value -- from `bytes([counter])`
  else .ok okm
termination_by 256 - counter

/-- `hkdf_expand`. -/
def hkdfExpand (prk info : Bytes) (length : ℕ) : Except PyException Bytes := do
  let okm ← hkdfExpandLoop sha256 prk info length [] [] 1
  pure (okm.take length)

/-- `hkdf`. -/
def hkdf (salt ikm info : Bytes) (length : ℕ) : Except PyException Bytes :=
  let prk := hkdfExtract sha256 salt ikm
  hkdfExpand sha256 prk info length

end CryptoUtils

namespace PcClient

variable (sha256 : Bytes → Bytes)

/-- `_xor_pad`. -/
def xorPad (key : Bytes) (padByte : UInt8) (blockSize : ℕ) : Bytes :=
  let key := if blockSize < key.length then sha256 key else key
  let padded := writeBytes (List.replicate blockSize 0) 0 (key.map (· ^^^ padByte))
  writeBytes padded key.length (List.replicate (blockSize - key.length) padByte)

/-- `hmac_sha256`, with `_IPAD`, `_OPAD` and `_BLOCK_SIZE`. -/
def hmacSha256 (key msg : Bytes) : Bytes :=
  let ipad := xorPad sha256 key 0x36 64
  let opad := xorPad sha256 key 0x5C 64
  let inner := sha256 (ipad ++ msg)
  sha256 (opad ++ inner)

/-- `hkdf_extract`. -/
def hkdfExtract (salt ikm : Bytes) : Bytes :=
  let salt := if salt = [] then List.replicate 32 0 else salt
  hmacSha256 sha256 salt ikm

/-- The loop of `hkdf_expand`. -/
def hkdfExpandLoop (prk info : Bytes) (length : ℕ) (okm tPrev : Bytes) (counter : ℕ) :
    Except PyException Bytes :=
  if okm.length < length then
    if counter < 256 then
      let tNext := hmacSha256 sha256 prk (tPrev ++ info ++ [UInt8.ofNat counter])
      hkdfExpandLoop prk info length (okm ++ tNext) tNext (counter + 1)
    else .error .value -- from `bytes([counter])`
  else .ok okm
termination_by 256 - counter

/-- `hkdf_expand`. -/
def hkdfExpand (prk info : Bytes) (length : ℕ) : Except PyException Bytes := do
  let okm ← hkdfExpandLoop sha256 prk info length [] [] 1
  pure (okm.take length)

/-- `hkdf`. -/
def hkdf (salt ikm info : Bytes) (length : ℕ) : Except PyException Bytes :=
  let prk := hkdfExtract sha256 salt ikm
  hkdfExpand sha256 prk info length

end PcClient

/-- Writing over zeros, from the first of them on. -/
theorem writeBytes_zeros (values : Bytes) : ∀ (before : Bytes) (cells : ℕ),
    values.length ≤ cells → writeBytes (before ++ List.replicate cells 0) before.length values =
      before ++ values ++ List.replicate (cells - values.length) 0 := by
  induction values with
  | nil =>
    intro before cells _
    simp [writeBytes]
  | cons value values inductionHypothesis =>
    intro before cells fits
    rw [List.length_cons] at fits
    obtain ⟨rest, rfl⟩ : ∃ rest, cells = rest + 1 := ⟨cells - 1, by omega⟩
    have written : (before ++ List.replicate (rest + 1) 0).set before.length value =
        (before ++ [value]) ++ List.replicate rest 0 := by
      rw [List.set_append_right _ _ le_rfl, Nat.sub_self, List.replicate_succ, List.set_cons_zero,
        List.append_assoc, List.singleton_append]
    have next := inductionHypothesis (before ++ [value]) rest (Nat.le_of_succ_le_succ fits)
    rw [List.length_append, List.length_singleton] at next
    rw [writeBytes, written, next, List.length_cons, Nat.add_sub_add_right]
    simp

section RFC

open KeyDerivation

variable {sha256 : Bytes → Bytes}

/-- Before its first round the loop has written no block. -/
theorem blocks_zero (prk info : Bytes) : blocks sha256 64 prk info 0 = [] := rfl

/-- The client's loop takes the same rounds. -/
theorem hkdfExpandLoop_copy (prk info : Bytes) (length : ℕ) (okm tPrev : Bytes) (counter : ℕ) :
    PcClient.hkdfExpandLoop sha256 prk info length okm tPrev counter =
      CryptoUtils.hkdfExpandLoop sha256 prk info length okm tPrev counter := by
  induction okm, tPrev, counter using CryptoUtils.hkdfExpandLoop.induct sha256 prk info length with
  | case1 okm tPrev counter short available tNext inductionHypothesis =>
    rw [PcClient.hkdfExpandLoop, CryptoUtils.hkdfExpandLoop, if_pos short, if_pos available,
      if_pos short, if_pos available]
    exact inductionHypothesis
  | case2 okm tPrev counter short exhausted =>
    rw [PcClient.hkdfExpandLoop, CryptoUtils.hkdfExpandLoop, if_pos short, if_neg exhausted,
      if_pos short, if_neg exhausted]
  | case3 okm tPrev counter full =>
    rw [PcClient.hkdfExpandLoop, CryptoUtils.hkdfExpandLoop, if_neg full, if_neg full]

/-- The client's copy derives the same bytes. -/
theorem hkdf_copy (salt ikm info : Bytes) (length : ℕ) :
    PcClient.hkdf sha256 salt ikm info length = CryptoUtils.hkdf sha256 salt ikm info length := by
  simp only [PcClient.hkdf, PcClient.hkdfExpand, hkdfExpandLoop_copy]
  rfl

/-- Without a salt HKDF gives what the empty salt gives. -/
theorem hkdf_no_salt (ikm info : Bytes) (length : ℕ) :
    KeyDerivation.hkdf sha256 64 32 none ikm info length =
      KeyDerivation.hkdf sha256 64 32 (some []) ikm info length := by
  rw [KeyDerivation.hkdf, KeyDerivation.hkdf, extract_none (by norm_num)]

variable (digests : ∀ data, (sha256 data).length = 32)

include digests

/-- The two padding loops fill a block, whatever the length of the key. -/
theorem xorPad_eq (key : Bytes) (padByte : UInt8) :
    CryptoUtils.xorPad sha256 key padByte 64 = (blockKey sha256 64 key).map (· ^^^ padByte) := by
  set short := if 64 < key.length then sha256 key else key with shortNamed
  have fits : short.length ≤ 64 := by
    rw [shortNamed]
    split
    · rw [digests]
      norm_num
    · exact not_lt.mp ‹_›
  have first := writeBytes_zeros (short.map (· ^^^ padByte)) [] 64 (by simpa using fits)
  have second := writeBytes_zeros (List.replicate (64 - short.length) padByte)
    (short.map (· ^^^ padByte)) (64 - short.length) (by simp)
  simp only [List.nil_append, List.length_nil, List.length_map, List.length_replicate,
    Nat.sub_self, List.replicate_zero, List.append_nil] at first second
  simp only [CryptoUtils.xorPad, blockKey, ← shortNamed, first, second]
  simp

/-- `hmac_sha256` is HMAC. -/
theorem hmacSha256_eq (key msg : Bytes) :
    CryptoUtils.hmacSha256 sha256 key msg = hmac sha256 64 key msg := by
  simp only [CryptoUtils.hmacSha256, hmac, xorPad_eq digests]

/-- `hkdf_extract` is HKDF-Extract; an empty salt counts as none. -/
theorem hkdfExtract_eq (salt ikm : Bytes) :
    CryptoUtils.hkdfExtract sha256 salt ikm = extract sha256 64 32 (some salt) ikm := by
  rw [CryptoUtils.hkdfExtract, hmacSha256_eq digests]
  split
  · next empty =>
    rw [empty, ← extract_none (by norm_num)]
    rfl
  · rfl

/-- From the state after `index` rounds, the loop goes on to the last block that is needed,
unless the counter runs out first. -/
theorem hkdfExpandLoop_eq (prk info : Bytes) (length : ℕ) : ∀ rounds index : ℕ,
    index + rounds = 255 → index ≤ (length + 32 - 1) / 32 →
    CryptoUtils.hkdfExpandLoop sha256 prk info length (blocks sha256 64 prk info index)
      (block sha256 64 prk info index) (index + 1) =
    if length ≤ 255 * 32 then .ok (blocks sha256 64 prk info ((length + 32 - 1) / 32))
    else .error .value := by
  intro rounds
  induction rounds with
  | zero =>
    intro index last reached
    rw [CryptoUtils.hkdfExpandLoop, blocks_length digests]
    split
    · rw [if_neg (by omega), if_neg (by omega)]
    · next full =>
      have needed : (length + 32 - 1) / 32 = index := by omega
      rw [if_pos (by omega), needed]
  | succ rounds inductionHypothesis =>
    intro index counted reached
    rw [CryptoUtils.hkdfExpandLoop, blocks_length digests]
    split
    · have next := inductionHypothesis (index + 1) (by omega) (by omega)
      rw [if_pos (by omega)]
      simp only [hmacSha256_eq digests]
      rw [← next, blocks_succ, block]
    · next full =>
      have needed : (length + 32 - 1) / 32 = index := by omega
      rw [if_pos (by omega), needed]

/-- The derivation is HKDF, and raises where HKDF has no output. -/
theorem hkdf_eq (salt ikm info : Bytes) (length : ℕ) :
    CryptoUtils.hkdf sha256 salt ikm info length =
      (KeyDerivation.hkdf sha256 64 32 (some salt) ikm info length).elim (.error .value) .ok := by
  have whole := hkdfExpandLoop_eq digests (extract sha256 64 32 (some salt) ikm) info length
    255 0 rfl (Nat.zero_le _)
  rw [blocks_zero, block] at whole
  rw [CryptoUtils.hkdf, hkdfExtract_eq digests, CryptoUtils.hkdfExpand, whole, KeyDerivation.hkdf]
  split <;> rfl

/-- Up to 8160 bytes the derivation is HKDF, at exactly the length asked for. -/
theorem hkdf_within (salt ikm info : Bytes) {length : ℕ} (within : length ≤ 8160) :
    ∃ okm, KeyDerivation.hkdf sha256 64 32 (some salt) ikm info length = some okm ∧
      CryptoUtils.hkdf sha256 salt ikm info length = .ok okm ∧ okm.length = length := by
  have output : KeyDerivation.hkdf sha256 64 32 (some salt) ikm info length =
      some (expand sha256 64 32 (extract sha256 64 32 (some salt) ikm) info length) :=
    if_pos within
  refine ⟨_, output, ?_, expand_length digests (by norm_num) _ _ _⟩
  rw [hkdf_eq digests, output]
  rfl

/-- Beyond that it raises. -/
theorem hkdf_beyond (salt ikm info : Bytes) {length : ℕ} (beyond : 8160 < length) :
    CryptoUtils.hkdf sha256 salt ikm info length = .error .value := by
  have none : KeyDerivation.hkdf sha256 64 32 (some salt) ikm info length = none :=
    if_neg (not_le.mpr beyond)
  rw [hkdf_eq digests, none]
  rfl

/-- The output for a smaller length is a prefix of the output for a larger one. -/
theorem hkdf_start (salt ikm info : Bytes) {short long : ℕ} (shorter : short ≤ long)
    {few many : Bytes} (first : CryptoUtils.hkdf sha256 salt ikm info short = .ok few)
    (second : CryptoUtils.hkdf sha256 salt ikm info long = .ok many) : few <+: many := by
  have within : long ≤ 8160 := by
    by_contra beyond
    rw [hkdf_beyond digests salt ikm info (not_le.mp beyond)] at second
    cases second
  rw [hkdf_eq digests, KeyDerivation.hkdf, if_pos (shorter.trans within)] at first
  rw [hkdf_eq digests, KeyDerivation.hkdf, if_pos within] at second
  obtain rfl := Except.ok.inj first
  obtain rfl := Except.ok.inj second
  exact expand_start digests (by norm_num) _ _ shorter

/-- Both copies are the key derivation of RFC 5869 over the HMAC of RFC 2104. -/
theorem hkdf_conforms (salt ikm info : Bytes) :
    (∀ length ≤ 8160, ∃ okm,
      KeyDerivation.hkdf sha256 64 32 (some salt) ikm info length = some okm ∧
      (salt = [] → KeyDerivation.hkdf sha256 64 32 none ikm info length = some okm) ∧
      CryptoUtils.hkdf sha256 salt ikm info length = .ok okm ∧ okm.length = length) ∧
    (∀ length, 8160 < length → CryptoUtils.hkdf sha256 salt ikm info length = .error .value) ∧
    (∀ short long few many, short ≤ long →
      CryptoUtils.hkdf sha256 salt ikm info short = .ok few →
      CryptoUtils.hkdf sha256 salt ikm info long = .ok many → few <+: many) ∧
    ∀ length, PcClient.hkdf sha256 salt ikm info length =
      CryptoUtils.hkdf sha256 salt ikm info length := by
  refine ⟨?_, ?_, ?_, hkdf_copy salt ikm info⟩
  · intro length within
    obtain ⟨okm, output, derived, exact⟩ := hkdf_within digests salt ikm info within
    refine ⟨okm, output, ?_, derived, exact⟩
    rintro rfl
    rw [hkdf_no_salt, output]
  · intro length beyond
    exact hkdf_beyond digests salt ikm info beyond
  · intro short long few many shorter first second
    exact hkdf_start digests salt ikm info shorter first second

end RFC

/-- The two copies over a hash function that keeps the start of its input. -/
theorem hkdf_conforms_plain :
    (∃ okm, CryptoUtils.hkdf SecureNode.plainPrimitives.sha256 [] [1] [] 8160 = .ok okm ∧
      okm.length = 8160) ∧
    PcClient.hkdf SecureNode.plainPrimitives.sha256 [] [1] [] 8161 = .error .value := by
  obtain ⟨within, beyond, -, copies⟩ :=
    hkdf_conforms SecureNode.plainPrimitives_lawful.digest_length [] [1] []
  obtain ⟨okm, -, -, derived, exact⟩ := within 8160 le_rfl
  exact ⟨⟨okm, derived, exact⟩, (copies 8161).trans (beyond 8161 (by norm_num))⟩

section Protocol

variable {crypto : SecureNode.Primitives}

/-- The padding written in one expression is the one of the two loops. -/
theorem xorPad_loops (lawful : crypto.Lawful) (key : Bytes) (padByte : UInt8) :
    SecureNode.xorPad crypto key padByte = CryptoUtils.xorPad crypto.sha256 key padByte 64 := by
  rw [xorPad_eq lawful.digest_length, SecureNode.xorPad, KeyDerivation.blockKey, List.map_append,
    List.map_replicate, UInt8.zero_xor]
  rfl

theorem hmacSha256_loops (lawful : crypto.Lawful) (key msg : Bytes) :
    SecureNode.hmacSha256 crypto key msg = CryptoUtils.hmacSha256 crypto.sha256 key msg := by
  simp only [SecureNode.hmacSha256, CryptoUtils.hmacSha256, xorPad_loops lawful]
  rfl

/-- The session keys are derived with the empty `info` and the default length. -/
theorem hkdf_loops (lawful : crypto.Lawful) (salt ikm : Bytes) :
    CryptoUtils.hkdf crypto.sha256 salt ikm [] 32 = .ok (SecureNode.hkdf crypto salt ikm) := by
  have same : CryptoUtils.hkdfExtract crypto.sha256 salt ikm =
      SecureNode.hkdfExtract crypto salt ikm := (hmacSha256_loops lawful _ ikm).symm
  set prk := SecureNode.hkdfExtract crypto salt ikm with prkNamed
  have full : ¬(CryptoUtils.hmacSha256 crypto.sha256 prk [1]).length < 32 := by
    rw [CryptoUtils.hmacSha256, lawful.digest_length]
    decide
  have loop : CryptoUtils.hkdfExpandLoop crypto.sha256 prk [] 32 [] [] 1 =
      .ok (CryptoUtils.hmacSha256 crypto.sha256 prk [1]) := by
    rw [CryptoUtils.hkdfExpandLoop, if_pos (by decide), if_pos (by decide),
      CryptoUtils.hkdfExpandLoop]
    exact if_neg full
  rw [CryptoUtils.hkdf, same, CryptoUtils.hkdfExpand, loop, SecureNode.hkdf, ← prkNamed,
    lawful.hkdfExpandLoop_filled, hmacSha256_loops lawful]
  rfl

end Protocol

end Microgrid
