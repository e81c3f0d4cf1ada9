import Microgrid.SecureNode.Tlv

/-!
# The cryptographic helpers of the server

`encrypt_gcm` and `decrypt_gcm` over the primitives they call: SHA-256, and the `AESGCM`
class, whose methods raise for arguments they do not accept and, in decryption, for a tag
that does not verify. `Lawful` is what the protocol relies on.
-/

namespace Microgrid.SecureNode

open PythonValues

/-- `hashlib.sha256(data).digest()` and the methods of `AESGCM(key)`. -/
structure Primitives where
  sha256 : Bytes → Bytes
  aesgcmEncrypt (key nonce data : Bytes) : Except PyException Bytes
  aesgcmDecrypt (key nonce data : Bytes) : Except PyException Bytes

/-- `AES_KEY_SIZE`. -/
def aesKeySize : ℕ := 32

/-- `GCM_NONCE_SIZE`. -/
def gcmNonceSize : ℕ := 12

/-- `GCM_TAG_SIZE`. -/
def gcmTagSize : ℕ := 16

/-- Digests have 32 bytes, and decryption undoes an encryption, whose tag has 16. -/
structure Primitives.Lawful (crypto : Primitives) : Prop where
  digest_length : ∀ data, (crypto.sha256 data).length = 32
  seals : ∀ key nonce data : Bytes, key.length = aesKeySize → nonce.length = gcmNonceSize →
    data.length < 2 ^ 31 → ∃ sealed, crypto.aesgcmEncrypt key nonce data = .ok sealed ∧
      sealed.length = data.length + gcmTagSize ∧ crypto.aesgcmDecrypt key nonce sealed = .ok data

variable (crypto : Primitives)

/-- `h_sha256`. -/
def hSha256 (data : Bytes) : Bytes := crypto.sha256 data

/-- `DIGEST_SIZE`. -/
def digestSize : ℕ := 32

/-- `_BLOCK_SIZE`. -/
def blockSize : ℕ := 64

/-- `_xor_pad`. -/
def xorPad (key : Bytes) (padByte : UInt8) : Bytes :=
  let key := if blockSize < key.length then hSha256 crypto key else key
  key.map (· ^^^ padByte) ++ List.replicate (blockSize - key.length) padByte

/-- `hmac_sha256`. -/
def hmacSha256 (key msg : Bytes) : Bytes :=
  let inner := hSha256 crypto (xorPad crypto key 0x36 ++ msg)
  hSha256 crypto (xorPad crypto key 0x5C ++ inner)

/-- `hkdf_extract`. -/
def hkdfExtract (salt ikm : Bytes) : Bytes :=
  hmacSha256 crypto (if salt = [] then List.replicate digestSize 0 else salt) ikm

/-- The loop of `hkdf_expand` with the empty `info`. Every round adds a digest, so there are
no more rounds than bytes. -/
def hkdfExpandLoop (prk : Bytes) (length : ℕ) : ℕ → Bytes → Bytes → ℕ → Bytes
  | 0, okm, _, _ => okm
  | rounds + 1, okm, tPrev, counter =>
    if okm.length < length then
      let tNext := hmacSha256 crypto prk (tPrev ++ [UInt8.ofNat counter])
      hkdfExpandLoop prk length rounds (okm ++ tNext) tNext (counter + 1)
    else okm

/-- `hkdf` with the empty `info` and the length of a digest. -/
def hkdf (salt ikm : Bytes) : Bytes :=
  (hkdfExpandLoop crypto (hkdfExtract crypto salt ikm) digestSize digestSize [] [] 1).take digestSize

/-- `_fit_key`. -/
def fitKey (key : Bytes) : Bytes :=
  if aesKeySize ≤ key.length then (hSha256 crypto key).take aesKeySize
  else key ++ List.replicate (aesKeySize - key.length) 0

/-- `encrypt_gcm`, with the nonce that `os.urandom` returned. -/
def encryptGcm (nonce plaintext key : Bytes) : Except PyException Bytes := do
  let ctAndTag ← crypto.aesgcmEncrypt (fitKey crypto key) nonce plaintext
  let ct := ctAndTag.take (ctAndTag.length - gcmTagSize)
  let tag := ctAndTag.drop (ctAndTag.length - gcmTagSize)
  pure (nonce ++ ct ++ tag)

/-- `decrypt_gcm`. -/
def decryptGcm (ciphertext key : Bytes) : Except PyException Bytes :=
  let nonce := ciphertext.take gcmNonceSize
  let ct := (ciphertext.take (ciphertext.length - gcmTagSize)).drop gcmNonceSize
  let tag := ciphertext.drop (ciphertext.length - gcmTagSize)
  crypto.aesgcmDecrypt (fitKey crypto key) nonce (ct ++ tag)

variable {crypto}

/-- Every key is brought to the size the cipher takes. -/
theorem Primitives.Lawful.fitKey_length (lawful : crypto.Lawful) (key : Bytes) :
    (fitKey crypto key).length = aesKeySize := by
  unfold fitKey
  split
  · rw [hSha256, List.length_take, lawful.digest_length]
    rfl
  · next short =>
    rw [List.length_append, List.length_replicate]
    omega

/-- The first round fills the output, and the second finds it full. -/
theorem Primitives.Lawful.hkdfExpandLoop_filled (lawful : crypto.Lawful) (prk : Bytes) :
    hkdfExpandLoop crypto prk digestSize digestSize [] [] 1 = hmacSha256 crypto prk [1] := by
  have full : ¬(hmacSha256 crypto prk [1]).length < digestSize := by
    rw [hmacSha256, hSha256, lawful.digest_length]
    decide
  rw [show digestSize = 30 + 1 + 1 from rfl, hkdfExpandLoop, if_pos (by decide), hkdfExpandLoop]
  exact if_neg full

/-- A derived secret is as long as a digest. -/
theorem Primitives.Lawful.hkdf_length (lawful : crypto.Lawful) (salt ikm : Bytes) :
    (hkdf crypto salt ikm).length = digestSize := by
  rw [hkdf, lawful.hkdfExpandLoop_filled, List.length_take, hmacSha256, hSha256,
    lawful.digest_length, digestSize, min_self]

/-- A message encrypted under a fresh nonce decrypts to itself. -/
theorem Primitives.Lawful.decrypt_encrypt (lawful : crypto.Lawful) (nonce plaintext key : Bytes)
    (fresh : nonce.length = gcmNonceSize) (short : plaintext.length < 2 ^ 31) :
    ∃ ciphertext, encryptGcm crypto nonce plaintext key = .ok ciphertext ∧
      decryptGcm crypto ciphertext key = .ok plaintext := by
  obtain ⟨sealed, encrypted, length, decrypted⟩ :=
    lawful.seals (fitKey crypto key) nonce plaintext (lawful.fitKey_length key) fresh short
  refine ⟨nonce ++ sealed, ?_, ?_⟩
  · rw [encryptGcm, encrypted]
    simp only [bind, Except.bind, pure, Except.pure, List.append_assoc, List.take_append_drop]
  · -- the tag is the end of what was sealed, so cutting the text apart and joining it is idle
    have cut : (nonce ++ sealed).length - gcmTagSize
        = nonce.length + (sealed.length - gcmTagSize) := by
      rw [List.length_append]
      omega
    have first : (nonce ++ sealed).take gcmNonceSize = nonce := List.take_left' fresh
    have middle : ((nonce ++ sealed).take ((nonce ++ sealed).length - gcmTagSize)).drop gcmNonceSize
        = sealed.take (sealed.length - gcmTagSize) := by
      rw [cut, List.take_length_add_append, List.drop_left' fresh]
    have last : (nonce ++ sealed).drop ((nonce ++ sealed).length - gcmTagSize)
        = sealed.drop (sealed.length - gcmTagSize) := by
      rw [cut, List.drop_length_add_append]
    simp only [decryptGcm, first, middle, last, List.take_append_drop, decrypted]

/-- What a ciphertext adds to its plaintext. -/
theorem Primitives.Lawful.encryptGcm_length (lawful : crypto.Lawful)
    {nonce plaintext key ciphertext : Bytes} (fresh : nonce.length = gcmNonceSize)
    (short : plaintext.length < 2 ^ 31)
    (encrypted : encryptGcm crypto nonce plaintext key = .ok ciphertext) :
    ciphertext.length = gcmNonceSize + plaintext.length + gcmTagSize := by
  obtain ⟨sealed, sealing, length, -⟩ :=
    lawful.seals (fitKey crypto key) nonce plaintext (lawful.fitKey_length key) fresh short
  rw [encryptGcm, sealing] at encrypted
  simp only [bind, Except.bind, pure, Except.pure, List.append_assoc, List.take_append_drop,
    Except.ok.injEq] at encrypted
  rw [← encrypted, List.length_append, fresh, length, Nat.add_assoc]

/-- Primitives with the sizes of the real ones, without their secrecy: the digest is the
start of the data, and sealing appends a constant tag. -/
def plainPrimitives : Primitives where
  sha256 data := (data ++ List.replicate 32 0).take 32
  aesgcmEncrypt _ _ data := .ok (data ++ List.replicate gcmTagSize 0)
  aesgcmDecrypt _ _ sealed :=
    let data := sealed.take (sealed.length - gcmTagSize)
    if sealed = data ++ List.replicate gcmTagSize 0 then .ok data else .error .invalidTag

/-- The assumptions on the primitives can be met. -/
theorem plainPrimitives_lawful : plainPrimitives.Lawful := by
  constructor
  · intro data
    rw [plainPrimitives, List.length_take, List.length_append, List.length_replicate]
    omega
  · intro key nonce data _ _ _
    refine ⟨data ++ List.replicate gcmTagSize 0, rfl, ?_, ?_⟩
    · rw [List.length_append, List.length_replicate]
    · have cut : (data ++ List.replicate gcmTagSize (0 : UInt8)).take
          ((data ++ List.replicate gcmTagSize (0 : UInt8)).length - gcmTagSize) = data := by
        rw [List.length_append, List.length_replicate, Nat.add_sub_cancel, List.take_left]
      simp only [plainPrimitives, cut, if_true]

end Microgrid.SecureNode
