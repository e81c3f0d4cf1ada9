/-!
# The cryptographic operations of the handshake

Both programs compute on field values: identifiers, nonces, keys, digests and
signatures. The operations they call on them are collected here once, so that the
same program text runs on byte strings and on symbolic terms. `sha256` takes the
fields in the order in which they enter the digest: Python concatenates them, the
firmware feeds them to the context one `update` after the other.

Private keys are field values too; neither program ever writes one out.
-/

namespace Microgrid.Handshake

/-- P-256, ECDSA over SHA-256 digests, ECDH and SHA-256 on field values `F`.

`isPoint` is what `from_encoded_point` and the ECDH of mbedTLS accept as a peer
key; `verify` takes the public key, the digest and the signature; `exchange` is
the shared coordinate of an own private key and a valid peer key. -/
structure Suite (F : Type) where
  text : String → F
  sha256 : List F → F
  isPoint : F → Bool
  publicKey : F → F
  sign : F → F → F
  verify : F → F → F → Bool
  exchange : F → F → F

/-- `ROT_ID_LEN`. -/
def rotIdLen : Nat := 16

/-- `CHALLENGE_LEN`. -/
def challengeLen : Nat := 16

/-- `ROT_DIGEST_LEN`. -/
def rotDigestLen : Nat := 32

/-- `ROT_PUBKEY_LEN`, an uncompressed point. -/
def rotPubkeyLen : Nat := 65

/-- `GCM_NONCE_LEN` and `SECURE_CHANNEL_NONCE_LEN`. -/
def gcmNonceLen : Nat := 12

/-- `GCM_TAG_LEN` and `SECURE_CHANNEL_TAG_LEN`. -/
def gcmTagLen : Nat := 16

end Microgrid.Handshake
