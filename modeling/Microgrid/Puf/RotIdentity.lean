import Microgrid.Puf.Puflib

/-!
# The device identity

`rot_identity.c`: one enrollment step at every boot, the response with its bounded
retries, and the key pair derived from it. Enrollment is recognised by two of the four
blobs, `PUF_MASK` and `ECC_DATA`.

`mbedtls` is a parameter. Each of its functions may fail in one call and succeed in
another, so a value of `Mbedtls` stands for the library during one derivation.
-/

namespace Microgrid.RotIdentity

open CrashPrograms Puflib

/-- `rot_identity_is_enrolled`. -/
def isEnrolled (nvs : Nvs) : Bool := (nvs .pufMask).isSome && (nvs .eccData).isSome

/-- `rot_identity_run_enrollment_step`. -/
def rotIdentityRunEnrollmentStep (inputs : Measurements) : FirmwareM Bool := do
  puflibInit inputs
  let before ← Program.load
  if isEnrolled before then pure () else enrollPuf inputs
  let after ← Program.load
  pure (isEnrolled after)

/-- `ROT_PUF_RESET_RETRY_LIMIT`. -/
def rotPufResetRetryLimit : Nat := 5

/-- `rot_identity_get_puf_response`: the pointer and the length handed out, or `none`
for `false`. -/
def rotIdentityGetPufResponse (inputs : Measurements) :
    FirmwareM (Option (Option Nat × Nat)) := do
  let nvs ← Program.load
  if !isEnrolled nvs then pure none
  else
    let memory ← Program.inspect
    if memory.pufState = .responseReady then
      Program.remember ({ · with pufResetRetryCount := 0 })
      pure (some (memory.pufResponse, memory.pufResponseLen))
    else
      let ok ← getPufResponse inputs
      let measured ← Program.inspect
      if ok then
        Program.remember ({ · with pufResetRetryCount := 0 })
        pure (some (measured.pufResponse, measured.pufResponseLen))
      else if measured.pufResetRetryCount + 1 > rotPufResetRetryLimit then
        Program.remember ({ · with pufResetRetryCount := 0 })
        pure none
      else
        Program.remember ({ · with pufResetRetryCount := measured.pufResetRetryCount + 1 })
        getPufResponseReset

/-! ### The key pair -/

/-- `mbedtls` during one derivation. `none` is a nonzero return value; `ecpMul` is the
multiplication of the generator together with `mbedtls_ecp_point_write_binary`. -/
structure Mbedtls where
  ecpGroupLoad : Bool
  sha256 : Bytes → Bytes
  hkdf : Bytes → Bytes → Bytes → Option Bytes
  mpiReadBinary : Bytes → Option Nat
  ecpMul : Nat → Option Bytes

/-- The order of P-256. -/
def groupOrder : Nat := 0xffffffff00000000ffffffffffffffffbce6faada7179e84f3b9cac2fc632551

/-- `ROT_PUBKEY_LEN`. -/
def rotPubkeyLen : Nat := 65

/-- `salt`, without its terminator. -/
def salt : Bytes := "smg_puf_rot_node/rot_identity:ecdsa-sk_A-v1".toUTF8.toList

/-- `info_base`, with its terminator. -/
def infoBase : Bytes := "SMG-RoT-P256-sk_A".toUTF8.toList ++ [0]

/-- `get_mask_ecc_hash`. -/
def getMaskEccHash (mbedtls : Mbedtls) (nvs : Nvs) : Option Bytes := do
  let mask ← nvs .pufMask
  let ecc ← nvs .eccData
  let sleepMask ← nvs .pufSleepMask
  let sleepEcc ← nvs .eccSleepData
  return mbedtls.sha256 (mask ++ ecc ++ sleepMask ++ sleepEcc)

/-- The rejection loop: `attempt` counts up, `remaining` down. A failing `hkdf` ends it, a
failing read is passed over. -/
def sampleScalar (mbedtls : Mbedtls) (pufResponse maskEccHash : Bytes) : Nat → Nat → Option Nat
  | 0, _ => none
  | remaining + 1, attempt =>
    match mbedtls.hkdf salt pufResponse (infoBase ++ maskEccHash ++ [UInt8.ofNat attempt]) with
    | none => none
    | some okm =>
      match mbedtls.mpiReadBinary okm with
      | none => sampleScalar mbedtls pufResponse maskEccHash remaining (attempt + 1)
      | some scalar =>
        if 0 < scalar ∧ scalar < groupOrder then some scalar
        else sampleScalar mbedtls pufResponse maskEccHash remaining (attempt + 1)

/-- `rot_identity_derive_keypair`: `sk_A` and `pk_A`. -/
def rotIdentityDeriveKeypair (mbedtls : Mbedtls) (nvs : Nvs) (pufResponse : Bytes) :
    Option (Nat × Bytes) := do
  guard mbedtls.ecpGroupLoad
  let maskEccHash ← getMaskEccHash mbedtls nvs
  let skA ← sampleScalar mbedtls pufResponse maskEccHash 8 0
  let pkA ← mbedtls.ecpMul skA
  guard (pkA.length = rotPubkeyLen)
  return (skA, pkA)

end Microgrid.RotIdentity
