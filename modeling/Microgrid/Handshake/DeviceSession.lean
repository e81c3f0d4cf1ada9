import Microgrid.Handshake.Suite
import Microgrid.Wire.Framing

/-!
# The device's session: `rot_session_handshake` of `rot_session.c`

As on the server's side, the cryptographic steps are functions of field values:
`checkChallenge` is everything between the parsed challenge and the response,
`finishHandshake` everything after the acknowledgement. The function itself adds
the socket, the JSON fields and the early exits, every one of which frees the
keys and returns `false`.

The PUF response enters through the identity key derived from it, the pinned
reference through the values loaded from NVS. Generating and writing out a key,
signing and multiplying only fail for lack of memory; the first of these outcomes
is an input, the others are taken to succeed.
-/

namespace Microgrid.DeviceSession

open Handshake Framing Processes HexText

section Fields

variable {F : Type}

/-- `DEVICE_PROOF_DOMAIN_TAG`. -/
def deviceProofDomainTag : String := "SMG-RoT-device-proof-v1"

/-- The locals of the handshake once hello is ready to be sent. -/
structure Opening (F : Type) where
  idA : F
  idBRef : F
  shsBRef : F
  skA : F
  challengeA : F
  ephSkA : F
  ephPkA : F

/-- The fields of an accepted challenge message, and the signature made over them. -/
structure Signed (F : Type) where
  idBClaimed : F
  challengeB : F
  ephPkB : F
  serverProof : F
  sig : F

/-- The ephemeral public key is written out next to the private one. -/
def openHandshake (suite : Suite F) (idA idBRef shsBRef skA challengeA ephSkA : F) : Opening F :=
  { idA, idBRef, shsBRef, skA, challengeA, ephSkA, ephPkA := suite.publicKey ephSkA }

/-- `expected_server_proof`. -/
def expectedServerProof (suite : Suite F) (opening : Opening F) (ephPkB : F) : F :=
  suite.sha256 [opening.shsBRef, opening.challengeA, ephPkB]

/-- The digest the device signs. -/
def msgHash (suite : Suite F) (opening : Opening F)
    (idBClaimed challengeB ephPkB serverProof : F) : F :=
  suite.sha256 [suite.text deviceProofDomainTag, opening.idA, idBClaimed, challengeB,
    opening.challengeA, opening.ephPkA, ephPkB, serverProof]

/-- From the parsed challenge to the signature; `none` is a failed comparison.
The message's type is never looked at. -/
def checkChallenge [DecidableEq F] (suite : Suite F) (opening : Opening F)
    (idBClaimed challengeB ephPkB serverProof : F) : Option (Signed F) :=
  if idBClaimed ≠ opening.idBRef then none
  else if expectedServerProof suite opening ephPkB ≠ serverProof then none
  else some {
    idBClaimed, challengeB, ephPkB, serverProof
    sig := suite.sign opening.skA
      (msgHash suite opening idBClaimed challengeB ephPkB serverProof) }

/-- After the acknowledgement: the peer's point is decoded and the key derived. -/
def finishHandshake (suite : Suite F) (opening : Opening F) (signed : Signed F) : Option F :=
  if suite.isPoint signed.ephPkB then
    some (suite.sha256 [suite.exchange opening.ephSkA signed.ephPkB, opening.shsBRef,
      opening.challengeA, signed.challengeB])
  else none

end Fields

/-- The libraries the firmware is linked with: cryptography and `cJSON_Parse`,
which hands over C strings, so names and values end at the first NUL. -/
structure Firmware where
  suite : Suite Bytes
  parse : Bytes → Option Json

/-- What the device brings to a handshake: its MAC-derived identifier, the pinned
`id_b` and `shs_b`, the identity key derived from the PUF response, and the random
values it draws. -/
structure Device where
  idA : Bytes
  serverRef : Option (Bytes × Bytes)
  skA : Option Bytes
  ephSkA : Option Bytes
  challengeA : Bytes

/-- `MBEDTLS_ECDSA_MAX_LEN`, for the largest curve of the firmware's mbedTLS. -/
def ecdsaMaxLen : Nat := 139

/-- Device code: `none` is a jump to `done` with the result still `false`. -/
abbrev DeviceM (α : Type) := OptionT (Process UInt8 NetError) α

/-- `net_msg_send`, giving up when it fails. -/
def sending (message : Message) : DeviceM Unit :=
  OptionT.mk ((netMsgSend message).bind fun ok => .done (if ok then some () else none))

/-- `net_msg_recv`, giving up when it fails. -/
def receiving (firmware : Firmware) : DeviceM Json := OptionT.mk (netMsgRecv firmware.parse)

/-- Give up on a failed check. -/
def checking {α : Type} (outcome : Option α) : DeviceM α := OptionT.mk (.done outcome)

/-- `cJSON_GetObjectItemCaseSensitive`. -/
def getObjectItem (value : Json) (name : String) : Option Json :=
  match value with
  | .obj fields => fields.lookup name
  | _ => none

/-- `cJSON_IsString` and `hex_to_bin` on one field. -/
def hexField (value : Json) (name : String) (len : Nat) : Option Bytes :=
  match getObjectItem value name with
  | some (.str text) => hexToBin (cString text) len
  | _ => none

/-- `cJSON_IsString` and `strcmp` on the type of message 4. -/
def isAck (value : Json) : Bool :=
  match getObjectItem value "type" with
  | some (.str text) => cString text == cString "session_ack"
  | _ => false

/-- Message 1. -/
def helloMessage (opening : Opening Bytes) : Message :=
  [("type", "hello"), ("id_a", binToHex opening.idA), ("challenge_a", binToHex opening.challengeA)]

/-- Message 3. -/
def responseMessage (opening : Opening Bytes) (signed : Signed Bytes) : Message :=
  [("type", "response"), ("eph_pk_a", binToHex opening.ephPkA),
    ("device_proof", binToHex signed.sig)]

/-- Parsing and checking message 2. -/
def readChallenge (firmware : Firmware) (opening : Opening Bytes) (challengeMsg : Json) :
    Option (Signed Bytes) := do
  let idBClaimed ← hexField challengeMsg "id_b" rotIdLen
  let challengeB ← hexField challengeMsg "challenge_b" challengeLen
  let ephPkB ← hexField challengeMsg "eph_pk_b" rotPubkeyLen
  let serverProof ← hexField challengeMsg "server_proof" rotDigestLen
  let signed ← checkChallenge firmware.suite opening idBClaimed challengeB ephPkB serverProof
  if signed.sig.length ≤ ecdsaMaxLen then some signed else none

/-- What precedes the first message. -/
def prepare (firmware : Firmware) (device : Device) : Option (Opening Bytes) := do
  let (idBRef, shsBRef) ← device.serverRef
  let skA ← device.skA
  let ephSkA ← device.ephSkA
  pure (openHandshake firmware.suite device.idA idBRef shsBRef skA device.challengeA ephSkA)

/-- `rot_session_handshake` from message 4 on. -/
def awaitAck (firmware : Firmware) (opening : Opening Bytes) (signed : Signed Bytes) :
    DeviceM Bytes := do
  let ackMsg ← receiving firmware
  checking (if isAck ackMsg then some () else none)
  checking (finishHandshake firmware.suite opening signed)

/-- `rot_session_handshake` from message 2 on. -/
def awaitChallenge (firmware : Firmware) (opening : Opening Bytes) : DeviceM Bytes := do
  let challengeMsg ← receiving firmware
  let signed ← checking (readChallenge firmware opening challengeMsg)
  sending (responseMessage opening signed)
  awaitAck firmware opening signed

/-- `rot_session_handshake`: the session key, or `none` for `false`. -/
def rotSessionHandshake (firmware : Firmware) (device : Device) : DeviceM Bytes := do
  let opening ← checking (prepare firmware device)
  sending (helloMessage opening)
  awaitChallenge firmware opening

/-- A sequence runs its first part, and stops there if it gave up. -/
theorem bind_run {α β : Type} (code : DeviceM α) (rest : α → DeviceM β) :
    (code >>= rest).run = code.run.bind fun outcome =>
      match outcome with
      | some value => (rest value).run
      | none => .done none := by
  show code.run.bind _ = _
  rfl

/-- Only a challenge from the pinned server, with a proof over its own nonce,
makes the device sign. -/
theorem checkChallenge_eq_some {F : Type} [DecidableEq F] (suite : Suite F) (opening : Opening F)
    (idBClaimed challengeB ephPkB serverProof : F) (signed : Signed F) :
    checkChallenge suite opening idBClaimed challengeB ephPkB serverProof = some signed ↔
      idBClaimed = opening.idBRef ∧ serverProof = expectedServerProof suite opening ephPkB ∧
        signed = ⟨idBClaimed, challengeB, ephPkB, serverProof,
          suite.sign opening.skA
            (msgHash suite opening idBClaimed challengeB ephPkB serverProof)⟩ := by
  unfold checkChallenge
  by_cases identity : idBClaimed = opening.idBRef
  · by_cases proof : expectedServerProof suite opening ephPkB = serverProof
    · simp only [identity, proof, ne_eq, not_true_eq_false, if_false, Option.some.injEq, true_and]
      exact eq_comm
    · have refused : ¬ serverProof = expectedServerProof suite opening ephPkB :=
        fun same => proof same.symm
      simp [identity, proof, refused]
  · simp [identity]

/-- The device's key, when the peer's point is valid. -/
theorem finishHandshake_eq_some {F : Type} (suite : Suite F) (opening : Opening F)
    (signed : Signed F) (keyAb : F) :
    finishHandshake suite opening signed = some keyAb ↔
      suite.isPoint signed.ephPkB = true ∧
        keyAb = suite.sha256 [suite.exchange opening.ephSkA signed.ephPkB, opening.shsBRef,
          opening.challengeA, signed.challengeB] := by
  unfold finishHandshake
  by_cases valid : suite.isPoint signed.ephPkB = true
  · simp only [valid, if_true, Option.some.injEq, true_and]
    exact eq_comm
  · simp [valid]

end Microgrid.DeviceSession
