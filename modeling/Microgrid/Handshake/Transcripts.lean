import Microgrid.Handshake.Interoperation

/-!
# The hashed byte strings of the handshake

Three digests are taken over field values put one after the other, without lengths or
separators: the server's proof, the hash the device signs and the session key. The fields
can be told apart again because every one of them has passed a length check, in the
firmware's `hex_to_bin` or in the server's. The server concatenates, the firmware feeds one
field after the other into its SHA-256 context.
-/

namespace Microgrid.Handshake

open HexText

/-- What a `hex_to_bin` of either program returns for the length. -/
def Checked (len : ℕ) (bin : Bytes) : Prop :=
  (∃ hex, HexText.hexToBin hex len = some bin) ∨ ∃ value, RotSession.hexToBin value len = .ok bin

/-- A field that has passed its check. -/
abbrev CheckedField (len : ℕ) := {bin : Bytes // Checked len bin}

/-- The shared coordinate Z. -/
abbrev SharedSecret := {bin : Bytes // bin.length = 32}

/-- The fields under `server_proof`. -/
@[ext]
structure ServerProofFields where
  shsB : CheckedField rotDigestLen
  challengeA : CheckedField challengeLen
  ephPkB : CheckedField rotPubkeyLen

/-- The fields under `msg_hash`, which `device_proof` signs. -/
@[ext]
structure MsgHashFields where
  idA : CheckedField rotIdLen
  idB : CheckedField rotIdLen
  challengeB : CheckedField challengeLen
  challengeA : CheckedField challengeLen
  ephPkA : CheckedField rotPubkeyLen
  ephPkB : CheckedField rotPubkeyLen
  serverProof : CheckedField rotDigestLen

/-- The fields under `key_ab`. -/
@[ext]
structure KeyAbFields where
  z : SharedSecret
  shsB : CheckedField rotDigestLen
  challengeA : CheckedField challengeLen
  challengeB : CheckedField challengeLen

end Microgrid.Handshake

namespace Microgrid.RotSession

open Handshake HexText

/-- The argument of `sha256` for `server_proof`. -/
def serverProofInput (fields : ServerProofFields) : Bytes :=
  fields.shsB.val ++ fields.challengeA.val ++ fields.ephPkB.val

/-- The argument of `sha256` for `msg_hash`. -/
def msgHashInput (fields : MsgHashFields) : Bytes :=
  utf8 deviceProofDomainTag.toList ++ fields.idA.val ++ fields.idB.val ++ fields.challengeB.val
    ++ fields.challengeA.val ++ fields.ephPkA.val ++ fields.ephPkB.val ++ fields.serverProof.val

/-- The argument of `sha256` for `key_ab`. -/
def keyAbInput (fields : KeyAbFields) : Bytes :=
  fields.z.val ++ fields.shsB.val ++ fields.challengeA.val ++ fields.challengeB.val

end Microgrid.RotSession

namespace Microgrid.DeviceSession

open Handshake HexText

/-- `mbedtls_sha256_update`: the context has absorbed `len` bytes of the buffer more. -/
def sha256Update (absorbed input : Bytes) (len : ℕ) : Bytes := absorbed ++ input.take len

/-- What the context of `expected_server_proof` has absorbed in the end. -/
def serverProofInput (fields : ServerProofFields) : Bytes :=
  let ctx := []
  let ctx := sha256Update ctx fields.shsB.val rotDigestLen
  let ctx := sha256Update ctx fields.challengeA.val challengeLen
  sha256Update ctx fields.ephPkB.val rotPubkeyLen

/-- What the context of `msg_hash` has absorbed in the end. The tag is an array of
characters with a terminator, which is left out. -/
def msgHashInput (fields : MsgHashFields) : Bytes :=
  let tag := utf8 deviceProofDomainTag.toList ++ [0]
  let ctx := []
  let ctx := sha256Update ctx tag (tag.length - 1)
  let ctx := sha256Update ctx fields.idA.val rotIdLen
  let ctx := sha256Update ctx fields.idB.val rotIdLen
  let ctx := sha256Update ctx fields.challengeB.val challengeLen
  let ctx := sha256Update ctx fields.challengeA.val challengeLen
  let ctx := sha256Update ctx fields.ephPkA.val rotPubkeyLen
  let ctx := sha256Update ctx fields.ephPkB.val rotPubkeyLen
  sha256Update ctx fields.serverProof.val rotDigestLen

/-- What the context of `key_ab` has absorbed in the end. -/
def keyAbInput (fields : KeyAbFields) : Bytes :=
  let ctx := []
  let ctx := sha256Update ctx fields.z.val 32
  let ctx := sha256Update ctx fields.shsB.val rotDigestLen
  let ctx := sha256Update ctx fields.challengeA.val challengeLen
  sha256Update ctx fields.challengeB.val challengeLen

end Microgrid.DeviceSession

namespace Microgrid.Handshake

open HexText

/-! ### The lengths that the checks leave -/

theorem hexToBinLoop_length (remaining : ℕ) : ∀ (hex bin : Bytes),
    hexToBinLoop remaining hex = some bin → bin.length = remaining := by
  induction remaining with
  | zero =>
    intro hex bin decoded
    obtain rfl := Option.some.inj decoded
    rfl
  | succ remaining inductionHypothesis =>
    intro hex bin decoded
    simp only [hexToBinLoop, Option.pure_def, Option.bind_eq_bind, Option.bind_eq_some_iff,
      Option.some.injEq] at decoded
    obtain ⟨byte, -, rest, decodedRest, rfl⟩ := decoded
    rw [List.length_cons, inductionHypothesis _ _ decodedRest]

/-- The firmware's check. -/
theorem hexToBin_length {hex bin : Bytes} {len : ℕ} (decoded : HexText.hexToBin hex len = some bin) :
    bin.length = len := by
  unfold HexText.hexToBin at decoded
  split at decoded
  · cases decoded
  · exact hexToBinLoop_length len hex bin decoded

/-- The server's check. -/
theorem serverHexToBin_length {value : Json} {bin : Bytes} {len : ℕ}
    (decoded : RotSession.hexToBin value len = .ok bin) : bin.length = len := by
  unfold RotSession.hexToBin at decoded
  cases raw : RotSession.bytesFromhex value with
  | error raised =>
    rw [raw] at decoded
    cases decoded
  | ok found =>
    rw [raw] at decoded
    simp only [bind, Except.bind] at decoded
    split at decoded
    · cases decoded
    · next same =>
      obtain rfl := Except.ok.inj decoded
      exact not_not.mp same

/-- The checked byte strings are those of the length. -/
theorem checked_iff {len : ℕ} {bin : Bytes} : Checked len bin ↔ bin.length = len := by
  constructor
  · rintro (⟨hex, decoded⟩ | ⟨value, decoded⟩)
    · exact hexToBin_length decoded
    · exact serverHexToBin_length decoded
  · rintro rfl
    exact .inl ⟨_, hexToBin_binToHex bin⟩

@[simp] theorem CheckedField.length {len : ℕ} (field : CheckedField len) : field.val.length = len :=
  checked_iff.mp field.property

/-- An update with a whole field. -/
@[simp] theorem sha256Update_field {len : ℕ} (absorbed : Bytes) (field : CheckedField len) :
    DeviceSession.sha256Update absorbed field.val len = absorbed ++ field.val := by
  rw [DeviceSession.sha256Update, List.take_of_length_le field.length.le]

@[simp] theorem sha256Update_secret (absorbed : Bytes) (z : SharedSecret) :
    DeviceSession.sha256Update absorbed z.val 32 = absorbed ++ z.val := by
  rw [DeviceSession.sha256Update, List.take_of_length_le z.property.le]

/-! ### One encoding for both programs -/

theorem serverProofInput_same (fields : ServerProofFields) :
    DeviceSession.serverProofInput fields = RotSession.serverProofInput fields := by
  simp [DeviceSession.serverProofInput, RotSession.serverProofInput]

/-- The two tags are one text, and the terminator of the firmware's stays out. -/
theorem msgHashInput_same (fields : MsgHashFields) :
    DeviceSession.msgHashInput fields = RotSession.msgHashInput fields := by
  have tag : DeviceSession.sha256Update [] (utf8 DeviceSession.deviceProofDomainTag.toList ++ [0])
      ((utf8 DeviceSession.deviceProofDomainTag.toList ++ [0]).length - 1) =
      utf8 RotSession.deviceProofDomainTag.toList := by
    rw [DeviceSession.sha256Update, List.length_append, List.length_singleton, Nat.add_sub_cancel,
      List.take_left, List.nil_append]
    rfl
  simp only [DeviceSession.msgHashInput, RotSession.msgHashInput, tag, sha256Update_field]

theorem keyAbInput_same (fields : KeyAbFields) :
    DeviceSession.keyAbInput fields = RotSession.keyAbInput fields := by
  simp [DeviceSession.keyAbInput, RotSession.keyAbInput]

/-! ### Unambiguous within one purpose -/

theorem serverProofInput_injective : Function.Injective RotSession.serverProofInput := by
  intro first second same
  have pieces : [first.shsB.val, first.challengeA.val, first.ephPkB.val] =
      [second.shsB.val, second.challengeA.val, second.ephPkB.val] := by
    apply List.eq_iff_flatten_eq.mpr
    constructor
    · simpa [RotSession.serverProofInput] using same
    · simp
  simp only [List.cons.injEq, and_true] at pieces
  obtain ⟨shsB, challengeA, ephPkB⟩ := pieces
  ext1
  · exact Subtype.ext shsB
  · exact Subtype.ext challengeA
  · exact Subtype.ext ephPkB

theorem msgHashInput_injective : Function.Injective RotSession.msgHashInput := by
  intro first second same
  have pieces : [first.idA.val, first.idB.val, first.challengeB.val, first.challengeA.val,
        first.ephPkA.val, first.ephPkB.val, first.serverProof.val] =
      [second.idA.val, second.idB.val, second.challengeB.val, second.challengeA.val,
        second.ephPkA.val, second.ephPkB.val, second.serverProof.val] := by
    apply List.eq_iff_flatten_eq.mpr
    constructor
    · simpa [RotSession.msgHashInput] using same
    · simp
  simp only [List.cons.injEq, and_true] at pieces
  obtain ⟨idA, idB, challengeB, challengeA, ephPkA, ephPkB, serverProof⟩ := pieces
  ext1
  · exact Subtype.ext idA
  · exact Subtype.ext idB
  · exact Subtype.ext challengeB
  · exact Subtype.ext challengeA
  · exact Subtype.ext ephPkA
  · exact Subtype.ext ephPkB
  · exact Subtype.ext serverProof

theorem keyAbInput_injective : Function.Injective RotSession.keyAbInput := by
  intro first second same
  have pieces : [first.z.val, first.shsB.val, first.challengeA.val, first.challengeB.val] =
      [second.z.val, second.shsB.val, second.challengeA.val, second.challengeB.val] := by
    apply List.eq_iff_flatten_eq.mpr
    constructor
    · simpa [RotSession.keyAbInput] using same
    · simp [first.z.property, second.z.property]
  simp only [List.cons.injEq, and_true] at pieces
  obtain ⟨z, shsB, challengeA, challengeB⟩ := pieces
  ext1
  · exact Subtype.ext z
  · exact Subtype.ext shsB
  · exact Subtype.ext challengeA
  · exact Subtype.ext challengeB

/-! ### Told apart by their lengths -/

/-- The domain tag has 23 bytes. -/
theorem tag_length : (utf8 RotSession.deviceProofDomainTag.toList).length = 23 := by
  decide +kernel

theorem serverProofInput_length (fields : ServerProofFields) :
    (RotSession.serverProofInput fields).length = 113 := by
  simp only [RotSession.serverProofInput, List.length_append, CheckedField.length]
  rfl

theorem msgHashInput_length (fields : MsgHashFields) :
    (RotSession.msgHashInput fields).length = 249 := by
  simp only [RotSession.msgHashInput, List.length_append, CheckedField.length, tag_length]
  rfl

theorem keyAbInput_length (fields : KeyAbFields) :
    (RotSession.keyAbInput fields).length = 96 := by
  simp only [RotSession.keyAbInput, List.length_append, CheckedField.length, fields.z.property]
  rfl

/-- What is hashed determines the purpose and every field, on either side. -/
theorem transcripts_unambiguous :
    (Function.Injective RotSession.serverProofInput ∧ Function.Injective RotSession.msgHashInput ∧
      Function.Injective RotSession.keyAbInput) ∧
    (∀ proof hash, RotSession.serverProofInput proof ≠ RotSession.msgHashInput hash) ∧
    (∀ proof key, RotSession.serverProofInput proof ≠ RotSession.keyAbInput key) ∧
    (∀ hash key, RotSession.msgHashInput hash ≠ RotSession.keyAbInput key) ∧
    (∀ proof, DeviceSession.serverProofInput proof = RotSession.serverProofInput proof) ∧
    (∀ hash, DeviceSession.msgHashInput hash = RotSession.msgHashInput hash) ∧
    ∀ key, DeviceSession.keyAbInput key = RotSession.keyAbInput key := by
  refine ⟨⟨serverProofInput_injective, msgHashInput_injective, keyAbInput_injective⟩,
    ?_, ?_, ?_, serverProofInput_same, msgHashInput_same, keyAbInput_same⟩
  · intro proof hash same
    have lengths := congrArg List.length same
    rw [serverProofInput_length, msgHashInput_length] at lengths
    cases lengths
  · intro proof key same
    have lengths := congrArg List.length same
    rw [serverProofInput_length, keyAbInput_length] at lengths
    cases lengths
  · intro hash key same
    have lengths := congrArg List.length same
    rw [msgHashInput_length, keyAbInput_length] at lengths
    cases lengths

/-! ### The digests of both programs are taken over these strings -/

section Digests

open Interoperation

variable {sha256 : Bytes → Bytes} {isPrivate : Bytes → Prop} {device server : Suite Bytes}
variable (interop : Interoperable sha256 isPrivate device server)
variable {opening : DeviceSession.Opening Bytes} {challenge : RotSession.Challenge Bytes}

include interop

theorem expectedServerProof_hashes {ephPkB : Bytes} (shsB : Checked rotDigestLen opening.shsBRef)
    (challengeA : Checked challengeLen opening.challengeA) (point : Checked rotPubkeyLen ephPkB) :
    DeviceSession.expectedServerProof device opening ephPkB =
      sha256 (DeviceSession.serverProofInput ⟨⟨_, shsB⟩, ⟨_, challengeA⟩, ⟨_, point⟩⟩) := by
  rw [DeviceSession.expectedServerProof, interop.deviceDigest, serverProofInput_same]
  simp [RotSession.serverProofInput]

theorem deviceMsgHash_hashes {idB challengeB ephPkB serverProof : Bytes}
    (idA : Checked rotIdLen opening.idA) (claimed : Checked rotIdLen idB)
    (nonceB : Checked challengeLen challengeB) (nonceA : Checked challengeLen opening.challengeA)
    (pointA : Checked rotPubkeyLen opening.ephPkA) (pointB : Checked rotPubkeyLen ephPkB)
    (proof : Checked rotDigestLen serverProof) :
    DeviceSession.msgHash device opening idB challengeB ephPkB serverProof =
      sha256 (DeviceSession.msgHashInput ⟨⟨_, idA⟩, ⟨_, claimed⟩, ⟨_, nonceB⟩, ⟨_, nonceA⟩,
        ⟨_, pointA⟩, ⟨_, pointB⟩, ⟨_, proof⟩⟩) := by
  rw [DeviceSession.msgHash, interop.deviceText, interop.deviceDigest, msgHashInput_same]
  simp [RotSession.msgHashInput, RotSession.deviceProofDomainTag,
    DeviceSession.deviceProofDomainTag]

theorem finishHandshake_hashes {signed : DeviceSession.Signed Bytes} {keyAb : Bytes}
    (finished : DeviceSession.finishHandshake device opening signed = some keyAb)
    (z : (device.exchange opening.ephSkA signed.ephPkB).length = 32)
    (shsB : Checked rotDigestLen opening.shsBRef)
    (nonceA : Checked challengeLen opening.challengeA)
    (nonceB : Checked challengeLen signed.challengeB) :
    keyAb = sha256 (DeviceSession.keyAbInput ⟨⟨_, z⟩, ⟨_, shsB⟩, ⟨_, nonceA⟩, ⟨_, nonceB⟩⟩) := by
  obtain ⟨-, derived⟩ := (DeviceSession.finishHandshake_eq_some device opening signed keyAb).mp
    finished
  rw [derived, interop.deviceDigest, keyAbInput_same]
  simp [RotSession.keyAbInput]

theorem answerHello_hashes {entry : RotSession.Entry Bytes} {idA challengeA challengeB ephSkB : Bytes}
    (answered : RotSession.answerHello server entry idA challengeA challengeB ephSkB = some challenge)
    (shsB : Checked rotDigestLen challenge.shsB) (nonceA : Checked challengeLen challenge.challengeA)
    (point : Checked rotPubkeyLen challenge.ephPkB) :
    challenge.serverProof =
      sha256 (RotSession.serverProofInput ⟨⟨_, shsB⟩, ⟨_, nonceA⟩, ⟨_, point⟩⟩) := by
  unfold RotSession.answerHello at answered
  split at answered
  · obtain rfl := Option.some.inj answered
    simp [RotSession.serverProofInput, interop.serverDigest]
  · cases answered

theorem serverMsgHash_hashes {idB ephPkA : Bytes} (idA : Checked rotIdLen challenge.idA)
    (own : Checked rotIdLen idB) (nonceB : Checked challengeLen challenge.challengeB)
    (nonceA : Checked challengeLen challenge.challengeA) (pointA : Checked rotPubkeyLen ephPkA)
    (pointB : Checked rotPubkeyLen challenge.ephPkB)
    (proof : Checked rotDigestLen challenge.serverProof) :
    RotSession.msgHash server idB challenge ephPkA =
      sha256 (RotSession.msgHashInput ⟨⟨_, idA⟩, ⟨_, own⟩, ⟨_, nonceB⟩, ⟨_, nonceA⟩, ⟨_, pointA⟩,
        ⟨_, pointB⟩, ⟨_, proof⟩⟩) := by
  rw [RotSession.msgHash, interop.serverText, interop.serverDigest]
  simp [RotSession.msgHashInput]

theorem acceptResponse_hashes {idB ephPkA deviceProof keyAb : Bytes}
    (accepted : RotSession.acceptResponse server idB challenge ephPkA deviceProof = .ok keyAb)
    (z : (server.exchange challenge.ephSkB ephPkA).length = 32)
    (shsB : Checked rotDigestLen challenge.shsB)
    (nonceA : Checked challengeLen challenge.challengeA)
    (nonceB : Checked challengeLen challenge.challengeB) :
    keyAb = sha256 (RotSession.keyAbInput ⟨⟨_, z⟩, ⟨_, shsB⟩, ⟨_, nonceA⟩, ⟨_, nonceB⟩⟩) := by
  unfold RotSession.acceptResponse at accepted
  split at accepted
  · cases accepted
  · split at accepted
    · cases accepted
    · obtain rfl := Except.ok.inj accepted
      simp [RotSession.keyAbInput, interop.serverDigest]

end Digests

end Microgrid.Handshake
