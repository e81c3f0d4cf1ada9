import Microgrid.Handshake.Suite
import Microgrid.Wire.Framing

/-!
# The server's session: `RotSession` of `rot_challenge_service.py`

The cryptographic steps of `_handshake` are functions of field values:
`answerHello` is everything between the parsed hello and the challenge message,
`acceptResponse` everything between the parsed response and the session key. The
method itself adds receiving, parsing, the registry, error replies and exceptions.

Exceptions are results, and the state of the session object survives them, as
Python's attributes do. `_data_loop` is a `while True`; the model gives it a bound
on its rounds, and running out of it is an outcome of its own.
-/

namespace Microgrid.RotSession

open Handshake Framing Processes HexText

section Fields

variable {F : Type}

/-- `DEVICE_PROOF_DOMAIN_TAG`. -/
def deviceProofDomainTag : String := "SMG-RoT-device-proof-v1"

/-- The decoded fields of a registry entry. -/
structure Entry (F : Type) where
  pkA : F
  shsB : F

/-- The locals of `_handshake` once the challenge is ready to be sent. -/
structure Challenge (F : Type) where
  idA : F
  challengeA : F
  pkA : F
  shsB : F
  challengeB : F
  ephSkB : F
  ephPkB : F
  serverProof : F

/-- From the parsed hello to the challenge, with the session's own random draws.
`none` is the refusal of a malformed registered key. -/
def answerHello (suite : Suite F) (entry : Entry F) (idA challengeA challengeB ephSkB : F) :
    Option (Challenge F) :=
  if suite.isPoint entry.pkA then
    let ephPkB := suite.publicKey ephSkB
    some {
      idA, challengeA, challengeB, ephSkB, ephPkB
      pkA := entry.pkA
      shsB := entry.shsB
      serverProof := suite.sha256 [entry.shsB, challengeA, ephPkB] }
  else none

/-- The digest the server checks the device's signature against. -/
def msgHash (suite : Suite F) (idB : F) (challenge : Challenge F) (ephPkA : F) : F :=
  suite.sha256 [suite.text deviceProofDomainTag, challenge.idA, idB, challenge.challengeB,
    challenge.challengeA, ephPkA, challenge.ephPkB, challenge.serverProof]

/-- Why a parsed response is refused. -/
inductive Refusal where
  | malformedEphemeral
  | signatureInvalid
deriving DecidableEq

/-- From the parsed response to the session key. -/
def acceptResponse (suite : Suite F) (idB : F) (challenge : Challenge F)
    (ephPkA deviceProof : F) : Except Refusal F :=
  if !suite.isPoint ephPkA then .error .malformedEphemeral
  else if !suite.verify challenge.pkA (msgHash suite idB challenge ephPkA) deviceProof then
    .error .signatureInvalid
  else .ok (suite.sha256 [suite.exchange challenge.ephSkB ephPkA, challenge.shsB,
    challenge.challengeA, challenge.challengeB])

end Fields

/-- The libraries the session runs on: cryptography, `json.loads` (`none` is any
exception it raises), the text of a value in an f-string, and `AESGCM.decrypt`
of key, nonce and ciphertext with its tag (`none` is `InvalidTag`). -/
structure Runtime where
  suite : Suite Bytes
  loads : Bytes → Option Json
  pyStr : Option Json → String
  decrypt : Bytes → Bytes → Bytes → Option Bytes

/-- What a session is constructed with, and the values it draws: the server's
identifier, `registry.get` (where a null entry is no entry), `token_bytes` and the
ephemeral key. -/
structure Setup where
  idB : Bytes
  registry : String → Option Json
  challengeB : Bytes
  ephSkB : Bytes

/-- Points of the session's history that its caller cannot see in the attributes:
the signature was verified, `decrypt_data_message` was called. -/
inductive Event where
  | signatureVerified
  | decryptCalled
deriving DecidableEq

/-- The attributes of a session object, the payloads it logged, and its history. -/
structure State where
  keyAb : Option Bytes := none
  nodeLabel : Json := .str "unknown"
  authenticated : Bool := false
  payloads : List Bytes := []
  trail : List Event := []

/-- Session code: it may raise, it updates the attributes, and it uses the socket. -/
abbrev SessionM (α : Type) := ExceptT PyError (StateT State (Process UInt8 NetError)) α

/-- Socket code inside a session. -/
def socket {α : Type} (code : Process UInt8 NetError (Except PyError α)) : SessionM α :=
  ExceptT.mk fun state => code.bind fun outcome => .done (outcome, state)

/-- Code that may only raise. -/
def raising {α : Type} (outcome : Except PyError α) : SessionM α :=
  ExceptT.mk fun state => .done (outcome, state)

/-- A `try` block: its outcome becomes a value. -/
def attempt {α : Type} (code : SessionM α) : SessionM (Except PyError α) :=
  ExceptT.mk fun state => (code.run state).bind fun outcome =>
    .done (.ok outcome.1, outcome.2)

/-- `value.get(key)`. -/
def getField (value : Json) (name : String) : Except PyError (Option Json) :=
  match value with
  | .obj fields => .ok (fields.lookup name)
  | _ => .error .attribute

/-- `value[key]`. -/
def item (value : Json) (name : String) : Except PyError Json :=
  match value with
  | .obj fields =>
    match fields.lookup name with
    | some found => .ok found
    | none => .error (.key name)
  | _ => .error .type

/-- `bytes.fromhex(value)`. -/
def bytesFromhex (value : Json) : Except PyError Bytes :=
  match value with
  | .str text =>
    match fromhex text.toList with
    | some bin => .ok bin
    | none => .error .value
  | _ => .error .type

/-- The server's `hex_to_bin`. -/
def hexToBin (value : Json) (expectedLen : Nat) : Except PyError Bytes := do
  let bin ← bytesFromhex value
  if bin.length ≠ expectedLen then
    .error (.protocol ("expected " ++ toString expectedLen ++ " bytes, got " ++
      toString bin.length))
  else .ok bin

/-- `found == "text"` for the result of a `get`. -/
def isText (found : Option Json) (text : String) : Bool :=
  match found with
  | some (.str value) => value == text
  | _ => false

/-- `_send_error`: a failure to send is swallowed. -/
def sendError (message : String) : SessionM Unit := do
  let _ ← attempt (socket (sendJson [("type", "error"), ("error", message)]))
  pure ()

/-- The two fields of a hello. -/
def readHello (hello : Json) : Except PyError (Bytes × Bytes) := do
  let idA ← item hello "id_a" >>= (hexToBin · rotIdLen)
  let challengeA ← item hello "challenge_a" >>= (hexToBin · challengeLen)
  pure (idA, challengeA)

/-- The fields of a registry entry that the handshake uses, label last. -/
def readEntry (entry : Json) : Except PyError (Entry Bytes × Option Json) := do
  let pkA ← item entry "pk_a" >>= (hexToBin · rotPubkeyLen)
  let shsB ← item entry "shs_b" >>= (hexToBin · rotDigestLen)
  let label ← getField entry "label"
  pure (⟨pkA, shsB⟩, label)

/-- The two fields of a response; the signature has no fixed length. -/
def readResponse (resp : Json) : Except PyError (Bytes × Bytes) := do
  let ephPkA ← item resp "eph_pk_a" >>= (hexToBin · rotPubkeyLen)
  let deviceProof ← item resp "device_proof" >>= bytesFromhex
  pure (ephPkA, deviceProof)

/-- Message 2. -/
def challengeMessage (idB : Bytes) (challenge : Challenge Bytes) : Message :=
  [("type", "challenge"), ("id_b", bytesHex idB),
    ("challenge_b", bytesHex challenge.challengeB), ("eph_pk_b", bytesHex challenge.ephPkB),
    ("server_proof", bytesHex challenge.serverProof)]

/-- Message 4. -/
def ackMessage : Message := [("type", "session_ack")]

/-- `_handshake` from the registry lookup to the challenge message. `none` is its
`return False`. -/
def challengeDevice (runtime : Runtime) (setup : Setup) (idA challengeA : Bytes) :
    SessionM (Option (Challenge Bytes)) :=
  match setup.registry (bytesHex idA) with
  | none => do
    sendError "unknown device id_a"
    pure none
  | some entry => do
    let (keys, label) ← raising (readEntry entry)
    modify fun state => { state with
      nodeLabel := label.getD (.str (String.ofList ((lowerHex idA).take 8))) }
    match answerHello runtime.suite keys idA challengeA setup.challengeB setup.ephSkB with
    | none =>
      sendError "malformed registered public key"
      pure none
    | some challenge =>
      socket (sendJson (challengeMessage setup.idB challenge))
      pure (some challenge)

/-- `_handshake` up to and including the challenge message. -/
def handshakeHello (runtime : Runtime) (setup : Setup) : SessionM (Option (Challenge Bytes)) := do
  let hello ← socket (recvJson runtime.loads)
  let type ← raising (getField hello "type")
  if !isText type "hello" then
    sendError ("expected hello, got: " ++ runtime.pyStr type)
    pure none
  else
    let (idA, challengeA) ← raising (readHello hello)
    challengeDevice runtime setup idA challengeA

/-- `_handshake` from the decoded response on. -/
def acceptDevice (runtime : Runtime) (setup : Setup) (challenge : Challenge Bytes)
    (ephPkA deviceProof : Bytes) : SessionM Bool :=
  match acceptResponse runtime.suite setup.idB challenge ephPkA deviceProof with
  | .error .malformedEphemeral => do
    sendError "malformed ephemeral public key"
    pure false
  | .error .signatureInvalid => do
    sendError "device authentication failed"
    pure false
  | .ok keyAb => do
    modify fun state => { state with
      keyAb := some keyAb
      authenticated := true
      trail := state.trail ++ [.signatureVerified] }
    socket (sendJson ackMessage)
    pure true

/-- The rest of `_handshake`, from the device's response on. -/
def handshakeResponse (runtime : Runtime) (setup : Setup) (challenge : Challenge Bytes) :
    SessionM Bool := do
  let resp ← socket (recvJson runtime.loads)
  let type ← raising (getField resp "type")
  if !isText type "response" then
    sendError ("expected response, got: " ++ runtime.pyStr type)
    pure false
  else
    let (ephPkA, deviceProof) ← raising (readResponse resp)
    acceptDevice runtime setup challenge ephPkA deviceProof

/-- `_handshake`. -/
def handshake (runtime : Runtime) (setup : Setup) : SessionM Bool := do
  match ← handshakeHello runtime setup with
  | none => pure false
  | some challenge => handshakeResponse runtime setup challenge

/-- The three fields of a data message. -/
structure DataFields where
  nonce : Bytes
  ciphertext : Bytes
  tag : Bytes
deriving DecidableEq

/-- Decoding a data message. -/
def readData (msg : Json) : Except PyError DataFields := do
  let nonce ← item msg "nonce" >>= (hexToBin · gcmNonceLen)
  let ciphertext ← item msg "ciphertext" >>= bytesFromhex
  let tag ← item msg "tag" >>= (hexToBin · gcmTagLen)
  pure { nonce, ciphertext, tag }

/-- `decrypt_data_message`. A session without a key has none to decrypt with. -/
def decryptDataMessage (runtime : Runtime) (msg : Json) (keyAb : Option Bytes) :
    Except PyError Bytes := do
  let data ← readData msg
  match keyAb with
  | none => .error .type
  | some key =>
    match runtime.decrypt key data.nonce (data.ciphertext ++ data.tag) with
    | none => .error .invalidTag
    | some plaintext => .ok plaintext

/-- One round of `_data_loop` on a received message. -/
def handleData (runtime : Runtime) (msg : Json) : SessionM Unit := do
  let type ← raising (getField msg "type")
  if !isText type "data" then pure ()
  else
    let state ← get
    set { state with trail := state.trail ++ [Event.decryptCalled] }
    match decryptDataMessage runtime msg state.keyAb with
    | .error _ => sendError "GCM verification failed"
    | .ok plaintext => modify fun current =>
        { current with payloads := current.payloads ++ [plaintext] }

/-- `_data_loop`, cut off after the given number of rounds. -/
def dataLoop (runtime : Runtime) : Nat → SessionM Unit
  | 0 => raising (.error .stillRunning)
  | rounds + 1 => do
    match ← attempt (socket (recvJson runtime.loads)) with
    | .error .connection => pure ()
    | .error .timeout => pure ()
    | .error raised => raising (.error raised)
    | .ok msg => do
      handleData runtime msg
      dataLoop runtime rounds

/-- The exceptions `run` handles: `ConnectionError`, `ProtocolError` and `OSError`,
of which a timeout is one. -/
def handled : PyError → Bool
  | .connection => true
  | .timeout => true
  | .os => true
  | .protocol _ => true
  | _ => false

/-- The body of the `try` in `run`. -/
def runBody (runtime : Runtime) (setup : Setup) (rounds : Nat) : SessionM Bool := do
  let established ← handshake runtime setup
  if !established then pure false
  else
    dataLoop runtime rounds
    pure true

/-- `RotSession.run`. -/
def run (runtime : Runtime) (setup : Setup) (rounds : Nat) : SessionM Bool := do
  match ← attempt (runBody runtime setup rounds) with
  | .ok result => pure result
  | .error raised =>
    if handled raised then do
      let state ← get
      pure state.authenticated
    else raising (.error raised)

/-- A sequence runs its first part, and stops there if it raised. -/
theorem bind_run {α β : Type} (code : SessionM α) (rest : α → SessionM β) (state : State) :
    (code >>= rest).run state = (code.run state).bind fun outcome =>
      match outcome.1 with
      | .ok value => (rest value).run outcome.2
      | .error raised => .done (.error raised, outcome.2) := by
  show (code.run state).bind _ = _
  congr 1
  funext outcome
  rcases outcome with ⟨result | result, after⟩ <;> rfl

/-- The server's hex reader takes back a written field. -/
theorem written_bytesFromhex {fields : List (String × Json)} {name : String} {bin : Bytes}
    (present : fields.lookup name = some (.str (bytesHex bin))) :
    (item (.obj fields) name >>= bytesFromhex) = .ok bin := by
  have decoded : fromhex (bytesHex bin).toList = some bin := by
    rw [bytesHex, String.toList_ofList, fromhex_lowerHex]
  simp [item, present, bytesFromhex, decoded, bind, Except.bind]

/-- The same for a field of a fixed size. -/
theorem written_hexToBin {fields : List (String × Json)} {name : String} {bin : Bytes} {len : Nat}
    (present : fields.lookup name = some (.str (bytesHex bin))) (size : bin.length = len) :
    (item (.obj fields) name >>= (hexToBin · len)) = .ok bin := by
  have decoded : fromhex (bytesHex bin).toList = some bin := by
    rw [bytesHex, String.toList_ofList, fromhex_lowerHex]
  simp [item, present, hexToBin, bytesFromhex, decoded, size,
    bind, Except.bind]

end Microgrid.RotSession
