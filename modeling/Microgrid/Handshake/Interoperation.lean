import Microgrid.Handshake.DeviceSession
import Microgrid.Handshake.RotSession

/-!
# The firmware's handshake against the server's

Both programs run over a pair of reliable byte streams, each through its own hex
codec, JSON printer and framing. The two cryptographic libraries are different
ones and appear as two suites; `Interoperable` is what they promise each other.
The JSON parsers are assumed to undo the other side's printer on the messages of
the run and on nothing else.

The run is followed stage by stage: each side is fed the frame it waits for and
stops at the next one. Since neither the schedule nor the cut of the streams
matters, the single run found that way is the outcome of every run.
-/

namespace Microgrid.Interoperation

open Handshake Framing Processes HexText JsonText DeviceSession

/-- P-256, ECDSA and SHA-256 as two libraries implement them: both hash the
concatenated fields, each accepts the other's keys, the server verifies what the
device signs, and the exchange commutes. Private keys are those in the range of
the curve. -/
structure Interoperable (sha256 : Bytes → Bytes) (isPrivate : Bytes → Prop)
    (device server : Suite Bytes) : Prop where
  deviceText : ∀ label, device.text label = utf8 label.toList
  serverText : ∀ label, server.text label = utf8 label.toList
  deviceDigest : ∀ fields, device.sha256 fields = sha256 fields.flatten
  serverDigest : ∀ fields, server.sha256 fields = sha256 fields.flatten
  digestLength : ∀ bytes, (sha256 bytes).length = rotDigestLen
  deviceKey : ∀ sk, isPrivate sk →
    (device.publicKey sk).length = rotPubkeyLen ∧ server.isPoint (device.publicKey sk) = true
  serverKey : ∀ sk, isPrivate sk →
    (server.publicKey sk).length = rotPubkeyLen ∧ device.isPoint (server.publicKey sk) = true
  signature : ∀ sk digest, isPrivate sk → (device.sign sk digest).length ≤ ecdsaMaxLen ∧
    server.verify (device.publicKey sk) digest (device.sign sk digest) = true
  exchange : ∀ skA skB, isPrivate skA → isPrivate skB →
    device.exchange skA (server.publicKey skB) = server.exchange skB (device.publicKey skA)

/-- An enrolled device, the server it is pinned to, and the values both draw for
one handshake. -/
structure Parties (isPrivate : Bytes → Prop) where
  idA : Bytes
  idB : Bytes
  shsB : Bytes
  skA : Bytes
  challengeA : Bytes
  challengeB : Bytes
  ephSkA : Bytes
  ephSkB : Bytes
  idASize : idA.length = rotIdLen
  idBSize : idB.length = rotIdLen
  shsBSize : shsB.length = rotDigestLen
  challengeASize : challengeA.length = challengeLen
  challengeBSize : challengeB.length = challengeLen
  skAPrivate : isPrivate skA
  ephSkAPrivate : isPrivate ephSkA
  ephSkBPrivate : isPrivate ephSkB

namespace Parties

variable {isPrivate : Bytes → Prop} (parties : Parties isPrivate)

/-- The device's side. -/
def device : Device where
  idA := parties.idA
  serverRef := some (parties.idB, parties.shsB)
  skA := some parties.skA
  ephSkA := some parties.ephSkA
  challengeA := parties.challengeA

/-- The server's side. -/
def setup (registry : String → Option Json) : RotSession.Setup where
  idB := parties.idB
  registry := registry
  challengeB := parties.challengeB
  ephSkB := parties.ephSkB

variable (device server : Suite Bytes)

/-- The device's locals when it sends hello. -/
def opening : Opening Bytes :=
  openHandshake device parties.idA parties.idB parties.shsB parties.skA parties.challengeA
    parties.ephSkA

/-- The server's locals when it sends the challenge. -/
def challenge : RotSession.Challenge Bytes where
  idA := parties.idA
  challengeA := parties.challengeA
  pkA := device.publicKey parties.skA
  shsB := parties.shsB
  challengeB := parties.challengeB
  ephSkB := parties.ephSkB
  ephPkB := server.publicKey parties.ephSkB
  serverProof := server.sha256 [parties.shsB, parties.challengeA, server.publicKey parties.ephSkB]

/-- The fields of the server's challenge, signed by the device. -/
def signed : Signed Bytes where
  idBClaimed := parties.idB
  challengeB := parties.challengeB
  ephPkB := server.publicKey parties.ephSkB
  serverProof := (parties.challenge device server).serverProof
  sig := device.sign parties.skA (DeviceSession.msgHash device (parties.opening device) parties.idB
    parties.challengeB (server.publicKey parties.ephSkB)
    (parties.challenge device server).serverProof)

/-- `SHA256(Z || V_B || challenge_A || challenge_B)`. -/
def keyAb (sha256 : Bytes → Bytes) : Bytes :=
  sha256 (device.exchange parties.ephSkA (server.publicKey parties.ephSkB) ++ parties.shsB ++
    parties.challengeA ++ parties.challengeB)

end Parties

/-- Each parser undoes the other side's printer on the messages of one run. -/
structure RoundTrips {isPrivate : Bytes → Prop} (firmware : Firmware)
    (runtime : RotSession.Runtime) (parties : Parties isPrivate) : Prop where
  hello : runtime.loads (cJSON_PrintUnformatted
      (helloMessage (parties.opening firmware.suite))) =
    some (helloMessage (parties.opening firmware.suite)).toJson
  challenge : firmware.parse (dumps (RotSession.challengeMessage parties.idB
      (parties.challenge firmware.suite runtime.suite))) =
    some (RotSession.challengeMessage parties.idB
      (parties.challenge firmware.suite runtime.suite)).toJson
  response : runtime.loads (cJSON_PrintUnformatted
      (responseMessage (parties.opening firmware.suite)
        (parties.signed firmware.suite runtime.suite))) =
    some (responseMessage (parties.opening firmware.suite)
      (parties.signed firmware.suite runtime.suite)).toJson
  ack : firmware.parse (dumps RotSession.ackMessage) = some RotSession.ackMessage.toJson

/-- Feeding device code whose first part finishes goes on with the rest of it. -/
theorem feed_device {α β : Type} {code : DeviceM α} (rest : α → DeviceM β)
    {input sent unread : Bytes} {value : α}
    (finished : code.run.feed input = (.done (some value), sent, unread))
    {process : Process UInt8 NetError (Option β)} {later left : Bytes}
    (next : (rest value).run.feed unread = (process, later, left)) :
    (code >>= rest).run.feed input = (process, sent ++ later, left) := by
  rw [DeviceSession.bind_run, feed_bind_done _ _ _ _ _ _ finished, next]

/-- Feeding session code whose first part finishes goes on with the rest of it. -/
theorem feed_session {α β : Type} {code : RotSession.SessionM α} (rest : α → RotSession.SessionM β)
    {before after : RotSession.State} {input sent unread : Bytes} {value : α}
    (finished : (code.run before).feed input = (.done (.ok value, after), sent, unread))
    {process : Process UInt8 NetError (Except PyError β × RotSession.State)} {later left : Bytes}
    (next : ((rest value).run after).feed unread = (process, later, left)) :
    ((code >>= rest).run before).feed input = (process, sent ++ later, left) := by
  rw [RotSession.bind_run, feed_bind_done _ _ _ _ _ _ finished, next]

/-- The same after a part that sends nothing. -/
theorem feed_session_quiet {α β : Type} {code : RotSession.SessionM α}
    {rest : α → RotSession.SessionM β} {before after : RotSession.State} {input unread : Bytes}
    {value : α} (finished : (code.run before).feed input = (.done (.ok value, after), [], unread))
    {process : Process UInt8 NetError (Except PyError β × RotSession.State)} {later left : Bytes}
    (next : ((rest value).run after).feed unread = (process, later, left)) :
    ((code >>= rest).run before).feed input = (process, later, left) :=
  feed_session rest finished next

/-- A check that succeeds uses no input. -/
theorem feed_checking {α : Type} {outcome : Option α} {value : α} (passed : outcome = some value)
    (input : Bytes) : (checking outcome).run.feed input = (.done (some value), [], input) := by
  subst passed
  rfl

/-- Sending from the device writes one frame. -/
theorem feed_sending (message : Message) (input : Bytes) :
    (sending message).run.feed input =
      (.done (some ()), frame (cJSON_PrintUnformatted message), input) := by
  apply (feed_bind_done _ _ _ _ _ _ (feed_netMsgSend message input)).trans
  simp [Process.feed]

/-- The device receives the message inside a frame it can parse. -/
theorem feed_receiving {firmware : Firmware} {message : Message}
    (parsed : firmware.parse (dumps message) = some message.toJson)
    (small : (dumps message).length ≤ netMsgMaxLen) (rest : Bytes) :
    (receiving firmware).run.feed (frame (dumps message) ++ rest) =
      (.done (some message.toJson), [], rest) := by
  rw [← parsed]
  exact feed_netMsgRecv firmware.parse _ rest (dumps_length message).1 small

/-- Receiving on an empty stream waits for a header. -/
theorem feed_receiving_empty {α : Type} (firmware : Firmware) (rest : Json → DeviceM α) :
    (receiving firmware >>= rest).run.feed [] = ((receiving firmware >>= rest).run, [], []) := by
  rw [DeviceSession.bind_run]
  rfl

/-- Socket code that succeeds leaves the session's attributes alone. -/
theorem feed_socket {α : Type} {code : Process UInt8 NetError (Except PyError α)} {value : α}
    {input sent unread : Bytes} (finished : code.feed input = (.done (.ok value), sent, unread))
    (state : RotSession.State) :
    ((RotSession.socket code).run state).feed input = (.done (.ok value, state), sent, unread) := by
  apply (feed_bind_done _ _ _ _ _ _ finished).trans
  simp [Process.feed]

/-- Code that could raise but does not uses no input. -/
theorem feed_raising {α : Type} {outcome : Except PyError α} (value : α)
    (passed : outcome = .ok value) (state : RotSession.State) (input : Bytes) :
    ((RotSession.raising outcome).run state).feed input = (.done (.ok value, state), [], input) := by
  subst passed
  rfl

/-- Setting attributes uses no input. -/
theorem feed_modify {update : RotSession.State → RotSession.State} {state : RotSession.State}
    {input : Bytes} :
    ((modify update : RotSession.SessionM Unit).run state).feed input =
      (.done (.ok (), update state), [], input) :=
  rfl

/-- The server receives the message inside a frame it can parse. -/
theorem feed_received {runtime : RotSession.Runtime} {message : Message}
    (parsed : runtime.loads (cJSON_PrintUnformatted message) = some message.toJson)
    (small : (cJSON_PrintUnformatted message).length ≤ 65536) (rest : Bytes)
    (state : RotSession.State) :
    ((RotSession.socket (recvJson runtime.loads)).run state).feed
        (frame (cJSON_PrintUnformatted message) ++ rest) =
      (.done (.ok message.toJson, state), [], rest) :=
  feed_socket (feed_recvJson runtime.loads _ rest _ (cJSON_PrintUnformatted_length message).1 small
    parsed) state

/-- Receiving on an empty stream waits for a header. -/
theorem feed_received_empty {α : Type} (runtime : RotSession.Runtime)
    (rest : Json → RotSession.SessionM α) (state : RotSession.State) :
    ((RotSession.socket (recvJson runtime.loads) >>= rest).run state).feed [] =
      ((RotSession.socket (recvJson runtime.loads) >>= rest).run state, [], []) := by
  rw [RotSession.bind_run]
  rfl

/-- The length of a written field, which is the same text on both sides. -/
theorem hex_length {bin : Bytes} {len : Nat} (size : bin.length = len) :
    (binToHex bin).toList.length = 2 * len ∧ (bytesHex bin).toList.length = 2 * len := by
  have written : (binToHex bin).toList.length = 2 * len := by
    rw [binToHex, String.toList_ofList, lowerHex_length, size]
  exact ⟨written, written⟩

/-- The firmware's reader takes back a field of the right size. -/
theorem hexField_bytesHex {fields : List (String × Json)} {name : String} {bin : Bytes} {len : Nat}
    (present : fields.lookup name = some (.str (bytesHex bin))) (size : bin.length = len) :
    hexField (.obj fields) name len = some bin := by
  subst size
  simp only [hexField, getObjectItem, present]
  exact hexToBin_binToHex bin

section Stages

variable {sha256 : Bytes → Bytes} {isPrivate : Bytes → Prop} {firmware : Firmware}
  {runtime : RotSession.Runtime}

/-- Messages of these sizes are within both receivers' limits. -/
theorem device_message_small {message : Message} (few : message.length ≤ 5)
    (short : textLength message ≤ 1300) :
    (cJSON_PrintUnformatted message).length ≤ 65536 := by
  have bound := (cJSON_PrintUnformatted_length message).2
  omega

/-- Messages of these sizes are within both receivers' limits. -/
theorem server_message_small {message : Message} (few : message.length ≤ 5)
    (short : textLength message ≤ 320) : (dumps message).length ≤ netMsgMaxLen := by
  have bound := (dumps_length message).2
  simp only [netMsgMaxLen]
  omega

/-- The device checks the server's challenge against what it pinned, and signs. -/
theorem readChallenge_honest (libraries : Interoperable sha256 isPrivate firmware.suite runtime.suite)
    (parties : Parties isPrivate) :
    readChallenge firmware (parties.opening firmware.suite)
        (RotSession.challengeMessage parties.idB
          (parties.challenge firmware.suite runtime.suite)).toJson =
      some (parties.signed firmware.suite runtime.suite) := by
  obtain ⟨keySize, _⟩ := libraries.serverKey parties.ephSkB parties.ephSkBPrivate
  have proofSize : (parties.challenge firmware.suite runtime.suite).serverProof.length =
      rotDigestLen := by
    simp only [Parties.challenge, libraries.serverDigest, libraries.digestLength]
  have proof : expectedServerProof firmware.suite (parties.opening firmware.suite)
      (runtime.suite.publicKey parties.ephSkB) =
        (parties.challenge firmware.suite runtime.suite).serverProof := by
    simp only [expectedServerProof, Parties.opening, openHandshake, Parties.challenge,
      libraries.deviceDigest, libraries.serverDigest]
  have sigSize : (parties.signed firmware.suite runtime.suite).sig.length ≤ ecdsaMaxLen :=
    (libraries.signature _ _ parties.skAPrivate).1
  let message := (RotSession.challengeMessage parties.idB
    (parties.challenge firmware.suite runtime.suite)).toJson
  have idB : hexField message "id_b" rotIdLen = some parties.idB :=
    hexField_bytesHex rfl parties.idBSize
  have challengeB : hexField message "challenge_b" challengeLen = some parties.challengeB :=
    hexField_bytesHex rfl parties.challengeBSize
  have ephPkB : hexField message "eph_pk_b" rotPubkeyLen =
      some (runtime.suite.publicKey parties.ephSkB) := hexField_bytesHex rfl keySize
  have serverProof : hexField message "server_proof" rotDigestLen =
      some (parties.challenge firmware.suite runtime.suite).serverProof :=
    hexField_bytesHex rfl proofSize
  have checked : checkChallenge firmware.suite (parties.opening firmware.suite) parties.idB
      parties.challengeB (runtime.suite.publicKey parties.ephSkB)
      (parties.challenge firmware.suite runtime.suite).serverProof =
        some (parties.signed firmware.suite runtime.suite) :=
    (checkChallenge_eq_some ..).mpr ⟨rfl, proof.symm, rfl⟩
  simp only [readChallenge, message, idB, challengeB, ephPkB, serverProof,
    Option.bind_eq_bind, Option.bind_some, checked, sigSize, if_true]

/-- The server accepts the device's response, and both keys are the same digest. -/
theorem acceptResponse_honest
    (libraries : Interoperable sha256 isPrivate firmware.suite runtime.suite)
    (parties : Parties isPrivate) :
    RotSession.acceptResponse runtime.suite parties.idB
        (parties.challenge firmware.suite runtime.suite)
        (parties.opening firmware.suite).ephPkA (parties.signed firmware.suite runtime.suite).sig =
      .ok (parties.keyAb firmware.suite runtime.suite sha256) := by
  obtain ⟨_, valid⟩ := libraries.deviceKey parties.ephSkA parties.ephSkAPrivate
  have digest : RotSession.msgHash runtime.suite parties.idB
      (parties.challenge firmware.suite runtime.suite) (parties.opening firmware.suite).ephPkA =
        DeviceSession.msgHash firmware.suite (parties.opening firmware.suite) parties.idB
          parties.challengeB (runtime.suite.publicKey parties.ephSkB)
          (parties.challenge firmware.suite runtime.suite).serverProof := by
    simp only [RotSession.msgHash, DeviceSession.msgHash, RotSession.deviceProofDomainTag,
      DeviceSession.deviceProofDomainTag, Parties.challenge, Parties.opening, openHandshake,
      libraries.deviceText, libraries.serverText, libraries.deviceDigest, libraries.serverDigest]
  have verified := (libraries.signature parties.skA (DeviceSession.msgHash firmware.suite
    (parties.opening firmware.suite) parties.idB parties.challengeB
    (runtime.suite.publicKey parties.ephSkB)
    (parties.challenge firmware.suite runtime.suite).serverProof) parties.skAPrivate).2
  have accepted : runtime.suite.verify (parties.challenge firmware.suite runtime.suite).pkA
      (RotSession.msgHash runtime.suite parties.idB
        (parties.challenge firmware.suite runtime.suite) (parties.opening firmware.suite).ephPkA)
      (parties.signed firmware.suite runtime.suite).sig = true := by
    rw [digest]
    exact verified
  have shared := libraries.exchange _ _ parties.ephSkAPrivate parties.ephSkBPrivate
  have ephemeral : runtime.suite.isPoint (parties.opening firmware.suite).ephPkA = true := valid
  unfold RotSession.acceptResponse
  rw [ephemeral, accepted, libraries.serverDigest]
  simp [Parties.keyAb, Parties.challenge, Parties.opening, openHandshake, shared]

/-- The device derives the same key. -/
theorem finishHandshake_honest
    (libraries : Interoperable sha256 isPrivate firmware.suite runtime.suite)
    (parties : Parties isPrivate) :
    finishHandshake firmware.suite (parties.opening firmware.suite)
        (parties.signed firmware.suite runtime.suite) =
      some (parties.keyAb firmware.suite runtime.suite sha256) := by
  obtain ⟨_, valid⟩ := libraries.serverKey parties.ephSkB parties.ephSkBPrivate
  refine (finishHandshake_eq_some ..).mpr ⟨valid, ?_⟩
  simp [libraries.deviceDigest, Parties.keyAb, Parties.signed, Parties.opening, openHandshake]

/-- The server reads the device's hello. -/
theorem readHello_honest (parties : Parties isPrivate) :
    RotSession.readHello (helloMessage (parties.opening firmware.suite)).toJson =
      .ok (parties.idA, parties.challengeA) := by
  have idA : (RotSession.item (helloMessage (parties.opening firmware.suite)).toJson "id_a" >>=
      (RotSession.hexToBin · rotIdLen)) = .ok parties.idA :=
    RotSession.written_hexToBin rfl parties.idASize
  have challengeA : (RotSession.item (helloMessage (parties.opening firmware.suite)).toJson
      "challenge_a" >>= (RotSession.hexToBin · challengeLen)) = .ok parties.challengeA :=
    RotSession.written_hexToBin rfl parties.challengeASize
  unfold RotSession.readHello
  rw [idA, challengeA]
  rfl

/-- The server reads the registry entry written for the device. -/
theorem readEntry_honest
    (libraries : Interoperable sha256 isPrivate firmware.suite runtime.suite)
    (parties : Parties isPrivate) {fields : List (String × Json)}
    (holdsKey : fields.lookup "pk_a" =
      some (.str (bytesHex (firmware.suite.publicKey parties.skA))))
    (holdsVerifier : fields.lookup "shs_b" = some (.str (bytesHex parties.shsB))) :
    RotSession.readEntry (.obj fields) =
      .ok (⟨firmware.suite.publicKey parties.skA, parties.shsB⟩, fields.lookup "label") := by
  have pkA := RotSession.written_hexToBin holdsKey
    (libraries.deviceKey parties.skA parties.skAPrivate).1
  have shsB := RotSession.written_hexToBin holdsVerifier parties.shsBSize
  unfold RotSession.readEntry
  rw [pkA, shsB]
  rfl

/-- The server reads the device's response. -/
theorem readResponse_honest
    (libraries : Interoperable sha256 isPrivate firmware.suite runtime.suite)
    (parties : Parties isPrivate) :
    RotSession.readResponse (responseMessage (parties.opening firmware.suite)
        (parties.signed firmware.suite runtime.suite)).toJson =
      .ok ((parties.opening firmware.suite).ephPkA,
        (parties.signed firmware.suite runtime.suite).sig) := by
  have ephPkA : (RotSession.item (responseMessage (parties.opening firmware.suite)
      (parties.signed firmware.suite runtime.suite)).toJson "eph_pk_a" >>=
        (RotSession.hexToBin · rotPubkeyLen)) = .ok (parties.opening firmware.suite).ephPkA :=
    RotSession.written_hexToBin rfl (libraries.deviceKey parties.ephSkA parties.ephSkAPrivate).1
  have deviceProof : (RotSession.item (responseMessage (parties.opening firmware.suite)
      (parties.signed firmware.suite runtime.suite)).toJson "device_proof" >>=
        RotSession.bytesFromhex) = .ok (parties.signed firmware.suite runtime.suite).sig :=
    RotSession.written_bytesFromhex rfl
  unfold RotSession.readResponse
  rw [ephPkA, deviceProof]
  rfl

/-- Stage 1: the device opens with its hello and waits. -/
theorem feed_rotSessionHandshake (parties : Parties isPrivate) :
    (rotSessionHandshake firmware parties.device).run.feed [] =
      ((awaitChallenge firmware (parties.opening firmware.suite)).run,
        frame (cJSON_PrintUnformatted (helloMessage (parties.opening firmware.suite))), []) := by
  have prepared : prepare firmware parties.device = some (parties.opening firmware.suite) := rfl
  have waits : (awaitChallenge firmware (parties.opening firmware.suite)).run.feed [] =
      ((awaitChallenge firmware (parties.opening firmware.suite)).run, [], []) :=
    feed_receiving_empty firmware _
  have hello := feed_device
    (fun _ => awaitChallenge firmware (parties.opening firmware.suite))
    (feed_sending (helloMessage (parties.opening firmware.suite)) []) waits
  rw [List.append_nil] at hello
  exact feed_device _ (feed_checking prepared []) hello

/-- Stage 2: the server answers a hello with its challenge. -/
theorem feed_handshakeHello
    (libraries : Interoperable sha256 isPrivate firmware.suite runtime.suite)
    (parties : Parties isPrivate) (printed : RoundTrips firmware runtime parties)
    {registry : String → Option Json} {fields : List (String × Json)}
    (registered : registry (bytesHex parties.idA) = some (.obj fields))
    (holdsKey : fields.lookup "pk_a" =
      some (.str (bytesHex (firmware.suite.publicKey parties.skA))))
    (holdsVerifier : fields.lookup "shs_b" = some (.str (bytesHex parties.shsB)))
    (before : RotSession.State) :
    ∃ label, ((RotSession.handshakeHello runtime (parties.setup registry)).run before).feed
        (frame (cJSON_PrintUnformatted (helloMessage (parties.opening firmware.suite)))) =
      (.done (.ok (some (parties.challenge firmware.suite runtime.suite)),
        { before with nodeLabel := label }),
        frame (dumps (RotSession.challengeMessage parties.idB
          (parties.challenge firmware.suite runtime.suite))), []) := by
  have short : textLength (helloMessage (parties.opening firmware.suite)) ≤ 1300 := by
    have idA := (hex_length parties.idASize).1
    have challengeA := (hex_length parties.challengeASize).1
    simp only [textLength, helloMessage, Parties.opening, openHandshake, List.map_cons,
      List.map_nil, List.sum_cons, List.sum_nil, idA, challengeA]
    decide
  have received := feed_received printed.hello
    (device_message_small (show 3 ≤ 5 by omega) short) [] before
  rw [List.append_nil] at received
  have answered : RotSession.answerHello runtime.suite
      ⟨firmware.suite.publicKey parties.skA, parties.shsB⟩ parties.idA parties.challengeA
      parties.challengeB parties.ephSkB = some (parties.challenge firmware.suite runtime.suite) := by
    rw [RotSession.answerHello, (libraries.deviceKey _ parties.skAPrivate).2]
    rfl
  refine ⟨(fields.lookup "label").getD
    (.str (String.ofList ((lowerHex parties.idA).take 8))), ?_⟩
  refine feed_session_quiet received (feed_session_quiet
    (feed_raising (some (Json.str "hello")) rfl before []) ?_)
  rw [if_neg (by decide)]
  apply feed_session_quiet (feed_raising _ (readHello_honest parties) before [])
  simp only [RotSession.challengeDevice, Parties.setup, registered]
  refine feed_session_quiet (feed_raising _
    (readEntry_honest libraries parties holdsKey holdsVerifier) before []) ?_
  rw [answered]
  have sent (state : RotSession.State) := feed_session
    (fun _ => pure (some (parties.challenge firmware.suite runtime.suite)))
    (feed_socket (feed_sendJson (RotSession.challengeMessage parties.idB
      (parties.challenge firmware.suite runtime.suite)) []) state) rfl
  simp only [List.append_nil] at sent
  exact feed_session_quiet feed_modify (sent _)

/-- Stage 3: the device answers the challenge with its signature and waits. -/
theorem feed_awaitChallenge
    (libraries : Interoperable sha256 isPrivate firmware.suite runtime.suite)
    (parties : Parties isPrivate) (printed : RoundTrips firmware runtime parties) :
    (awaitChallenge firmware (parties.opening firmware.suite)).run.feed
        (frame (dumps (RotSession.challengeMessage parties.idB
          (parties.challenge firmware.suite runtime.suite)))) =
      ((awaitAck firmware (parties.opening firmware.suite)
          (parties.signed firmware.suite runtime.suite)).run,
        frame (cJSON_PrintUnformatted (responseMessage (parties.opening firmware.suite)
          (parties.signed firmware.suite runtime.suite))), []) := by
  have short : textLength (RotSession.challengeMessage parties.idB
      (parties.challenge firmware.suite runtime.suite)) ≤ 320 := by
    have idB := (hex_length parties.idBSize).2
    have challengeB := (hex_length parties.challengeBSize).2
    have ephPkB := (hex_length (libraries.serverKey _ parties.ephSkBPrivate).1).2
    have digestSize : (runtime.suite.sha256 [parties.shsB, parties.challengeA,
        runtime.suite.publicKey parties.ephSkB]).length = rotDigestLen := by
      rw [libraries.serverDigest, libraries.digestLength]
    have serverProof := (hex_length digestSize).2
    simp only [textLength, RotSession.challengeMessage, Parties.challenge, List.map_cons,
      List.map_nil, List.sum_cons, List.sum_nil, idB, challengeB, ephPkB, serverProof]
    decide
  have received := feed_receiving printed.challenge (server_message_small (show 5 ≤ 5 by omega)
    short) []
  rw [List.append_nil] at received
  have waits : (awaitAck firmware (parties.opening firmware.suite)
      (parties.signed firmware.suite runtime.suite)).run.feed [] =
        ((awaitAck firmware (parties.opening firmware.suite)
          (parties.signed firmware.suite runtime.suite)).run, [], []) :=
    feed_receiving_empty firmware _
  have responded := feed_device
    (fun _ => awaitAck firmware (parties.opening firmware.suite)
      (parties.signed firmware.suite runtime.suite))
    (feed_sending (responseMessage (parties.opening firmware.suite)
      (parties.signed firmware.suite runtime.suite)) []) waits
  rw [List.append_nil] at responded
  exact feed_device _ received
    (feed_device _ (feed_checking (readChallenge_honest libraries parties) []) responded)

/-- Stage 4: the server verifies the response, derives the key and acknowledges. -/
theorem feed_handshakeResponse
    (libraries : Interoperable sha256 isPrivate firmware.suite runtime.suite)
    (parties : Parties isPrivate) (printed : RoundTrips firmware runtime parties)
    (registry : String → Option Json) (before : RotSession.State) :
    ((RotSession.handshakeResponse runtime (parties.setup registry)
        (parties.challenge firmware.suite runtime.suite)).run before).feed
        (frame (cJSON_PrintUnformatted (responseMessage (parties.opening firmware.suite)
          (parties.signed firmware.suite runtime.suite)))) =
      (.done (.ok true, { before with
          keyAb := some (parties.keyAb firmware.suite runtime.suite sha256)
          authenticated := true
          trail := before.trail ++ [.signatureVerified] }),
        frame (dumps RotSession.ackMessage), []) := by
  have short : textLength (responseMessage (parties.opening firmware.suite)
      (parties.signed firmware.suite runtime.suite)) ≤ 1300 := by
    have ephPkA := (hex_length (libraries.deviceKey _ parties.ephSkAPrivate).1).1
    have sigSize : (parties.signed firmware.suite runtime.suite).sig.length ≤ ecdsaMaxLen :=
      (libraries.signature _ _ parties.skAPrivate).1
    have sig := (hex_length (rfl :
      (parties.signed firmware.suite runtime.suite).sig.length = _)).1
    have keys : "type".toList.length + "response".toList.length +
        ("eph_pk_a".toList.length + 2 * rotPubkeyLen + ("device_proof".toList.length +
          2 * ecdsaMaxLen)) ≤ 1300 := by decide
    simp only [textLength, responseMessage, Parties.opening, openHandshake, List.map_cons,
      List.map_nil, List.sum_cons, List.sum_nil, ephPkA, sig]
    omega
  have received := feed_received printed.response
    (device_message_small (show 3 ≤ 5 by omega) short) [] before
  rw [List.append_nil] at received
  refine feed_session_quiet received (feed_session_quiet
    (feed_raising (some (Json.str "response")) rfl before []) ?_)
  rw [if_neg (by decide)]
  apply feed_session_quiet (feed_raising _ (readResponse_honest libraries parties) before [])
  simp only [RotSession.acceptDevice, Parties.setup, acceptResponse_honest libraries parties]
  have acknowledged (state : RotSession.State) := feed_session (fun _ => pure true)
    (feed_socket (feed_sendJson RotSession.ackMessage []) state) rfl
  simp only [List.append_nil] at acknowledged
  exact feed_session_quiet feed_modify (acknowledged _)

/-- Stage 5: the device takes the acknowledgement and derives the key. -/
theorem feed_awaitAck
    (libraries : Interoperable sha256 isPrivate firmware.suite runtime.suite)
    (parties : Parties isPrivate) (printed : RoundTrips firmware runtime parties) :
    (awaitAck firmware (parties.opening firmware.suite)
        (parties.signed firmware.suite runtime.suite)).run.feed
        (frame (dumps RotSession.ackMessage)) =
      (.done (some (parties.keyAb firmware.suite runtime.suite sha256)), [], []) := by
  have received := feed_receiving printed.ack (server_message_small (show 1 ≤ 5 by omega)
    (show textLength RotSession.ackMessage ≤ 320 by decide)) []
  rw [List.append_nil] at received
  have acked : (if isAck RotSession.ackMessage.toJson then some () else none) = some () := by
    decide
  exact feed_device _ received (feed_device _ (feed_checking acked [])
    (feed_checking (finishHandshake_honest libraries parties) []))

/-- One schedule that lets the two sides alternate. -/
theorem handshake_reaches
    (libraries : Interoperable sha256 isPrivate firmware.suite runtime.suite)
    (parties : Parties isPrivate) (printed : RoundTrips firmware runtime parties)
    {registry : String → Option Json} {fields : List (String × Json)}
    (registered : registry (bytesHex parties.idA) = some (.obj fields))
    (holdsKey : fields.lookup "pk_a" =
      some (.str (bytesHex (firmware.suite.publicKey parties.skA))))
    (holdsVerifier : fields.lookup "shs_b" = some (.str (bytesHex parties.shsB)))
    (before : RotSession.State) :
    ∃ label, Relation.ReflTransGen (Exchange (Reads recvAll) (Reads recvExact))
      ⟨(rotSessionHandshake firmware parties.device).run,
        (RotSession.handshake runtime (parties.setup registry)).run before, [], []⟩
      ⟨.done (some (parties.keyAb firmware.suite runtime.suite sha256)),
        .done (.ok true, { before with
          nodeLabel := label
          keyAb := some (parties.keyAb firmware.suite runtime.suite sha256)
          authenticated := true
          trail := before.trail ++ [.signatureVerified] }), [], []⟩ := by
  obtain ⟨label, hello⟩ := feed_handshakeHello libraries parties printed registered holdsKey
    holdsVerifier before
  have waits (state : RotSession.State) : ((RotSession.handshakeResponse runtime
      (parties.setup registry) (parties.challenge firmware.suite runtime.suite)).run state).feed
        [] = ((RotSession.handshakeResponse runtime (parties.setup registry)
          (parties.challenge firmware.suite runtime.suite)).run state, [], []) :=
    feed_received_empty runtime _ state
  have challenged : ((RotSession.handshake runtime (parties.setup registry)).run before).feed
      (frame (cJSON_PrintUnformatted (helloMessage (parties.opening firmware.suite)))) =
        ((RotSession.handshakeResponse runtime (parties.setup registry)
          (parties.challenge firmware.suite runtime.suite)).run { before with nodeLabel := label },
          frame (dumps (RotSession.challengeMessage parties.idB
            (parties.challenge firmware.suite runtime.suite))) ++ [], []) :=
    feed_session _ hello (waits _)
  rw [List.append_nil] at challenged
  have opened := left_feeds (Reads recvExact) recvAll_exact
    (@feed_rotSessionHandshake _ firmware parties)
    ((RotSession.handshake runtime (parties.setup registry)).run before) []
  have answered := right_feeds (Reads recvAll) recvExact_exact challenged
    (awaitChallenge firmware (parties.opening firmware.suite)).run []
  have responded := left_feeds (Reads recvExact) recvAll_exact
    (feed_awaitChallenge libraries parties printed)
    ((RotSession.handshakeResponse runtime (parties.setup registry)
      (parties.challenge firmware.suite runtime.suite)).run { before with nodeLabel := label }) []
  have verified := right_feeds (Reads recvAll) recvExact_exact
    (feed_handshakeResponse libraries parties printed registry { before with nodeLabel := label })
    (awaitAck firmware (parties.opening firmware.suite)
      (parties.signed firmware.suite runtime.suite)).run []
  have finished := left_feeds (β := Except PyError Bool × RotSession.State)
    (Reads recvExact) recvAll_exact (feed_awaitAck libraries parties printed)
  exact ⟨label, opened.trans (answered.trans (responded.trans (verified.trans (finished _ []))))⟩

/-- The two implementations interoperate. However the scheduler interleaves them
and however the streams are cut, the device returns `true`, the server's
`_handshake` returns `True`, and both hold the digest of the shared coordinate,
the verifier and the two challenges. -/
theorem handshake_interoperates
    (libraries : Interoperable sha256 isPrivate firmware.suite runtime.suite)
    (parties : Parties isPrivate) (printed : RoundTrips firmware runtime parties)
    (registry : String → Option Json) (fields : List (String × Json))
    (registered : registry (bytesHex parties.idA) = some (.obj fields))
    (holdsKey : fields.lookup "pk_a" =
      some (.str (bytesHex (firmware.suite.publicKey parties.skA))))
    (holdsVerifier : fields.lookup "shs_b" = some (.str (bytesHex parties.shsB))) :
    Inevitable (Exchange (Reads recvAll) (Reads recvExact))
      (fun final => ∃ session : RotSession.State,
        final.left = .done (some (parties.keyAb firmware.suite runtime.suite sha256)) ∧
        final.right = .done (.ok true, session) ∧ session.authenticated = true ∧
        session.keyAb = some (parties.keyAb firmware.suite runtime.suite sha256))
      ⟨(rotSessionHandshake firmware parties.device).run,
        (RotSession.handshake runtime (parties.setup registry)).run {}, [], []⟩ := by
  obtain ⟨label, reached⟩ := handshake_reaches libraries parties printed registered holdsKey
    holdsVerifier {}
  refine inevitable_mono ?_ (inevitable_of_reaches recvAll_exact recvExact_exact reached ?_)
  · rintro final rfl
    exact ⟨_, rfl, rfl, rfl, rfl⟩
  · intro next step
    cases step

end Stages

/-! ### A small pair of libraries -/

namespace Sample

/-- The first 32 bytes, padded. -/
def sha256 (bytes : Bytes) : Bytes := (bytes ++ List.replicate 32 0).take 32

/-- Keys are 32 bytes, points repeat them, and the shared coordinate is their
bitwise difference. -/
def suite : Suite Bytes where
  text label := utf8 label.toList
  sha256 fields := sha256 fields.flatten
  isPoint point := point.length == rotPubkeyLen
  publicKey sk := 4 :: sk ++ sk
  sign sk digest := sha256 (4 :: sk ++ sk ++ digest)
  verify point digest sig := sig == sha256 (point ++ digest)
  exchange sk point := List.zipWith (· ^^^ ·) sk ((point.drop 1).take 32)

/-- The sample libraries keep the promises. -/
theorem interoperable : Interoperable sha256 (·.length = 32) suite suite where
  deviceText _ := rfl
  serverText _ := rfl
  deviceDigest _ := rfl
  serverDigest _ := rfl
  digestLength bytes := by simp [sha256, rotDigestLen]
  deviceKey sk size := by simp [suite, rotPubkeyLen, size]
  serverKey sk size := by simp [suite, rotPubkeyLen, size]
  signature sk digest size := by
    refine ⟨?_, by simp [suite]⟩
    simp only [suite, sha256, ecdsaMaxLen, List.length_take]
    omega
  exchange skA skB sizeA sizeB := by
    have left : ((4 :: skB ++ skB).drop 1).take 32 = skB := by simp [← sizeB]
    have right : ((4 :: skA ++ skA).drop 1).take 32 = skA := by simp [← sizeA]
    simp only [suite, left, right]
    exact List.zipWith_comm_of_comm (fun one other => UInt8.xor_comm one other)

/-- One device and one server. -/
def parties : Parties (·.length = 32) where
  idA := List.replicate rotIdLen 1
  idB := List.replicate rotIdLen 2
  shsB := List.replicate rotDigestLen 3
  skA := List.replicate 32 4
  challengeA := List.replicate challengeLen 5
  challengeB := List.replicate challengeLen 6
  ephSkA := List.replicate 32 7
  ephSkB := List.replicate 32 8
  idASize := by simp
  idBSize := by simp
  shsBSize := by simp
  challengeASize := by simp
  challengeBSize := by simp
  skAPrivate := by simp
  ephSkAPrivate := by simp
  ephSkBPrivate := by simp

/-- A parser that knows the printed texts of two messages. -/
def parser (print : Message → Bytes) (one other : Message) (body : Bytes) : Option Json :=
  if body = print one then some one.toJson
  else if body = print other then some other.toJson
  else none

/-- The parser knows the first message. -/
theorem parser_one (print : Message → Bytes) (one other : Message) :
    parser print one other (print one) = some one.toJson := if_pos rfl

/-- The parser knows the second message, when it prints differently. -/
theorem parser_other {print : Message → Bytes} {one other : Message}
    (distinct : print other ≠ print one) :
    parser print one other (print other) = some other.toJson :=
  (if_neg distinct).trans (if_pos rfl)

/-- The device's libraries. -/
def firmware : Firmware where
  suite := suite
  parse := parser dumps (RotSession.challengeMessage parties.idB (parties.challenge suite suite))
    RotSession.ackMessage

/-- The server's libraries. -/
def runtime : RotSession.Runtime where
  suite := suite
  loads := parser cJSON_PrintUnformatted (helloMessage (parties.opening suite))
    (responseMessage (parties.opening suite) (parties.signed suite suite))
  pyStr _ := ""
  decrypt _ _ _ := none

/-- The device's registry entry. -/
def entry : List (String × Json) :=
  [("pk_a", .str (bytesHex (suite.publicKey parties.skA))), ("shs_b", .str (bytesHex parties.shsB)),
    ("label", .str "SMG_NODE_01")]

/-- A registry of one device. -/
def registry (idA : String) : Option Json :=
  if idA = bytesHex parties.idA then some (.obj entry) else none

/-- The two device messages print differently, and so do the two server messages. -/
theorem prints_differ :
    cJSON_PrintUnformatted (responseMessage (parties.opening suite)
        (parties.signed suite suite)) ≠
      cJSON_PrintUnformatted (helloMessage (parties.opening suite)) ∧
    dumps RotSession.ackMessage ≠
      dumps (RotSession.challengeMessage parties.idB (parties.challenge suite suite)) := by
  decide +kernel

theorem firmware_parse : firmware.parse = parser dumps
    (RotSession.challengeMessage parties.idB (parties.challenge suite suite))
    RotSession.ackMessage := rfl

theorem runtime_loads : runtime.loads = parser cJSON_PrintUnformatted
    (helloMessage (parties.opening suite))
    (responseMessage (parties.opening suite) (parties.signed suite suite)) := rfl

/-- The sample parsers undo the printers on the sample run. -/
theorem roundTrips : RoundTrips firmware runtime parties where
  hello := by
    rw [runtime_loads, show firmware.suite = suite from rfl, parser_one]
  challenge := by
    rw [firmware_parse, show firmware.suite = suite from rfl, show runtime.suite = suite from rfl,
      parser_one]
  response := by
    rw [runtime_loads, show firmware.suite = suite from rfl, show runtime.suite = suite from rfl,
      parser_other prints_differ.1]
  ack := by
    rw [firmware_parse, parser_other prints_differ.2]

end Sample

/-- The sample device and server agree on a key. -/
theorem sample_interoperates :
    Inevitable (Exchange (Reads recvAll) (Reads recvExact))
      (fun final => ∃ session : RotSession.State,
        final.left = .done (some (Sample.parties.keyAb Sample.suite Sample.suite Sample.sha256)) ∧
        final.right = .done (.ok true, session) ∧ session.authenticated = true ∧
        session.keyAb = some (Sample.parties.keyAb Sample.suite Sample.suite Sample.sha256))
      ⟨(rotSessionHandshake Sample.firmware Sample.parties.device).run,
        (RotSession.handshake Sample.runtime (Sample.parties.setup Sample.registry)).run {},
        [], []⟩ :=
  @handshake_interoperates _ _ Sample.firmware Sample.runtime
    Sample.interoperable Sample.parties Sample.roundTrips Sample.registry Sample.entry (if_pos rfl)
    rfl rfl

end Microgrid.Interoperation
