import Mathlib.Tactic.NormNum
import Microgrid.SecureNode.NodeSession

/-!
# The client's data message

`SecureNodeClient.p4_send` of the PC client, from the sensor text to the message. Between
sides that agree on the session key, the session identifier, the chain head and the
server's identity, the server accepts it and reads the same text back.
-/

namespace Microgrid.SecureNode

open PythonValues Ems HexText

/-- `SecureNodeClient`, with P3 completed. -/
structure SecureNodeClient where
  id : Bytes
  key : Bytes
  peerId : Bytes
  prvBl : Bytes
  sesId : Bytes
  kABEnc : Bytes
  mNum : ℕ
  lastARegBl : Bytes

/-- `smg_normalize`: a length in front and zeros up to a multiple of 64. -/
def smgNormalize (rawData : Bytes) : Except PyException Bytes := do
  let header ← structPack 4 rawData.length
  let payload := header ++ rawData
  pure (payload ++ List.replicate ((64 - payload.length % 64) % 64) 0)

/-- `make_msg_reg`. -/
def makeMsgReg (smgReg tsB : Bytes) (mNum : ℕ) (idA pregBl aRegBl : Bytes) :
    Except PyException Bytes := do
  let mB ← structPack 4 mNum
  packFields [smgReg, tsB, mB, idA, pregBl, aRegBl]

variable (crypto : Primitives)

/-- `p4_send` at the time `ts`. -/
def p4Send (client : SecureNodeClient) (ts : ℕ) (nonce sensorText : Bytes) :
    Except PyException (SecureNodeClient × Message) := do
  let mNum := client.mNum + 1
  let tsB ← structPack 8 ts
  let smgReg ← smgNormalize sensorText
  let regReg ← makeRegReg smgReg tsB mNum client.id client.peerId client.sesId
  let pregBl := hSha256 crypto (client.prvBl ++ hSha256 crypto regReg)
  let aRegBl := hSha256 crypto (pregBl ++ client.key)
  let msgReg ← makeMsgReg smgReg tsB mNum client.id pregBl aRegBl
  let msgCif ← encryptGcm crypto nonce msgReg client.kABEnc
  pure ({ client with mNum := mNum, lastARegBl := aRegBl },
    [("type", .json (.str "dx_msg")), ("MSG_cif", .bytes msgCif), ("ID_A", .bytes client.id),
      ("M_num", .json (.int mNum))])

/-- The two sides hold the same session. -/
structure InStep (client : SecureNodeClient) (session : NodeSession) : Prop where
  head : client.prvBl = session.prvBl
  identifier : client.sesId = session.sesId
  key : client.kABEnc = session.sesKey
  server : client.peerId = session.serverId

/-- Identifiers as short as the registry's and the server's, and a text within a frame. -/
structure Fits (client : SecureNodeClient) (sensorText : Bytes) : Prop where
  id : client.id.length < 256 ^ 2
  peerId : client.peerId.length < 256 ^ 2
  sesId : client.sesId.length < 256 ^ 2
  text : sensorText.length ≤ 65000
  count : client.mNum + 1 < 256 ^ 4

/-- What the normalized text consists of. -/
theorem smgNormalize_ok {rawData smgReg : Bytes} (normalized : smgNormalize rawData = .ok smgReg) :
    ∃ padding : Bytes, rawData.length < 256 ^ 4 ∧ padding.length < 64 ∧
      smgReg = bigEndian 4 rawData.length ++ (rawData ++ padding) := by
  obtain ⟨header, packed, normalized⟩ := bind_ok normalized
  obtain ⟨fits, shape⟩ := structPack_ok packed
  refine ⟨List.replicate ((64 - (header ++ rawData).length % 64) % 64) 0, fits, ?_, ?_⟩
  · rw [List.length_replicate]
    exact Nat.mod_lt _ (by decide)
  · rw [← Except.ok.inj normalized, ← shape, List.append_assoc]

/-- `raw_json`: what stands behind the length of a normalized text. -/
def rawJson (message : Accepted) : Except PyException Bytes := do
  let headerLen ← structUnpack 4 (message.smgReg.take 4)
  pure ((message.smgReg.drop 4).take headerLen)

/-- The raw JSON of a normalized text is the text. -/
theorem rawJson_normalized {rawData : Bytes} {message : Accepted}
    (normalized : smgNormalize rawData = .ok message.smgReg) : rawJson message = .ok rawData := by
  obtain ⟨padding, fits, -, shape⟩ := smgNormalize_ok normalized
  have header : message.smgReg.take 4 = bigEndian 4 rawData.length := by
    rw [shape, List.take_left' (bigEndian_length 4 _)]
  have body : message.smgReg.drop 4 = rawData ++ padding := by
    rw [shape, List.drop_left' (bigEndian_length 4 _)]
  have length : structUnpack 4 (bigEndian 4 rawData.length) = .ok rawData.length :=
    structUnpack_structPack (if_pos fits)
  rw [rawJson]
  simp only [header, length, bind, Except.bind, body, List.take_left]
  rfl

/-- The text is read back from its normalized form. -/
theorem sensorJson_normalized {library : Library} {rawData : Bytes} {message : Accepted}
    (normalized : smgNormalize rawData = .ok message.smgReg) :
    sensorJson library message = library.loads rawData := by
  have parsed : sensorJson library message = rawJson message >>= library.loads := by
    simp only [sensorJson, rawJson, bind_assoc, pure_bind]
  rw [parsed, rawJson_normalized normalized]
  rfl

/-- What `p4_send` has computed when it returns. -/
structure Sending (client sent : SecureNodeClient) (ts : ℕ) (nonce sensorText : Bytes)
    (msg : Message) (smgReg tsB mB regReg msgReg msgCif : Bytes) : Prop where
  time : structPack 8 ts = .ok tsB
  count : structPack 4 (client.mNum + 1) = .ok mB
  normalized : smgNormalize sensorText = .ok smgReg
  made : makeRegReg smgReg tsB (client.mNum + 1) client.id client.peerId client.sesId = .ok regReg
  packed : packFields [smgReg, tsB, mB, client.id,
    hSha256 crypto (client.prvBl ++ hSha256 crypto regReg), sent.lastARegBl] = .ok msgReg
  encrypted : encryptGcm crypto nonce msgReg client.kABEnc = .ok msgCif
  sent : sent = { client with
    mNum := client.mNum + 1
    lastARegBl := hSha256 crypto
      (hSha256 crypto (client.prvBl ++ hSha256 crypto regReg) ++ client.key) }
  msg : msg = [("type", .json (.str "dx_msg")), ("MSG_cif", .bytes msgCif),
    ("ID_A", .bytes client.id), ("M_num", .json (.int (client.mNum + 1 : ℕ)))]

variable {crypto}

/-- What `p4_send` has computed when it returns. -/
theorem p4Send_ok {client sent : SecureNodeClient} {ts : ℕ} {nonce sensorText : Bytes}
    {msg : Message} (sending : p4Send crypto client ts nonce sensorText = .ok (sent, msg)) :
    ∃ smgReg tsB mB regReg msgReg msgCif,
      Sending crypto client sent ts nonce sensorText msg smgReg tsB mB regReg msgReg msgCif := by
  obtain ⟨tsB, time, sending⟩ := bind_ok sending
  obtain ⟨smgReg, normalized, sending⟩ := bind_ok sending
  obtain ⟨regReg, made, sending⟩ := bind_ok sending
  obtain ⟨msgReg, packed, sending⟩ := bind_ok sending
  obtain ⟨mB, count, packed⟩ := bind_ok packed
  obtain ⟨msgCif, encrypted, sending⟩ := bind_ok sending
  obtain ⟨rfl, rfl⟩ := Prod.mk.inj (Except.ok.inj sending)
  exact ⟨smgReg, tsB, mB, regReg, msgReg, msgCif, time, count, normalized, made, packed, encrypted,
    rfl, rfl⟩

/-- The message that `p4_send` returns is a data message. -/
theorem p4Send_kind {client sent : SecureNodeClient} {ts : ℕ} {nonce sensorText : Bytes}
    {msg : Message} (sending : p4Send crypto client ts nonce sensorText = .ok (sent, msg)) :
    msg.lookup "type" = some (.json (.str "dx_msg")) := by
  obtain ⟨smgReg, tsB, mB, regReg, msgReg, msgCif, computed⟩ := p4Send_ok sending
  rw [computed.msg]
  rfl

/-- A text and identifiers that fit make a message. -/
theorem p4Send_fits (lawful : crypto.Lawful) {client : SecureNodeClient} {sensorText : Bytes}
    (fits : Fits client sensorText) {ts : ℕ} (time : ts < 256 ^ 8) {nonce : Bytes}
    (fresh : nonce.length = gcmNonceSize) :
    ∃ sent msg, p4Send crypto client ts nonce sensorText = .ok (sent, msg) := by
  have header : structPack 4 sensorText.length = .ok (bigEndian 4 sensorText.length) := by
    apply if_pos
    have text := fits.text
    omega
  obtain ⟨smgReg, normalized⟩ : ∃ smgReg, smgNormalize sensorText = .ok smgReg := by
    rw [smgNormalize, header]
    exact ⟨_, rfl⟩
  have smgLength : smgReg.length < 256 ^ 2 := by
    obtain ⟨padding, -, padded, shape⟩ := smgNormalize_ok normalized
    rw [shape, List.length_append, bigEndian_length, List.length_append]
    have text := fits.text
    omega
  have tsB : structPack 8 ts = .ok (bigEndian 8 ts) := if_pos time
  have mB : structPack 4 (client.mNum + 1) = .ok (bigEndian 4 (client.mNum + 1)) :=
    if_pos fits.count
  obtain ⟨regReg, regPacked⟩ := packFields_ok
    [smgReg, bigEndian 8 ts, bigEndian 4 (client.mNum + 1), client.id, client.peerId, client.sesId]
    (by simpa using ⟨smgLength, fits.id, fits.peerId, fits.sesId⟩)
  have regMade : makeRegReg smgReg (bigEndian 8 ts) (client.mNum + 1) client.id client.peerId
      client.sesId = .ok regReg := by
    rw [makeRegReg, mB]
    exact regPacked
  set pregBl := hSha256 crypto (client.prvBl ++ hSha256 crypto regReg) with pregNamed
  set aRegBl := hSha256 crypto (pregBl ++ client.key) with aRegNamed
  have pregLength : pregBl.length = 32 := lawful.digest_length _
  have aRegLength : aRegBl.length = 32 := lawful.digest_length _
  obtain ⟨msgReg, msgPacked⟩ := packFields_ok
    [smgReg, bigEndian 8 ts, bigEndian 4 (client.mNum + 1), client.id, pregBl, aRegBl]
    (by simpa [pregLength, aRegLength] using ⟨smgLength, fits.id⟩)
  have msgMade : makeMsgReg smgReg (bigEndian 8 ts) (client.mNum + 1) client.id pregBl aRegBl
      = .ok msgReg := by
    rw [makeMsgReg, mB]
    exact msgPacked
  obtain ⟨msgCif, encrypted, -⟩ := lawful.decrypt_encrypt nonce msgReg client.kABEnc fresh
    (packFields_short msgPacked (by simp))
  rw [p4Send, tsB, normalized]
  simp only [bind, Except.bind, regMade, ← pregNamed, ← aRegNamed, msgMade, encrypted]
  exact ⟨_, _, rfl⟩

/-- The server accepts a message whose fifth field links to its chain head. -/
theorem acceptP4_of_fields {session : NodeSession} {msg : Message}
    {msgCif msgReg smgReg tsB mB idA regReg aRegBl : Bytes} {mNum ts : ℕ}
    (carried : bytesField msg "MSG_cif" = .ok msgCif)
    (decrypted : decryptGcm crypto msgCif session.sesKey = .ok msgReg)
    (parsed : parseTlv 6 msgReg = some [smgReg, tsB, mB, idA,
      hSha256 crypto (session.prvBl ++ hSha256 crypto regReg), aRegBl])
    (count : structUnpack 4 mB = .ok mNum) (clock : structUnpack 8 tsB = .ok ts)
    (made : makeRegReg smgReg tsB mNum idA session.serverId session.sesId = .ok regReg) :
    let pregBl := hSha256 crypto (session.prvBl ++ hSha256 crypto regReg)
    let bRegBl := hSha256 crypto (pregBl ++ session.sesKey)
    let regBl := hSha256 crypto (aRegBl ++ bRegBl)
    acceptP4 crypto session msg = .ok ({ session with
      prvBl := regBl
      mNumExpected := mNum + 1
      chain := session.chain ++
        [⟨session.chain.length + 1, mNum, ts, bytesHex regBl, session.nodeLabel⟩] },
      ⟨smgReg, mNum, bRegBl⟩) := by
  intro pregBl bRegBl regBl
  rw [acceptP4, carried]
  simp only [bind, Except.bind, decrypted, parsed, count, clock, made, ne_eq, not_true_eq_false,
    if_false]
  rfl

/-- Between sides in step, the server accepts what the client sends: it reads back the text,
takes over the client's number, and moves its chain on with the client's contribution. -/
theorem acceptP4_p4Send (lawful : crypto.Lawful) {client sent : SecureNodeClient}
    {session : NodeSession} (inStep : InStep client session) {ts : ℕ} {nonce sensorText : Bytes}
    (fresh : nonce.length = gcmNonceSize) {msg : Message}
    (sending : p4Send crypto client ts nonce sensorText = .ok (sent, msg)) :
    ∃ after message, acceptP4 crypto session msg = .ok (after, message) ∧
      smgNormalize sensorText = .ok message.smgReg ∧ message.mNum = client.mNum + 1 ∧
      after.prvBl = hSha256 crypto (sent.lastARegBl ++ message.bRegBl) := by
  obtain ⟨smgReg, tsB, mB, regReg, msgReg, msgCif, computed⟩ := p4Send_ok sending
  obtain ⟨time, count, normalized, made, packed, encrypted, same, shape⟩ := computed
  have carried : bytesField msg "MSG_cif" = .ok msgCif := by
    rw [shape]
    rfl
  obtain ⟨ciphertext, again, decrypted⟩ := lawful.decrypt_encrypt nonce msgReg client.kABEnc fresh
    (packFields_short packed (by simp))
  obtain rfl := Except.ok.inj (encrypted.symm.trans again)
  have parsed := parseTlv_packFields packed []
  rw [List.append_nil] at parsed
  rw [inStep.key] at decrypted
  rw [inStep.head] at parsed
  rw [inStep.server, inStep.identifier] at made
  have accepted := acceptP4_of_fields carried decrypted parsed (structUnpack_structPack count)
    (structUnpack_structPack time) made
  exact ⟨_, _, accepted, normalized, rfl, rfl⟩

/-- Every text that fits a frame reaches the server in some message of a session, under any
message number. -/
theorem session_accepts {crypto : Primitives} (lawful : crypto.Lawful) (library : Library)
    (session : NodeSession) (serverId : session.serverId.length < 256 ^ 2)
    (sesId : session.sesId.length < 256 ^ 2) {sensorText : Bytes}
    (short : sensorText.length ≤ 65000) {mNum : ℕ} (count : mNum + 1 < 256 ^ 4) :
    ∃ msg after message, msg.lookup "type" = some (.json (.str "dx_msg")) ∧
      acceptP4 crypto session msg = .ok (after, message) ∧
      sensorJson library message = library.loads sensorText ∧ message.mNum = mNum + 1 := by
  let client : SecureNodeClient :=
    ⟨[], [], session.serverId, session.prvBl, session.sesId, session.sesKey, mNum, []⟩
  have id : ([] : Bytes).length < 256 ^ 2 := by decide
  have fits : Fits client sensorText := ⟨id, serverId, sesId, short, count⟩
  have inStep : InStep client session := ⟨rfl, rfl, rfl, rfl⟩
  have fresh : (List.replicate gcmNonceSize (0 : UInt8)).length = gcmNonceSize :=
    List.length_replicate
  obtain ⟨sent, msg, sending⟩ := p4Send_fits lawful fits (by norm_num : 0 < 256 ^ 8) fresh
  obtain ⟨after, message, accepted, normalized, number, -⟩ :=
    acceptP4_p4Send lawful inStep fresh sending
  exact ⟨msg, after, message, p4Send_kind sending, accepted, sensorJson_normalized normalized,
    number⟩

/-- So it is in a session that has just been established. -/
theorem established_accepts {crypto : Primitives} (lawful : crypto.Lawful) (library : Library)
    (nodeLabel : String) {sensorText : Bytes} (short : sensorText.length ≤ 65000) :
    ∃ msg after message, msg.lookup "type" = some (.json (.str "dx_msg")) ∧
      acceptP4 crypto (established [] nodeLabel [] [] []) msg = .ok (after, message) ∧
      sensorJson library message = library.loads sensorText := by
  have none : ([] : Bytes).length < 256 ^ 2 := by decide
  obtain ⟨msg, after, message, kind, accepted, carried, -⟩ := session_accepts lawful library
    (established [] nodeLabel [] [] []) none none short (by norm_num : 0 + 1 < 256 ^ 4)
  exact ⟨msg, after, message, kind, accepted, carried⟩

end Microgrid.SecureNode
