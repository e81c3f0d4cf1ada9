import Mathlib.Data.Nat.Digits.Defs
import Microgrid.SecureNode.SessionSetup

/-!
# A client and the server in conversation

The P4 loop of `run_client` against `_run_data_loop`, over a channel that loses nothing and on which
everything arrives before a timeout. In an exchange the client sends one text, the server answers,
and the client reads until it finds something other than a `setpoint`. What the server sends behind
its answer stays unread until the next exchange.

An exchange returns nothing where either side would raise, or where the client would wait in
vain. Two sides that have completed P3 never get there: as long as the session is active every
text within a frame is accepted, and the two chains have the same head.
-/

namespace Microgrid.SecureNode

open PythonValues Ems HexText JsonText LabelledRuns

/-- The client, the server, and the frames that the client has not read. -/
structure Conversation where
  client : SecureNodeClient
  server : LoopState
  unread : List Frame

/-- What one exchange is about, and what it meets: the payload and the time of the message,
the nonces of both sides, and what the server's other threads have left. -/
structure Turn where
  sensorJson : Bytes
  ts : ℕ
  nonce : Urandom gcmNonceSize
  resNonce : Urandom gcmNonceSize
  store : DataStore
  setpoint : Option PyFloat
  now : ℚ

/-- The turn as the server's loop meets it. -/
def Turn.reception (turn : Turn) (msg : Message) : Reception :=
  ⟨msg, turn.store, turn.setpoint, turn.now, ⟨turn.resNonce.val, none, none, false⟩⟩

/-- The two sides when P3 has completed. -/
def Conversation.start (client : SecureNodeClient) (session : NodeSession) : Conversation :=
  ⟨client, .start session, []⟩

/-- The `logout_res` of `_handle_p5`. -/
def logoutRes (bEndCif : Bytes) : Message :=
  [("type", .json (.str "logout_res")), ("B_END_cif", .bytes bEndCif)]

/-- The client's `recv_msg`, again after every `setpoint`. -/
def readResponse : List Frame → Except PyException (Message × List Frame)
  | [] => .error .timeout
  | frame :: frames => do
    let msg ← recvMsg clientLimit frame
    if msgType msg = some "setpoint" then readResponse frames else pure (msg, frames)

section Exchanges

variable (crypto : Primitives) (library : Library) (floatText : PyFloat → List Char)

/-- What the server sends in one turn of its loop. -/
def LoopState.sends (state : LoopState) (reception : Reception) : List Message :=
  if msgType reception.msg = some "dx_msg" then
    (handleP4 crypto library state.session reception.store reception.setpoint reception.now
      reception.delivery reception.msg).2.2
  else if msgType reception.msg = some "logout_req" then
    match answerLogout crypto reception.delivery.nonce state.session reception.msg,
        reception.delivery.resFails with
    | .ok bEndCif, none => [logoutRes bEndCif]
    | _, _ => []
  else []

/-- `p4_finalize` on a message. -/
def SecureNodeClient.finalize (client : SecureNodeClient) (msg : Message) :
    Except PyException SecureNodeClient := do
  let resCif ← bytesField msg "RES_cif"
  let node ← (Operations.bytes crypto).p4Finalize client.initiator resCif
  pure { client with prvBl := node.prvBl }

/-- One round of the client's P4 loop. -/
def Conversation.exchange (state : Conversation) (turn : Turn) : Except PyException Conversation := do
  let (client, msg) ← p4Send crypto state.client turn.ts turn.nonce.val turn.sensorJson
  let frame ← packPayload floatText msg
  if state.server.receiving = false then throw .connection
  else
    let received ← recvMsg serverLimit frame
    let reception := turn.reception received
    let frames ← (state.server.sends crypto library reception).mapM (packPayload floatText)
    let (res, unread) ← readResponse (state.unread ++ frames)
    refuseError "P4 error: " "None" res
    let client ← client.finalize crypto res
    pure ⟨client, state.server.receive crypto library reception, unread⟩

/-- An exchange that completes. -/
def ExchangeStep (state : Conversation) (turn : Turn) (after : Conversation) : Prop :=
  state.exchange crypto library floatText turn = .ok after

/-- The client has a message for the turn, and its frame is within the server's limit. -/
def FrameFits (state : Conversation) (turn : Turn) : Prop :=
  ∃ client msg frame, p4Send crypto state.client turn.ts turn.nonce.val turn.sensorJson
      = .ok (client, msg) ∧ packPayload floatText msg = .ok frame ∧ frame.length ≤ serverLimit

/-- The server accepts the message of a turn, and the raw JSON is the payload. -/
def Accepts (state : Conversation) (turn : Turn) : Prop :=
  ∃ client msg accepted message, p4Send crypto state.client turn.ts turn.nonce.val turn.sensorJson
      = .ok (client, msg) ∧ acceptP4 crypto state.server.session msg = .ok (accepted, message) ∧
      rawJson message = .ok turn.sensorJson

end Exchanges

section Responses

variable {crypto : Primitives} {library : Library} {floatText : PyFloat → List Char}

/-- The check of a reading leaves what enters the chain alone. -/
theorem judgeReading_responder (session : NodeSession) (store : DataStore) (message : Accepted) :
    (judgeReading library session store message).1.responder = session.responder := by
  obtain ⟨trustScore, anomalies, metrics, shape⟩ := judgeReading_shape session store message
  rw [shape]
  rfl

/-- So does the end of an exchange, which closes the session only for lack of trust. -/
theorem finishP4_responder (session : NodeSession) :
    (finishP4 session).responder = session.responder ∧
      (session.sessionActive = true → (finishP4 session).sessionActive = false →
        (finishP4 session).trustScore < trustDropThreshold) := by
  by_cases low : session.trustScore < trustDropThreshold
  · rw [finishP4, if_pos low]
    exact ⟨rfl, fun _ _ => low⟩
  · rw [finishP4, if_neg low]
    exact ⟨rfl, fun active inactive => absurd (active.symm.trans inactive) Bool.noConfusion⟩

/-- What the server sends when it accepts a message and its sends get through. -/
theorem sends_answered {state : LoopState} {reception : Reception} {accepted : NodeSession}
    {message : Accepted} {messages : List Message} (kind : msgType reception.msg = some "dx_msg")
    (passed : acceptP4 crypto state.session reception.msg = .ok (accepted, message))
    (answers : respondP4 crypto (judgeReading library accepted reception.store message).1
      reception.setpoint message reception.delivery = (messages, .ok ())) :
    state.sends crypto library reception = messages := by
  rw [LoopState.sends, if_pos kind]
  dsimp only [handleP4]
  rw [passed]
  dsimp only
  rw [answers]

/-- What the server does with the message of a client in step: it accepts it, sends the
response and the setpoint if there is one, and its chain moves on. -/
structure Serves (crypto : Primitives) (library : Library) (client sent : SecureNodeClient)
    (state : LoopState) (turn : Turn) (msg : Message) (accepted : NodeSession) (message : Accepted)
    (resCif : Bytes) (after : LoopState) : Prop where
  accepts : acceptP4 crypto state.session msg = .ok (accepted, message)
  raw : rawJson message = .ok turn.sensorJson
  sends : state.sends crypto library (turn.reception msg)
    = dxRes resCif (client.mNum + 1) :: (turn.setpoint.map setpointMsg).toList
  decrypts : decryptGcm crypto resCif client.kABEnc = .ok message.bRegBl
  size : resCif.length = 60
  turns : state.receive crypto library (turn.reception msg) = after
  responder : after.session.responder = ⟨client.peerId,
    hSha256 crypto (sent.lastARegBl ++ message.bRegBl), client.sesId, client.kABEnc⟩
  receives : after.receiving = after.session.sessionActive
  drops : after.session.sessionActive = false → after.session.trustScore < trustDropThreshold

/-- An active session serves a client that is in step with it. -/
theorem exists_serves (lawful : crypto.Lawful) (library : Library) {client sent : SecureNodeClient}
    {state : LoopState} (inStep : InStep client state.session)
    (active : state.session.sessionActive = true) {turn : Turn} {msg : Message}
    (sending : p4Send crypto client turn.ts turn.nonce.val turn.sensorJson = .ok (sent, msg)) :
    ∃ accepted message resCif after,
      Serves crypto library client sent state turn msg accepted message resCif after := by
  obtain ⟨accepted, message, accepts, normalized, number, chained⟩ :=
    acceptP4_p4Send lawful inStep turn.nonce.property sending
  obtain ⟨regBl, ts, data, shape, digest⟩ := acceptP4_ok accepts
  set judged := (judgeReading library accepted turn.store message).1 with judgedNamed
  have judgedResponder : judged.responder = accepted.responder := judgeReading_responder _ _ _
  have sesKey : judged.sesKey = client.kABEnc := by
    have kept : judged.sesKey = accepted.sesKey := congrArg Responder.sesKey judgedResponder
    rw [kept, inStep.key, shape]
  have bRegLength : message.bRegBl.length = 32 := digest ▸ lawful.digest_length data
  have short : message.bRegBl.length < 2 ^ 31 := by
    rw [bRegLength]
    decide
  obtain ⟨resCif, encrypted, decrypts, size⟩ :=
    @Primitives.Lawful.sealed crypto lawful turn.resNonce message.bRegBl short client.kABEnc
  have kind : msgType msg = some "dx_msg" := by
    rw [msgType, p4Send_kind sending]
  have answers : respondP4 crypto judged turn.setpoint message ⟨turn.resNonce.val, none, none, false⟩
      = (dxRes resCif (client.mNum + 1) :: (turn.setpoint.map setpointMsg).toList, .ok ()) := by
    rw [respondP4, sesKey, encrypted, number]
    cases turn.setpoint <;> rfl
  have finished : (state.receive crypto library (turn.reception msg)).session = finishP4 judged :=
    receive_answered kind accepts (congrArg Prod.snd answers)
  refine ⟨accepted, message, resCif, _, accepts, rawJson_normalized normalized,
    sends_answered kind accepts answers, decrypts, ?_, rfl, ?_, receive_receiving kind, ?_⟩
  · rw [size, bRegLength]
    rfl
  · rw [finished, (finishP4_responder judged).1, judgedResponder]
    have head : accepted.responder = ⟨state.session.serverId, accepted.prvBl, state.session.sesId,
        state.session.sesKey⟩ := by
      rw [shape]
      rfl
    rw [head, chained, inStep.server, inStep.identifier, inStep.key]
  · rw [finished]
    apply (finishP4_responder judged).2
    rw [judgedNamed, (judgeReading_keeps accepted turn.store message).2, (acceptP4_keeps accepts).2.2]
    exact active

end Responses

section Reading

variable {floatText : PyFloat → List Char}

/-- The frame of a message, as the client reads it. -/
def ReadsAs (floatText : PyFloat → List Char) (msg : Message) (frame : Frame) : Prop :=
  packPayload floatText msg = .ok frame ∧ recvMsg clientLimit frame = .ok msg

/-- What the message number takes. -/
theorem memberSize_mNum (floatText : PyFloat → List Char) {mNum : ℕ} (count : mNum < 256 ^ 4) :
    memberSize floatText ("M_num", .int mNum) ≤ 76 := by
  have digits : (toString (mNum : ℤ)).toList.length ≤ 10 := by
    have short := Nat.repr_length mNum 10 (by decide) (count.trans (by decide))
    rwa [← String.length_toList] at short
  have key : "M_num".toList.length = 5 := rfl
  rw [memberSize, jsonText]
  dsimp only
  omega

/-- The response fits a frame for the client. -/
theorem exists_dxRes_frame (floatText : PyFloat → List Char) {resCif : Bytes}
    (size : resCif.length = 60) {mNum : ℕ} (count : mNum < 256 ^ 4) :
    ∃ frame, ReadsAs floatText (dxRes resCif mNum) frame := by
  have member := memberSize_mNum floatText count
  have carried : Carried [("M_num", .json (.int mNum))] := by simp [Carried]
  refine bind_ok (@typed_delivered floatText "dx_res" [("RES_cif", resCif)]
    [("M_num", .json (.int mNum))] (by simp [bytesFields]) carried clientLimit (by decide) ?_)
  have kind : "dx_res".toList.length = 6 := rfl
  simp only [serialized, List.map_cons, List.map_nil, List.sum_cons, List.sum_nil, size, clientLimit]
  omega

/-- So does the setpoint. -/
theorem exists_setpoint_frame {setpoint : PyFloat} (short : (floatText setpoint).length ≤ 24) :
    ∃ frame, ReadsAs floatText (setpointMsg setpoint) frame := by
  have carried : Carried [("data", .json (.dict [("p_demand", .float setpoint)]))] := by simp [Carried]
  refine bind_ok (@typed_delivered floatText "setpoint" []
    [("data", .json (.dict [("p_demand", .float setpoint)]))] (by simp) carried clientLimit
    (by decide) ?_)
  have data : (jsonText floatText (.dict [("p_demand", .float setpoint)])).length ≤ 126 := by
    have key := quoted_length "p_demand"
    have letters : "p_demand".toList.length = 8 := rfl
    simp only [jsonText, fieldTexts, List.intersperse_singleton, List.flatten_singleton,
      List.length_append, List.length_cons, List.length_nil]
    omega
  have member : memberSize floatText ("data", .dict [("p_demand", .float setpoint)]) ≤ 180 := by
    have key : "data".toList.length = 4 := rfl
    rw [memberSize]
    dsimp only
    omega
  have kind : "setpoint".toList.length = 8 := rfl
  simp only [serialized, List.map_cons, List.map_nil, List.sum_cons, List.sum_nil, clientLimit]
  omega

/-- The frames of an answer: the response, and behind it nothing but setpoints. -/
theorem exists_answer_frames (short : ∀ value, (floatText value).length ≤ 24) {resCif : Bytes}
    (size : resCif.length = 60) {mNum : ℕ} (count : mNum < 256 ^ 4) (setpoint : Option PyFloat) :
    ∃ resFrame frames, (dxRes resCif mNum :: (setpoint.map setpointMsg).toList).mapM
        (packPayload floatText) = .ok (resFrame :: frames) ∧
      recvMsg clientLimit resFrame = .ok (dxRes resCif mNum) ∧
      ∀ frame ∈ frames, ∃ value, recvMsg clientLimit frame = .ok (setpointMsg value) := by
  obtain ⟨resFrame, resPacked, resRead⟩ := exists_dxRes_frame floatText size count
  cases setpoint with
  | none =>
    refine ⟨resFrame, [], ?_, resRead, fun _ member => (List.not_mem_nil member).elim⟩
    simp only [Option.map_none, Option.toList_none, List.mapM_cons, List.mapM_nil, resPacked]
    rfl
  | some value =>
    obtain ⟨frame, packed, read⟩ := exists_setpoint_frame (short value)
    refine ⟨resFrame, [frame], ?_, resRead, ?_⟩
    · simp only [Option.map_some, Option.toList_some, List.mapM_cons, List.mapM_nil, resPacked, packed]
      rfl
    · intro other member
      rw [List.mem_singleton.mp member]
      exact ⟨value, read⟩

/-- The client reads past setpoints. -/
theorem readResponse_skips {setpoints : List Frame}
    (skipped : ∀ frame ∈ setpoints, ∃ setpoint, recvMsg clientLimit frame = .ok (setpointMsg setpoint))
    {frame : Frame} {msg : Message} (read : recvMsg clientLimit frame = .ok msg)
    (other : msgType msg ≠ some "setpoint") (rest : List Frame) :
    readResponse (setpoints ++ frame :: rest) = .ok (msg, rest) := by
  induction setpoints with
  | nil =>
    rw [List.nil_append, readResponse, read]
    exact if_neg other
  | cons first later inductionHypothesis =>
    obtain ⟨setpoint, passed⟩ := skipped first List.mem_cons_self
    have kind : msgType (setpointMsg setpoint) = some "setpoint" := rfl
    rw [List.cons_append, readResponse, passed]
    simp only [bind, Except.bind, kind, if_true]
    exact inductionHypothesis fun frame member => skipped frame (List.mem_cons_of_mem _ member)

end Reading

/-- What a completed exchange leaves behind: the sides are in step, the server's loop goes on
unless trust is low, and nothing but setpoints is on its way. -/
structure Conversation.Synced (state : Conversation) : Prop where
  inStep : InStep state.client state.server.session
  receiving : state.server.receiving = state.server.session.sessionActive
  drops : state.server.session.sessionActive = false →
    state.server.session.trustScore < trustDropThreshold
  unread : ∀ frame ∈ state.unread, ∃ setpoint, recvMsg clientLimit frame = .ok (setpointMsg setpoint)
  sesId : state.client.sesId.length = idSize

section Steps

variable {crypto : Primitives} {library : Library} {floatText : PyFloat → List Char}

/-- A frame within the server's limit reaches it. -/
theorem recvMsg_frame {msg : Message} {frame : Frame} (carried : Carried msg)
    (packed : packPayload floatText msg = .ok frame) {limit : ℕ} (fits : frame.length ≤ limit) :
    recvMsg limit frame = .ok msg := by
  rw [packPayload] at packed
  split at packed
  · obtain ⟨positive, -⟩ := object_length floatText (serialized msg)
    rw [← Except.ok.inj packed] at fits ⊢
    dsimp only at fits
    rw [recvMsg, if_neg (by dsimp only; omega), unpackPayload_serialized carried]
  · cases packed

/-- What arrives was within the limit. -/
theorem recvMsg_length {limit : ℕ} {frame : Frame} {msg : Message}
    (arrived : recvMsg limit frame = .ok msg) : frame.length ≤ limit := by
  rw [recvMsg] at arrived
  split at arrived
  · cases arrived
  · next within => omega

/-- The client takes over the chain head that its contribution and the server's make. -/
theorem finalize_dxRes {client : SecureNodeClient} {resCif bRegBl : Bytes}
    (decrypts : decryptGcm crypto resCif client.kABEnc = .ok bRegBl) (mNum : ℕ) :
    client.finalize crypto (dxRes resCif mNum)
      = .ok { client with prvBl := hSha256 crypto (client.lastARegBl ++ bRegBl) } := by
  have opened : (Operations.bytes crypto).decryptGcm resCif client.initiator.kABEnc = .ok bRegBl :=
    decrypts
  have read : bytesField (dxRes resCif mNum) "RES_cif" = .ok resCif := rfl
  rw [SecureNodeClient.finalize, read]
  simp only [bind, Except.bind, Operations.p4Finalize, opened]
  simp [Operations.bytes, SecureNodeClient.initiator, pure, Except.pure]

/-- Between sides in step, an exchange completes for every text within a frame: the server
accepts the message and reads the text back, and the sides stay in step. -/
theorem exchange_synced (lawful : crypto.Lawful) (library : Library)
    (short : ∀ value, (floatText value).length ≤ 24) {state : Conversation} {turn : Turn}
    (synced : state.Synced) (active : state.server.session.sessionActive = true)
    (fits : FrameFits crypto floatText state turn) :
    Accepts crypto state turn ∧
      ∃ after, ExchangeStep crypto library floatText state turn after ∧ after.Synced := by
  obtain ⟨sent, msg, frame, sending, packed, within⟩ := fits
  obtain ⟨smgReg, tsB, mB, regReg, msgReg, msgCif, computed⟩ := p4Send_ok sending
  obtain ⟨accepted, message, resCif, server, serves⟩ :=
    exists_serves lawful library synced.inStep active sending
  have carried : Carried msg := by
    rw [computed.msg]
    simp [Carried, bytesFields]
  obtain ⟨resFrame, frames, answered, resRead, framesRead⟩ :=
    exists_answer_frames short serves.size (structPack_ok computed.count).1 turn.setpoint
  refine ⟨⟨sent, msg, accepted, message, sending, serves.accepts, serves.raw⟩, ?_⟩
  have kept : sent.kABEnc = state.client.kABEnc ∧ sent.sesId = state.client.sesId ∧
      sent.peerId = state.client.peerId := by
    rw [computed.sent]
    exact ⟨rfl, rfl, rfl⟩
  obtain ⟨sameKey, sameId, samePeer⟩ := kept
  have kind : msgType (dxRes resCif (state.client.mNum + 1)) = some "dx_res" := rfl
  have read : readResponse (state.unread ++ resFrame :: frames)
      = .ok (dxRes resCif (state.client.mNum + 1), frames) :=
    readResponse_skips synced.unread resRead (by rw [kind]; decide) frames
  have honest : refuseError "P4 error: " "None" (dxRes resCif (state.client.mNum + 1)) = .ok () := rfl
  have decrypts : decryptGcm crypto resCif sent.kABEnc = .ok message.bRegBl := by
    rw [sameKey]
    exact serves.decrypts
  have finalized := finalize_dxRes decrypts (state.client.mNum + 1)
  have receiving : state.server.receiving = true := synced.receiving.trans active
  refine ⟨⟨{ sent with prvBl := hSha256 crypto (sent.lastARegBl ++ message.bRegBl) }, server, frames⟩,
    ?_, ?_⟩
  · rw [ExchangeStep, Conversation.exchange, sending]
    simp only [bind, Except.bind, packed, receiving, Bool.true_eq_false, if_false,
      recvMsg_frame carried packed within, serves.sends, answered, read, honest, finalized,
      serves.turns]
    rfl
  · have responder := serves.responder
    constructor
    · exact ⟨(congrArg Responder.prvBl responder).symm,
        sameId.trans (congrArg Responder.sesId responder).symm,
        sameKey.trans (congrArg Responder.sesKey responder).symm,
        samePeer.trans (congrArg Responder.serverId responder).symm⟩
    · exact serves.receives
    · exact serves.drops
    · exact framesRead
    · exact sameId ▸ synced.sesId

/-- A completed exchange is one that had every reason to complete. -/
theorem ExchangeStep.fits {state after : Conversation} {turn : Turn}
    (step : ExchangeStep crypto library floatText state turn after) :
    state.server.receiving = true ∧ FrameFits crypto floatText state turn := by
  rw [ExchangeStep, Conversation.exchange] at step
  obtain ⟨⟨sent, msg⟩, sending, step⟩ := bind_ok step
  obtain ⟨frame, packed, step⟩ := bind_ok step
  dsimp only at step
  split at step
  · cases step
  · next receiving =>
    obtain ⟨received, arrived, step⟩ := bind_ok step
    exact ⟨by simpa using receiving, sent, msg, frame, sending, packed, recvMsg_length arrived⟩

/-- A completed exchange keeps the sides in step, and its text has reached the server. -/
theorem ExchangeStep.synced (lawful : crypto.Lawful) (short : ∀ value, (floatText value).length ≤ 24)
    {state after : Conversation} {turn : Turn}
    (step : ExchangeStep crypto library floatText state turn after) (synced : state.Synced) :
    Accepts crypto state turn ∧ after.Synced := by
  obtain ⟨receiving, fits⟩ := step.fits
  obtain ⟨accepts, reached, again, done⟩ := exchange_synced lawful library short synced
    (synced.receiving.symm.trans receiving) fits
  obtain rfl := Except.ok.inj (step.symm.trans again)
  exact ⟨accepts, done⟩

/-- A client with identifiers of the usual size has a message for every short text, and its
frame is within the server's limit. -/
theorem frameFits_of_short (lawful : crypto.Lawful) (floatText : PyFloat → List Char)
    {state : Conversation} {turn : Turn} (id : state.client.id.length = idSize)
    (peerId : state.client.peerId.length = idSize) (sesId : state.client.sesId.length = idSize)
    (count : state.client.mNum + 1 < 256 ^ 4) (time : turn.ts < 256 ^ 8)
    (short : turn.sensorJson.length ≤ 256) : FrameFits crypto floatText state turn := by
  have fits : Fits state.client turn.sensorJson := by
    constructor
    · exact id ▸ (by decide)
    · exact peerId ▸ (by decide)
    · exact sesId ▸ (by decide)
    · omega
    · exact count
  obtain ⟨sent, msg, sending⟩ := p4Send_fits lawful fits time turn.nonce.property
  obtain ⟨smgReg, tsB, mB, regReg, msgReg, msgCif, computed⟩ := p4Send_ok sending
  have widths : tsB.length = 8 ∧ mB.length = 4 := by
    rw [(structPack_ok computed.time).2, (structPack_ok computed.count).2]
    exact ⟨bigEndian_length 8 _, bigEndian_length 4 _⟩
  have contribution : sent.lastARegBl.length = 32 := by
    rw [computed.sent]
    exact lawful.digest_length _
  have smgLength : smgReg.length ≤ 324 := by
    obtain ⟨padding, -, padded, shape⟩ := smgNormalize_ok computed.normalized
    rw [shape, List.length_append, bigEndian_length, List.length_append]
    omega
  have msgLength : msgReg.length ≤ 428 := by
    have size := (packFields_length computed.packed).1
    have digest : (hSha256 crypto (state.client.prvBl ++ hSha256 crypto regReg)).length = 32 :=
      lawful.digest_length _
    simp only [List.map_cons, List.map_nil, List.sum_cons, List.sum_nil, widths.1, widths.2, id, digest,
      contribution, idSize] at size
    omega
  have cifLength := lawful.encryptGcm_length turn.nonce.property (by omega) computed.encrypted
  have member := memberSize_mNum floatText count
  have carried : Carried [("M_num", .json (.int (state.client.mNum + 1 : ℕ)))] := by simp [Carried]
  have arrives := @typed_delivered floatText "dx_msg"
    [("MSG_cif", msgCif), ("ID_A", state.client.id)]
    [("M_num", .json (.int (state.client.mNum + 1 : ℕ)))] (by simp [bytesFields]) carried serverLimit
    (by decide) (by
      have kind : "dx_msg".toList.length = 6 := rfl
      simp only [serialized, List.map_cons, List.map_nil, List.sum_cons, List.sum_nil, serverLimit,
        cifLength, id, gcmNonceSize, gcmTagSize, idSize]
      omega)
  obtain ⟨frame, packed, arrived⟩ := bind_ok arrives
  refine ⟨sent, msg, frame, sending, ?_, ?_⟩
  · rw [computed.msg]
    exact packed
  · exact recvMsg_length arrived

/-- After P3 the sides are in step. -/
theorem Opened.synced {server : Server} {device : Device} {draws : Draws}
    {client : SecureNodeClient} {session : NodeSession}
    (opened : Opened server device draws client session) :
    (Conversation.start client session).Synced := by
  obtain ⟨nodeLabel, prvBl, sesKey, shape⟩ := opened.established
  constructor
  · exact opened.inStep
  · rfl
  · intro inactive
    have active : session.sessionActive = true := by
      rw [shape]
      rfl
    exact absurd (active.symm.trans inactive) Bool.noConfusion
  · exact fun _ member => (List.not_mem_nil member).elim
  · have identifier : client.sesId = draws.sesId.val := by
      rw [opened.inStep.identifier, shape]
      rfl
    exact identifier ▸ draws.sesId.property

/-- P2 and P3 between a registered device and the server complete, and whenever they do, the two
sides are in step then and after every exchange: they hold the same chain head, session
identifier and session key. The session ends only for lack of trust; until then every message
within a frame is accepted, and the raw JSON that the server extracts is the payload. -/
theorem chain_heads_in_step (lawful : crypto.Lawful) (library : Library)
    (short : ∀ value, (floatText value).length ≤ 24) (server : Server) (device : Device)
    (draws : Draws) :
    (Sized server device → server.Registered device → draws.ts < 256 ^ 8 →
      ∃ client session, setup crypto floatText server device draws = .ok (client, session)) ∧
    ∀ client session, setup crypto floatText server device draws = .ok (client, session) →
      InStep client session ∧
      ∀ events, Run (ExchangeStep crypto library floatText) (.start client session) events →
        (∀ state ∈ Conversation.start client session :: events.map Prod.snd,
          InStep state.client state.server.session ∧
          (state.server.session.sessionActive = false →
            state.server.session.trustScore < trustDropThreshold) ∧
          (state.server.session.sessionActive = true → ∀ turn, FrameFits crypto floatText state turn →
            Accepts crypto state turn ∧
              ∃ after, ExchangeStep crypto library floatText state turn after)) ∧
        Along (Accepts crypto) (.start client session) events := by
  refine ⟨fun sized registered time => setup_completes lawful floatText sized registered time, ?_⟩
  intro client session completed
  have opened := setup_opened lawful completed
  refine ⟨opened.inStep, ?_⟩
  intro events run
  have keeps : ∀ {state turn after}, ExchangeStep crypto library floatText state turn after →
      state.Synced → after.Synced := fun step synced => (step.synced lawful short synced).2
  constructor
  · intro state reached
    have synced := @Run.states _ _ _ Conversation.Synced keeps _ _ run opened.synced state reached
    refine ⟨synced.inStep, synced.drops, ?_⟩
    intro active turn fits
    obtain ⟨accepts, after, step, -⟩ := exchange_synced lawful library short synced active fits
    exact ⟨accepts, after, step⟩
  · exact @Run.each _ _ _ Conversation.Synced (Accepts crypto) keeps
      (fun step synced => (step.synced lawful short synced).1) _ _ run opened.synced

end Steps

section Nominal

/-- Random bytes that all came out as zero. -/
def zeros (size : ℕ) : Urandom size := ⟨List.replicate size 0, List.length_replicate⟩

/-- A server with one node in its registry. -/
def nominalServer : Server :=
  ⟨[(bytesHex (zeros idSize).val, [("label", "NODE_02"), ("node_salt", "5a")])], (zeros idSize).val,
    [1]⟩

/-- That node. -/
def nominalDevice : Device := ⟨(zeros idSize).val, [2], [0x5a]⟩

/-- Its draws. -/
def nominalDraws : Draws :=
  ⟨zeros _, zeros _, 1700000000, zeros _, zeros _, zeros _, zeros _, zeros _⟩

/-- A first exchange: an empty reading, and a setpoint for the node. -/
def nominalTurn : Turn :=
  ⟨[0x7b, 0x7d], 1700000001, zeros _, zeros _, .init maxReadingsPerNode, some (.finite 0), 0⟩

/-- A way to write numbers, as short as it takes. -/
def nominalFloatText : PyFloat → List Char := fun _ => ['0', '.', '0']

/-- It is short. -/
theorem nominalFloatText_short (value : PyFloat) : (nominalFloatText value).length ≤ 24 := by
  rw [nominalFloatText]
  decide

/-- The library, on an empty object. -/
def emptyObjectLibrary : Library := ⟨fun _ => .ok (.dict []), fun _ => .error .value, fun _ => ""⟩

/-- The setup completes, and so does the exchange. -/
theorem nominal_exchange : ∃ client session after,
    setup plainPrimitives nominalFloatText nominalServer nominalDevice nominalDraws
      = .ok (client, session) ∧
    FrameFits plainPrimitives nominalFloatText (.start client session) nominalTurn ∧
    ExchangeStep plainPrimitives emptyObjectLibrary nominalFloatText (.start client session) nominalTurn
      after := by
  have registered : nominalServer.Registered nominalDevice := by
    refine ⟨[("label", "NODE_02"), ("node_salt", "5a")], "5a", [0x5a], ?_, rfl, ?_⟩
    · exact List.lookup_cons_self
    · decide
  obtain ⟨client, session, completed⟩ := setup_completes plainPrimitives_lawful nominalFloatText
    (⟨rfl, rfl⟩ : Sized nominalServer nominalDevice) registered (by decide : nominalDraws.ts < 256 ^ 8)
  have opened := setup_opened plainPrimitives_lawful completed
  obtain ⟨nodeLabel, prvBl, sesKey, shape⟩ := opened.established
  have active : session.sessionActive = true := by
    rw [shape]
    rfl
  have peerId : client.peerId.length = idSize := by
    rw [opened.inStep.server, shape]
    rfl
  have count : client.mNum + 1 < 256 ^ 4 := by
    rw [opened.count]
    decide
  have fits := @frameFits_of_short plainPrimitives plainPrimitives_lawful nominalFloatText
    (.start client session) nominalTurn (congrArg List.length opened.id) peerId opened.synced.sesId
    count (by decide) (by decide)
  obtain ⟨-, after, step, -⟩ := exchange_synced plainPrimitives_lawful emptyObjectLibrary
    nominalFloatText_short opened.synced active fits
  exact ⟨client, session, after, completed, fits, step⟩

/-- The agreement in that exchange. -/
theorem chain_heads_in_step_nominal : ∃ client session after,
    setup plainPrimitives nominalFloatText nominalServer nominalDevice nominalDraws
      = .ok (client, session) ∧
    ExchangeStep plainPrimitives emptyObjectLibrary nominalFloatText (.start client session) nominalTurn
      after ∧ InStep after.client after.server.session ∧
    Accepts plainPrimitives (.start client session) nominalTurn := by
  obtain ⟨client, session, after, completed, fits, step⟩ := nominal_exchange
  obtain ⟨-, agrees⟩ := chain_heads_in_step plainPrimitives_lawful emptyObjectLibrary
    nominalFloatText_short nominalServer nominalDevice nominalDraws
  obtain ⟨-, runs⟩ := agrees client session completed
  obtain ⟨states, accepts⟩ := runs [(nominalTurn, after)] (.next step (.done after))
  obtain ⟨inStep, -⟩ := states after (List.mem_cons_of_mem _ List.mem_cons_self)
  exact ⟨client, session, after, completed, step, inStep, accepts.1⟩

end Nominal

end Microgrid.SecureNode
