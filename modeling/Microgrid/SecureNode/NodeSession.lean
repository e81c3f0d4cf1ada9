import Microgrid.Ems.EmsCoordinator
import Microgrid.SecureNode.CryptoUtils

/-!
# The server's side of a node session

`NodeSession` from the moment P3 has completed: data exchange, logout and the trust score.
`_handle_p4` is cut where another thread can come in between, which is where it reads or
writes what the sessions share: it accepts a message into the hash chain, checks the
reading against the other nodes, records it, and responds. `handleP4` is the whole call.

What the outside decides is an argument: nonces, the clock, and for every send the
exception it ends with, if any. A dictionary that arrives has byte strings under the keys
of `BYTES_FIELDS` and parsed JSON elsewhere.
-/

namespace Microgrid.SecureNode

open PythonValues Ems HexText

/-- A value of a protocol message. -/
inductive MsgField where
  | bytes (data : Bytes)
  | json (value : PyValue)

/-- A protocol message. -/
abbrev Message := Fields MsgField

/-- `json.loads` on decoded bytes, `float` on a string, and `str` on an exception. -/
structure Library where
  loads : Bytes → Except PyException PyValue
  floatOfStr : String → Except PyException PyFloat
  strOf : PyException → String

/-- `_TRUST_DROP_THRESHOLD`. -/
def trustDropThreshold : ℚ := 30 / 100

/-- `_V_BUS_ANOMALY_THRESHOLD`. -/
def vBusAnomalyThreshold : ℚ := FloatRounding.binary64.nearest (8 / 10)

/-- `_V_BUS_ANOMALY_WINDOW`. -/
def vBusAnomalyWindow : ℕ := 5

/-- The events of `_update_trust`. -/
inductive TrustEvent where
  | securityError
  | sensorAnomaly
  | sensorOk
deriving DecidableEq

/-- An entry of `metrics['trust_events']`. -/
structure TrustRecord where
  event : TrustEvent
  score : ℚ
  mNum : ℕ

/-- The counters and logs of a session. -/
structure Metrics where
  p4Count : ℕ
  errors : List String
  trustEvents : List TrustRecord

/-- A record of the audit chain. -/
structure ChainRecord where
  index : ℕ
  mNum : ℕ
  ts : ℕ
  regBl : String
  node : String

/-- `NodeSession`, with P3 completed. -/
structure NodeSession where
  serverId : Bytes
  nodeLabel : String
  prvBl : Bytes
  sesId : Bytes
  sesKey : Bytes
  sessionActive : Bool
  mNumExpected : ℕ
  chain : List ChainRecord
  trustScore : ℚ
  consecutiveAnomalies : ℕ
  metrics : Metrics
  connClosed : Bool

/-- What `_run_p3` leaves behind when it returns `True`. -/
def established (serverId : Bytes) (nodeLabel : String) (initBl sesId sesKey : Bytes) :
    NodeSession where
  serverId := serverId
  nodeLabel := nodeLabel
  prvBl := initBl
  sesId := sesId
  sesKey := sesKey
  sessionActive := true
  mNumExpected := 0
  chain := []
  trustScore := 8 / 10
  consecutiveAnomalies := 0
  metrics := ⟨0, [], []⟩
  connClosed := false

namespace NodeSession

/-- A lowered score and its entry in the log. -/
def penalize (session : NodeSession) (event : TrustEvent) (penalty : ℚ) : NodeSession :=
  let score := max 0 (session.trustScore - penalty)
  { session with
    trustScore := score
    metrics := { session.metrics with
      trustEvents := session.metrics.trustEvents ++ [⟨event, score, session.metrics.p4Count⟩] } }

/-- `_update_trust`. -/
def updateTrust (session : NodeSession) : TrustEvent → NodeSession
  | .securityError => session.penalize .securityError (30 / 100)
  | .sensorAnomaly =>
    let session := { session with consecutiveAnomalies := session.consecutiveAnomalies + 1 }
    if vBusAnomalyWindow ≤ session.consecutiveAnomalies then
      { session.penalize .sensorAnomaly (40 / 100) with consecutiveAnomalies := 0 }
    else session
  | .sensorOk => { session with consecutiveAnomalies := 0 }

/-- `_drop_connection`. -/
def dropConnection (session : NodeSession) : NodeSession :=
  { session with sessionActive := false, connClosed := true }

/-- A log entry of `metrics['errors']`. -/
def logError (session : NodeSession) (text : String) : NodeSession :=
  { session with metrics := { session.metrics with errors := session.metrics.errors ++ [text] } }

end NodeSession

/-- `msg[name]` where the code goes on to slice a byte string. -/
def bytesField (msg : Message) (name : String) : Except PyException Bytes :=
  match msg.lookup name with
  | none => .error (.key name)
  | some (.bytes data) => .ok data
  | some (.json _) => .error .type

/-- What later parts of `_handle_p4` use of an accepted message. -/
structure Accepted where
  smgReg : Bytes
  mNum : ℕ
  bRegBl : Bytes

section Exchange

variable (crypto : Primitives) (library : Library)

/-- `_handle_p4` up to the audit chain: nothing changes unless the chain check passes. -/
def acceptP4 (session : NodeSession) (msg : Message) :
    Except PyException (NodeSession × Accepted) := do
  let msgCif ← bytesField msg "MSG_cif"
  let msgReg ← decryptGcm crypto msgCif session.sesKey
  match parseTlv 6 msgReg with
  | some [smgReg, tsB, mB, idA, pregBlRx, aRegBl] =>
    let mNum ← structUnpack 4 mB
    let ts ← structUnpack 8 tsB
    let regReg ← makeRegReg smgReg tsB mNum idA session.serverId session.sesId
    let pregBl := hSha256 crypto (session.prvBl ++ hSha256 crypto regReg)
    if pregBl ≠ pregBlRx then
      throw (.runtime ("PREG_bl mismatch at M#" ++ toString mNum))
    else
      let bRegBl := hSha256 crypto (pregBl ++ session.sesKey)
      let regBl := hSha256 crypto (aRegBl ++ bRegBl)
      let entry : ChainRecord :=
        ⟨session.chain.length + 1, mNum, ts, bytesHex regBl, session.nodeLabel⟩
      pure ({ session with
        prvBl := regBl
        mNumExpected := mNum + 1
        chain := session.chain ++ [entry] }, ⟨smgReg, mNum, bRegBl⟩)
  | _ => throw (.runtime "MSG_reg malformed")

/-- The JSON value a message carries behind its length. -/
def sensorJson (message : Accepted) : Except PyException PyValue := do
  let headerLen ← structUnpack 4 (message.smgReg.take 4)
  library.loads ((message.smgReg.drop 4).take headerLen)

/-- The sensor data of a message, with the fields the server adds first. -/
def readSensor (nodeLabel : String) (message : Accepted) : Except PyException Reading := do
  match ← sensorJson library message with
  | .dict sensorData =>
    pure (Fields.set (Fields.set sensorData "node" (.str nodeLabel)) "M_num" (.int message.mNum))
  | _ => throw .type

/-- `abs(v_reported - median_v)`. -/
def deviation (vReported : PyValue) (medianV : PyFloat) : Except PyException PyFloat := do
  let number ← vReported.operand
  let reported ← number.toFloat
  pure (reported.sub medianV).rounded.abs

/-- The event that the cross-node check reports, if the check is made. -/
def checkReading (store : DataStore) (nodeLabel : String) (sensorData : Reading) :
    Except PyException (Option TrustEvent) := do
  match ← store.getMedianVBus library.floatOfStr nodeLabel with
  | none => pure none
  | some medianV =>
    let distance ← deviation ((sensorData.lookup "V_bus").getD (.float medianV)) medianV
    pure (some (if PyFloat.lt (.finite vBusAnomalyThreshold) distance
      then .sensorAnomaly else .sensorOk))

/-- The inner `try` of `_handle_p4` up to the recording: the session after the trust
update, and the reading to record unless an exception was swallowed. -/
def judgeReading (session : NodeSession) (store : DataStore) (message : Accepted) :
    NodeSession × Option Reading :=
  match readSensor library session.nodeLabel message with
  | .error _ => (session, none)
  | .ok sensorData =>
    match checkReading library store session.nodeLabel sensorData with
    | .error _ => (session, none)
    | .ok event =>
      let session := match event with
        | none => session
        | some event => session.updateTrust event
      (session, some (Fields.set sensorData "trust_score" (.float (.finite session.trustScore))))

/-- What the outside contributes to a response: the nonce, and how the sends end. -/
structure Delivery where
  nonce : Bytes
  resFails : Option PyException
  setpointFails : Option PyException
  errorFails : Bool

/-- The `dx_res` message. -/
def dxRes (resCif : Bytes) (mNum : ℕ) : Message :=
  [("type", .json (.str "dx_res")), ("RES_cif", .bytes resCif), ("M_num", .json (.int mNum))]

/-- The `setpoint` message. -/
def setpointMsg (setpoint : PyFloat) : Message :=
  [("type", .json (.str "setpoint")), ("data", .json (.dict [("p_demand", .float setpoint)]))]

/-- The messages that `_send_error` gets through: its own failure is swallowed. -/
def sendError (text : String) (fails : Bool) : List Message :=
  if fails then [] else [[("type", .json (.str "error")), ("error", .json (.str text))]]

/-- `_handle_p4` from the encryption of the response on: the messages that were sent, and
the exception that ended it, if any. -/
def respondP4 (session : NodeSession) (setpoint : Option PyFloat) (message : Accepted)
    (delivery : Delivery) : List Message × Except PyException Unit :=
  match encryptGcm crypto delivery.nonce message.bRegBl session.sesKey with
  | .error exception => ([], .error exception)
  | .ok resCif =>
    match delivery.resFails, setpoint, delivery.setpointFails with
    | some exception, _, _ => ([], .error exception)
    | none, none, _ => ([dxRes resCif message.mNum], .ok ())
    | none, some _, some exception => ([dxRes resCif message.mNum], .error exception)
    | none, some setpoint, none =>
      ([dxRes resCif message.mNum, setpointMsg setpoint], .ok ())

/-- The end of a `_handle_p4` that raised nothing. -/
def finishP4 (session : NodeSession) : NodeSession :=
  let session := if session.trustScore < trustDropThreshold then session.dropConnection else session
  { session with metrics := { session.metrics with p4Count := session.metrics.p4Count + 1 } }

/-- The outer `except` of `_handle_p4`. -/
def failP4 (session : NodeSession) (exception : PyException) : NodeSession :=
  let session := session.updateTrust .securityError
  let session := session.logError ("P4: " ++ library.strOf exception)
  if session.trustScore < trustDropThreshold then session.dropConnection
  else { session with sessionActive := false }

/-- `_handle_p4`, with the setpoint the coordinator holds for the node: the session and the
store afterwards, and the messages that were sent. -/
def handleP4 (session : NodeSession) (store : DataStore) (setpoint : Option PyFloat) (now : ℚ)
    (delivery : Delivery) (msg : Message) : NodeSession × DataStore × List Message :=
  match acceptP4 crypto session msg with
  | .error exception =>
    (failP4 library session exception, store,
      sendError ("P4 failed: " ++ library.strOf exception) delivery.errorFails)
  | .ok (session, message) =>
    let (session, reading) := judgeReading library session store message
    let store := match reading with
      | none => store
      | some reading => store.record session.nodeLabel reading now
    match respondP4 crypto session setpoint message delivery with
    | (sent, .error exception) =>
      (failP4 library session exception, store,
        sent ++ sendError ("P4 failed: " ++ library.strOf exception) delivery.errorFails)
    | (sent, .ok ()) => (finishP4 session, store, sent)

/-- The `B_END_cif` that `_handle_p5` answers with. -/
def answerLogout (nonce : Bytes) (session : NodeSession) (msg : Message) :
    Except PyException Bytes := do
  let aEndCif ← bytesField msg "A_END_cif"
  let plain ← decryptGcm crypto aEndCif session.sesKey
  match parseTlv 2 plain with
  | some [endRegRx, aEndBlRx] =>
    match parseTlv 4 endRegRx with
    | some [_, _, idARx, _] =>
      if hSha256 crypto (endRegRx ++ session.sesId ++ idARx) ≠ aEndBlRx then
        throw (.runtime "P5: A_END_bl verification failed")
      else
        let preEndBl := hSha256 crypto (session.prvBl ++ aEndBlRx)
        let bEndBl := hSha256 crypto (preEndBl ++ session.sesKey)
        encryptGcm crypto nonce bEndBl session.sesKey
    | _ => throw (.runtime "P5: END_reg malformed")
  | _ => throw (.runtime "P5: logout payload malformed")

/-- `_handle_p5`: whatever happens, the session is over. -/
def handleP5 (nonce : Bytes) (resFails : Option PyException) (session : NodeSession)
    (msg : Message) : NodeSession :=
  let outcome := do
    let _ ← answerLogout crypto nonce session msg
    match resFails with
    | some exception => throw exception
    | none => pure ()
  match outcome with
  | .error exception =>
    { session.logError ("P5: " ++ library.strOf exception) with sessionActive := false }
  | .ok () => { session with sessionActive := false }

end Exchange

section Specifications

variable {crypto : Primitives} {library : Library}

/-- What accepting a message does: it moves the chain on by one record and leaves the rest
of the session alone. What the response will encrypt is a digest. -/
theorem acceptP4_ok {session after : NodeSession} {msg : Message} {message : Accepted}
    (accepted : acceptP4 crypto session msg = .ok (after, message)) :
    ∃ (regBl : Bytes) (ts : ℕ) (data : Bytes),
      after = { session with
        prvBl := regBl
        mNumExpected := message.mNum + 1
        chain := session.chain ++
          [⟨session.chain.length + 1, message.mNum, ts, bytesHex regBl, session.nodeLabel⟩] } ∧
      message.bRegBl = hSha256 crypto data := by
  obtain ⟨msgCif, -, accepted⟩ := bind_ok accepted
  obtain ⟨msgReg, -, accepted⟩ := bind_ok accepted
  split at accepted
  · obtain ⟨mNum, -, accepted⟩ := bind_ok accepted
    obtain ⟨ts, -, accepted⟩ := bind_ok accepted
    obtain ⟨regReg, -, accepted⟩ := bind_ok accepted
    dsimp only at accepted
    split at accepted
    · cases accepted
    · obtain ⟨rfl, rfl⟩ := Prod.mk.inj (Except.ok.inj accepted)
      exact ⟨_, ts, _, rfl, rfl⟩
  · cases accepted

/-- Accepting a message leaves the label, the score and the activity alone. -/
theorem acceptP4_keeps {session after : NodeSession} {msg : Message} {message : Accepted}
    (accepted : acceptP4 crypto session msg = .ok (after, message)) :
    after.nodeLabel = session.nodeLabel ∧ after.trustScore = session.trustScore ∧
      after.sessionActive = session.sessionActive := by
  obtain ⟨regBl, ts, data, rfl, -⟩ := acceptP4_ok accepted
  exact ⟨rfl, rfl, rfl⟩

/-- A trust update changes the score, the anomaly counter and the log, and nothing else. -/
theorem updateTrust_shape (session : NodeSession) (event : TrustEvent) :
    ∃ trustScore consecutiveAnomalies metrics, session.updateTrust event = { session with
      trustScore := trustScore
      consecutiveAnomalies := consecutiveAnomalies
      metrics := metrics } := by
  cases event with
  | securityError => exact ⟨_, _, _, rfl⟩
  | sensorAnomaly =>
    rw [NodeSession.updateTrust]
    split <;> exact ⟨_, _, _, rfl⟩
  | sensorOk => exact ⟨_, _, _, rfl⟩

/-- The cross-node check reports an anomaly or a normal reading. -/
theorem checkReading_event {store : DataStore} {nodeLabel : String} {sensorData : Reading}
    {event : TrustEvent}
    (checked : checkReading library store nodeLabel sensorData = .ok (some event)) :
    event = .sensorAnomaly ∨ event = .sensorOk := by
  obtain ⟨median, -, checked⟩ := bind_ok checked
  cases median with
  | none => cases checked
  | some medianV =>
    obtain ⟨distance, -, checked⟩ := bind_ok checked
    have same := Option.some.inj (Except.ok.inj checked)
    split at same
    · exact .inl same.symm
    · exact .inr same.symm

/-- Checking a reading changes no more of the session than a trust update does. -/
theorem judgeReading_session (session : NodeSession) (store : DataStore) (message : Accepted) :
    (judgeReading library session store message).1 = session ∨
      ∃ event, event ≠ .securityError ∧
        (judgeReading library session store message).1 = session.updateTrust event := by
  unfold judgeReading
  cases readSensor library session.nodeLabel message with
  | error exception => exact .inl rfl
  | ok sensorData =>
    cases checked : checkReading library store session.nodeLabel sensorData with
    | error exception => left; simp only [checked]
    | ok event =>
      simp only [checked]
      cases event with
      | none => exact .inl rfl
      | some event =>
        refine .inr ⟨event, ?_, rfl⟩
        rintro rfl
        rcases checkReading_event checked with other | other <;> cases other

/-- Nor does the check of a reading change more than the score, the counter and the log. -/
theorem judgeReading_shape (session : NodeSession) (store : DataStore) (message : Accepted) :
    ∃ trustScore consecutiveAnomalies metrics,
      (judgeReading library session store message).1 = { session with
        trustScore := trustScore
        consecutiveAnomalies := consecutiveAnomalies
        metrics := metrics } := by
  rcases @judgeReading_session library session store message with same | ⟨event, -, same⟩
  · rw [same]
    exact ⟨_, _, _, rfl⟩
  · rw [same]
    exact updateTrust_shape session event

/-- The check of a reading leaves the label and the activity alone. -/
theorem judgeReading_keeps (session : NodeSession) (store : DataStore) (message : Accepted) :
    (judgeReading library session store message).1.nodeLabel = session.nodeLabel ∧
      (judgeReading library session store message).1.sessionActive = session.sessionActive := by
  obtain ⟨trustScore, anomalies, metrics, shape⟩ := judgeReading_shape session store message
  rw [shape]
  constructor <;> rfl

/-- Without a reading to record nothing has happened to the session. -/
theorem judgeReading_none {session : NodeSession} {store : DataStore} {message : Accepted}
    (judged : (judgeReading library session store message).2 = none) :
    (judgeReading library session store message).1 = session := by
  unfold judgeReading at judged ⊢
  cases read : readSensor library session.nodeLabel message with
  | error exception => rfl
  | ok sensorData =>
    simp only [read] at judged ⊢
    cases checked : checkReading library store session.nodeLabel sensorData with
    | error exception => rfl
    | ok event => simp only [checked] at judged; cases judged

/-- What is recorded is the parsed object with the server's fields, the last of them the
trust score after the check. -/
theorem judgeReading_reading {session : NodeSession} {store : DataStore} {message : Accepted}
    {reading : Reading} (judged : (judgeReading library session store message).2 = some reading) :
    ∃ sensorData event, readSensor library session.nodeLabel message = .ok sensorData ∧
      checkReading library store session.nodeLabel sensorData = .ok event ∧
      reading = Fields.set sensorData "trust_score"
        (.float (.finite (judgeReading library session store message).1.trustScore)) := by
  unfold judgeReading at judged ⊢
  cases read : readSensor library session.nodeLabel message with
  | error exception => simp only [read] at judged; cases judged
  | ok sensorData =>
    simp only [read] at judged ⊢
    cases checked : checkReading library store session.nodeLabel sensorData with
    | error exception => simp only [checked] at judged; cases judged
    | ok event =>
      simp only [checked] at judged ⊢
      exact ⟨sensorData, event, rfl, checked, (Option.some.inj judged).symm⟩

/-- With voltages of fewer than two other nodes every object is recorded, and the trust
score stays. -/
theorem judgeReading_unchecked {session : NodeSession} {store : DataStore} {message : Accepted}
    {payload : Reading} (parsed : sensorJson library message = .ok (.dict payload))
    (few : (store.otherVBus session.nodeLabel).length < 2) :
    judgeReading library session store message = (session, some (Fields.set (Fields.set
      (Fields.set payload "node" (.str session.nodeLabel)) "M_num" (.int message.mNum))
      "trust_score" (.float (.finite session.trustScore)))) := by
  have median : store.getMedianVBus library.floatOfStr session.nodeLabel = .ok none := if_pos few
  simp only [judgeReading, readSensor, parsed, checkReading, median, bind, Except.bind, pure,
    Except.pure]

end Specifications

end Microgrid.SecureNode
