import Microgrid.Foundation.LabelledRuns
import Microgrid.SecureNode.PcClient

/-!
# The server as its threads interleave

Every connection has its own thread, and the coordinator is updated from another one. The
threads share the data store and the setpoints, each behind a lock, so the steps of the
server are the stretches between two accesses to either. A session enters when its P3 has
completed, whatever other sessions the server has, also of the same node, and leaves when
its data loop ends: by a logout, a timeout, a lost connection, a security error, or a
trust score below the threshold.

An exception in an update is caught by the loop around it and leaves the setpoints that
were stored before it.
-/

namespace Microgrid.SecureNode

open PythonValues Ems LabelledRuns

/-- Where the thread of a session stands: at `recv_msg`, or within `_handle_p4` before the
cross-node check, before the recording, or before the response. -/
inductive Stage where
  | receiving
  | accepted (message : Accepted)
  | judged (message : Accepted) (reading : Option Reading)
  | recorded (message : Accepted)

/-- The thread of a session in its data loop. -/
structure Thread where
  session : NodeSession
  stage : Stage

/-- `SMGServer`, with the sessions that are in their data loop. -/
structure SmgServer where
  dataStore : DataStore
  ems : EMSCoordinator
  sessions : List Thread

/-- The server when it starts to listen. -/
def SmgServer.init : SmgServer := ⟨.init maxReadingsPerNode, .init, []⟩

/-- `msg.get("type") == kind`. -/
def HasType (msg : Message) (kind : String) : Prop :=
  msg.lookup "type" = some (.json (.str kind))

/-- The loop condition of `_run_data_loop`. -/
def loopStage (session : NodeSession) : Option Stage :=
  if session.sessionActive then some .receiving else none

section Threads

variable (crypto : Primitives) (library : Library)

/-- One step of a thread: the session afterwards, where its thread stands unless the loop
has ended, and the store. -/
inductive ThreadStep (store : DataStore) (ems : EMSCoordinator) :
    Thread → NodeSession → Option Stage → DataStore → Prop where
  /-- A message passes the chain check. -/
  | accept {session after : NodeSession} {message : Accepted} (msg : Message)
      (kind : HasType msg "dx_msg") (passed : acceptP4 crypto session msg = .ok (after, message)) :
      ThreadStep store ems ⟨session, .receiving⟩ after (some (.accepted message)) store
  /-- A message raises in decryption, parsing or the chain check. -/
  | reject {session : NodeSession} {exception : PyException} (msg : Message)
      (kind : HasType msg "dx_msg") (raised : acceptP4 crypto session msg = .error exception) :
      ThreadStep store ems ⟨session, .receiving⟩ (failP4 library session exception)
        (loopStage (failP4 library session exception)) store
  /-- The reading is compared with the median. -/
  | judge (session : NodeSession) (message : Accepted) :
      ThreadStep store ems ⟨session, .accepted message⟩
        (judgeReading library session store message).1
        (some (.judged message (judgeReading library session store message).2)) store
  /-- The reading is recorded. -/
  | record (session : NodeSession) (message : Accepted) (reading : Reading) (now : ℚ) :
      ThreadStep store ems ⟨session, .judged message (some reading)⟩ session
        (some (.recorded message)) (store.record session.nodeLabel reading now)
  /-- There is no reading to record. -/
  | skip (session : NodeSession) (message : Accepted) :
      ThreadStep store ems ⟨session, .judged message none⟩ session (some (.recorded message)) store
  /-- The response and, if there is one, the setpoint are sent. -/
  | respond {session : NodeSession} {message : Accepted} (delivery : Delivery)
      (sent : (respondP4 crypto session (ems.getSetpoint session.nodeLabel) message delivery).2
        = .ok ()) :
      ThreadStep store ems ⟨session, .recorded message⟩ (finishP4 session)
        (loopStage (finishP4 session)) store
  /-- Encrypting or sending raises. -/
  | respondFails {session : NodeSession} {message : Accepted} {exception : PyException}
      (delivery : Delivery)
      (raised : (respondP4 crypto session (ems.getSetpoint session.nodeLabel) message delivery).2
        = .error exception) :
      ThreadStep store ems ⟨session, .recorded message⟩ (failP4 library session exception)
        (loopStage (failP4 library session exception)) store
  /-- A logout request ends the loop, whether it verifies or not. -/
  | logout (session : NodeSession) (msg : Message) (kind : HasType msg "logout_req") (nonce : Bytes)
      (resFails : Option PyException) :
      ThreadStep store ems ⟨session, .receiving⟩
        (handleP5 crypto library nonce resFails session msg) none store
  /-- Another message is only logged. -/
  | ignore (session : NodeSession) (msg : Message) (noData : ¬HasType msg "dx_msg")
      (noLogout : ¬HasType msg "logout_req") :
      ThreadStep store ems ⟨session, .receiving⟩ session (some .receiving) store
  /-- `recv_msg` times out or raises, which ends the loop. -/
  | disconnect (session : NodeSession) :
      ThreadStep store ems ⟨session, .receiving⟩ session none store

/-- What a step of the server is about. A thread's step names the other sessions, the
session before and after, and where its thread then stands. -/
inductive Event where
  | connected (nodeLabel : String)
  | moved (others : List Thread) (before after : NodeSession) (stage : Option Stage)
  | updated

/-- A step of the server. -/
inductive SmgServer.Step : SmgServer → Event → SmgServer → Prop where
  /-- A session completes P3. -/
  | connect (server : SmgServer) (serverId : Bytes) (nodeLabel : String)
      (initBl sesId sesKey : Bytes) :
      Step server (.connected nodeLabel) { server with
        sessions := server.sessions ++
          [⟨established serverId nodeLabel initBl sesId sesKey, .receiving⟩] }
  /-- The thread of a session takes a step. -/
  | thread {dataStore store : DataStore} {ems : EMSCoordinator} {front back : List Thread}
      {thread : Thread} {after : NodeSession} {stage : Option Stage}
      (taken : ThreadStep crypto library dataStore ems thread after stage store) :
      Step ⟨dataStore, ems, front ++ thread :: back⟩
        (.moved (front ++ back) thread.session after stage)
        ⟨store, ems, front ++ (stage.map (Thread.mk after)).toList ++ back⟩
  /-- The coordinator updates the setpoints. -/
  | update (server : SmgServer) (now : ℚ) :
      Step server .updated { server with ems := (server.ems.update server.dataStore now).1 }

end Threads

section Sessions

variable {crypto : Primitives} {library : Library}

/-- A security error ends the session and lowers its trust score by 0.30, down to zero. -/
theorem failP4_spec (session : NodeSession) (exception : PyException) :
    (failP4 library session exception).nodeLabel = session.nodeLabel ∧
      (failP4 library session exception).sessionActive = false ∧
      (failP4 library session exception).trustScore = max 0 (session.trustScore - 30 / 100) := by
  unfold failP4
  dsimp only
  split <;> exact ⟨rfl, rfl, rfl⟩

/-- The end of an exchange leaves the label and the trust score alone. -/
theorem finishP4_spec (session : NodeSession) :
    (finishP4 session).nodeLabel = session.nodeLabel ∧
      (finishP4 session).trustScore = session.trustScore := by
  unfold finishP4
  dsimp only
  split <;> exact ⟨rfl, rfl⟩

/-- Logging out leaves the label and the trust score alone. -/
theorem handleP5_spec (nonce : Bytes) (resFails : Option PyException) (session : NodeSession)
    (msg : Message) :
    (handleP5 crypto library nonce resFails session msg).nodeLabel = session.nodeLabel ∧
      (handleP5 crypto library nonce resFails session msg).trustScore = session.trustScore := by
  unfold handleP5
  dsimp only
  split <;> exact ⟨rfl, rfl⟩

/-- The data loop does not go on after a security error. -/
theorem loopStage_failP4 (session : NodeSession) (exception : PyException) :
    loopStage (failP4 library session exception) = none := by
  rw [loopStage, (failP4_spec session exception).2.1]
  rfl

/-- A trust update never raises a score that is not negative. -/
theorem updateTrust_le {session : NodeSession} (nonneg : 0 ≤ session.trustScore)
    (event : TrustEvent) : (session.updateTrust event).trustScore ≤ session.trustScore := by
  have lowered : ∀ penalty : ℚ, 0 ≤ penalty →
      max 0 (session.trustScore - penalty) ≤ session.trustScore :=
    fun penalty positive => max_le nonneg (by linarith)
  cases event with
  | securityError => exact lowered _ (by norm_num)
  | sensorAnomaly =>
    rw [NodeSession.updateTrust]
    split
    · exact lowered _ (by norm_num)
    · exact le_rfl
  | sensorOk => exact le_rfl

/-- A trust update leaves a score that is not negative. -/
theorem updateTrust_nonneg {session : NodeSession} (nonneg : 0 ≤ session.trustScore)
    (event : TrustEvent) : 0 ≤ (session.updateTrust event).trustScore := by
  cases event with
  | securityError => exact le_max_left _ _
  | sensorAnomaly =>
    rw [NodeSession.updateTrust]
    split
    · exact le_max_left _ _
    · exact nonneg
  | sensorOk => exact nonneg

/-- The check of a reading never raises a trust score, nor makes it negative. -/
theorem judgeReading_trust {session : NodeSession} (nonneg : 0 ≤ session.trustScore)
    (store : DataStore) (message : Accepted) :
    0 ≤ (judgeReading library session store message).1.trustScore ∧
      (judgeReading library session store message).1.trustScore ≤ session.trustScore := by
  rcases @judgeReading_session library session store message with same | ⟨event, -, same⟩
  · rw [same]
    exact ⟨nonneg, le_rfl⟩
  · rw [same]
    exact ⟨updateTrust_nonneg nonneg event, updateTrust_le nonneg event⟩

/-- The label of a session never changes. -/
theorem ThreadStep.label {store store' : DataStore} {ems : EMSCoordinator} {thread : Thread}
    {after : NodeSession} {stage : Option Stage}
    (taken : ThreadStep crypto library store ems thread after stage store') :
    after.nodeLabel = thread.session.nodeLabel := by
  cases taken with
  | accept msg kind passed => exact (acceptP4_keeps passed).1
  | reject msg kind raised => exact (failP4_spec _ _).1
  | judge session message => exact (judgeReading_keeps session store message).1
  | record session message reading now => rfl
  | skip session message => rfl
  | respond delivery sent => exact (finishP4_spec _).1
  | respondFails delivery raised => exact (failP4_spec _ _).1
  | logout session msg kind nonce resFails => exact (handleP5_spec nonce resFails session msg).1
  | ignore session msg noData noLogout => rfl
  | disconnect session => rfl

end Sessions

/-- The threads after a step of one of them. -/
theorem mem_moved {front back : List Thread} {after : NodeSession} {stage : Option Stage}
    {thread : Thread} :
    thread ∈ front ++ (stage.map (Thread.mk after)).toList ++ back ↔
      thread ∈ front ++ back ∨ ∃ stands, stage = some stands ∧ thread = ⟨after, stands⟩ := by
  rw [List.mem_append, List.mem_append, List.mem_append, Option.mem_toList]
  constructor
  · rintro ((early | moved) | late)
    · exact .inl (.inl early)
    · obtain ⟨stands, found, rfl⟩ := Option.map_eq_some_iff.mp moved
      exact .inr ⟨stands, found, rfl⟩
    · exact .inl (.inr late)
  · rintro ((early | late) | ⟨stands, rfl, rfl⟩)
    · exact .inl (.inl early)
    · exact .inr late
    · exact .inl (.inr rfl)

/-- The threads before a step of one of them. -/
theorem mem_before {front back : List Thread} {acting thread : Thread} :
    thread ∈ front ++ acting :: back ↔ thread = acting ∨ thread ∈ front ++ back := by
  rw [List.mem_append, List.mem_cons, List.mem_append]
  tauto

section FirstExchange

variable {crypto : Primitives} {library : Library}

/-- A step of the only session. -/
theorem SmgServer.Step.alone {store store' : DataStore} {ems : EMSCoordinator} {thread : Thread}
    {after : NodeSession} {stage : Option Stage}
    (taken : ThreadStep crypto library store ems thread after stage store') :
    SmgServer.Step crypto library ⟨store, ems, [thread]⟩ (.moved [] thread.session after stage)
      ⟨store', ems, (stage.map (Thread.mk after)).toList⟩ := by
  have moved := @SmgServer.Step.thread crypto library store store' ems [] [] thread after stage taken
  have idle : [] ++ (stage.map (Thread.mk after)).toList ++ [] = (stage.map (Thread.mk after)).toList :=
    List.append_nil _
  rw [idle] at moved
  exact moved

/-- The end of an exchange of a session that still has enough trust. -/
theorem finishP4_trusted {session : NodeSession} (trusted : trustDropThreshold ≤ session.trustScore) :
    finishP4 session = { session with
      metrics := { session.metrics with p4Count := session.metrics.p4Count + 1 } } := by
  rw [finishP4, if_neg (not_lt.mpr trusted)]

/-- Without a setpoint the response to an accepted message is one encrypted digest. -/
theorem respondP4_sent (lawful : crypto.Lawful) {before after : NodeSession} {msg : Message}
    {message : Accepted} (accepted : acceptP4 crypto before msg = .ok (after, message))
    (session : NodeSession) {nonce : Bytes} (fresh : nonce.length = gcmNonceSize) :
    (respondP4 crypto session none message ⟨nonce, none, none, false⟩).2 = .ok () := by
  obtain ⟨regBl, ts, data, -, digest⟩ := acceptP4_ok accepted
  have short : message.bRegBl.length < 2 ^ 31 := by
    rw [digest, hSha256, lawful.digest_length]
    norm_num
  obtain ⟨resCif, encrypted, -⟩ :=
    lawful.decrypt_encrypt nonce message.bRegBl session.sesKey fresh short
  rw [respondP4, encrypted]

/-- A session that has gone on by an exchange: everything but its chain and its count is the same. -/
structure Continues (before after : NodeSession) : Prop where
  serverId : after.serverId = before.serverId
  sesId : after.sesId = before.sesId
  nodeLabel : after.nodeLabel = before.nodeLabel
  trustScore : after.trustScore = before.trustScore
  sessionActive : after.sessionActive = before.sessionActive
  metrics : after.metrics = { before.metrics with p4Count := before.metrics.p4Count + 1 }

/-- The first message of the first session is received, recorded and answered. -/
theorem first_exchange (lawful : crypto.Lawful) (library : Library) (serverId : Bytes)
    (nodeLabel : String) (initBl sesId sesKey : Bytes) (server : serverId.length < 256 ^ 2)
    (named : sesId.length < 256 ^ 2) {sensorText : Bytes} (short : sensorText.length ≤ 65000)
    {payload : Reading}
    (parses : library.loads sensorText = .ok (.dict payload)) :
    let store := DataStore.init maxReadingsPerNode
    let session := established serverId nodeLabel initBl sesId sesKey
    ∃ (accepted answered : NodeSession) (message : Accepted) (reading : Reading),
      ThreadStep crypto library store .init ⟨session, .receiving⟩ accepted
        (some (.accepted message)) store ∧
      ThreadStep crypto library store .init ⟨accepted, .accepted message⟩ accepted
        (some (.judged message (some reading))) store ∧
      ThreadStep crypto library store .init ⟨accepted, .judged message (some reading)⟩ accepted
        (some (.recorded message)) (store.record nodeLabel reading 0) ∧
      ThreadStep crypto library (store.record nodeLabel reading 0) .init
        ⟨accepted, .recorded message⟩ answered (some .receiving)
        (store.record nodeLabel reading 0) ∧
      Continues session answered ∧ TrustScore reading session.trustScore := by
  intro store session
  obtain ⟨msg, accepted, message, kind, received, carried, -⟩ := session_accepts lawful library
    session server named short (by norm_num : 0 + 1 < 256 ^ 4)
  obtain ⟨label, trust, active⟩ := acceptP4_keeps received
  have few : (store.otherVBus accepted.nodeLabel).length < 2 := Nat.zero_lt_two
  have judged := judgeReading_unchecked (carried.trans parses) few
  set reading : Reading := Fields.set (Fields.set (Fields.set payload "node"
    (.str accepted.nodeLabel)) "M_num" (.int message.mNum)) "trust_score"
    (.float (.finite accepted.trustScore))
  have trusted : trustDropThreshold ≤ accepted.trustScore := by
    rw [trust]
    exact (by norm_num [trustDropThreshold] : trustDropThreshold ≤ (8 / 10 : ℚ))
  have finished := finishP4_trusted trusted
  have goesOn : loopStage (finishP4 accepted) = some .receiving := by
    rw [finished]
    exact if_pos active
  have fresh : (List.replicate gcmNonceSize (0 : UInt8)).length = gcmNonceSize :=
    List.length_replicate
  refine ⟨accepted, finishP4 accepted, message, reading, .accept msg kind received, ?_, ?_, ?_, ?_, ?_⟩
  · have checked := @ThreadStep.judge crypto library store .init accepted message
    rwa [judged] at checked
  · have recorded := @ThreadStep.record crypto library store .init accepted message reading 0
    rwa [label] at recorded
  · rw [← goesOn]
    exact .respond _ (respondP4_sent lawful received accepted fresh)
  · obtain ⟨regBl, ts, data, shape, -⟩ := acceptP4_ok received
    rw [finished, shape]
    exact ⟨rfl, rfl, rfl, rfl, rfl, rfl⟩
  · exact ⟨_, _, Fields.lookup_set_self _ _ _, rfl, congrArg PyFloat.finite trust⟩

end FirstExchange

end Microgrid.SecureNode
