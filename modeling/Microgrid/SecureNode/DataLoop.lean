import Microgrid.Foundation.PenaltyWindows
import Microgrid.SecureNode.ServerRuns

/-!
# The data loop of one session

`_run_data_loop` as a machine of its own. Whatever the other threads do reaches a session
through the data store and the coordinator, so both are free at every message, as are the
nonces and the way every send ends.

Besides the session, a state lists the calls of `_update_trust` so far. A call only moves
the score and the anomaly counter, and it moves them as the rules of the penalty library
say (`standing_updateTrust`).
-/

namespace Microgrid.SecureNode

open PythonValues Ems LabelledRuns PenaltyWindows

/-- What one turn of the loop meets: the message, what the other threads have left in the
data store and in the coordinator, the clock, and how the sends end. -/
structure Reception where
  msg : Message
  store : DataStore
  setpoint : Option PyFloat
  now : ℚ
  delivery : Delivery

/-- `msg.get("type")`, where it is a string. -/
def msgType (msg : Message) : Option String :=
  match msg.lookup "type" with
  | some (.json (.str kind)) => some kind
  | _ => none

/-- A session in its data loop: whether the loop is about to receive, and the calls of
`_update_trust` so far. -/
structure LoopState where
  session : NodeSession
  receiving : Bool
  calls : List TrustEvent

/-- The loop when it is entered. -/
def LoopState.start (session : NodeSession) : LoopState := ⟨session, session.sessionActive, []⟩

section Loop

variable (crypto : Primitives) (library : Library)

/-- The call of `_update_trust` that the cross-node check makes, if any. -/
def judgedCalls (session : NodeSession) (store : DataStore) (message : Accepted) :
    List TrustEvent :=
  match readSensor library session.nodeLabel message with
  | .error _ => []
  | .ok sensorData =>
    match checkReading library store session.nodeLabel sensorData with
    | .ok (some event) => [event]
    | _ => []

/-- The calls of `_update_trust` within one `_handle_p4`. -/
def p4Calls (session : NodeSession) (reception : Reception) : List TrustEvent :=
  match acceptP4 crypto session reception.msg with
  | .error _ => [.securityError]
  | .ok (session, message) =>
    let calls := judgedCalls library session reception.store message
    let session := (judgeReading library session reception.store message).1
    match (respondP4 crypto session reception.setpoint message reception.delivery).2 with
    | .error _ => calls ++ [.securityError]
    | .ok () => calls

/-- One turn of the loop. -/
def LoopState.receive (state : LoopState) (reception : Reception) : LoopState :=
  if msgType reception.msg = some "dx_msg" then
    let session := (handleP4 crypto library state.session reception.store reception.setpoint
      reception.now reception.delivery reception.msg).1
    ⟨session, session.sessionActive, state.calls ++ p4Calls crypto library state.session reception⟩
  else if msgType reception.msg = some "logout_req" then
    ⟨handleP5 crypto library reception.delivery.nonce reception.delivery.resFails state.session
      reception.msg, false, state.calls⟩
  else
    ⟨state.session, state.session.sessionActive, state.calls⟩

/-- The loop receives a message, or `recv_msg` times out or raises and the loop is over. -/
inductive LoopStep : LoopState → Option Reception → LoopState → Prop where
  | receive (state : LoopState) (reception : Reception) (waits : state.receiving = true) :
      LoopStep state (some reception) (state.receive crypto library reception)
  | stop (state : LoopState) (waits : state.receiving = true) :
      LoopStep state none { state with receiving := false }

/-- How a `_handle_p4` ends: the message is rejected, or it is accepted and the response
gets through or not. -/
inductive Handled (session : NodeSession) (reception : Reception) :
    NodeSession → List TrustEvent → Prop where
  | rejected {exception : PyException}
      (raised : acceptP4 crypto session reception.msg = .error exception) :
      Handled session reception (failP4 library session exception) [.securityError]
  | answered {accepted : NodeSession} {message : Accepted}
      (passed : acceptP4 crypto session reception.msg = .ok (accepted, message)) :
      Handled session reception
        (finishP4 (judgeReading library accepted reception.store message).1)
        (judgedCalls library accepted reception.store message)
  | unanswered {accepted : NodeSession} {message : Accepted} (exception : PyException)
      (passed : acceptP4 crypto session reception.msg = .ok (accepted, message)) :
      Handled session reception
        (failP4 library (judgeReading library accepted reception.store message).1 exception)
        (judgedCalls library accepted reception.store message ++ [.securityError])

end Loop

/-- The rules by which the trust score falls. -/
def trustRules : Rules ℚ := ⟨vBusAnomalyWindow, 30 / 100, 40 / 100⟩

/-- What an event of `_update_trust` reports. -/
def TrustEvent.report : TrustEvent → Report
  | .securityError => .fault
  | .sensorAnomaly => .anomaly
  | .sensorOk => .normal

/-- The trust score and the anomaly counter. -/
def NodeSession.standing (session : NodeSession) : Standing ℚ :=
  ⟨session.trustScore, session.consecutiveAnomalies⟩

section Specifications

variable {crypto : Primitives} {library : Library}

/-- Every `_handle_p4` ends in one of the three ways. -/
theorem handleP4_handled (session : NodeSession) (reception : Reception) :
    Handled crypto library session reception
      (handleP4 crypto library session reception.store reception.setpoint reception.now
        reception.delivery reception.msg).1
      (p4Calls crypto library session reception) := by
  unfold handleP4 p4Calls
  cases passed : acceptP4 crypto session reception.msg with
  | error exception => exact .rejected passed
  | ok result =>
    obtain ⟨accepted, message⟩ := result
    dsimp only
    cases answer : respondP4 crypto (judgeReading library accepted reception.store message).1
      reception.setpoint message reception.delivery with
    | mk sent outcome =>
      cases outcome with
      | error exception => exact .unanswered exception passed
      | ok done => exact .answered passed

/-- A trust update is a report under the trust rules. -/
theorem standing_updateTrust (session : NodeSession) (event : TrustEvent) :
    (session.updateTrust event).standing = session.standing.report trustRules event.report := by
  cases event with
  | securityError => rfl
  | sensorAnomaly =>
    rw [NodeSession.updateTrust, TrustEvent.report, Standing.report]
    by_cases enough : vBusAnomalyWindow ≤ session.consecutiveAnomalies + 1
    · rw [if_pos enough]
      exact (if_pos enough).symm
    · rw [if_neg enough]
      exact (if_neg enough).symm
  | sensorOk => rfl

/-- The standing after a number of trust updates. -/
theorem standing_foldl (session : NodeSession) (calls : List TrustEvent) :
    (calls.foldl NodeSession.updateTrust session).standing
      = session.standing.after trustRules (calls.map TrustEvent.report) := by
  induction calls generalizing session with
  | nil => rfl
  | cons event calls inductionHypothesis =>
    rw [List.foldl_cons, inductionHypothesis, standing_updateTrust]
    rfl

/-- A security error is a fault under the trust rules. -/
theorem standing_failP4 (session : NodeSession) (exception : PyException) :
    (failP4 library session exception).standing = session.standing.report trustRules .fault := by
  unfold failP4
  dsimp only
  split <;> rfl

/-- The end of an exchange leaves the standing alone. -/
theorem standing_finishP4 (session : NodeSession) :
    (finishP4 session).standing = session.standing := by
  unfold finishP4
  dsimp only
  split <;> rfl

/-- Logging out leaves the standing alone. -/
theorem standing_handleP5 (nonce : Bytes) (resFails : Option PyException) (session : NodeSession)
    (msg : Message) : (handleP5 crypto library nonce resFails session msg).standing
      = session.standing := by
  unfold handleP5
  dsimp only
  split <;> rfl

/-- Accepting a message leaves the standing alone. -/
theorem standing_acceptP4 {session after : NodeSession} {msg : Message} {message : Accepted}
    (accepted : acceptP4 crypto session msg = .ok (after, message)) :
    after.standing = session.standing := by
  obtain ⟨regBl, ts, data, rfl, -⟩ := acceptP4_ok accepted
  rfl

/-- The check of a reading makes the trust updates listed for it. -/
theorem judgeReading_calls (session : NodeSession) (store : DataStore) (message : Accepted) :
    (judgeReading library session store message).1
      = (judgedCalls library session store message).foldl NodeSession.updateTrust session := by
  unfold judgeReading judgedCalls
  cases readSensor library session.nodeLabel message with
  | error exception => rfl
  | ok sensorData =>
    dsimp only
    cases checkReading library store session.nodeLabel sensorData with
    | error exception => rfl
    | ok event => cases event <;> rfl

/-- The check of a reading reports an anomaly, a normal reading, or nothing. -/
theorem judgedCalls_cases (session : NodeSession) (store : DataStore) (message : Accepted) :
    judgedCalls library session store message = [] ∨
      judgedCalls library session store message = [.sensorAnomaly] ∨
      judgedCalls library session store message = [.sensorOk] := by
  unfold judgedCalls
  cases readSensor library session.nodeLabel message with
  | error exception => exact .inl rfl
  | ok sensorData =>
    dsimp only
    split
    · next event checked =>
      rcases checkReading_event checked with rfl | rfl
      · exact .inr (.inl rfl)
      · exact .inr (.inr rfl)
    · exact .inl rfl

/-- The check of a reading reports no security error. -/
theorem judgedCalls_sensor (session : NodeSession) (store : DataStore) (message : Accepted) :
    TrustEvent.securityError ∉ judgedCalls library session store message := by
  rcases @judgedCalls_cases library session store message with none | anomaly | normal
  · rw [none]
    decide
  · rw [anomaly]
    decide
  · rw [normal]
    decide

/-- One `_handle_p4` moves the standing by the trust updates listed for it. -/
theorem Handled.standing {session after : NodeSession} {reception : Reception}
    {calls : List TrustEvent} (handled : Handled crypto library session reception after calls) :
    after.standing = session.standing.after trustRules (calls.map TrustEvent.report) := by
  have judged : ∀ {accepted : NodeSession} {message : Accepted},
      acceptP4 crypto session reception.msg = .ok (accepted, message) →
      (judgeReading library accepted reception.store message).1.standing
        = session.standing.after trustRules
          ((judgedCalls library accepted reception.store message).map TrustEvent.report) := by
    intro accepted message passed
    rw [judgeReading_calls, standing_foldl, standing_acceptP4 passed]
  cases handled with
  | rejected raised => exact standing_failP4 session _
  | answered passed => rw [standing_finishP4, judged passed]
  | unanswered exception passed =>
    rw [standing_failP4, judged passed, List.map_append, List.map_singleton, after_concat]
    rfl

/-- After a security error the session is inactive. -/
theorem Handled.error_last {session after : NodeSession} {reception : Reception}
    {calls : List TrustEvent} (handled : Handled crypto library session reception after calls) :
    TrustEvent.securityError ∉ calls.dropLast ∧
      (.securityError ∈ calls → after.sessionActive = false) := by
  cases handled with
  | rejected raised => exact ⟨List.not_mem_nil, fun _ => (failP4_spec _ _).2.1⟩
  | answered passed =>
    have clean := @judgedCalls_sensor library
    exact ⟨fun inside => clean _ _ _ ((List.dropLast_sublist _).subset inside),
      fun inside => absurd inside (clean _ _ _)⟩
  | unanswered exception passed =>
    rw [List.dropLast_concat]
    exact ⟨judgedCalls_sensor _ _ _, fun _ => (failP4_spec _ _).2.1⟩

/-- A session that is still active after `_handle_p4` has enough trust. -/
theorem Handled.trusted {session after : NodeSession} {reception : Reception}
    {calls : List TrustEvent} (handled : Handled crypto library session reception after calls)
    (active : after.sessionActive = true) : trustDropThreshold ≤ after.trustScore := by
  have failed : ∀ session exception, (failP4 library session exception).sessionActive ≠ true := by
    intro session exception
    rw [(failP4_spec session exception).2.1]
    exact Bool.false_ne_true
  cases handled with
  | rejected raised => exact absurd active (failed _ _)
  | answered passed =>
    refine not_lt.mp fun low => ?_
    rw [(finishP4_spec _).2] at low
    rw [finishP4, if_pos low] at active
    exact absurd active Bool.false_ne_true
  | unanswered exception passed => exact absurd active (failed _ _)

end Specifications

section Turns

variable {crypto : Primitives} {library : Library}

/-- A turn in which a message is accepted and answered. -/
theorem receive_answered {state : LoopState} {reception : Reception} {accepted : NodeSession}
    {message : Accepted} (kind : msgType reception.msg = some "dx_msg")
    (passed : acceptP4 crypto state.session reception.msg = .ok (accepted, message))
    (sent : (respondP4 crypto (judgeReading library accepted reception.store message).1
      reception.setpoint message reception.delivery).2 = .ok ()) :
    (state.receive crypto library reception).session
      = finishP4 (judgeReading library accepted reception.store message).1 := by
  rw [LoopState.receive, if_pos kind]
  dsimp only [handleP4]
  rw [passed]
  dsimp only
  cases answer : respondP4 crypto (judgeReading library accepted reception.store message).1
    reception.setpoint message reception.delivery with
  | mk messages outcome =>
    rw [answer] at sent
    dsimp only at sent
    subst sent
    rfl

/-- A data message is handled by `_handle_p4`. -/
theorem receive_handled {state : LoopState} {reception : Reception}
    (kind : msgType reception.msg = some "dx_msg") :
    Handled crypto library state.session reception
      (state.receive crypto library reception).session
      (p4Calls crypto library state.session reception) := by
  rw [LoopState.receive, if_pos kind]
  exact handleP4_handled state.session reception

/-- The loop goes on after a data message exactly while the session is active. -/
theorem receive_receiving {state : LoopState} {reception : Reception}
    (kind : msgType reception.msg = some "dx_msg") :
    (state.receive crypto library reception).receiving
      = (state.receive crypto library reception).session.sessionActive := by
  rw [LoopState.receive, if_pos kind]

/-- A session that receives and can go on: its identifiers fit their length fields. -/
structure Ready (state : LoopState) : Prop where
  receiving : state.receiving = true
  active : state.session.sessionActive = true
  serverId : state.session.serverId.length < 256 ^ 2
  sesId : state.session.sesId.length < 256 ^ 2

/-- A session that still has enough trust after an accepted message goes on. -/
theorem ready_finished {state after : LoopState} {session accepted : NodeSession}
    {message : Accepted} {msg : Message} {store : DataStore} (ready : Ready state)
    (passed : acceptP4 crypto state.session msg = .ok (accepted, message))
    (judged : session = (judgeReading library accepted store message).1)
    (trusted : trustDropThreshold ≤ session.trustScore)
    (receives : after.receiving = after.session.sessionActive)
    (finished : after.session = finishP4 session) : Ready after := by
  have kept : session.sessionActive = state.session.sessionActive ∧
      session.serverId = state.session.serverId ∧ session.sesId = state.session.sesId := by
    obtain ⟨regBl, ts, data, shape, -⟩ := acceptP4_ok passed
    obtain ⟨trustScore, anomalies, metrics, checked⟩ :=
      @judgeReading_shape library accepted store message
    rw [judged, checked, shape]
    exact ⟨rfl, rfl, rfl⟩
  obtain ⟨active, serverId, sesId⟩ := kept
  rw [finishP4_trusted trusted] at finished
  constructor
  · rw [receives, finished]
    exact active.trans ready.active
  · rw [finished]
    exact active.trans ready.active
  · rw [finished]
    exact serverId ▸ ready.serverId
  · rw [finished]
    exact sesId ▸ ready.sesId

/-- The holder of the session key can always have a text accepted and answered, under any
message number, and the session goes on as long as it has enough trust. -/
theorem exists_turn (lawful : crypto.Lawful) (library : Library) (store : DataStore)
    {state : LoopState} (ready : Ready state) {sensorText : Bytes}
    (short : sensorText.length ≤ 65000) {mNum : ℕ} (count : mNum + 1 < 256 ^ 4) :
    ∃ reception accepted message, reception.store = store ∧
      msgType reception.msg = some "dx_msg" ∧
      acceptP4 crypto state.session reception.msg = .ok (accepted, message) ∧
      sensorJson library message = library.loads sensorText ∧ message.mNum = mNum + 1 ∧
      ∀ session, session = (judgeReading library accepted store message).1 →
        trustDropThreshold ≤ session.trustScore →
        (state.receive crypto library reception).session = finishP4 session ∧
          Ready (state.receive crypto library reception) := by
  obtain ⟨msg, accepted, message, isDx, passed, carried, number⟩ :=
    session_accepts lawful library state.session ready.serverId ready.sesId short count
  have fresh : (List.replicate gcmNonceSize (0 : UInt8)).length = gcmNonceSize :=
    List.length_replicate
  have kind : msgType msg = some "dx_msg" := by
    rw [msgType, isDx]
  let reception : Reception :=
    ⟨msg, store, none, 0, ⟨List.replicate gcmNonceSize 0, none, none, false⟩⟩
  refine ⟨reception, accepted, message, rfl, kind, passed, carried, number, ?_⟩
  intro session judged trusted
  have finished := @receive_answered crypto library state reception accepted message kind passed
    (respondP4_sent lawful passed _ fresh)
  rw [← judged] at finished
  exact ⟨finished, ready_finished ready passed judged trusted (receive_receiving kind) finished⟩

end Turns

end Microgrid.SecureNode
