import Microgrid.SecureNode.PcClient

/-!
# A `_handle_p4` that fails

The handler moves the chain on before it encrypts and sends its answer, and its outer
`except` takes nothing of that back: the chain head from before is kept in a variable that
nothing reads. A failure leaves the session log and the store as they were exactly if it
comes before the chain moves. Reading the setpoint is a look-up in a dictionary and cannot
fail.
-/

namespace Microgrid.SecureNode

open PythonValues Ems

section Conditions

variable (crypto : Primitives)

/-- The message passes the chain check: its ciphertext opens to six fields, its number and
its time have their widths, and the fifth field links the first four to the chain head. -/
def PassesChainCheck (session : NodeSession) (msg : Message) (pregBl : Bytes) : Prop :=
  ∃ (msgCif msgReg smgReg tsB mB idA aRegBl regReg : Bytes) (mNum ts : ℕ),
    bytesField msg "MSG_cif" = .ok msgCif ∧
    decryptGcm crypto msgCif session.sesKey = .ok msgReg ∧
    parseTlv 6 msgReg = some [smgReg, tsB, mB, idA, pregBl, aRegBl] ∧
    structUnpack 4 mB = .ok mNum ∧ structUnpack 8 tsB = .ok ts ∧
    makeRegReg smgReg tsB mNum idA session.serverId session.sesId = .ok regReg ∧
    pregBl = hSha256 crypto (session.prvBl ++ hSha256 crypto regReg)

/-- The answer to such a message fails: its encryption, its sending, or the sending of the
setpoint behind it. -/
def AnswerFails (sesKey pregBl : Bytes) (setpoint : Option PyFloat) (delivery : Delivery) : Prop :=
  (∃ exception, encryptGcm crypto delivery.nonce (hSha256 crypto (pregBl ++ sesKey)) sesKey
    = .error exception) ∨
  delivery.resFails ≠ none ∨ setpoint ≠ none ∧ delivery.setpointFails ≠ none

variable (library : Library)

/-- The call takes its outer error branch, which logs the exception. -/
def TakesErrorBranch (session : NodeSession) (store : DataStore) (setpoint : Option PyFloat)
    (now : ℚ) (delivery : Delivery) (msg : Message) : Prop :=
  ∃ exception, (handleP4 crypto library session store setpoint now delivery msg).1.metrics.errors
    = session.metrics.errors ++ ["P4: " ++ library.strOf exception]

/-- If the call fails, the session log and the store are as they were. -/
def FailureLeavesLog (session : NodeSession) (store : DataStore) (setpoint : Option PyFloat)
    (now : ℚ) (delivery : Delivery) (msg : Message) : Prop :=
  TakesErrorBranch crypto library session store setpoint now delivery msg →
    let after := handleP4 crypto library session store setpoint now delivery msg
    after.1.prvBl = session.prvBl ∧ after.1.mNumExpected = session.mNumExpected ∧
      after.1.chain = session.chain ∧ after.2.1 = store

end Conditions

section Failures

variable {crypto : Primitives} {library : Library}

/-- The error branch logs the exception and leaves the chain alone. -/
theorem failP4_log (session : NodeSession) (exception : PyException) :
    (failP4 library session exception).prvBl = session.prvBl ∧
      (failP4 library session exception).mNumExpected = session.mNumExpected ∧
      (failP4 library session exception).chain = session.chain ∧
      (failP4 library session exception).metrics.errors
        = session.metrics.errors ++ ["P4: " ++ library.strOf exception] := by
  unfold failP4
  dsimp only
  split <;> exact ⟨rfl, rfl, rfl, rfl⟩

/-- A trust update logs no error. -/
theorem updateTrust_errors (session : NodeSession) (event : TrustEvent) :
    (session.updateTrust event).metrics.errors = session.metrics.errors := by
  cases event with
  | securityError => rfl
  | sensorAnomaly =>
    rw [NodeSession.updateTrust]
    split <;> rfl
  | sensorOk => rfl

/-- Nor does the check of a reading. -/
theorem judgeReading_errors (session : NodeSession) (store : DataStore) (message : Accepted) :
    (judgeReading library session store message).1.metrics.errors = session.metrics.errors := by
  rcases @judgeReading_session library session store message with same | ⟨event, -, same⟩
  · rw [same]
  · rw [same, updateTrust_errors]

/-- The end of a call that raised nothing logs no error. -/
theorem finishP4_errors (session : NodeSession) :
    (finishP4 session).metrics.errors = session.metrics.errors := by
  unfold finishP4
  dsimp only
  split <;> rfl

/-- Accepting a message is passing the chain check, and fixes what the answer encrypts. -/
theorem acceptP4_passes {session accepted : NodeSession} {msg : Message} {message : Accepted}
    (accepts : acceptP4 crypto session msg = .ok (accepted, message)) :
    ∃ pregBl, PassesChainCheck crypto session msg pregBl ∧
      message.bRegBl = hSha256 crypto (pregBl ++ session.sesKey) ∧
      accepted.sesKey = session.sesKey ∧
      accepted.chain.length = session.chain.length + 1 ∧
      accepted.metrics = session.metrics := by
  obtain ⟨msgCif, carried, accepts⟩ := bind_ok accepts
  obtain ⟨msgReg, decrypted, accepts⟩ := bind_ok accepts
  split at accepts
  · next smgReg tsB mB idA pregBlRx aRegBl parsed =>
    obtain ⟨mNum, count, accepts⟩ := bind_ok accepts
    obtain ⟨ts, clock, accepts⟩ := bind_ok accepts
    obtain ⟨regReg, made, accepts⟩ := bind_ok accepts
    dsimp only at accepts
    split at accepts
    · cases accepts
    · next linked =>
      have same := not_not.mp linked
      obtain ⟨rfl, rfl⟩ := Prod.mk.inj (Except.ok.inj accepts)
      refine ⟨pregBlRx, ?_, by rw [same], rfl, ?_, rfl⟩
      · exact ⟨msgCif, msgReg, smgReg, tsB, mB, idA, aRegBl, regReg, mNum, ts, carried, decrypted,
          parsed, count, clock, made, same.symm⟩
      · rw [List.length_append, List.length_singleton]
  · cases accepts

/-- A message that passes the chain check is accepted. -/
theorem PassesChainCheck.accepts {session : NodeSession} {msg : Message} {pregBl : Bytes}
    (passes : PassesChainCheck crypto session msg pregBl) :
    ∃ accepted message, acceptP4 crypto session msg = .ok (accepted, message) ∧
      message.bRegBl = hSha256 crypto (pregBl ++ session.sesKey) := by
  obtain ⟨msgCif, msgReg, smgReg, tsB, mB, idA, aRegBl, regReg, mNum, ts, carried, decrypted,
    parsed, count, clock, made, rfl⟩ := passes
  exact ⟨_, _, acceptP4_of_fields carried decrypted parsed count clock made, rfl⟩

/-- What makes a response fail. -/
theorem respondP4_error_iff (session : NodeSession) (setpoint : Option PyFloat)
    (message : Accepted) (delivery : Delivery) :
    (∃ exception, (respondP4 crypto session setpoint message delivery).2 = .error exception) ↔
      (∃ exception, encryptGcm crypto delivery.nonce message.bRegBl session.sesKey
        = .error exception) ∨
      delivery.resFails ≠ none ∨ setpoint ≠ none ∧ delivery.setpointFails ≠ none := by
  rw [respondP4]
  cases encryptGcm crypto delivery.nonce message.bRegBl session.sesKey with
  | error exception => exact ⟨fun _ => .inl ⟨exception, rfl⟩, fun _ => ⟨exception, rfl⟩⟩
  | ok resCif =>
    cases delivery.resFails with
    | some exception => exact ⟨fun _ => .inr (.inl nofun), fun _ => ⟨exception, rfl⟩⟩
    | none =>
      cases setpoint with
      | none => simp
      | some value =>
        cases delivery.setpointFails with
        | none => simp
        | some exception => simp

/-- A message that passes the chain check and is not answered has moved the chain on. -/
theorem unanswered_moves_chain {session : NodeSession} {store : DataStore}
    {setpoint : Option PyFloat} {now : ℚ} {delivery : Delivery} {msg : Message} {pregBl : Bytes}
    (passes : PassesChainCheck crypto session msg pregBl)
    (fails : AnswerFails crypto session.sesKey pregBl setpoint delivery) :
    TakesErrorBranch crypto library session store setpoint now delivery msg ∧
      (handleP4 crypto library session store setpoint now delivery msg).1.chain.length
        = session.chain.length + 1 := by
  obtain ⟨accepted, message, accepts, digest⟩ := passes.accepts
  obtain ⟨-, -, -, sameKey, longer, sameMetrics⟩ := acceptP4_passes accepts
  obtain ⟨trustScore, anomalies, metrics, shape⟩ :=
    @judgeReading_shape library accepted store message
  have key : (judgeReading library accepted store message).1.sesKey = session.sesKey := by
    rw [shape]
    exact sameKey
  have chain : (judgeReading library accepted store message).1.chain = accepted.chain := by
    rw [shape]
  obtain ⟨exception, raised⟩ := (respondP4_error_iff (judgeReading library accepted store message).1
    setpoint message delivery).mpr (by rw [key, digest]; exact fails)
  obtain ⟨-, -, sameChain, logged⟩ :=
    @failP4_log library (judgeReading library accepted store message).1 exception
  have ended : (handleP4 crypto library session store setpoint now delivery msg).1 =
      failP4 library (judgeReading library accepted store message).1 exception := by
    unfold handleP4
    rw [accepts]
    dsimp only
    generalize respondP4 crypto (judgeReading library accepted store message).1 setpoint message
      delivery = answer at raised
    obtain ⟨sent, outcome⟩ := answer
    obtain rfl : outcome = .error exception := raised
    rfl
  constructor
  · refine ⟨exception, ?_⟩
    rw [ended, logged, judgeReading_errors, sameMetrics]
  · rw [ended, sameChain, chain, longer]

/-- A failing call leaves the session log and the store as they were, unless the message
passes the chain check and its answer fails. -/
theorem failureLeavesLog_iff (crypto : Primitives) (library : Library) (session : NodeSession)
    (store : DataStore) (setpoint : Option PyFloat) (now : ℚ) (delivery : Delivery) (msg : Message) :
    FailureLeavesLog crypto library session store setpoint now delivery msg ↔
      ¬∃ pregBl, PassesChainCheck crypto session msg pregBl ∧
        AnswerFails crypto session.sesKey pregBl setpoint delivery := by
  constructor
  · rintro leaves ⟨pregBl, passes, fails⟩
    obtain ⟨branch, longer⟩ :=
      @unanswered_moves_chain crypto library session store setpoint now delivery msg _ passes fails
    obtain ⟨-, -, same, -⟩ := leaves branch
    rw [same] at longer
    omega
  · intro answered
    cases accepts : acceptP4 crypto session msg with
    | error exception =>
      intro _ after
      have ended : after = (failP4 library session exception, store,
          sendError ("P4 failed: " ++ library.strOf exception) delivery.errorFails) := by
        unfold after handleP4
        rw [accepts]
      obtain ⟨sameHead, sameNumber, sameChain, -⟩ := @failP4_log library session exception
      rw [ended]
      exact ⟨sameHead, sameNumber, sameChain, rfl⟩
    | ok result =>
      obtain ⟨accepted, message⟩ := result
      obtain ⟨pregBl, passes, digest, sameKey, -, sameMetrics⟩ := acceptP4_passes accepts
      have noFailure : ¬AnswerFails crypto session.sesKey pregBl setpoint delivery :=
        fun fails => answered ⟨pregBl, passes, fails⟩
      obtain ⟨trustScore, anomalies, metrics, shape⟩ :=
        @judgeReading_shape library accepted store message
      have key : (judgeReading library accepted store message).1.sesKey = session.sesKey := by
        rw [shape]
        exact sameKey
      have returns := mt (respondP4_error_iff (judgeReading library accepted store message).1
        setpoint message delivery).mp (by rw [key, digest]; exact noFailure)
      have ended : (handleP4 crypto library session store setpoint now delivery msg).1 =
          finishP4 (judgeReading library accepted store message).1 := by
        unfold handleP4
        rw [accepts]
        dsimp only
        generalize respondP4 crypto (judgeReading library accepted store message).1 setpoint
          message delivery = answer at returns
        obtain ⟨sent, outcome⟩ := answer
        cases outcome with
        | error exception => exact absurd ⟨exception, rfl⟩ returns
        | ok done => rfl
      rintro ⟨exception, logged⟩
      rw [ended, finishP4_errors, judgeReading_errors, sameMetrics] at logged
      have sizes := congrArg List.length logged
      rw [List.length_append, List.length_singleton] at sizes
      omega

end Failures

/-- The first message of a session, sent while the peer has gone: the reading is in the chain
and the answer never leaves. -/
theorem lost_answer_moves_chain : ¬∀ (library : Library) (session : NodeSession) (msg : Message),
    FailureLeavesLog plainPrimitives library session (.init maxReadingsPerNode) none 0
      ⟨List.replicate gcmNonceSize 0, some .connection, none, false⟩ msg := by
  intro always
  set library : Library := ⟨fun _ => .ok (.dict []), fun _ => .error .value, fun _ => ""⟩
  obtain ⟨msg, after, message, -, accepts, -⟩ := established_accepts plainPrimitives_lawful library
    "node_a" (show ([] : Bytes).length ≤ 65000 by decide)
  obtain ⟨pregBl, passes, -⟩ := acceptP4_passes accepts
  have fails : AnswerFails plainPrimitives (established [] "node_a" [] [] []).sesKey pregBl none
      ⟨List.replicate gcmNonceSize 0, some .connection, none, false⟩ :=
    .inr (.inl (Option.some_ne_none _))
  obtain ⟨branch, longer⟩ := @unanswered_moves_chain plainPrimitives library _
    (.init maxReadingsPerNode) none 0 _ msg pregBl passes fails
  obtain ⟨-, -, same, -⟩ := always library _ msg branch
  rw [same] at longer
  omega

end Microgrid.SecureNode
