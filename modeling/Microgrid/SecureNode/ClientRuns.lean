import Microgrid.Foundation.Simulations
import Microgrid.SecureNode.Logout

/-!
# What a client reports of its run

`run_client` from the end of P3 on: it sends its messages one after the other, stops at the first
that raises, logs out in any case, and returns how many exchanges there were and what went wrong.

The channel is reliable and timely: every frame arrives whole, at the server within the 30 seconds
and at the client within the 10 seconds for which they wait. So there is no timeout, and the
interval between two messages, which has to be shorter than what the server waits, is left out.

Over such a channel a message raises only after the session was dropped. The logout is never
answered, and yet the client may find nothing wrong with it: the setpoint behind the last response
is still unread, and any message passes for an answer.
-/

namespace Microgrid.SecureNode

open PythonValues Ems LabelledRuns

/-- The `metrics` of `run_client`, except for the durations. -/
structure ClientMetrics where
  p4Count : ℕ
  errors : List String

section Client

variable (crypto : Primitives) (library : Library) (floatText : PyFloat → List Char)

/-- What a round that raised leaves for the logout. Making the message may raise, before anything
is sent. Otherwise the session is over, and the client has read what there was. -/
def Conversation.failed (state : Conversation) (turn : Turn) : Conversation :=
  match p4Send crypto state.client turn.ts turn.nonce.val turn.sensorJson with
  | .error _ => state
  | .ok (_, msg) =>
    match packPayload floatText msg with
    | .error _ => state
    | .ok _ => ⟨state.client, { state.server with receiving := false }, []⟩

/-- The P4 loop of `run_client`, from the message of this index on, without the pauses. -/
def p4Loop (state : Conversation) (index : ℕ) (metrics : ClientMetrics) :
    List Turn → Conversation × ClientMetrics
  | [] => (state, metrics)
  | turn :: turns =>
    match state.exchange crypto library floatText turn with
    | .error exception =>
      (state.failed crypto floatText turn, { metrics with
        errors := metrics.errors ++
          ["P4 #" ++ toString (index + 1) ++ ": " ++ library.strOf exception] })
    | .ok after => p4Loop after (index + 1) { metrics with p4Count := metrics.p4Count + 1 } turns

/-- What the frame of a logout request is answered with. Sending it may raise if the server has
closed the connection. -/
def Conversation.logoutAnswers (state : Conversation) (turn : LogoutTurn)
    (sendFails : Option PyException) (frame : Frame) : Except PyException (List Frame) :=
  if state.server.receiving then
    match recvMsg serverLimit frame with
    | .error _ => .ok []
    | .ok received => (state.server.sends crypto library (turn.reception received)).mapM
        (packPayload floatText)
  else
    match sendFails with
    | some exception => .error exception
    | none => .ok []

/-- P5 of `run_client`. -/
def Conversation.logout (state : Conversation) (turn : LogoutTurn)
    (sendFails : Option PyException) : Except PyException Bool := do
  let request ← p5LogoutInitiate crypto state.client turn.ts turn.nonce.val
  let frame ← packPayload floatText request
  let answers ← state.logoutAnswers crypto library floatText turn sendFails frame
  readLogout crypto state.client (state.unread ++ answers)

/-- `run_client` from the end of P3 on. -/
def runClient (state : Conversation) (turns : List Turn) (logout : LogoutTurn)
    (sendFails : Option PyException) : ClientMetrics :=
  let (state, metrics) := p4Loop crypto library floatText state 0 ⟨0, []⟩ turns
  match state.logout crypto library floatText logout sendFails with
  | .error exception =>
    { metrics with errors := metrics.errors ++ ["P5: " ++ library.strOf exception] }
  | .ok _ => metrics

end Client

/-! ### One exchange -/

/-- What an exchange that completes moves on: the client's number, the server's count, and the
frames that are left unread. -/
structure Advanced (state : Conversation) (turn : Turn) (after : Conversation) : Prop where
  id : after.client.id = state.client.id
  peerId : after.client.peerId = state.client.peerId
  mNum : after.client.mNum = state.client.mNum + 1
  served : after.server.session.metrics.p4Count = state.server.session.metrics.p4Count + 1
  unread : after.unread = [] ↔ turn.setpoint = none

/-- A call for each element gives as many results. -/
theorem mapM_length {α β : Type} {call : α → Except PyException β} {values : List α}
    {results : List β} (called : values.mapM call = .ok results) :
    results.length = values.length := by
  induction values generalizing results with
  | nil =>
    rw [← Except.ok.inj called]
    rfl
  | cons value values inductionHypothesis =>
    rw [List.mapM_cons] at called
    obtain ⟨first, -, called⟩ := bind_ok called
    obtain ⟨rest, among, called⟩ := bind_ok called
    rw [← Except.ok.inj called, List.length_cons, List.length_cons, inductionHypothesis among]

/-- The end of an exchange counts it. -/
theorem finishP4_p4Count (session : NodeSession) :
    (finishP4 session).metrics.p4Count = session.metrics.p4Count + 1 := by
  unfold finishP4
  dsimp only
  split <;> rfl

/-- A trust update counts no exchange. -/
theorem updateTrust_p4Count (session : NodeSession) (event : TrustEvent) :
    (session.updateTrust event).metrics.p4Count = session.metrics.p4Count := by
  cases event with
  | securityError => rfl
  | sensorAnomaly =>
    rw [NodeSession.updateTrust]
    dsimp only
    split <;> rfl
  | sensorOk => rfl

section Exchange

variable {crypto : Primitives} {library : Library} {floatText : PyFloat → List Char}

/-- Looking at a reading counts no exchange. -/
theorem judgeReading_p4Count (session : NodeSession) (store : DataStore) (message : Accepted) :
    (judgeReading library session store message).1.metrics.p4Count = session.metrics.p4Count := by
  rcases @judgeReading_session library session store message with same | ⟨event, -, same⟩
  · rw [same]
  · rw [same]
    exact updateTrust_p4Count session event

/-- An exchange that completes moves both sides on by one. -/
theorem ExchangeStep.advanced (lawful : crypto.Lawful)
    (short : ∀ value, (floatText value).length ≤ 24) {state after : Conversation} {turn : Turn}
    (step : ExchangeStep crypto library floatText state turn after) (synced : state.Synced) :
    Advanced state turn after := by
  obtain ⟨receiving, sent, msg, frame, sending, packed, within⟩ := step.fits
  obtain ⟨smgReg, tsB, mB, regReg, msgReg, msgCif, computed⟩ := p4Send_ok sending
  have active := synced.receiving.symm.trans receiving
  obtain ⟨accepted, message, resCif, server, serves⟩ :=
    exists_serves lawful library synced.inStep active sending
  have carried : Carried msg := by
    rw [computed.msg]
    simp [Carried, bytesFields]
  obtain ⟨resFrame, frames, answered, resRead, -⟩ :=
    exists_answer_frames short serves.size (structPack_ok computed.count).1 turn.setpoint
  have kind : msgType (dxRes resCif (state.client.mNum + 1)) = some "dx_res" := rfl
  have read : readResponse (state.unread ++ resFrame :: frames)
      = .ok (dxRes resCif (state.client.mNum + 1), frames) :=
    readResponse_skips synced.unread resRead (by rw [kind]; decide) frames
  have honest : refuseError "P4 error: " "None" (dxRes resCif (state.client.mNum + 1)) = .ok () := rfl
  have decrypts : decryptGcm crypto resCif sent.kABEnc = .ok message.bRegBl := by
    rw [computed.sent]
    exact serves.decrypts
  have finalized := finalize_dxRes decrypts (state.client.mNum + 1)
  rw [ExchangeStep, Conversation.exchange, sending] at step
  simp only [bind, Except.bind, packed, receiving, Bool.true_eq_false, if_false,
    recvMsg_frame carried packed within, serves.sends, answered, read, honest, finalized,
    serves.turns] at step
  rw [← Except.ok.inj step]
  have dxMsg : msgType (turn.reception msg).msg = some "dx_msg" := by
    rw [Turn.reception, msgType, p4Send_kind sending]
  obtain ⟨regBl, ts, data, shape, digest⟩ := acceptP4_ok serves.accepts
  have responded : (respondP4 crypto (judgeReading library accepted turn.store message).1
      turn.setpoint message ⟨turn.resNonce.val, none, none, false⟩).2 = .ok () := by
    have small : message.bRegBl.length < 2 ^ 31 := by
      rw [digest, hSha256, lawful.digest_length]
      norm_num
    obtain ⟨cif, encrypted, -⟩ := @Primitives.Lawful.sealed crypto lawful turn.resNonce
      message.bRegBl small (judgeReading library accepted turn.store message).1.sesKey
    rw [respondP4, encrypted]
    cases turn.setpoint <;> rfl
  have session := @receive_answered crypto library state.server (turn.reception msg) accepted message
    dxMsg serves.accepts responded
  rw [serves.turns] at session
  have count := mapM_length answered
  refine ⟨?_, ?_, ?_, ?_, ?_⟩
  · rw [computed.sent]
  · rw [computed.sent]
  · rw [computed.sent]
  · rw [session, finishP4_p4Count, judgeReading_p4Count, shape]
  · cases setpoint : turn.setpoint with
    | none =>
      rw [setpoint] at count
      exact iff_of_true (List.eq_nil_of_length_eq_zero (Nat.succ.inj count)) rfl
    | some value =>
      rw [setpoint] at count
      refine iff_of_false (fun empty => ?_) (Option.some_ne_none value)
      dsimp only at empty
      rw [empty] at count
      cases count

/-! ### The loop -/

/-- A client with identifiers of the usual size that has these messages to send: they are short,
and neither the clock nor the number of messages runs over. -/
structure Sendable (client : SecureNodeClient) (turns : List Turn) : Prop where
  id : client.id.length = idSize
  peerId : client.peerId.length = idSize
  count : client.mNum + turns.length < 256 ^ 4
  short : ∀ turn ∈ turns, turn.ts < 256 ^ 8 ∧ turn.sensorJson.length ≤ 256

/-- The first of the messages fits, and the others remain. -/
theorem Sendable.next (lawful : crypto.Lawful) (floatText : PyFloat → List Char)
    {state : Conversation} {turn : Turn} {turns : List Turn}
    (sendable : Sendable state.client (turn :: turns)) (synced : state.Synced) :
    FrameFits crypto floatText state turn ∧
      ∀ after, Advanced state turn after → Sendable after.client turns := by
  have count := sendable.count
  rw [List.length_cons] at count
  obtain ⟨time, short⟩ := sendable.short turn List.mem_cons_self
  refine ⟨frameFits_of_short lawful floatText sendable.id sendable.peerId synced.sesId (by omega)
    time short, fun after advanced => ⟨?_, ?_, ?_, ?_⟩⟩
  · rw [advanced.id]
    exact sendable.id
  · rw [advanced.peerId]
    exact sendable.peerId
  · rw [advanced.mNum]
    omega
  · exact fun other member => sendable.short other (List.mem_cons_of_mem _ member)

/-- What the loop has done when it ends: the exchanges that were made, and the messages that were
not sent any more, if the session was dropped before. -/
structure Looped (library : Library) (start : Conversation) (index : ℕ) (metrics : ClientMetrics)
    (events : List (Turn × Conversation)) (rest : List Turn)
    (result : Conversation × ClientMetrics) : Prop where
  count : result.2.p4Count = metrics.p4Count + events.length
  complete : rest = [] → result.1 = final start events ∧ result.2.errors = metrics.errors
  broken : rest ≠ [] → (final start events).server.receiving = false ∧
    result.1 = { final start events with unread := [] } ∧
    ∃ exception, result.2.errors = metrics.errors ++
      ["P4 #" ++ toString (index + events.length + 1) ++ ": " ++ library.strOf exception]

/-- The loop exchanges its messages until the session is dropped.

Induct over the messages. -/
theorem p4Loop_run (lawful : crypto.Lawful) (library : Library)
    (short : ∀ value, (floatText value).length ≤ 24) {turns : List Turn} {state : Conversation}
    (synced : state.Synced) (sendable : Sendable state.client turns) (index : ℕ)
    (metrics : ClientMetrics) :
    ∃ events rest, Run (ExchangeStep crypto library floatText) state events ∧
      turns = events.map Prod.fst ++ rest ∧
      Looped library state index metrics events rest
        (p4Loop crypto library floatText state index metrics turns) := by
  induction turns generalizing state index metrics with
  | nil =>
    exact ⟨[], [], .done state, rfl, rfl, fun _ => ⟨rfl, rfl⟩, fun some => absurd rfl some⟩
  | cons turn turns inductionHypothesis =>
    obtain ⟨fits, next⟩ := sendable.next lawful floatText synced
    cases receiving : state.server.receiving with
    | true =>
      have active := synced.receiving.symm.trans receiving
      obtain ⟨-, after, step, afterSynced⟩ :=
        exchange_synced lawful library short synced active fits
      obtain ⟨events, rest, run, sent, count, complete, broken⟩ := inductionHypothesis afterSynced
        (next after (step.advanced lawful short synced)) (index + 1)
        { metrics with p4Count := metrics.p4Count + 1 }
      have looped : p4Loop crypto library floatText state index metrics (turn :: turns) =
          p4Loop crypto library floatText after (index + 1)
            { metrics with p4Count := metrics.p4Count + 1 } turns := by
        rw [p4Loop, step]
      rw [looped]
      refine ⟨(turn, after) :: events, rest, .next step run, ?_, ?_, complete, fun some => ?_⟩
      · rw [List.map_cons, List.cons_append, ← sent]
      · rw [count, List.length_cons]
        dsimp only
        omega
      · obtain ⟨closed, left, exception, error⟩ := broken some
        refine ⟨closed, left, exception, error.trans ?_⟩
        rw [List.length_cons, Nat.add_right_comm index 1, Nat.add_assoc index]
    | false =>
      obtain ⟨sent, msg, frame, sending, packed, -⟩ := fits
      have raised : state.exchange crypto library floatText turn = .error .connection := by
        rw [Conversation.exchange, sending]
        simp only [bind, Except.bind, packed, receiving, if_true]
        rfl
      have failed : state.failed crypto floatText turn = { state with unread := [] } := by
        rw [Conversation.failed, sending]
        dsimp only
        rw [packed]
        dsimp only
        rw [← receiving]
      refine ⟨[], turn :: turns, .done state, rfl, ?_⟩
      rw [p4Loop, raised]
      exact ⟨rfl, fun whole => absurd whole (List.cons_ne_nil turn turns),
        fun _ => ⟨receiving, failed, .connection, rfl⟩⟩

/-! ### The logout -/

/-- A client in step has a logout request, which fits a frame. -/
theorem exists_request (lawful : crypto.Lawful) (floatText : PyFloat → List Char)
    {client : SecureNodeClient} (id : client.id.length = idSize)
    (peerId : client.peerId.length = idSize) (sesId : client.sesId.length = idSize)
    {turn : LogoutTurn} (time : turn.ts < 256 ^ 8) :
    ∃ request frame, p5LogoutInitiate crypto client turn.ts turn.nonce.val = .ok request ∧
      packPayload floatText request = .ok frame ∧ recvMsg serverLimit frame = .ok request := by
  have tsB : structPack 8 turn.ts = .ok (bigEndian 8 turn.ts) := if_pos time
  obtain ⟨endReg, packed⟩ := packFields_ok
    [bigEndian 8 turn.ts, client.sesId, client.id, client.peerId] (by
      simp [bigEndian_length, id, peerId, sesId, idSize])
  have size := (packFields_length packed).1
  simp only [List.map_cons, List.map_nil, List.sum_cons, List.sum_nil, bigEndian_length, id, peerId,
    sesId, idSize] at size
  obtain ⟨cif, encrypted, -, length⟩ := @Primitives.Lawful.sealed crypto lawful turn.nonce endReg
    (by omega) client.kABEnc
  have carried : Carried [] := by simp [Carried]
  obtain ⟨frame, framed, arrived⟩ := bind_ok (@typed_delivered floatText "logout_req"
    [("A_END_cif", cif), ("ID_A", client.id)] [] (by simp [bytesFields]) carried serverLimit
    (by decide) (by
      have kind : "logout_req".toList.length = 10 := rfl
      simp only [serialized, List.map_cons, List.map_nil, List.sum_cons, List.sum_nil, length, id,
        serverLimit, gcmNonceSize, gcmTagSize, idSize]
      omega))
  refine ⟨_, frame, ?_, framed, arrived⟩
  rw [p5LogoutInitiate, tsB]
  simp only [bind, Except.bind, makeEndReg, packed, encrypted]
  rfl

/-- The logout raises unless a setpoint is still unread: from an open session there is no answer,
and to a closed one the request may not even be sent. -/
theorem logout_passes_iff (lawful : crypto.Lawful) (library : Library)
    (floatText : PyFloat → List Char) {state : Conversation} (synced : state.Synced)
    (id : state.client.id.length = idSize) (peerId : state.client.peerId.length = idSize)
    {turn : LogoutTurn} (time : turn.ts < 256 ^ 8) (sendFails : Option PyException) :
    (∃ answered, state.logout crypto library floatText turn sendFails = .ok answered) ↔
      state.unread ≠ [] ∧ (state.server.receiving = true ∨ sendFails = none) := by
  obtain ⟨request, frame, initiated, packed, arrived⟩ :=
    exists_request lawful floatText id peerId synced.sesId time
  have passes : ∀ {answers : List Frame}, answers = [] →
      ((∃ answered, readLogout crypto state.client (state.unread ++ answers) = .ok answered) ↔
        state.unread ≠ []) := by
    rintro answers rfl
    cases waiting : state.unread with
    | nil => exact iff_of_false (fun ⟨_, answered⟩ => nomatch answered) (fun some => some rfl)
    | cons first later =>
      have read := @readLogout_unread crypto state synced first later waiting []
      rw [waiting] at read
      exact iff_of_true ⟨false, read⟩ (List.cons_ne_nil first later)
  rw [Conversation.logout, initiated]
  simp only [bind, Except.bind, packed]
  unfold Conversation.logoutAnswers
  cases receiving : state.server.receiving with
  | true =>
    obtain ⟨silent, -⟩ := logout_unanswered lawful library synced initiated
    simp only [if_true, arrived, silent]
    exact (passes rfl).trans (and_iff_left (.inl trivial)).symm
  | false =>
    cases sendFails with
    | some exception =>
      refine iff_of_false (fun ⟨_, answered⟩ => nomatch answered) ?_
      rintro ⟨-, open_ | fails⟩
      · cases open_
      · cases fails
    | none => exact (passes rfl).trans (and_iff_left (.inr rfl)).symm

/-! ### The whole run -/

/-- What the exchanges of a run leave: both sides have counted them, the sides are in step, and a
setpoint is unread if the last message got one. -/
theorem exchanges_leave (lawful : crypto.Lawful) (short : ∀ value, (floatText value).length ≤ 24)
    {state : Conversation} (synced : state.Synced) (read : state.unread = [])
    {events : List (Turn × Conversation)}
    (run : Run (ExchangeStep crypto library floatText) state events) :
    (final state events).Synced ∧ (final state events).client.id = state.client.id ∧
      (final state events).client.peerId = state.client.peerId ∧
      (final state events).server.session.metrics.p4Count =
        state.server.session.metrics.p4Count + events.length ∧
      ((final state events).unread ≠ [] ↔
        ∃ turn, (events.map Prod.fst).getLast? = some turn ∧ turn.setpoint ≠ none) := by
  induction events using List.reverseRecOn with
  | nil =>
    refine ⟨synced, rfl, rfl, rfl, iff_of_false (absurd read) ?_⟩
    rintro ⟨turn, isLast, -⟩
    cases isLast
  | append_singleton events last inductionHypothesis =>
    obtain ⟨turn, after⟩ := last
    obtain ⟨front, back⟩ := run.split
    obtain ⟨synced, id, peerId, count, -⟩ := inductionHypothesis front
    cases back with
    | next step done =>
      have advanced := step.advanced lawful short synced
      rw [Simulations.final_append]
      dsimp only [final]
      refine ⟨(step.synced lawful short synced).2, advanced.id.trans id,
        advanced.peerId.trans peerId, ?_, ?_⟩
      · rw [advanced.served, count, List.length_append, List.length_singleton, Nat.add_assoc]
      · rw [List.map_append, List.map_singleton, List.getLast?_concat, Ne, advanced.unread]
        constructor
        · exact fun some => ⟨turn, rfl, some⟩
        · rintro ⟨other, same, some⟩
          rw [← Option.some.inj same] at some
          exact some

/-- What the client reports against what happened: the exchanges it counts are those that the
server has counted, after which both hold one chain head. If it stops early, the session was
dropped, and both the next message and the logout have failed. The report is free of errors
exactly if all messages were sent, the last of them got a setpoint, and the logout request could
be sent. -/
structure ClientReport (start : Conversation) (turns : List Turn)
    (events : List (Turn × Conversation)) (rest : List Turn) (sendFails : Option PyException)
    (metrics : ClientMetrics) : Prop where
  sent : turns = events.map Prod.fst ++ rest
  count : metrics.p4Count = events.length
  served : (final start events).server.session.metrics.p4Count = events.length
  inStep : InStep (final start events).client (final start events).server.session
  dropped : rest ≠ [] →
    (final start events).server.session.trustScore < trustDropThreshold
  broken : rest ≠ [] → ∃ next logout : String,
    metrics.errors = ["P4 #" ++ toString (events.length + 1) ++ ": " ++ next, "P5: " ++ logout]
  complete : rest = [] →
    metrics.errors = [] ∨ ∃ logout : String, metrics.errors = ["P5: " ++ logout]
  passes : metrics.errors = [] ↔
    rest = [] ∧ (∃ turn, turns.getLast? = some turn ∧ turn.setpoint ≠ none) ∧
      ((final start events).server.session.sessionActive = true ∨ sendFails = none)

/-- The report of a run after a loop that has ended in some state. -/
theorem runClient_errors (crypto : Primitives) (library : Library) (floatText : PyFloat → List Char)
    {start left : Conversation} {turns : List Turn} {metrics : ClientMetrics}
    (looped : p4Loop crypto library floatText start 0 ⟨0, []⟩ turns = (left, metrics))
    (logout : LogoutTurn) (sendFails : Option PyException) :
    (runClient crypto library floatText start turns logout sendFails).p4Count = metrics.p4Count ∧
      ((∃ answered, left.logout crypto library floatText logout sendFails = .ok answered) ∧
          (runClient crypto library floatText start turns logout sendFails).errors = metrics.errors ∨
        (¬∃ answered, left.logout crypto library floatText logout sendFails = .ok answered) ∧
          ∃ text, (runClient crypto library floatText start turns logout sendFails).errors =
            metrics.errors ++ ["P5: " ++ text]) := by
  rw [runClient, looped]
  dsimp only
  cases ended : left.logout crypto library floatText logout sendFails with
  | error exception =>
    refine ⟨rfl, .inr ⟨?_, _, rfl⟩⟩
    rintro ⟨answered, passed⟩
    cases passed
  | ok answered => exact ⟨rfl, .inl ⟨⟨answered, rfl⟩, rfl⟩⟩

/-- `run_client` against the server, after any P2 and P3 that complete, for any messages of usual
size, whatever the other nodes make of its readings, over a reliable channel and in time: its report
is a true account of the exchanges, and it calls the logout a success when a setpoint stood in for
the answer. -/
theorem client_reports (lawful : crypto.Lawful) (library : Library)
    (short : ∀ value, (floatText value).length ≤ 24) {server : Server} {device : Device}
    (sized : Sized server device) {draws : Draws} {client : SecureNodeClient} {session : NodeSession}
    (completed : setup crypto floatText server device draws = .ok (client, session))
    {turns : List Turn} (few : turns.length < 256 ^ 4)
    (usual : ∀ turn ∈ turns, turn.ts < 256 ^ 8 ∧ turn.sensorJson.length ≤ 256)
    {logout : LogoutTurn} (time : logout.ts < 256 ^ 8) (sendFails : Option PyException) :
    ∃ events rest, Run (ExchangeStep crypto library floatText) (.start client session) events ∧
      ClientReport (.start client session) turns events rest sendFails
        (runClient crypto library floatText (.start client session) turns logout sendFails) := by
  have opened := setup_opened lawful completed
  obtain ⟨nodeLabel, prvBl, sesKey, shape⟩ := opened.established
  have synced := opened.synced
  have id : client.id.length = idSize := by
    rw [opened.id]
    exact sized.id
  have peerId : client.peerId.length = idSize := by
    rw [opened.inStep.server, shape]
    exact sized.serverId
  have sendable : Sendable (Conversation.start client session).client turns := by
    refine ⟨id, peerId, ?_, usual⟩
    rw [show (Conversation.start client session).client.mNum = 0 from opened.count, Nat.zero_add]
    exact few
  obtain ⟨events, rest, run, sent, count, complete, broken⟩ :=
    p4Loop_run lawful library short synced sendable 0 ⟨0, []⟩
  obtain ⟨ends, sameId, samePeer, served, unread⟩ := exchanges_leave lawful short synced rfl run
  have fresh : session.metrics.p4Count = 0 := by
    rw [shape]
    rfl
  rw [show (Conversation.start client session).server.session.metrics.p4Count = 0 from fresh,
    Nat.zero_add] at served
  rcases looped : p4Loop crypto library floatText (.start client session) 0 ⟨0, []⟩ turns with
    ⟨left, metrics⟩
  rw [looped, Nat.zero_add] at count
  rw [looped] at complete broken
  dsimp only at count complete broken
  obtain ⟨counted, outcome⟩ :=
    runClient_errors crypto library floatText looped logout sendFails
  have endId : (final (.start client session) events).client.id.length = idSize := by
    rw [sameId]
    exact id
  have endPeerId : (final (.start client session) events).client.peerId.length = idSize := by
    rw [samePeer]
    exact peerId
  by_cases whole : rest = []
  · obtain ⟨rfl, clean⟩ := complete whole
    rw [logout_passes_iff lawful library floatText ends endId endPeerId time sendFails,
      ends.receiving, unread, clean] at outcome
    rw [whole, List.append_nil] at sent
    rw [← sent] at unread outcome
    refine ⟨events, [], run, by rw [sent, List.append_nil], counted.trans count, served, ends.inStep,
      absurd rfl, absurd rfl, fun _ => ?_, ?_⟩
    · rcases outcome with ⟨-, none⟩ | ⟨-, text, one⟩
      · exact .inl none
      · exact .inr ⟨text, one⟩
    · rw [and_iff_right rfl]
      rcases outcome with ⟨passes, none⟩ | ⟨raises, text, one⟩
      · exact iff_of_true none passes
      · refine iff_of_false ?_ raises
        rw [one]
        exact List.cons_ne_nil _ _
  · obtain ⟨closed, rfl, exception, error⟩ := broken whole
    have inactive := ends.receiving.symm.trans closed
    have leftSynced : Conversation.Synced { final (.start client session) events with unread := [] } :=
      ⟨ends.inStep, ends.receiving, ends.drops, fun _ member => (List.not_mem_nil member).elim,
        ends.sesId⟩
    have raises := (logout_passes_iff lawful library floatText leftSynced endId endPeerId time
      sendFails).not.mpr fun passes => passes.1 rfl
    rcases outcome with ⟨passes, -⟩ | ⟨-, text, errors⟩
    · exact absurd passes raises
    · rw [error, List.nil_append, Nat.zero_add, List.singleton_append] at errors
      refine ⟨events, rest, run, sent, counted.trans count, served, ends.inStep,
        fun _ => ends.drops inactive, fun _ => ⟨_, text, errors⟩, fun none => absurd none whole, ?_⟩
      refine iff_of_false ?_ fun passes => whole passes.1
      rw [errors]
      exact List.cons_ne_nil _ _

end Exchange

/-- A client that sends one reading and gets a setpoint for it finds nothing wrong, although its
logout is not answered. -/
theorem nominal_client_reports : ∃ client session,
    setup plainPrimitives nominalFloatText nominalServer nominalDevice nominalDraws
      = .ok (client, session) ∧
    runClient plainPrimitives emptyObjectLibrary nominalFloatText (.start client session)
      [nominalTurn] ⟨1700000002, zeros _, zeros _⟩ none = ⟨1, []⟩ := by
  obtain ⟨client, session, after, completed, -, -⟩ := nominal_exchange
  refine ⟨client, session, completed, ?_⟩
  obtain ⟨events, rest, run, report⟩ := client_reports plainPrimitives_lawful emptyObjectLibrary
    nominalFloatText_short (⟨rfl, rfl⟩ : Sized nominalServer nominalDevice) completed
    (show [nominalTurn].length < 256 ^ 4 by decide)
    (fun turn member => List.mem_singleton.mp member ▸ (by decide))
    (show (⟨1700000002, zeros _, zeros _⟩ : LogoutTurn).ts < 256 ^ 8 by decide) none
  have sent := report.sent
  have count := report.count
  have whole : rest = [] := by
    cases events with
    | nil =>
      by_contra some
      obtain ⟨nodeLabel, prvBl, sesKey, shape⟩ :=
        (setup_opened plainPrimitives_lawful completed).established
      have low : session.trustScore < trustDropThreshold := report.dropped some
      rw [shape] at low
      exact absurd low (by norm_num [established, trustDropThreshold])
    | cons first events =>
      have others : [] = events.map Prod.fst ++ rest := (List.cons.inj sent).2
      exact (List.append_eq_nil_iff.mp others.symm).2
  have errors := report.passes.mpr ⟨whole, ⟨nominalTurn, rfl, Option.some_ne_none _⟩, .inr rfl⟩
  have one : events.length = 1 := by
    have size := congrArg List.length sent
    rw [whole, List.append_nil, List.length_map] at size
    exact size.symm
  rw [one] at count
  generalize runClient plainPrimitives emptyObjectLibrary nominalFloatText (.start client session)
    [nominalTurn] ⟨1700000002, zeros _, zeros _⟩ none = metrics at errors count ⊢
  obtain ⟨p4Count, texts⟩ := metrics
  obtain rfl : p4Count = 1 := count
  obtain rfl : texts = [] := errors
  rfl

end Microgrid.SecureNode
