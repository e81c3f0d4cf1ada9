import Microgrid.SecureNode.Conversation

/-!
# Logging out

P5 of `run_client` against `_handle_p5`. The client encrypts the four fields of `END_reg`;
the server looks for two, an `END_reg` and the digest of it. It takes the time stamp for the
one and the session identifier for the other, and an identifier is no digest. So no client
that has completed P3 is ever answered, whatever was exchanged before.

The client reads one message after its request. A setpoint that it has not read yet comes
before any answer.
-/

namespace Microgrid.SecureNode

open PythonValues HexText LabelledRuns

/-- `make_end_reg`. -/
def makeEndReg (tsB sesId idA idB : Bytes) : Except PyException Bytes :=
  packFields [tsB, sesId, idA, idB]

/-- The client's clock, and the nonces of both sides. -/
structure LogoutTurn where
  ts : ℕ
  nonce : Urandom gcmNonceSize
  endNonce : Urandom gcmNonceSize

/-- The request as the server's loop meets it. `_handle_p5` looks at nothing but the message. -/
def LogoutTurn.reception (turn : LogoutTurn) (msg : Message) : Reception :=
  ⟨msg, .init Ems.maxReadingsPerNode, none, 0, ⟨turn.endNonce.val, none, none, false⟩⟩

section Logout

variable (crypto : Primitives) (library : Library) (floatText : PyFloat → List Char)

/-- `p5_logout_initiate`. -/
def p5LogoutInitiate (client : SecureNodeClient) (ts : ℕ) (nonce : Bytes) :
    Except PyException Message := do
  let tsB ← structPack 8 ts
  let endReg ← makeEndReg tsB client.sesId client.id client.peerId
  let aEndCif ← encryptGcm crypto nonce endReg client.kABEnc
  pure [("type", .json (.str "logout_req")), ("A_END_cif", .bytes aEndCif), ("ID_A", .bytes client.id)]

/-- `p5_logout_finalize`. -/
def p5LogoutFinalize (client : SecureNodeClient) (msg : Message) : Except PyException Unit := do
  let bEndCif ← bytesField msg "B_END_cif"
  let pt ← decryptGcm crypto bEndCif client.kABEnc
  if pt.length < 4 then throw (.runtime "P5: Invalid logout response") else pure ()

/-- The client's step after its request: it reads one message, and says whether that was a
`logout_res`. -/
def readLogout (client : SecureNodeClient) : List Frame → Except PyException Bool
  | [] => .error .timeout
  | frame :: _ => do
    let msg ← recvMsg clientLimit frame
    if msgType msg = some "logout_res" then
      p5LogoutFinalize crypto client msg
      pure true
    else pure false

/-- The logout works: the server accepts the request and answers it, and the client's next
step processes the answer. -/
def LogoutInteroperates (state : Conversation) (turn : LogoutTurn) : Prop :=
  ∃ request received bEndCif frame,
    p5LogoutInitiate crypto state.client turn.ts turn.nonce.val = .ok request ∧
    deliver floatText serverLimit request = .ok received ∧
    state.server.receiving = true ∧
    state.server.sends crypto library (turn.reception received) = [logoutRes bEndCif] ∧
    packPayload floatText (logoutRes bEndCif) = .ok frame ∧
    readLogout crypto state.client (state.unread ++ [frame]) = .ok true

end Logout

/-- Parsing fewer fields than were packed returns the first of them. -/
theorem parseTlv_front {front rest : List Bytes} {data : Bytes}
    (packed : packFields (front ++ rest) = .ok data) : parseTlv front.length data = some front := by
  have halves : ∃ first last, packFields front = .ok first ∧ data = first ++ last := by
    induction front generalizing data with
    | nil => exact ⟨[], data, rfl, rfl⟩
    | cons part front inductionHypothesis =>
      obtain ⟨length, header, packed⟩ := bind_ok packed
      obtain ⟨later, tail, packed⟩ := bind_ok packed
      obtain ⟨first, last, split, shape⟩ := inductionHypothesis tail
      refine ⟨length ++ part ++ first, last, ?_, ?_⟩
      · rw [packFields, header, split]
        rfl
      · rw [← Except.ok.inj packed, shape, List.append_assoc (length ++ part)]
  obtain ⟨first, last, split, shape⟩ := halves
  rw [shape]
  exact parseTlv_packFields split last

section Answers

variable {crypto : Primitives} {library : Library} {floatText : PyFloat → List Char}

/-- The server does not answer the request of a client in step: it compares the session
identifier with a digest. -/
theorem answerLogout_initiated (lawful : crypto.Lawful) {client : SecureNodeClient}
    {session : NodeSession} (inStep : InStep client session) (sized : client.sesId.length = idSize)
    {ts : ℕ} {nonce : Urandom gcmNonceSize} {request : Message}
    (initiated : p5LogoutInitiate crypto client ts nonce.val = .ok request) (endNonce : Bytes) :
    ∃ exception, answerLogout crypto endNonce session request = .error exception := by
  obtain ⟨tsB, clock, initiated⟩ := bind_ok initiated
  obtain ⟨endReg, packed, initiated⟩ := bind_ok initiated
  obtain ⟨aEndCif, encrypted, initiated⟩ := bind_ok initiated
  have shape := Except.ok.inj initiated
  obtain ⟨ciphertext, again, decrypted⟩ := lawful.decrypt_encrypt nonce.val endReg client.kABEnc
    nonce.property (packFields_short packed (by simp))
  obtain rfl := Except.ok.inj (encrypted.symm.trans again)
  rw [inStep.key] at decrypted
  have parsed : parseTlv 2 endReg = some [tsB, client.sesId] :=
    @parseTlv_front [tsB, client.sesId] [client.id, client.peerId] endReg packed
  have read : bytesField request "A_END_cif" = .ok aEndCif := by
    rw [← shape]
    rfl
  have noDigest : ∀ data, hSha256 crypto data ≠ client.sesId := by
    intro data same
    have digest := lawful.digest_length data
    rw [← hSha256, same, sized] at digest
    cases digest
  rw [answerLogout, read]
  simp only [bind, Except.bind, decrypted, parsed]
  split
  · rw [if_pos (noDigest _)]
    exact ⟨_, rfl⟩
  · exact ⟨_, rfl⟩

/-- What a request looks like. -/
theorem p5LogoutInitiate_ok {client : SecureNodeClient} {ts : ℕ} {nonce : Bytes} {request : Message}
    (initiated : p5LogoutInitiate crypto client ts nonce = .ok request) :
    msgType request = some "logout_req" ∧ Carried request := by
  obtain ⟨tsB, clock, initiated⟩ := bind_ok initiated
  obtain ⟨endReg, packed, initiated⟩ := bind_ok initiated
  obtain ⟨aEndCif, encrypted, initiated⟩ := bind_ok initiated
  rw [← Except.ok.inj initiated]
  exact ⟨rfl, by simp [Carried, bytesFields]⟩

/-- The request of a client in step ends the session without an answer. -/
theorem logout_unanswered (lawful : crypto.Lawful) (library : Library) {state : Conversation}
    (synced : state.Synced) {turn : LogoutTurn} {request : Message}
    (initiated : p5LogoutInitiate crypto state.client turn.ts turn.nonce.val = .ok request) :
    state.server.sends crypto library (turn.reception request) = [] ∧
      (state.server.receive crypto library (turn.reception request)).session.sessionActive = false := by
  obtain ⟨exception, refused⟩ :=
    answerLogout_initiated lawful synced.inStep synced.sesId initiated turn.endNonce.val
  have kind : msgType (turn.reception request).msg = some "logout_req" :=
    (p5LogoutInitiate_ok initiated).1
  have other : ¬msgType (turn.reception request).msg = some "dx_msg" := by
    rw [kind]
    decide
  constructor
  · rw [LogoutTurn.reception] at kind other ⊢
    rw [LoopState.sends, if_neg other, if_pos kind]
    simp only [refused]
  · rw [LogoutTurn.reception] at kind other ⊢
    rw [LoopState.receive, if_neg other, if_pos kind, handleP5]
    simp only [refused, bind, Except.bind]

/-- A client with an unread setpoint reads that in place of an answer. -/
theorem readLogout_unread {state : Conversation} (synced : state.Synced) {frame : Frame}
    {frames : List Frame} (waiting : state.unread = frame :: frames) (answers : List Frame) :
    readLogout crypto state.client (state.unread ++ answers) = .ok false := by
  have first : frame ∈ state.unread := by
    rw [waiting]
    exact List.mem_cons_self
  obtain ⟨setpoint, read⟩ := synced.unread frame first
  have kind : msgType (setpointMsg setpoint) = some "setpoint" := rfl
  have other : ¬(some "setpoint" : Option String) = some "logout_res" := by decide
  rw [waiting, List.cons_append, readLogout, read]
  simp only [bind, Except.bind, kind, if_neg other]
  rfl

/-- No logout works between a client and the server that are in step. -/
theorem Conversation.Synced.no_logout (lawful : crypto.Lawful) {state : Conversation}
    (synced : state.Synced) (turn : LogoutTurn) :
    ¬LogoutInteroperates crypto library floatText state turn := by
  rintro ⟨request, received, bEndCif, frame, initiated, delivered, -, answers, -, -⟩
  obtain rfl := deliver_ok (p5LogoutInitiate_ok initiated).2 delivered
  obtain ⟨silent, -⟩ := logout_unanswered lawful library synced initiated
  rw [silent] at answers
  cases answers

/-- After P3 and any number of exchanges, no logout works. -/
theorem logout_never_interoperates (lawful : crypto.Lawful)
    (short : ∀ value, (floatText value).length ≤ 24) {server : Server} {device : Device}
    {draws : Draws} {client : SecureNodeClient} {session : NodeSession}
    (completed : setup crypto floatText server device draws = .ok (client, session))
    {events : List (Turn × Conversation)}
    (run : Run (ExchangeStep crypto library floatText) (.start client session) events) :
    ∀ state ∈ Conversation.start client session :: events.map Prod.snd, ∀ turn,
      ¬LogoutInteroperates crypto library floatText state turn := by
  intro state reached turn
  have synced := @Run.states _ _ _ Conversation.Synced
    (fun step synced => (step.synced lawful short synced).2) _ _ run
    (setup_opened lawful completed).synced state reached
  exact synced.no_logout lawful turn

end Answers

/-- After the exchange of a reading the logout does not work. -/
theorem logout_never_interoperates_nominal : ∃ client session after,
    setup plainPrimitives nominalFloatText nominalServer nominalDevice nominalDraws
      = .ok (client, session) ∧
    ExchangeStep plainPrimitives emptyObjectLibrary nominalFloatText (.start client session) nominalTurn
      after ∧
    ∀ turn, ¬LogoutInteroperates plainPrimitives emptyObjectLibrary nominalFloatText after turn := by
  obtain ⟨client, session, after, completed, -, step⟩ := nominal_exchange
  refine ⟨client, session, after, completed, step, fun turn => ?_⟩
  exact logout_never_interoperates plainPrimitives_lawful nominalFloatText_short completed
    (.next step (.done after)) after (List.mem_cons_of_mem _ List.mem_cons_self) turn

/-- Nor does it work right after P3. -/
theorem logout_after_setup_fails :
    ¬∀ client session, setup plainPrimitives nominalFloatText nominalServer nominalDevice nominalDraws
        = .ok (client, session) →
      LogoutInteroperates plainPrimitives emptyObjectLibrary nominalFloatText (.start client session)
        ⟨1700000002, zeros _, zeros _⟩ := by
  intro works
  obtain ⟨client, session, after, completed, -, -⟩ := nominal_exchange
  have synced := (setup_opened plainPrimitives_lawful completed).synced
  exact synced.no_logout plainPrimitives_lawful _ (works client session completed)

end Microgrid.SecureNode
