import Microgrid.Handshake.SessionRuns

/-!
# A whole session against a hostile peer

`session` is one call of `RotSession.run` on a fresh session object. Every round
of the data loop consumes a frame, so one round more than the stream has bytes is
enough for the loop to end by itself.

The session object is always consistent: `run_returns_verdict` says what a
returned boolean means. What `run` does not do is return on every input. Its two
handlers know `ConnectionError`, `ProtocolError` and `OSError`; bodies that are
not JSON objects and fields that are missing, no strings or no hex raise other
exceptions. `Fits` is the exact condition on the peer's frames under which none
of these occurs.
-/

namespace Microgrid.HostileInput

open Handshake Framing RotSession HexText

/-- `RotSession(...).run()` over a connection. -/
def session (runtime : Runtime) (setup : Setup) (conn : Connection) :
    Except PyError Bool × State :=
  (exec (run runtime setup (conn.chunks.flatten.length + 1)) {} conn).1

/-- What is promised of a call of `run`: it returns, `True` stands for a verified
signature, the key comes with authentication, and nothing is decrypted earlier. -/
def Safe (result : Except PyError Bool × State) : Prop :=
  ∃ returned, result.1 = .ok returned ∧
    (returned = true ↔ .signatureVerified ∈ result.2.trail) ∧
    (result.2.keyAb.isSome = true ↔ result.2.authenticated = true) ∧
    ∀ earlier later, result.2.trail = earlier ++ .decryptCalled :: later →
      .signatureVerified ∈ earlier

/-! ### The session object stays consistent -/

/-- No key, no authentication, no history. -/
def Fresh (state : State) : Prop :=
  state.keyAb = none ∧ state.authenticated = false ∧ state.trail = []

/-- A key, authentication, and a history that starts with the verification. -/
def Established (state : State) : Prop :=
  state.keyAb.isSome = true ∧ state.authenticated = true ∧
    ∃ later, state.trail = .signatureVerified :: later

/-- What each outcome of the handshake, and of the whole body of `run`, says
about the session object. -/
def Agrees (outcome : Except PyError Bool) (state : State) : Prop :=
  match outcome with
  | .ok true => Established state
  | .ok false => Fresh state
  | .error _ => Fresh state ∨ Established state

/-- Until the response arrives the session object stays fresh. -/
theorem handshakeHello_fresh (runtime : Runtime) (setup : Setup) :
    Ensures (handshakeHello runtime setup) Fresh fun _ state => Fresh state := by
  have raises : ∀ (_ : PyError) (state : State), Fresh state → Fresh state := fun _ _ fresh => fresh
  unfold handshakeHello
  refine ensures_skip (untouched_socket _) raises fun hello => ?_
  refine ensures_skip (untouched_raising _) raises fun type => ?_
  by_cases isHello : (!isText type "hello") = true
  · rw [if_pos isHello]
    exact ensures_refuse fun _ fresh => fresh
  rw [if_neg isHello]
  refine ensures_skip (untouched_raising _) raises fun ⟨idA, challengeA⟩ => ?_
  dsimp only [challengeDevice]
  cases setup.registry (bytesHex idA) with
  | none =>
    exact ensures_refuse fun _ fresh => fresh
  | some entry =>
    refine ensures_skip (untouched_raising _) raises fun ⟨keys, label⟩ => ?_
    dsimp only
    refine ensures_modify Fresh (fun _ fresh => fresh) ?_
    cases answerHello runtime.suite keys idA challengeA setup.challengeB setup.ephSkB with
    | none =>
      exact ensures_refuse fun _ fresh => fresh
    | some challenge =>
      exact ensures_skip (untouched_socket _) raises fun _ => ensures_pure fun _ fresh => fresh

/-- The response either leaves the session object fresh or establishes it. -/
theorem handshakeResponse_agrees (runtime : Runtime) (setup : Setup)
    (challenge : Challenge Bytes) :
    Ensures (handshakeResponse runtime setup challenge) Fresh Agrees := by
  have raises : ∀ (raised : PyError) (state : State), Fresh state → Agrees (.error raised) state :=
    fun _ _ fresh => .inl fresh
  unfold handshakeResponse
  refine ensures_skip (untouched_socket _) raises fun resp => ?_
  refine ensures_skip (untouched_raising _) raises fun type => ?_
  by_cases isResponse : (!isText type "response") = true
  · rw [if_pos isResponse]
    exact ensures_refuse fun _ fresh => fresh
  rw [if_neg isResponse]
  refine ensures_skip (untouched_raising _) raises fun ⟨ephPkA, deviceProof⟩ => ?_
  dsimp only [acceptDevice]
  rcases acceptResponse runtime.suite setup.idB challenge ephPkA deviceProof with
    (malformed | invalid) | keyAb
  · exact ensures_refuse fun _ fresh => fresh
  · exact ensures_refuse fun _ fresh => fresh
  · refine ensures_modify Established ?_ ?_
    · rintro state ⟨_, _, empty⟩
      exact ⟨rfl, rfl, [], by simp [empty]⟩
    · exact ensures_skip (untouched_socket _) (fun _ _ established => .inr established)
        fun _ => ensures_pure fun _ established => established

/-- `_handshake` as a whole. -/
theorem handshake_agrees (runtime : Runtime) (setup : Setup) :
    Ensures (handshake runtime setup) Fresh Agrees := by
  unfold handshake
  refine ensures_bind (fun _ => Fresh) ?_ fun challenge => ?_
  · intro state conn fresh
    have still := handshakeHello_fresh runtime setup state conn fresh
    cases (exec (handshakeHello runtime setup) state conn).1.1 with
    | error raised => exact .inl still
    | ok challenge => exact still
  · cases challenge with
    | none => exact ensures_pure fun _ fresh => fresh
    | some challenge => exact handshakeResponse_agrees runtime setup challenge

/-- A data message is decrypted, or refused, under an established key. -/
theorem handleData_established (runtime : Runtime) (msg : Json) :
    Ensures (handleData runtime msg) Established fun _ state => Established state := by
  have raises : ∀ (_ : PyError) (state : State), Established state → Established state :=
    fun _ _ established => established
  unfold handleData
  refine ensures_skip (untouched_raising _) raises fun type => ?_
  by_cases isData : (!isText type "data") = true
  · rw [if_pos isData]
    exact ensures_pure fun _ established => established
  rw [if_neg isData]
  intro state conn established
  obtain ⟨keyed, authenticated, later, trail⟩ := established
  have longer : ∃ more, state.trail ++ [Event.decryptCalled] = .signatureVerified :: more :=
    ⟨later ++ [.decryptCalled], by simp [trail]⟩
  rw [exec_bind, exec_get]
  dsimp only
  rw [exec_bind, exec_set]
  dsimp only
  cases decryptDataMessage runtime msg state.keyAb with
  | error raised =>
    dsimp only
    rw [exec_sendError]
    exact ⟨keyed, authenticated, longer⟩
  | ok plaintext => exact ⟨keyed, authenticated, longer⟩

/-- The data loop keeps the session established. -/
theorem dataLoop_established (runtime : Runtime) (rounds : Nat) :
    Ensures (dataLoop runtime rounds) Established fun _ state => Established state := by
  induction rounds with
  | zero => exact fun state conn established => established
  | succ rounds inductionHypothesis =>
    unfold dataLoop
    refine ensures_bind (fun _ => Established) (fun state conn established => ?_)
      fun received => ?_
    · rw [exec_attempt, exec_recvJson]
      exact established
    · rcases received with raised | msg
      · cases raised <;> exact fun state conn established => established
      · refine ensures_bind (fun _ => Established) (fun state conn established => ?_)
          fun _ => inductionHypothesis
        have still := handleData_established runtime msg state conn established
        cases (exec (handleData runtime msg) state conn).1.1 <;> exact still

/-- The body of `run`: the handshake, and the data loop if it succeeded. -/
theorem runBody_agrees (runtime : Runtime) (setup : Setup) (rounds : Nat) :
    Ensures (runBody runtime setup rounds) Fresh Agrees := by
  unfold runBody
  refine ensures_bind (fun established state => Agrees (.ok established) state)
    (fun state conn fresh => ?_) fun established => ?_
  · have agrees := handshake_agrees runtime setup state conn fresh
    cases outcome : (exec (handshake runtime setup) state conn).1.1 <;>
      simpa only [outcome] using agrees
  · cases established with
    | false => exact ensures_pure fun _ fresh => fresh
    | true =>
      refine ensures_bind (fun _ => Established) (fun state conn established => ?_)
        fun _ => ensures_pure fun _ established => established
      have still := dataLoop_established runtime rounds state conn established
      cases (exec (dataLoop runtime rounds) state conn).1.1 with
      | error raised => exact .inr still
      | ok finished => exact still

/-- A boolean returned by `run` is the verdict on the device. -/
theorem run_returns_verdict (runtime : Runtime) (setup : Setup) (rounds : Nat) :
    Ensures (run runtime setup rounds) Fresh fun outcome state => ∀ returned,
      outcome = .ok returned →
        returned = true ∧ Established state ∨ returned = false ∧ Fresh state := by
  intro state conn fresh returned
  have agrees := runBody_agrees runtime setup rounds state conn fresh
  unfold run
  rw [exec_bind, exec_attempt]
  dsimp only
  cases outcome : (exec (runBody runtime setup rounds) state conn).1.1 with
  | ok result =>
    rw [outcome] at agrees
    rintro ⟨⟩
    cases returned with
    | false => exact .inr ⟨rfl, agrees⟩
    | true => exact .inl ⟨rfl, agrees⟩
  | error raised =>
    rw [outcome] at agrees
    dsimp only
    by_cases caught : handled raised = true
    · rw [if_pos caught, exec_bind, exec_get]
      rintro ⟨⟩
      rcases agrees with fresh | established
      · exact .inr ⟨fresh.2.1, fresh⟩
      · exact .inl ⟨established.2.1, established⟩
    · rw [if_neg caught, exec_raising]
      rintro ⟨⟩

/-- A verdict that matches the session object is all that safety asks for. -/
theorem safe_of_verdict {result : Except PyError Bool × State} {returned : Bool}
    (finished : result.1 = .ok returned)
    (verdict : returned = true ∧ Established result.2 ∨ returned = false ∧ Fresh result.2) :
    Safe result := by
  refine ⟨returned, finished, ?_⟩
  rcases verdict with ⟨rfl, keyed, authenticated, later, trail⟩ | ⟨rfl, unkeyed, refused, empty⟩
  · refine ⟨by simp [trail], by simp [keyed, authenticated], ?_⟩
    intro earlier rest split
    rw [trail] at split
    cases earlier with
    | nil => simp at split
    | cons first others =>
      simp only [List.cons_append, List.cons.injEq] at split
      simp [split.1]
  · refine ⟨by simp [empty], by simp [unkeyed, refused], ?_⟩
    intro earlier rest split
    rw [empty] at split
    simp at split

/-- So a call of `run` is safe as soon as it returns. -/
theorem safe_iff_returns (runtime : Runtime) (setup : Setup) (conn : Connection) :
    Safe (session runtime setup conn) ↔
      ∃ returned, (session runtime setup conn).1 = .ok returned := by
  constructor
  · rintro ⟨returned, result, _⟩
    exact ⟨returned, result⟩
  · rintro ⟨returned, result⟩
    exact safe_of_verdict result
      (run_returns_verdict runtime setup _ {} conn ⟨rfl, rfl, rfl⟩ returned result)

/-! ### Which inputs make it return -/

/-- An exception that neither handler of `run` knows. -/
def Escapes {α : Type} (outcome : Except PyError α) : Prop :=
  ∃ raised, outcome = .error raised ∧ handled raised = false

/-- The bytes of a field that is a string of hexadecimal digits. -/
def hexText (fields : List (String × Json)) (name : String) : Option Bytes :=
  match fields.lookup name with
  | some (.str text) => fromhex text.toList
  | _ => none

/-- A registry whose entries hold correctly sized hexadecimal fields. -/
def WellFormed (registry : String → Option Json) : Prop :=
  ∀ name entry, registry name = some entry → ∃ fields pkA shsB, entry = .obj fields ∧
    hexText fields "pk_a" = some pkA ∧ pkA.length = rotPubkeyLen ∧
    hexText fields "shs_b" = some shsB ∧ shsB.length = rotDigestLen

/-- A first body that `run` copes with: a JSON object, and if it is a hello, its
identifier is hexadecimal and, when that has the right length, its challenge too. -/
def HelloFits (loads : Bytes → Option Json) (body : Bytes) : Prop :=
  ∃ fields, loads body = some (.obj fields) ∧
    (isText (fields.lookup "type") "hello" = true → ∃ idA, hexText fields "id_a" = some idA ∧
      (idA.length = rotIdLen → (hexText fields "challenge_a").isSome = true))

/-- A second body that `run` copes with. -/
def ResponseFits (loads : Bytes → Option Json) (body : Bytes) : Prop :=
  ∃ fields, loads body = some (.obj fields) ∧
    (isText (fields.lookup "type") "response" = true →
      ∃ ephPkA, hexText fields "eph_pk_a" = some ephPkA ∧
        (ephPkA.length = rotPubkeyLen → (hexText fields "device_proof").isSome = true))

/-- The first body is a hello of a registered device with a valid key, which the
server answers with this challenge. -/
def Admits (runtime : Runtime) (setup : Setup) (body : Bytes) (challenge : Challenge Bytes) :
    Prop :=
  ∃ fields idA challengeA entry pkA shsB, runtime.loads body = some (.obj fields) ∧
    isText (fields.lookup "type") "hello" = true ∧
    hexText fields "id_a" = some idA ∧ idA.length = rotIdLen ∧
    hexText fields "challenge_a" = some challengeA ∧ challengeA.length = challengeLen ∧
    setup.registry (bytesHex idA) = some (.obj entry) ∧
    hexText entry "pk_a" = some pkA ∧ hexText entry "shs_b" = some shsB ∧
    answerHello runtime.suite ⟨pkA, shsB⟩ idA challengeA setup.challengeB setup.ephSkB =
      some challenge

/-- The second body is a response with a valid point and a signature that verifies. -/
def Verifies (runtime : Runtime) (setup : Setup) (challenge : Challenge Bytes) (body : Bytes) :
    Prop :=
  ∃ fields ephPkA deviceProof, runtime.loads body = some (.obj fields) ∧
    isText (fields.lookup "type") "response" = true ∧
    hexText fields "eph_pk_a" = some ephPkA ∧ ephPkA.length = rotPubkeyLen ∧
    hexText fields "device_proof" = some deviceProof ∧
    runtime.suite.isPoint ephPkA = true ∧
    runtime.suite.verify challenge.pkA (msgHash runtime.suite setup.idB challenge ephPkA)
      deviceProof = true

/-- The bodies of the frames that a stream yields one after the other. -/
inductive Yields (ending : NetError) : List Bytes → Bytes → Prop where
  | first {chunks rest : List Bytes} {body : Bytes}
      (read : readFrame ending chunks = (.ok body, rest)) : Yields ending chunks body
  | later {chunks rest : List Bytes} {body other : Bytes}
      (read : readFrame ending chunks = (.ok body, rest)) (inRest : Yields ending rest other) :
      Yields ending chunks other

/-- After the challenge: the second frame is one that `run` copes with, and so are
all further ones, if the second verified and the acknowledgement went out. -/
def FitsChallenge (runtime : Runtime) (setup : Setup) (challenge : Challenge Bytes)
    (conn : Connection) : Prop :=
  ∀ resp rest, readFrame conn.ending conn.chunks = (.ok resp, rest) →
    ResponseFits runtime.loads resp ∧
    (Verifies runtime setup challenge resp → conn.sends.headD none = none →
      ∀ body, Yields conn.ending rest body → ∃ fields, runtime.loads body = some (.obj fields))

/-- The frames a session reads are ones that `run` copes with: the first, and those
after the challenge, if the first was admitted and the challenge went out. -/
def Fits (runtime : Runtime) (setup : Setup) (conn : Connection) : Prop :=
  ∀ hello rest, readFrame conn.ending conn.chunks = (.ok hello, rest) →
    HelloFits runtime.loads hello ∧
    ∀ challenge, Admits runtime setup hello challenge → conn.sends.headD none = none →
      FitsChallenge runtime setup challenge { conn with chunks := rest, sends := conn.sends.tail }

theorem escapes_ok {α : Type} (value : α) : ¬ Escapes (.ok value : Except PyError α) := by
  rintro ⟨raised, ⟨⟩, _⟩

theorem escapes_error {α : Type} (raised : PyError) :
    Escapes (.error raised : Except PyError α) ↔ handled raised = false := by
  constructor
  · rintro ⟨_, ⟨⟩, unhandled⟩
    exact unhandled
  · exact fun unhandled => ⟨raised, rfl, unhandled⟩

/-- A sequence escapes in its first part or in its second. -/
theorem escapes_bind {α β : Type} (first : Except PyError α) (second : α → Except PyError β) :
    Escapes (first >>= second) ↔
      Escapes first ∨ ∃ value, first = .ok value ∧ Escapes (second value) := by
  cases first with
  | error raised =>
    have unchanged : ((.error raised : Except PyError α) >>= second) = .error raised := rfl
    rw [unchanged, escapes_error, escapes_error]
    simp
  | ok value =>
    have continued : ((.ok value : Except PyError α) >>= second) = second value := rfl
    rw [continued]
    simp [escapes_ok]

/-- A hexadecimal field is read exactly when it is one. -/
theorem item_bytesFromhex (fields : List (String × Json)) (name : String) :
    (Escapes (item (.obj fields) name >>= bytesFromhex) ↔ hexText fields name = none) ∧
      ∀ bin, (item (.obj fields) name >>= bytesFromhex) = .ok bin ↔
        hexText fields name = some bin := by
  have unread (raised : PyError) (unhandled : handled raised = false) :
      (Escapes (.error raised : Except PyError Bytes) ↔ True) ∧
        ∀ bin, (.error raised : Except PyError Bytes) = .ok bin ↔ none = some bin := by
    simp [escapes_error, unhandled]
  cases found : fields.lookup name with
  | none =>
    simp only [item, hexText, found]
    exact unread (.key name) rfl
  | some value =>
    simp only [item, hexText, found]
    cases value with
    | str text =>
      cases decoded : fromhex text.toList with
      | none =>
        simp only [bytesFromhex, bind, Except.bind, decoded]
        exact unread .value rfl
      | some bin => simp [bytesFromhex, bind, Except.bind, decoded, escapes_ok]
    | _ => simp [bytesFromhex, bind, Except.bind, escapes_error, handled]

/-- A field of a fixed size is read exactly when it is hexadecimal and has that
size; a wrong size alone is a `ProtocolError`, which `run` handles. -/
theorem item_hexToBin (fields : List (String × Json)) (name : String) (len : Nat) :
    (Escapes (item (.obj fields) name >>= (hexToBin · len)) ↔ hexText fields name = none) ∧
      ∀ bin, (item (.obj fields) name >>= (hexToBin · len)) = .ok bin ↔
        hexText fields name = some bin ∧ bin.length = len := by
  have split : (item (.obj fields) name >>= (hexToBin · len)) =
      ((item (.obj fields) name >>= bytesFromhex) >>= fun bin =>
        if bin.length ≠ len then .error (.protocol ("expected " ++ toString len ++
          " bytes, got " ++ toString bin.length)) else .ok bin) := by
    cases item (.obj fields) name <;> rfl
  obtain ⟨escapes, reads⟩ := item_bytesFromhex fields name
  rw [split]
  cases found : hexText fields name with
  | none =>
    refine ⟨by rw [escapes_bind, escapes]; simp [found], fun bin => ?_⟩
    obtain ⟨raised, failed, _⟩ := escapes.mpr found
    rw [failed]
    simp [bind, Except.bind]
  | some bin =>
    rw [(reads bin).mpr found]
    simp only [bind, Except.bind]
    by_cases size : bin.length = len
    · simp only [size, ne_eq, not_true_eq_false, if_false, escapes_ok]
      grind
    · simp only [size, ne_eq, not_false_eq_true, if_true, escapes_error, handled]
      grind

/-- Two fields read one after the other: reading escapes unless the first is
hexadecimal and, when the first is accepted, the second is. -/
theorem readFields_spec {fields : List (String × Json)} {first second : Except PyError Bytes}
    {firstName secondName : String} {len : Nat} {Accepts : Bytes → Prop}
    (readsFirst : (Escapes first ↔ hexText fields firstName = none) ∧ ∀ bin,
      first = .ok bin ↔ hexText fields firstName = some bin ∧ bin.length = len)
    (readsSecond : (Escapes second ↔ hexText fields secondName = none) ∧ ∀ bin,
      second = .ok bin ↔ hexText fields secondName = some bin ∧ Accepts bin) :
    (Escapes (first >>= fun one => second >>= fun two => (pure (one, two) : Except PyError _)) ↔
      ¬ ∃ one, hexText fields firstName = some one ∧
        (one.length = len → (hexText fields secondName).isSome = true)) ∧
    ∀ one two, (first >>= fun one => second >>= fun two =>
        (pure (one, two) : Except PyError _)) = .ok (one, two) ↔
      (hexText fields firstName = some one ∧ one.length = len) ∧
        (hexText fields secondName = some two ∧ Accepts two) := by
  obtain ⟨firstEscapes, firstReads⟩ := readsFirst
  obtain ⟨secondEscapes, secondReads⟩ := readsSecond
  constructor
  · have finishes (one two : Bytes) :
        ¬ Escapes (pure (one, two) : Except PyError (Bytes × Bytes)) := escapes_ok _
    simp only [escapes_bind, firstEscapes, firstReads, secondEscapes, finishes, and_false,
      exists_false, or_false]
    cases hexText fields firstName with
    | none => simp
    | some one => cases hexText fields secondName <;> simp
  · intro one two
    rw [← firstReads, ← secondReads]
    cases first <;> cases second <;> simp [bind, Except.bind, pure, Except.pure]

/-- Reading a hello. -/
theorem readHello_spec (fields : List (String × Json)) :
    (Escapes (readHello (.obj fields)) ↔ ¬ ∃ idA, hexText fields "id_a" = some idA ∧
      (idA.length = rotIdLen → (hexText fields "challenge_a").isSome = true)) ∧
    ∀ idA challengeA, readHello (.obj fields) = .ok (idA, challengeA) ↔
      (hexText fields "id_a" = some idA ∧ idA.length = rotIdLen) ∧
        (hexText fields "challenge_a" = some challengeA ∧ challengeA.length = challengeLen) :=
  readFields_spec (item_hexToBin fields "id_a" rotIdLen)
    (item_hexToBin fields "challenge_a" challengeLen)

/-- Reading a response. -/
theorem readResponse_spec (fields : List (String × Json)) :
    (Escapes (readResponse (.obj fields)) ↔ ¬ ∃ ephPkA, hexText fields "eph_pk_a" = some ephPkA ∧
      (ephPkA.length = rotPubkeyLen → (hexText fields "device_proof").isSome = true)) ∧
    ∀ ephPkA deviceProof, readResponse (.obj fields) = .ok (ephPkA, deviceProof) ↔
      (hexText fields "eph_pk_a" = some ephPkA ∧ ephPkA.length = rotPubkeyLen) ∧
        (hexText fields "device_proof" = some deviceProof ∧ True) :=
  readFields_spec (item_hexToBin fields "eph_pk_a" rotPubkeyLen) (by
    simpa only [and_true] using item_bytesFromhex fields "device_proof")

/-- A well-formed entry is always read. -/
theorem readEntry_wellFormed {fields : List (String × Json)} {pkA shsB : Bytes}
    (key : hexText fields "pk_a" = some pkA) (keySize : pkA.length = rotPubkeyLen)
    (verifier : hexText fields "shs_b" = some shsB) (verifierSize : shsB.length = rotDigestLen) :
    readEntry (.obj fields) = .ok (⟨pkA, shsB⟩, fields.lookup "label") := by
  unfold readEntry
  rw [((item_hexToBin fields "pk_a" rotPubkeyLen).2 pkA).mpr ⟨key, keySize⟩,
    ((item_hexToBin fields "shs_b" rotDigestLen).2 shsB).mpr ⟨verifier, verifierSize⟩]
  rfl

section Stages

variable {runtime : Runtime} {setup : Setup} {state : State} {conn : Connection}

/-- The server's answer to a decoded hello: one message goes out, nothing escapes,
and the handshake goes on exactly when that message is a challenge that was sent. -/
theorem challengeDevice_spec (wellFormed : WellFormed setup.registry) (idA challengeA : Bytes) :
    (exec (challengeDevice runtime setup idA challengeA) state conn).2 =
        { conn with sends := conn.sends.tail } ∧
    ¬ Escapes (exec (challengeDevice runtime setup idA challengeA) state conn).1.1 ∧
    ∀ challenge, (exec (challengeDevice runtime setup idA challengeA) state conn).1.1 =
        .ok (some challenge) ↔
      (∃ entry pkA shsB, setup.registry (bytesHex idA) = some (.obj entry) ∧
        hexText entry "pk_a" = some pkA ∧ hexText entry "shs_b" = some shsB ∧
        answerHello runtime.suite ⟨pkA, shsB⟩ idA challengeA setup.challengeB setup.ephSkB =
          some challenge) ∧ conn.sends.headD none = none := by
  unfold challengeDevice
  cases registered : setup.registry (bytesHex idA) with
  | none =>
    dsimp only
    rw [exec_bind, exec_sendError]
    exact ⟨rfl, escapes_ok _, by simp [exec_pure]⟩
  | some entry =>
    obtain ⟨fields, pkA, shsB, rfl, key, keySize, verifier, verifierSize⟩ :=
      wellFormed _ _ registered
    dsimp only
    rw [exec_bind, exec_raising, readEntry_wellFormed key keySize verifier verifierSize]
    dsimp only
    rw [exec_bind, exec_modify]
    dsimp only
    cases answered : answerHello runtime.suite ⟨pkA, shsB⟩ idA challengeA setup.challengeB
        setup.ephSkB with
    | none =>
      dsimp only
      rw [exec_bind, exec_sendError]
      refine ⟨rfl, escapes_ok _, fun challenge => ?_⟩
      simp only [exec_pure]
      grind
    | some challenge =>
      dsimp only
      rw [exec_bind, exec_sendJson]
      cases conn.sends.headD none with
      | none =>
        refine ⟨rfl, escapes_ok _, fun other => ?_⟩
        simp only [exec_pure]
        grind
      | some failure =>
        refine ⟨rfl, ?_, fun other => by simp⟩
        rw [escapes_error]
        cases failure <;> simp [NetError.raised, handled]

/-- Admission in terms of the decoded hello. -/
theorem admits_iff {body : Bytes} {fields : List (String × Json)}
    (parsed : runtime.loads body = some (.obj fields)) (challenge : Challenge Bytes) :
    Admits runtime setup body challenge ↔ isText (fields.lookup "type") "hello" = true ∧
      ∃ idA challengeA, readHello (.obj fields) = .ok (idA, challengeA) ∧
        ∃ entry pkA shsB, setup.registry (bytesHex idA) = some (.obj entry) ∧
          hexText entry "pk_a" = some pkA ∧ hexText entry "shs_b" = some shsB ∧
          answerHello runtime.suite ⟨pkA, shsB⟩ idA challengeA setup.challengeB setup.ephSkB =
            some challenge := by
  have reads := (readHello_spec fields).2
  constructor
  · rintro ⟨others, idA, challengeA, entry, pkA, shsB, same, isHello, isId, idSize, isChallenge,
      challengeSize, answered⟩
    obtain rfl : fields = others := by simpa [parsed] using same
    exact ⟨isHello, idA, challengeA, (reads _ _).mpr ⟨⟨isId, idSize⟩, isChallenge, challengeSize⟩,
      entry, pkA, shsB, answered⟩
  · rintro ⟨isHello, idA, challengeA, decoded, entry, pkA, shsB, answered⟩
    obtain ⟨⟨isId, idSize⟩, isChallenge, challengeSize⟩ := (reads _ _).mp decoded
    exact ⟨fields, idA, challengeA, entry, pkA, shsB, parsed, isHello, isId, idSize, isChallenge,
      challengeSize, answered⟩

/-- The first stage of a session whose first frame arrives. -/
theorem handshakeHello_spec (wellFormed : WellFormed setup.registry) {body : Bytes}
    {rest : List Bytes} (read : readFrame conn.ending conn.chunks = (.ok body, rest)) :
    (Escapes (exec (handshakeHello runtime setup) state conn).1.1 ↔
        ¬ HelloFits runtime.loads body) ∧
    ∀ challenge, ((exec (handshakeHello runtime setup) state conn).1.1 = .ok (some challenge) ↔
        Admits runtime setup body challenge ∧ conn.sends.headD none = none) ∧
      ((exec (handshakeHello runtime setup) state conn).1.1 = .ok (some challenge) →
        (exec (handshakeHello runtime setup) state conn).2 =
          { conn with chunks := rest, sends := conn.sends.tail }) := by
  unfold handshakeHello HelloFits
  rw [exec_bind, exec_recvJson, read]
  dsimp only
  cases parsed : runtime.loads body with
  | none => simp [escapes_error, handled, Admits, parsed]
  | some value =>
    dsimp only
    rw [exec_bind, exec_raising]
    cases value with
    | obj fields =>
      simp only [getField, admits_iff parsed]
      cases isHello : isText (fields.lookup "type") "hello" with
      | false =>
        simp only [Bool.not_false, if_true]
        rw [exec_bind, exec_sendError]
        refine ⟨⟨fun escapes => absurd escapes (escapes_ok _), fun unfit => ?_⟩, fun challenge => ?_⟩
        · exact absurd ⟨fields, rfl, by simp [isHello]⟩ unfit
        · simp [exec_pure]
      | true =>
        obtain ⟨escapes, reads⟩ := readHello_spec fields
        simp only [Bool.not_true, Bool.false_eq_true, if_false]
        rw [exec_bind, exec_raising]
        cases outcome : readHello (.obj fields) with
        | error raised =>
          rw [outcome] at escapes
          refine ⟨?_, fun challenge => by simp⟩
          dsimp only
          rw [escapes_error, ← escapes_error (α := Bytes × Bytes), escapes]
          simp [isHello]
        | ok pair =>
          obtain ⟨idA, challengeA⟩ := pair
          obtain ⟨⟨isId, idSize⟩, isChallenge, challengeSize⟩ := (reads _ _).mp outcome
          obtain ⟨sent, returns, leads⟩ := @challengeDevice_spec runtime setup state
            { conn with chunks := rest } wellFormed idA challengeA
          refine ⟨⟨fun escapes => absurd escapes returns, fun unfit => ?_⟩, fun challenge => ?_⟩
          · exact absurd ⟨fields, rfl, fun _ => ⟨idA, isId, fun _ => by simp [isChallenge]⟩⟩ unfit
          · refine ⟨(leads challenge).trans ?_, fun _ => sent⟩
            simp
    | _ => simp [getField, escapes_error, handled, Admits, parsed]

/-- The server's answer to a decoded response. -/
theorem acceptDevice_spec (challenge : Challenge Bytes) (ephPkA deviceProof : Bytes) :
    (exec (acceptDevice runtime setup challenge ephPkA deviceProof) state conn).2 =
        { conn with sends := conn.sends.tail } ∧
    ¬ Escapes (exec (acceptDevice runtime setup challenge ephPkA deviceProof) state conn).1.1 ∧
    ((exec (acceptDevice runtime setup challenge ephPkA deviceProof) state conn).1.1 = .ok true ↔
      (runtime.suite.isPoint ephPkA = true ∧ runtime.suite.verify challenge.pkA
        (msgHash runtime.suite setup.idB challenge ephPkA) deviceProof = true) ∧
      conn.sends.headD none = none) := by
  unfold acceptDevice acceptResponse
  cases point : runtime.suite.isPoint ephPkA with
  | false =>
    simp only [Bool.not_false, if_true]
    rw [exec_bind, exec_sendError]
    exact ⟨rfl, escapes_ok _, by simp [exec_pure]⟩
  | true =>
    cases verified : runtime.suite.verify challenge.pkA
        (msgHash runtime.suite setup.idB challenge ephPkA) deviceProof with
    | false =>
      simp only [Bool.not_true, Bool.not_false, Bool.false_eq_true, if_true, if_false]
      rw [exec_bind, exec_sendError]
      exact ⟨rfl, escapes_ok _, by simp [exec_pure]⟩
    | true =>
      simp only [Bool.not_true, Bool.false_eq_true, if_false]
      rw [exec_bind, exec_modify]
      dsimp only
      rw [exec_bind, exec_sendJson]
      cases conn.sends.headD none with
      | none => exact ⟨rfl, escapes_ok _, by simp [exec_pure]⟩
      | some failure =>
        refine ⟨rfl, ?_, by simp⟩
        rw [escapes_error]
        cases failure <;> simp [NetError.raised, handled]

/-- Verification in terms of the decoded response. -/
theorem verifies_iff {body : Bytes} {fields : List (String × Json)}
    (parsed : runtime.loads body = some (.obj fields)) (challenge : Challenge Bytes) :
    Verifies runtime setup challenge body ↔ isText (fields.lookup "type") "response" = true ∧
      ∃ ephPkA deviceProof, readResponse (.obj fields) = .ok (ephPkA, deviceProof) ∧
        runtime.suite.isPoint ephPkA = true ∧ runtime.suite.verify challenge.pkA
          (msgHash runtime.suite setup.idB challenge ephPkA) deviceProof = true := by
  have reads := (readResponse_spec fields).2
  constructor
  · rintro ⟨others, ephPkA, deviceProof, same, isResponse, isKey, keySize, isProof, verified⟩
    obtain rfl : fields = others := by simpa [parsed] using same
    exact ⟨isResponse, ephPkA, deviceProof,
      (reads _ _).mpr ⟨⟨isKey, keySize⟩, isProof, trivial⟩, verified⟩
  · rintro ⟨isResponse, ephPkA, deviceProof, decoded, verified⟩
    obtain ⟨⟨isKey, keySize⟩, isProof, _⟩ := (reads _ _).mp decoded
    exact ⟨fields, ephPkA, deviceProof, parsed, isResponse, isKey, keySize, isProof, verified⟩

/-- The second stage of a session whose second frame arrives. -/
theorem handshakeResponse_spec (challenge : Challenge Bytes) {body : Bytes} {rest : List Bytes}
    (read : readFrame conn.ending conn.chunks = (.ok body, rest)) :
    (Escapes (exec (handshakeResponse runtime setup challenge) state conn).1.1 ↔
        ¬ ResponseFits runtime.loads body) ∧
    ((exec (handshakeResponse runtime setup challenge) state conn).1.1 = .ok true ↔
        Verifies runtime setup challenge body ∧ conn.sends.headD none = none) ∧
    ((exec (handshakeResponse runtime setup challenge) state conn).1.1 = .ok true →
      (exec (handshakeResponse runtime setup challenge) state conn).2 =
        { conn with chunks := rest, sends := conn.sends.tail }) := by
  unfold handshakeResponse ResponseFits
  rw [exec_bind, exec_recvJson, read]
  dsimp only
  cases parsed : runtime.loads body with
  | none => simp [escapes_error, handled, Verifies, parsed]
  | some value =>
    dsimp only
    rw [exec_bind, exec_raising]
    cases value with
    | obj fields =>
      simp only [getField, verifies_iff parsed]
      cases isResponse : isText (fields.lookup "type") "response" with
      | false =>
        simp only [Bool.not_false, if_true]
        rw [exec_bind, exec_sendError]
        refine ⟨⟨fun escapes => absurd escapes (escapes_ok _), fun unfit => ?_⟩, ?_⟩
        · exact absurd ⟨fields, rfl, by simp [isResponse]⟩ unfit
        · simp [exec_pure]
      | true =>
        obtain ⟨escapes, reads⟩ := readResponse_spec fields
        simp only [Bool.not_true, Bool.false_eq_true, if_false]
        rw [exec_bind, exec_raising]
        cases outcome : readResponse (.obj fields) with
        | error raised =>
          rw [outcome] at escapes
          refine ⟨?_, by simp⟩
          dsimp only
          rw [escapes_error, ← escapes_error (α := Bytes × Bytes), escapes]
          simp [isResponse]
        | ok pair =>
          obtain ⟨ephPkA, deviceProof⟩ := pair
          obtain ⟨⟨isKey, _⟩, isProof, _⟩ := (reads _ _).mp outcome
          obtain ⟨sent, returns, leads⟩ := @acceptDevice_spec runtime setup state
            { conn with chunks := rest } challenge ephPkA deviceProof
          refine ⟨⟨fun escapes => absurd escapes returns, fun unfit => ?_⟩, ?_⟩
          · exact absurd ⟨fields, rfl, fun _ => ⟨ephPkA, isKey, fun _ => by simp [isProof]⟩⟩ unfit
          · refine ⟨leads.trans ?_, fun _ => sent⟩
            simp
    | _ => simp [getField, escapes_error, handled, Verifies, parsed]

/-- The data loop gets by on frames that are JSON objects, and on no others.

Induct over the rounds. Each round consumes a frame, so the bound on the rounds is
never what ends the loop. -/
theorem dataLoop_escapes (rounds : Nat) (enough : conn.chunks.flatten.length < rounds) :
    Escapes (exec (dataLoop runtime rounds) state conn).1.1 ↔
      ¬ ∀ body, Yields conn.ending conn.chunks body →
        ∃ fields, runtime.loads body = some (.obj fields) := by
  induction rounds generalizing state conn with
  | zero => omega
  | succ rounds inductionHypothesis =>
    unfold dataLoop
    rw [exec_bind, exec_attempt, exec_recvJson]
    rcases read : readFrame conn.ending conn.chunks with ⟨raised | body, rest⟩
    · have caught := readFrame_handled conn.ending conn.chunks raised (by rw [read])
      have nothing : ∀ body, ¬ Yields conn.ending conn.chunks body := by
        intro body yields
        cases yields with
        | first other => simp [read] at other
        | later other => simp [read] at other
      refine iff_of_false ?_ fun unfit => unfit fun body yields => absurd yields (nothing body)
      cases raised with
      | connection => exact escapes_ok _
      | timeout => exact escapes_ok _
      | _ => exact fun escapes => by simpa [caught] using (escapes_error _).mp escapes
    · cases parsed : runtime.loads body with
      | none =>
        simp only [parsed]
        refine ⟨fun _ fit => ?_, fun _ => (escapes_error _).mpr rfl⟩
        simpa [parsed] using fit body (.first read)
      | some value =>
        simp only [parsed]
        cases value with
        | obj fields =>
          obtain ⟨returned, chunks, ending⟩ := handleData_returns runtime fields
            state { conn with chunks := rest }
          have shorter := readFrame_shorter conn.ending conn.chunks body rest read
          rw [exec_bind, returned]
          dsimp only
          rw [inductionHypothesis (by rw [chunks]; dsimp only; omega), chunks, ending]
          dsimp only
          refine not_congr ⟨fun fit other yields => ?_, fun fit other yields => ?_⟩
          · cases yields with
            | first again =>
              obtain ⟨rfl, _⟩ : body = other ∧ _ := by simpa [read] using again
              exact ⟨fields, parsed⟩
            | later again inRest =>
              obtain ⟨_, rfl⟩ : body = _ ∧ rest = _ := by simpa [read] using again
              exact fit other inRest
          · exact fit other (.later read yields)
        | _ =>
          refine ⟨fun _ fit => ?_, fun _ => (escapes_error _).mpr rfl⟩
          simpa [parsed] using fit body (.first read)

/-- `run` returns unless something escapes from its body. -/
theorem run_returns_iff (rounds : Nat) :
    (∃ returned, (exec (run runtime setup rounds) state conn).1.1 = .ok returned) ↔
      ¬ Escapes (exec (runBody runtime setup rounds) state conn).1.1 := by
  unfold run
  rw [exec_bind, exec_attempt]
  dsimp only
  cases (exec (runBody runtime setup rounds) state conn).1.1 with
  | ok result => simp [exec_pure, escapes_ok]
  | error raised =>
    dsimp only
    rw [escapes_error]
    by_cases caught : handled raised = true
    · rw [if_pos caught, exec_bind, exec_get]
      simp [exec_pure, caught]
    · rw [if_neg caught, exec_raising]
      simpa using caught

/-- Returning a value afterwards changes nothing about what escapes. -/
theorem escapes_then_pure {α β : Type} (code : SessionM α) (value : β) :
    Escapes (exec (code >>= fun _ => pure value) state conn).1.1 ↔
      Escapes (exec code state conn).1.1 := by
  rw [exec_bind]
  cases (exec code state conn).1.1 with
  | error raised => simp only [escapes_error]
  | ok result => exact iff_of_false (escapes_ok _) (escapes_ok _)

/-- What `Fits` and `FitsChallenge` ask is asked of the one frame that arrives. -/
theorem forall_read {ending : NetError} {chunks rest : List Bytes} {body : Bytes}
    (read : readFrame ending chunks = (.ok body, rest)) (asks : Bytes → List Bytes → Prop) :
    (∀ other after, readFrame ending chunks = (.ok other, after) → asks other after) ↔
      asks body rest := by
  refine ⟨fun all => all body rest read, ?_⟩
  intro asked other after again
  obtain ⟨rfl, rfl⟩ : body = other ∧ rest = after := by simpa [read] using again
  exact asked

/-- From the challenge on, a session escapes where the response or the loop does. -/
theorem afterChallenge_escapes (challenge : Challenge Bytes) (rounds : Nat)
    (enough : conn.chunks.flatten.length < rounds) :
    Escapes (exec (handshakeResponse runtime setup challenge >>= fun established =>
        if !established then pure false else dataLoop runtime rounds >>= fun _ => pure true)
        state conn).1.1 ↔ ¬ FitsChallenge runtime setup challenge conn := by
  rcases read : readFrame conn.ending conn.chunks with ⟨raised | resp, rest⟩
  · have caught := readFrame_handled conn.ending conn.chunks raised (by rw [read])
    have failed : (exec (handshakeResponse runtime setup challenge) state conn).1.1 =
        .error raised := by
      unfold handshakeResponse
      rw [exec_bind, exec_recvJson, read]
    rw [exec_bind, failed, escapes_error]
    simp [caught, FitsChallenge, read]
  · obtain ⟨escapes, accepts, leads⟩ := @handshakeResponse_spec runtime setup state conn
      challenge _ _ read
    unfold FitsChallenge
    rw [forall_read read, exec_bind]
    cases outcome : (exec (handshakeResponse runtime setup challenge) state conn).1.1 with
    | error raised =>
      rw [outcome] at escapes accepts
      have refused : ¬ (Verifies runtime setup challenge resp ∧ conn.sends.headD none = none) :=
        fun verified => by simpa using accepts.mpr verified
      dsimp only
      rw [escapes_error, ← escapes_error (α := Bool), escapes]
      refine not_congr ⟨fun fits => ⟨fits, fun verified sent => ?_⟩, fun fits => fits.1⟩
      exact absurd ⟨verified, sent⟩ refused
    | ok established =>
      rw [outcome] at escapes accepts leads
      have responseFits : ResponseFits runtime.loads resp :=
        Classical.byContradiction fun unfit => escapes_ok established (escapes.mpr unfit)
      cases established with
      | false =>
        have refused : ¬ (Verifies runtime setup challenge resp ∧ conn.sends.headD none = none) :=
          fun verified => by simpa using accepts.mpr verified
        refine iff_of_false (escapes_ok _) fun unfit => unfit ⟨responseFits, fun verified sent => ?_⟩
        exact absurd ⟨verified, sent⟩ refused
      | true =>
        obtain ⟨verified, sent⟩ := accepts.mp rfl
        have shorter := readFrame_shorter conn.ending conn.chunks resp rest read
        have loop := @dataLoop_escapes runtime
          (exec (handshakeResponse runtime setup challenge) state conn).1.2
          (exec (handshakeResponse runtime setup challenge) state conn).2 rounds
          (by rw [leads rfl]; dsimp only; omega)
        rw [leads rfl] at loop ⊢
        dsimp only [Bool.not_true, Bool.false_eq_true] at loop ⊢
        rw [if_neg (by simp), escapes_then_pure]
        exact loop.trans (not_congr
          ⟨fun fits => ⟨responseFits, fun _ _ => fits⟩, fun fits => fits.2 verified sent⟩)

/-- The body of `run` escapes where one of its stages does. -/
theorem runBody_escapes (rounds : Nat) (wellFormed : WellFormed setup.registry)
    (enough : conn.chunks.flatten.length < rounds) :
    Escapes (exec (runBody runtime setup rounds) state conn).1.1 ↔ ¬ Fits runtime setup conn := by
  unfold runBody handshake
  rw [bind_assoc]
  rcases read : readFrame conn.ending conn.chunks with ⟨raised | hello, rest⟩
  · have caught := readFrame_handled conn.ending conn.chunks raised (by rw [read])
    have failed : (exec (handshakeHello runtime setup) state conn).1.1 = .error raised := by
      unfold handshakeHello
      rw [exec_bind, exec_recvJson, read]
    rw [exec_bind, failed, escapes_error]
    simp [caught, Fits, read]
  · obtain ⟨escapes, stage⟩ := @handshakeHello_spec runtime setup state conn
      wellFormed _ _ read
    unfold Fits
    rw [forall_read read, exec_bind]
    cases outcome : (exec (handshakeHello runtime setup) state conn).1.1 with
    | error raised =>
      rw [outcome] at escapes stage
      dsimp only
      rw [escapes_error, ← escapes_error (α := Option (Challenge Bytes)), escapes]
      refine not_congr ⟨fun fits => ⟨fits, fun challenge admits sent => ?_⟩, fun fits => fits.1⟩
      simpa using (stage challenge).1.mpr ⟨admits, sent⟩
    | ok answered =>
      rw [outcome] at escapes stage
      have helloFits : HelloFits runtime.loads hello :=
        Classical.byContradiction fun unfit => escapes_ok answered (escapes.mpr unfit)
      cases answered with
      | none =>
        refine iff_of_false (escapes_ok _) fun unfit =>
          unfit ⟨helloFits, fun challenge admits sent => ?_⟩
        simpa using (stage challenge).1.mpr ⟨admits, sent⟩
      | some challenge =>
        obtain ⟨admits, sent⟩ := (stage challenge).1.mp rfl
        have shorter := readFrame_shorter conn.ending conn.chunks hello rest read
        have response := @afterChallenge_escapes runtime setup
          (exec (handshakeHello runtime setup) state conn).1.2
          (exec (handshakeHello runtime setup) state conn).2 challenge rounds
          (by rw [(stage challenge).2 rfl]; dsimp only; omega)
        rw [(stage challenge).2 rfl] at response ⊢
        refine response.trans (not_congr ⟨fun fits => ⟨helloFits, fun other again _ => ?_⟩,
          fun fits => fits.2 challenge admits sent⟩)
        obtain rfl : challenge = other := by simpa using (stage other).1.mpr ⟨again, sent⟩
        exact fits

end Stages

/-- `RotSession.run` keeps its promise exactly on the inputs that fit: for every
byte stream, however it is cut and wherever it ends, and whichever writes fail. -/
theorem run_safe_iff_fits (runtime : Runtime) (setup : Setup) (conn : Connection)
    (wellFormed : WellFormed setup.registry) :
    Safe (session runtime setup conn) ↔ Fits runtime setup conn := by
  rw [safe_iff_returns]
  unfold session
  rw [run_returns_iff, runBody_escapes _ wellFormed (Nat.lt_succ_self _), not_not]

/-! ### A small server -/

namespace Sample

/-- A parser that knows a hello of the registered device, its response and a data message without
fields, by a number each. -/
def loads (body : Bytes) : Option Json :=
  if body = [1] then
    some (.obj [("type", .str "hello"), ("id_a", .str (bytesHex (List.replicate rotIdLen 1))),
      ("challenge_a", .str (bytesHex (List.replicate challengeLen 5)))])
  else if body = [2] then
    some (.obj [("type", .str "response"),
      ("eph_pk_a", .str (bytesHex (List.replicate rotPubkeyLen 4))), ("device_proof", .str "")])
  else if body = [3] then some (.obj [("type", .str "data")])
  else none

/-- Libraries for a server that takes any point and any signature. -/
def runtime : Runtime where
  suite := {
    text := fun _ => [], sha256 := fun _ => [], isPoint := fun _ => true, publicKey := id
    sign := fun _ digest => digest, verify := fun _ _ _ => true, exchange := fun _ point => point }
  loads := loads
  pyStr _ := "None"
  decrypt _ _ _ := none

/-- The entry of one registered device. -/
def entry : List (String × Json) :=
  [("pk_a", .str (bytesHex (List.replicate rotPubkeyLen 4))),
    ("shs_b", .str (bytesHex (List.replicate rotDigestLen 3)))]

/-- A server with one registered device. -/
def setup : Setup where
  idB := List.replicate rotIdLen 2
  registry idA := if idA = bytesHex (List.replicate rotIdLen 1) then some (.obj entry) else none
  challengeB := List.replicate challengeLen 6
  ephSkB := List.replicate 32 8

/-- Its registry is in order. -/
theorem wellFormed : WellFormed setup.registry := by
  intro name other registered
  have decoded (bin : Bytes) : fromhex (bytesHex bin).toList = some bin := by
    rw [bytesHex, String.toList_ofList, fromhex_lowerHex]
  obtain ⟨_, rfl⟩ : name = bytesHex (List.replicate rotIdLen 1) ∧ Json.obj entry = other := by
    simpa [setup] using registered
  exact ⟨entry, _, _, rfl, decoded _, List.length_replicate, decoded _, List.length_replicate⟩

/-- The device goes through the handshake, sends its data message and falls silent. -/
def conn : Connection := ⟨[frame [1], frame [2], frame [3]], .timeout, []⟩

end Sample

/-- A session that gets through the handshake and into its data loop: it returns, so its frames
fit. -/
theorem sample_safe_iff_fits : (session Sample.runtime Sample.setup Sample.conn).1 = .ok true ∧
    Fits Sample.runtime Sample.setup Sample.conn := by
  have returned : (session Sample.runtime Sample.setup Sample.conn).1 = .ok true := by
    decide +kernel
  exact ⟨returned, (run_safe_iff_fits _ _ _ Sample.wellFormed).mp
    ((safe_iff_returns _ _ _).mpr ⟨true, returned⟩)⟩

/-- A single frame whose body is the letter `x` makes `run` raise the parser's
exception, although the registry is in order. -/
theorem text_body_escapes : WellFormed Sample.setup.registry ∧
    ¬ Safe (session Sample.runtime Sample.setup ⟨[frame [0x78]], .connection, []⟩) := by
  refine ⟨Sample.wellFormed, ?_⟩
  have raised : (session Sample.runtime Sample.setup ⟨[frame [0x78]], .connection, []⟩).1 =
      .error .decode := rfl
  rintro ⟨returned, result, _⟩
  rw [raised] at result
  cases result

end Microgrid.HostileInput
