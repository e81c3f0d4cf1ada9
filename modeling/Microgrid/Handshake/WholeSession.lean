import Microgrid.Handshake.DataPayload
import Microgrid.Handshake.Interoperation

/-!
# A session from the first message to the last

Once `app_main` has its socket and its response, it runs the handshake, sends one payload and closes
the connection. `RotSession.run` runs its half of the handshake, decrypts what comes in until the
connection ends, and returns whether the device was authenticated.

The two run together as in the handshake alone, with any interleaving and any cut of the streams.
The server is then left with a read that nothing answers, and the end of the connection fails it;
since the end of a stream comes after its bytes, nothing is lost by looking at it last.
-/

namespace Microgrid.Interoperation

open Handshake Framing Processes HexText JsonText DeviceSession DataChannel
open RotSession (DataFields)

/-- `app_main` on its socket: `none` if the handshake fails, otherwise whether the payload was
sent. -/
def appMainSession (firmware : Firmware) (device : Device) (gcm : Gcm) (allocated : Bool)
    (nonce demoPayload : Bytes) : DeviceM Bool := do
  let keyAb ← rotSessionHandshake firmware device
  OptionT.mk ((secureChannelSendDemoMessage gcm allocated keyAb nonce demoPayload).bind
    fun ok => .done (some ok))

/-- `demo_payload`. -/
def demoPayload : Bytes :=
  utf8 "\x7b\"demo\":\"puf_rot_node\",\"status\":\"handshake_ok\"\x7d".toList

/-- Whether the payload is sent. -/
def isSent (gcm : Gcm) (allocated : Bool) (key nonce payload : Bytes) : Bool :=
  allocated && (secureChannelEncrypt gcm key nonce payload).isSome

/-- The session has ended: the device has returned, and when the connection ends, however the last
read fails, so does `run`, with the verdict and the session that it leaves behind. -/
structure Ended (key : Bytes) (sent : Bool) (payloads : List Bytes) (final : Pair UInt8 NetError
    (Option Bool) (Except PyError Bool × RotSession.State)) : Prop where
  device : final.left = .done (some sent)
  server : ∃ session : RotSession.State, session.keyAb = some key ∧ session.authenticated = true ∧
    session.payloads = payloads ∧
    ∀ ending sends, (final.right.run connection ⟨[], ending, sends⟩).1 = (.ok true, session)

/-! ### The server after the handshake -/

section Server

open RotSession

variable (runtime : Runtime)

/-- `run` after its `try` block. -/
def concluded (outcome : Except PyError Bool × State) :
    Process UInt8 NetError (Except PyError Bool × State) :=
  match outcome.1 with
  | .ok result => .done (.ok result, outcome.2)
  | .error raised =>
    if handled raised then .done (.ok outcome.2.authenticated, outcome.2)
    else .done (.error raised, outcome.2)

/-- `run` from the data loop on. -/
def remaining (rounds : Nat) (state : State) :
    Process UInt8 NetError (Except PyError Bool × State) :=
  ((dataLoop runtime rounds).run state).bind fun outcome =>
    concluded (outcome.1.map fun _ => true, outcome.2)

/-- `run` concludes what its `try` block comes to. -/
theorem run_concludes (setup : Setup) (rounds : Nat) (state : State) :
    (run runtime setup rounds).run state =
      ((runBody runtime setup rounds).run state).bind concluded := by
  have tried : (attempt (runBody runtime setup rounds)).run state =
      ((runBody runtime setup rounds).run state).bind fun outcome =>
        .done (.ok outcome.1, outcome.2) := rfl
  rw [run, RotSession.bind_run, tried, Process.bind_assoc]
  congr 1
  funext outcome
  rcases outcome with ⟨raised | result, after⟩
  · simp only [Process.bind, concluded]
    by_cases isHandled : handled raised = true
    · rw [if_pos isHandled, if_pos isHandled]
      rfl
    · rw [if_neg isHandled, if_neg isHandled]
      rfl
  · rfl

/-- `run` is the handshake and what remains after it. -/
theorem run_eq (setup : Setup) (rounds : Nat) (state : State) :
    (run runtime setup rounds).run state = ((handshake runtime setup).run state).bind fun outcome =>
      match outcome.1 with
      | .ok true => remaining runtime rounds outcome.2
      | .ok false => .done (.ok false, outcome.2)
      | .error raised => concluded (.error raised, outcome.2) := by
  rw [run_concludes, runBody, RotSession.bind_run, Process.bind_assoc]
  congr 1
  funext outcome
  rcases outcome with ⟨raised | _ | _, after⟩
  · rfl
  · rfl
  · dsimp only
    rw [Bool.not_true, if_neg Bool.false_ne_true, RotSession.bind_run, Process.bind_assoc,
      remaining]
    congr 1
    funext last
    rcases last with ⟨_ | _, _⟩ <;> rfl

/-- A round of the loop, and what remains after it. -/
theorem remaining_succ (rounds : Nat) (state : State) :
    remaining runtime (rounds + 1) state = (recvJson runtime.loads).bind fun
      | .ok msg => ((handleData runtime msg).run state).bind fun outcome =>
        match outcome.1 with
        | .ok _ => remaining runtime rounds outcome.2
        | .error raised => concluded (.error raised, outcome.2)
      | .error .connection => .done (.ok true, state)
      | .error .timeout => .done (.ok true, state)
      | .error raised => concluded (.error raised, state) := by
  have received : (attempt (socket (recvJson runtime.loads))).run state =
      (recvJson runtime.loads).bind fun outcome => .done (.ok outcome, state) :=
    Process.bind_assoc _ _ _
  rw [remaining, dataLoop, RotSession.bind_run, received, Process.bind_assoc, Process.bind_assoc]
  congr 1
  funext outcome
  cases outcome with
  | error raised => cases raised <;> rfl
  | ok msg =>
    simp only [Process.bind]
    rw [RotSession.bind_run, Process.bind_assoc]
    congr 1
    funext last
    rcases last with ⟨_ | _, _⟩ <;> rfl

/-- Without input it waits. -/
theorem feed_remaining_empty (rounds : Nat) (state : State) :
    (remaining runtime (rounds + 1) state).feed [] =
      (remaining runtime (rounds + 1) state, [], []) := by
  rw [remaining_succ]
  rfl

/-- When the connection ends instead, `run` returns the verdict. -/
theorem remaining_ends (rounds : Nat) {state : State} (authenticated : state.authenticated = true)
    (ending : NetError) (sends : List (Option NetError)) :
    ((remaining runtime (rounds + 1) state).run connection ⟨[], ending, sends⟩).1 =
      (.ok true, state) := by
  have nothing : recvExact ending 4 [] = (.error ending, []) := rfl
  have fails : (recvJson runtime.loads).run connection ⟨[], ending, sends⟩ =
      (.error ending.raised, ⟨[], ending, sends⟩) := by
    simp only [recvJson, Process.run, connection, nothing]
  rw [remaining_succ, run_bind, fails]
  cases ending with
  | connection => rfl
  | timeout => rfl
  | os =>
    simp only [NetError.raised, concluded, handled, if_true, Process.run, authenticated]

/-- A data message that decrypts is logged. -/
theorem handleData_run {key payload : Bytes} {state : State} (established : state.keyAb = some key)
    {data : DataFields}
    (accepted : decryptDataMessage runtime (dataMessage data).toJson (some key) = .ok payload) :
    (handleData runtime (dataMessage data).toJson).run state = .done (.ok (), { state with
      payloads := state.payloads ++ [payload], trail := state.trail ++ [.decryptCalled] }) := by
  have typed (rest : Option Json → SessionM Unit) :
      (raising (getField (dataMessage data).toJson "type") >>= rest).run state =
        (rest (some (.str "data"))).run state := rfl
  have looks (rest : State → SessionM Unit) : (get >>= rest).run state = (rest state).run state :=
    rfl
  have isData : isText (some (.str "data")) "data" = true := rfl
  rw [handleData, typed, isData, Bool.not_true, if_neg Bool.false_ne_true, looks, established,
    accepted]
  rfl

/-- Of a frame with such a message the server logs the payload, and waits for the next. -/
theorem feed_remaining_data (rounds : Nat) {key payload : Bytes} {state : State}
    (established : state.keyAb = some key) {data : DataFields}
    (small : (cJSON_PrintUnformatted (dataMessage data)).length ≤ 65536)
    (parsed : runtime.loads (cJSON_PrintUnformatted (dataMessage data)) =
      some (dataMessage data).toJson)
    (accepted : decryptDataMessage runtime (dataMessage data).toJson (some key) = .ok payload) :
    (remaining runtime (rounds + 2) state).feed
        (frame (cJSON_PrintUnformatted (dataMessage data))) =
      (remaining runtime (rounds + 1) { state with
        payloads := state.payloads ++ [payload]
        trail := state.trail ++ [.decryptCalled] }, [], []) := by
  have received := feed_recvJson runtime.loads _ [] _
    (cJSON_PrintUnformatted_length (dataMessage data)).1 small parsed
  rw [List.append_nil] at received
  rw [remaining_succ]
  refine (feed_bind_done _ _ _ _ _ _ received).trans ?_
  dsimp only
  rw [handleData_run runtime established accepted]
  exact feed_remaining_empty runtime rounds _

/-- A frame over the limit ends the loop, and `run` returns the verdict. -/
theorem feed_remaining_long (rounds : Nat) {state : State}
    (authenticated : state.authenticated = true) {body : Bytes} (long : 65536 < body.length)
    (representable : body.length < 2 ^ 32) :
    (remaining runtime (rounds + 1) state).feed (frame body) =
      (.done (.ok true, state), [], body) := by
  have refused := feed_recvJson_long runtime.loads body [] long representable
  rw [List.append_nil, List.append_nil] at refused
  rw [remaining_succ, feed_bind_done _ _ _ _ _ _ refused]
  simp only [concluded, handled, if_true, authenticated, Process.feed, List.append_nil]

/-- A server that waits does nothing. -/
theorem remaining_rests {α : Type} (rounds : Nat) (state : State) (result : α)
    (next : Pair UInt8 NetError α (Except PyError Bool × State)) :
    ¬Exchange (Reads recvAll) (Reads recvExact)
      ⟨.done result, remaining runtime (rounds + 1) state, [], []⟩ next := by
  rw [remaining_succ]
  intro step
  cases step with
  | rightReads _ _ _ _ _ _ _ delivered =>
    exact absurd ((recvExact_exact _ _ _ _).mp delivered).1 (by decide)

end Server

/-! ### The whole session -/

section Session

variable {sha256 : Bytes → Bytes} {isPrivate : Bytes → Prop} {firmware : Firmware}
  {runtime : RotSession.Runtime}

/-- What the device sends after the handshake. -/
theorem feed_sendDemo {gcm : Gcm} {allocated : Bool} {key nonce payload : Bytes}
    (text : 0 ∉ payload) :
    (isSent gcm allocated key nonce payload = false ∧
      (secureChannelSendDemoMessage gcm allocated key nonce payload).feed [] =
        (.done false, [], [])) ∨
    ∃ data, isSent gcm allocated key nonce payload = true ∧
      secureChannelEncrypt gcm key nonce payload = some data ∧
      (secureChannelSendDemoMessage gcm allocated key nonce payload).feed [] =
        (.done true, frame (cJSON_PrintUnformatted (dataMessage data)), []) := by
  rw [secureChannelSendDemoMessage, isSent]
  simp only [strlen_whole text]
  cases allocated with
  | false => exact .inl ⟨rfl, rfl⟩
  | true =>
    cases encrypted : secureChannelEncrypt gcm key nonce payload with
    | none => exact .inl ⟨rfl, rfl⟩
    | some data => exact .inr ⟨data, rfl, rfl, feed_netMsgSend (dataMessage data) []⟩

/-- The frame of a payload, and what the server makes of its message. -/
theorem sent_message {gcm : Gcm} (matching : Matching gcm runtime) {key nonce payload : Bytes}
    (keySize : key.length = rotDigestLen) (nonceSize : nonce.length = gcmNonceLen)
    {data : DataFields} (encrypted : secureChannelEncrypt gcm key nonce payload = some data) :
    (cJSON_PrintUnformatted (dataMessage data)).length = 107 + 2 * payload.length ∧
      RotSession.decryptDataMessage runtime (dataMessage data).toJson (some key) = .ok payload := by
  obtain ⟨nonceLength, tagLength, cipherLength, decrypts⟩ :=
    encrypted_payload matching keySize nonceSize encrypted
  constructor
  · rw [dataMessage_length, nonceLength, tagLength, cipherLength, gcmNonceLen, gcmTagLen]
    omega
  · rw [RotSession.decryptDataMessage, readData_dataMessage nonceLength tagLength]
    simp only [bind, Except.bind, decrypts]

/-- One schedule after the handshake: the device sends, then the server receives. -/
theorem delivery_reaches {gcm : Gcm} (matching : Matching gcm runtime) {key nonce payload : Bytes}
    (keySize : key.length = rotDigestLen) (nonceSize : nonce.length = gcmNonceLen)
    (text : 0 ∉ payload) (addressable : payload.length < 2 ^ 31 - 64)
    (parses : ∀ data, secureChannelEncrypt gcm key nonce payload = some data →
      runtime.loads (cJSON_PrintUnformatted (dataMessage data)) = some (dataMessage data).toJson)
    (allocated : Bool) (rounds : Nat) {session : RotSession.State}
    (established : session.keyAb = some key) (authenticated : session.authenticated = true)
    (unused : session.payloads = []) :
    ∃ final, Relation.ReflTransGen (Exchange (Reads recvAll) (Reads recvExact))
        ⟨(secureChannelSendDemoMessage gcm allocated key nonce payload).bind
            fun ok => .done (some ok),
          remaining runtime (rounds + 2) session, [], []⟩ final ∧
      (∀ next, ¬Exchange (Reads recvAll) (Reads recvExact) final next) ∧
      Ended key (isSent gcm allocated key nonce payload)
        (if isSent gcm allocated key nonce payload ∧ payload.length ≤ longestPayload then [payload]
          else []) final := by
  have waiting := remaining_ends runtime (rounds + 1) authenticated
  rcases @feed_sendDemo gcm allocated key nonce payload text with
    ⟨unsent, fed⟩ | ⟨data, sent, encrypted, fed⟩
  · have deviceFed : ((secureChannelSendDemoMessage gcm allocated key nonce payload).bind
        fun ok => .done (some ok)).feed [] = (.done (some false), [], []) :=
      feed_bind_done _ _ _ _ _ _ fed
    have returned := left_feeds (Reads recvExact) recvAll_exact deviceFed
      (remaining runtime (rounds + 2) session) []
    refine ⟨_, returned, remaining_rests runtime (rounds + 1) session (some false), ?_⟩
    rw [unsent]
    exact ⟨rfl, session, established, authenticated, unused, waiting⟩
  · have deviceFed : ((secureChannelSendDemoMessage gcm allocated key nonce payload).bind
        fun ok => .done (some ok)).feed [] =
          (.done (some true), frame (cJSON_PrintUnformatted (dataMessage data)), []) := by
      rw [feed_bind_done _ _ _ _ _ _ fed, Process.feed, List.append_nil]
    have returned := left_feeds (Reads recvExact) recvAll_exact deviceFed
      (remaining runtime (rounds + 2) session) []
    rw [List.nil_append] at returned
    obtain ⟨size, accepted⟩ := sent_message matching keySize nonceSize encrypted
    rw [sent]
    by_cases short : payload.length ≤ longestPayload
    · have small : (cJSON_PrintUnformatted (dataMessage data)).length ≤ 65536 := by
        rw [longestPayload] at short
        omega
      have logged := feed_remaining_data runtime rounds established small (parses data encrypted)
        accepted
      rw [if_pos ⟨rfl, short⟩]
      refine ⟨_, returned.trans (right_feeds (Reads recvAll) recvExact_exact logged _ _),
        remaining_rests runtime rounds _ (some true), rfl, { session with
          payloads := session.payloads ++ [payload]
          trail := session.trail ++ [.decryptCalled] }, established, authenticated, ?_,
        remaining_ends runtime rounds authenticated⟩
      exact congrArg (· ++ [payload]) unused
    · have long : 65536 < (cJSON_PrintUnformatted (dataMessage data)).length := by
        rw [longestPayload] at short
        omega
      have refused := feed_remaining_long runtime (rounds + 1) authenticated long (by omega)
      rw [if_neg fun both => short both.2]
      refine ⟨_, returned.trans (right_feeds (Reads recvAll) recvExact_exact refused _ _), ?_,
        rfl, session, established, authenticated, unused, fun _ _ => rfl⟩
      intro next step
      cases step

/-- The node's whole session: in every interleaving the device returns whether the payload was sent,
and the server returns that the device is authenticated, with one key on both sides. It has logged
the payload if that was sent and has at most 32714 bytes, and nothing otherwise. -/
theorem session_delivers
    (libraries : Interoperable sha256 isPrivate firmware.suite runtime.suite)
    (parties : Parties isPrivate) (printed : RoundTrips firmware runtime parties)
    {registry : String → Option Json} {fields : List (String × Json)}
    (registered : registry (bytesHex parties.idA) = some (.obj fields))
    (holdsKey : fields.lookup "pk_a" =
      some (.str (bytesHex (firmware.suite.publicKey parties.skA))))
    (holdsVerifier : fields.lookup "shs_b" = some (.str (bytesHex parties.shsB)))
    {gcm : Gcm} (matching : Matching gcm runtime) {nonce payload : Bytes}
    (nonceSize : nonce.length = gcmNonceLen) (text : 0 ∉ payload)
    (addressable : payload.length < 2 ^ 31 - 64)
    (parses : ∀ data, secureChannelEncrypt gcm
        (parties.keyAb firmware.suite runtime.suite sha256) nonce payload = some data →
      runtime.loads (cJSON_PrintUnformatted (dataMessage data)) = some (dataMessage data).toJson)
    (allocated : Bool) (rounds : Nat) :
    Inevitable (Exchange (Reads recvAll) (Reads recvExact))
      (Ended (parties.keyAb firmware.suite runtime.suite sha256)
        (isSent gcm allocated (parties.keyAb firmware.suite runtime.suite sha256) nonce payload)
        (if isSent gcm allocated (parties.keyAb firmware.suite runtime.suite sha256) nonce payload ∧
          payload.length ≤ longestPayload then [payload] else []))
      ⟨(appMainSession firmware parties.device gcm allocated nonce payload).run,
        (RotSession.run runtime (parties.setup registry) (rounds + 2)).run {}, [], []⟩ := by
  obtain ⟨label, reached⟩ := handshake_reaches libraries parties printed registered holdsKey
    holdsVerifier {}
  have keySize : (parties.keyAb firmware.suite runtime.suite sha256).length = rotDigestLen :=
    libraries.digestLength _
  obtain ⟨final, delivered, rests, ended⟩ := delivery_reaches matching keySize nonceSize text
    addressable parses allocated rounds (rfl : RotSession.State.keyAb
      ⟨_, label, true, [], [.signatureVerified]⟩ = _) rfl rfl
  rw [appMainSession, DeviceSession.bind_run, run_eq]
  exact inevitable_mono (fun other same => same ▸ ended)
    (inevitable_of_reaches recvAll_exact recvExact_exact
      ((reaches_bind reached _ _).trans delivered) rests)

end Session

/-! ### The demo message of the sample device -/

namespace Sample

/-- The demo message of the sample device. -/
def demoData : DataFields where
  nonce := List.replicate gcmNonceLen 1
  ciphertext := demoPayload
  tag := (parties.keyAb suite suite sha256).take gcmTagLen

/-- The sample server, with a parser that knows the demo message as well and a cipher. -/
def demoRuntime : RotSession.Runtime :=
  { runtime with
    loads := fun body =>
      if body = cJSON_PrintUnformatted (dataMessage demoData) then
        some (dataMessage demoData).toJson
      else runtime.loads body
    decrypt := DataChannel.Sample.runtime.decrypt }

/-- The demo message prints differently from the messages of the handshake. -/
theorem demo_differs :
    cJSON_PrintUnformatted (helloMessage (parties.opening suite)) ≠
        cJSON_PrintUnformatted (dataMessage demoData) ∧
      cJSON_PrintUnformatted (responseMessage (parties.opening suite)
        (parties.signed suite suite)) ≠ cJSON_PrintUnformatted (dataMessage demoData) := by
  decide +kernel

theorem demoRuntime_loads (body : Bytes) :
    demoRuntime.loads body =
      if body = cJSON_PrintUnformatted (dataMessage demoData) then
        some (dataMessage demoData).toJson
      else runtime.loads body := rfl

/-- The demo message is parsed. -/
theorem demoRuntime_parses (data : DataFields) (encrypted : secureChannelEncrypt
      DataChannel.Sample.gcm (parties.keyAb suite suite sha256) (List.replicate gcmNonceLen 1)
      demoPayload = some data) :
    demoRuntime.loads (cJSON_PrintUnformatted (dataMessage data)) =
      some (dataMessage data).toJson := by
  have same : demoData = data := Option.some.inj encrypted
  rw [← same, demoRuntime_loads, if_pos rfl]

/-- The parsers undo the printers with the larger parser too. -/
theorem demo_roundTrips : RoundTrips firmware demoRuntime parties where
  hello := by
    rw [show firmware.suite = suite from rfl, demoRuntime_loads, if_neg demo_differs.1]
    exact roundTrips.hello
  challenge := by
    rw [show demoRuntime.suite = runtime.suite from rfl]
    exact roundTrips.challenge
  response := by
    rw [show firmware.suite = suite from rfl, show demoRuntime.suite = suite from rfl,
      demoRuntime_loads, if_neg demo_differs.2]
    exact roundTrips.response
  ack := roundTrips.ack

end Sample

/-- The sample device's demo message arrives. -/
theorem demo_delivers :
    Inevitable (Exchange (Reads recvAll) (Reads recvExact))
      (Ended (Sample.parties.keyAb Sample.suite Sample.suite Sample.sha256) true [demoPayload])
      ⟨(appMainSession Sample.firmware Sample.parties.device DataChannel.Sample.gcm true
          (List.replicate gcmNonceLen 1) demoPayload).run,
        (RotSession.run Sample.demoRuntime (Sample.parties.setup Sample.registry) 2).run {},
        [], []⟩ := by
  have small : demoPayload.length < 2 ^ 31 - 64 ∧ demoPayload.length ≤ longestPayload := by
    decide +kernel
  have text : 0 ∉ demoPayload := by decide +kernel
  have delivered := @session_delivers _ _ Sample.firmware Sample.demoRuntime Sample.interoperable
    Sample.parties Sample.demo_roundTrips Sample.registry Sample.entry (if_pos rfl) rfl rfl
    DataChannel.Sample.gcm (DataChannel.Sample.matching Sample.demoData)
    (List.replicate gcmNonceLen 1) demoPayload List.length_replicate text small.1
    Sample.demoRuntime_parses true 0
  rwa [if_pos ⟨rfl, small.2⟩] at delivered

end Microgrid.Interoperation
