import Mathlib.Logic.Relation
import Microgrid.Handshake.SessionRuns

/-!
# The data phase: `secure_channel.c` against `_data_loop`

The device encrypts each payload under the session key with a fresh random nonce;
the server decrypts every data message that arrives. Nothing numbers the messages
and nothing remembers them: the hash chain of an earlier design is gone, and the
sources rely on the authenticity of each message alone.

Between the two sits a network that drops, repeats, reorders and invents messages.
Its one limit is that it cannot forge: what the server manages to decrypt is a
message the device has encrypted by then. The results say which plaintexts the
server accepts, in which order, and how often.
-/

namespace Microgrid.DataChannel

open Handshake Framing RotSession HexText

/-- `mbedtls_gcm_crypt_and_tag` of key, nonce and plaintext; `none` is an error code. -/
abbrev Gcm := Bytes → Bytes → Bytes → Option (Bytes × Bytes)

/-- `secure_channel_encrypt`, with the nonce it draws. -/
def secureChannelEncrypt (gcm : Gcm) (key nonce plaintext : Bytes) : Option DataFields :=
  (gcm key nonce plaintext).map fun (ciphertext, tag) => { nonce, ciphertext, tag }

/-- The message of `secure_channel_send_demo_message`. -/
def dataMessage (data : DataFields) : Message :=
  [("type", "data"), ("nonce", binToHex data.nonce), ("ciphertext", binToHex data.ciphertext),
    ("tag", binToHex data.tag)]

/-- An encrypted payload, with what encrypting it returned. -/
abbrev Packet := Bytes × DataFields

/-- What the server makes of a message under its key: the plaintext and the fields
it was decrypted from, if it is a data message that decrypts. -/
def opened (runtime : Runtime) (key : Bytes) (msg : Json) : Option Packet :=
  match getField msg "type", readData msg with
  | .ok type, .ok data =>
    if isText type "data" then
      (runtime.decrypt key data.nonce (data.ciphertext ++ data.tag)).map (·, data)
    else none
  | _, _ => none

/-- A round of the loop accepts exactly what `opened` says, and keeps the key. -/
theorem handleData_accepts (runtime : Runtime) (msg : Json) (key : Bytes) (state : State)
    (conn : Connection) (established : state.keyAb = some key) :
    (exec (handleData runtime msg) state conn).1.2.payloads =
        state.payloads ++ ((opened runtime key msg).map Prod.fst).toList ∧
      (exec (handleData runtime msg) state conn).1.2.keyAb = some key := by
  unfold handleData opened
  rw [exec_bind, exec_raising]
  cases getField msg "type" with
  | error raised => simp [established]
  | ok type =>
    dsimp only
    cases isData : isText type "data" with
    | false =>
      simp only [Bool.not_false, if_true, exec_pure, established]
      cases readData msg <;> simp [isData]
    | true =>
      simp only [Bool.not_true, Bool.false_eq_true, if_false]
      rw [exec_bind, exec_get]
      dsimp only
      rw [exec_bind, exec_set, established]
      dsimp only
      cases fields : readData msg with
      | error raised =>
        have refused : decryptDataMessage runtime msg (some key) = .error raised := by
          unfold decryptDataMessage
          rw [fields]
          rfl
        simp [refused, exec_sendError]
      | ok data =>
        cases decrypted : runtime.decrypt key data.nonce (data.ciphertext ++ data.tag) with
        | none =>
          have refused : decryptDataMessage runtime msg (some key) = .error .invalidTag := by
            unfold decryptDataMessage
            rw [fields]
            simp [bind, Except.bind, decrypted]
          simp [refused, exec_sendError, decrypted]
        | some plaintext =>
          have accepted : decryptDataMessage runtime msg (some key) = .ok plaintext := by
            unfold decryptDataMessage
            rw [fields]
            simp [bind, Except.bind, decrypted]
          simp [accepted, exec_modify, decrypted, isData]

/-- The messages the loop handles: it stops at the first frame that does not
arrive, and on one that is no object. -/
def received (loads : Bytes → Option Json) (ending : NetError) :
    Nat → List Bytes → List (List (String × Json))
  | 0, _ => []
  | rounds + 1, chunks =>
    match readFrame ending chunks with
    | (.error _, _) => []
    | (.ok body, rest) =>
      match loads body with
      | some (.obj fields) => fields :: received loads ending rounds rest
      | _ => []

/-- One data phase: what the device encrypted, what the network delivered, and the
server's session object. -/
structure Channel where
  sent : List Packet
  delivered : List (List (String × Json))
  session : State

/-- The device encrypts a payload of its choice, or the network delivers a message
of its choice to the server. The network cannot forge: a message that opens is a
packet the device sent before. -/
inductive Step (runtime : Runtime) (gcm : Gcm) (key : Bytes) : Channel → Channel → Prop where
  | encrypt (channel : Channel) (plaintext nonce : Bytes) (data : DataFields)
      (encrypted : secureChannelEncrypt gcm key nonce plaintext = some data) :
      Step runtime gcm key channel
        { channel with sent := channel.sent ++ [(plaintext, data)] }
  | deliver (channel : Channel) (fields : List (String × Json)) (conn : Connection)
      (genuine : ∀ packet, opened runtime key (.obj fields) = some packet →
        packet ∈ channel.sent) :
      Step runtime gcm key channel
        { channel with
          delivered := channel.delivered ++ [fields]
          session := (exec (handleData runtime (.obj fields)) channel.session conn).1.2 }

/-- The data phase of a session that was just established. -/
def begun (session : State) : Channel := { sent := [], delivered := [], session }

/-- The packets the server accepted, in the order in which it did. -/
def accepted (runtime : Runtime) (key : Bytes) (channel : Channel) : List Packet :=
  channel.delivered.filterMap fun fields => opened runtime key (.obj fields)

/-- What holds of a data phase: the session has its key, its payloads are those of
the accepted packets, and each of these was sent. -/
structure Faithful (runtime : Runtime) (key : Bytes) (channel : Channel) : Prop where
  established : channel.session.keyAb = some key
  payloads : channel.session.payloads = (accepted runtime key channel).map Prod.fst
  genuine : ∀ packet ∈ accepted runtime key channel, packet ∈ channel.sent

/-- Every step keeps the data phase faithful. -/
theorem step_faithful {runtime : Runtime} {gcm : Gcm} {key : Bytes} {before after : Channel}
    (faithful : Faithful runtime key before) (step : Step runtime gcm key before after) :
    Faithful runtime key after := by
  cases step with
  | encrypt plaintext nonce data encrypted =>
    exact ⟨faithful.established, faithful.payloads, fun packet member =>
      List.mem_append_left _ (faithful.genuine packet member)⟩
  | deliver fields conn genuine =>
    obtain ⟨payloads, keyed⟩ := handleData_accepts runtime (.obj fields) key before.session conn
      faithful.established
    have grows : accepted runtime key
        { before with
          delivered := before.delivered ++ [fields]
          session := (exec (handleData runtime (.obj fields)) before.session conn).1.2 } =
        accepted runtime key before ++ (opened runtime key (.obj fields)).toList := by
      unfold accepted
      rw [List.filterMap_append]
      cases found : opened runtime key (.obj fields) <;> simp [found]
    refine ⟨keyed, ?_, ?_⟩
    · rw [grows, List.map_append, ← faithful.payloads]
      dsimp only
      rw [payloads]
      cases opened runtime key (.obj fields) <;> rfl
    · rw [grows]
      intro packet member
      rcases List.mem_append.mp member with old | new
      · exact faithful.genuine packet old
      · exact genuine packet (by simpa using new)

/-- So does every run. -/
theorem run_faithful {runtime : Runtime} {gcm : Gcm} {key : Bytes} {before after : Channel}
    (faithful : Faithful runtime key before)
    (run : Relation.ReflTransGen (Step runtime gcm key) before after) :
    Faithful runtime key after := by
  induction run with
  | refl => exact faithful
  | tail _ step inductionHypothesis => exact step_faithful inductionHypothesis step

/-- A data phase over a byte stream is such a run: the loop delivers the messages it
receives one by one. -/
theorem dataLoop_runs {runtime : Runtime} {gcm : Gcm} {key : Bytes} (rounds : Nat)
    (channel : Channel) (conn : Connection)
    (genuine : ∀ fields ∈ received runtime.loads conn.ending rounds conn.chunks, ∀ packet,
      opened runtime key (.obj fields) = some packet → packet ∈ channel.sent) :
    Relation.ReflTransGen (Step runtime gcm key) channel
      { channel with
        delivered := channel.delivered ++ received runtime.loads conn.ending rounds conn.chunks
        session := (exec (dataLoop runtime rounds) channel.session conn).1.2 } := by
  induction rounds generalizing channel conn with
  | zero =>
    simp only [received, List.append_nil]
    exact .refl
  | succ rounds inductionHypothesis =>
    unfold received at genuine ⊢
    unfold dataLoop
    rw [exec_bind, exec_attempt, exec_recvJson]
    rcases read : readFrame conn.ending conn.chunks with ⟨raised | body, rest⟩
    · simp only [List.append_nil]
      cases raised <;> exact .refl
    · rw [read] at genuine
      dsimp only at genuine ⊢
      cases parsed : runtime.loads body with
      | none =>
        simp only [List.append_nil]
        exact .refl
      | some value =>
        rw [parsed] at genuine
        cases value with
        | obj fields =>
          obtain ⟨returned, chunks, ending⟩ := handleData_returns runtime fields channel.session
            { conn with chunks := rest }
          have step : Step runtime gcm key channel _ :=
            .deliver channel fields { conn with chunks := rest } (genuine fields List.mem_cons_self)
          have later := inductionHypothesis
            { channel with
              delivered := channel.delivered ++ [fields]
              session := (exec (handleData runtime (.obj fields)) channel.session
                { conn with chunks := rest }).1.2 }
            (exec (handleData runtime (.obj fields)) channel.session { conn with chunks := rest }).2
            (by rw [chunks, ending]; exact fun other member => genuine other (.tail _ member))
          rw [chunks, ending] at later
          dsimp only at later ⊢
          rw [exec_bind, returned]
          simp only [List.append_assoc, List.singleton_append] at later
          exact later.head step
        | _ =>
          simp only [List.append_nil]
          exact .refl

/-- What the server accepts is what the device encrypted, in the order and as often
as the network delivers it. As long as genuine packets are neither repeated nor
swapped, whatever else is lost or injected, the accepted plaintexts are a
subsequence of those sent. -/
theorem accepted_follow_delivery (runtime : Runtime) (gcm : Gcm) (key : Bytes) (session : State)
    (established : session.keyAb = some key) (unused : session.payloads = []) (channel : Channel)
    (run : Relation.ReflTransGen (Step runtime gcm key) (begun session) channel) :
    channel.session.payloads = (accepted runtime key channel).map Prod.fst ∧
      (∀ plaintext ∈ channel.session.payloads, plaintext ∈ channel.sent.map Prod.fst) ∧
      ((accepted runtime key channel).Sublist channel.sent →
        channel.session.payloads.Sublist (channel.sent.map Prod.fst)) := by
  have faithful := run_faithful ⟨established, unused, by simp [begun, accepted]⟩ run
  refine ⟨faithful.payloads, ?_, ?_⟩
  · rw [faithful.payloads]
    intro plaintext member
    obtain ⟨packet, wasAccepted, rfl⟩ := List.mem_map.mp member
    exact List.mem_map_of_mem (faithful.genuine packet wasAccepted)
  · intro inOrder
    rw [faithful.payloads]
    exact inOrder.map Prod.fst

/-- What the device writes into a data message is read back. -/
theorem readData_dataMessage {data : DataFields} (nonceSize : data.nonce.length = gcmNonceLen)
    (tagSize : data.tag.length = gcmTagLen) : readData (dataMessage data).toJson = .ok data := by
  have nonce : (item (dataMessage data).toJson "nonce" >>= (hexToBin · gcmNonceLen)) =
      .ok data.nonce := written_hexToBin rfl nonceSize
  have ciphertext : (item (dataMessage data).toJson "ciphertext" >>= bytesFromhex) =
      .ok data.ciphertext := written_bytesFromhex rfl
  have tag : (item (dataMessage data).toJson "tag" >>= (hexToBin · gcmTagLen)) =
      .ok data.tag := written_hexToBin rfl tagSize
  unfold readData
  rw [nonce, ciphertext, tag]
  rfl

/-- What the device sends opens to what it encrypted, for a cipher that decrypts its
own output. -/
theorem opened_dataMessage {runtime : Runtime} {key plaintext : Bytes} {data : DataFields}
    (nonceSize : data.nonce.length = gcmNonceLen) (tagSize : data.tag.length = gcmTagLen)
    (decrypts : runtime.decrypt key data.nonce (data.ciphertext ++ data.tag) = some plaintext) :
    opened runtime key (dataMessage data).toJson = some (plaintext, data) := by
  have type : getField (dataMessage data).toJson "type" = .ok (some (.str "data")) := rfl
  unfold opened
  rw [readData_dataMessage nonceSize tagSize, type]
  simp [isText, decrypts]

/-- Nothing stops a packet from being accepted twice: one payload is encrypted, its
message delivered two times. -/
theorem repeated_delivery {runtime : Runtime} (gcm : Gcm) (session : State)
    {key nonce plaintext : Bytes} {data : DataFields} (established : session.keyAb = some key)
    (unused : session.payloads = [])
    (encrypted : secureChannelEncrypt gcm key nonce plaintext = some data)
    (opens : opened runtime key (dataMessage data).toJson = some (plaintext, data)) :
    ∃ channel, Relation.ReflTransGen (Step runtime gcm key) (begun session) channel ∧
      channel.sent.map Prod.fst = [plaintext] ∧
      channel.session.payloads = [plaintext, plaintext] := by
  have opensTwice (other : Packet)
      (isOpened : opened runtime key (dataMessage data).toJson = some other) :
      other ∈ [(plaintext, data)] := by
    rw [opens, Option.some.injEq] at isOpened
    simp [← isOpened]
  have encrypts : Step runtime gcm key (begun session) _ :=
    .encrypt (begun session) plaintext nonce data encrypted
  have delivers (channel : Channel) (sent : channel.sent = [(plaintext, data)]) :
      Step runtime gcm key channel _ :=
    .deliver channel ((dataMessage data).map fun field => (field.1, .str field.2))
      ⟨[], .connection, []⟩ fun other isOpened => sent ▸ opensTwice other isOpened
  have run := ((Relation.ReflTransGen.single encrypts).tail (delivers _ rfl)).tail (delivers _ rfl)
  refine ⟨_, run, rfl, ?_⟩
  rw [(run_faithful ⟨established, unused, by simp [begun, accepted]⟩ run).payloads]
  have both : opened runtime key (.obj ((dataMessage data).map
      fun field => (field.1, .str field.2))) = some (plaintext, data) := opens
  simp [accepted, begun, both]

/-! ### A small cipher -/

namespace Sample

/-- Encryption that only appends a tag made of the key. -/
def gcm : Gcm := fun key _ plaintext => some (plaintext, key.take gcmTagLen)

/-- The matching decryption, in a server that uses nothing else. -/
def runtime : Runtime where
  suite := {
    text := fun _ => [], sha256 := fun _ => [], isPoint := fun _ => false, publicKey := id
    sign := fun _ digest => digest, verify := fun _ _ _ => false, exchange := fun _ point => point }
  loads _ := none
  pyStr _ := "None"
  decrypt key _ body :=
    if body.drop (body.length - gcmTagLen) = key.take gcmTagLen then
      some (body.take (body.length - gcmTagLen))
    else none

/-- A session key. -/
def key : Bytes := List.replicate rotDigestLen 9

/-- A payload of two bytes as the device sends it. -/
def data : DataFields :=
  { nonce := List.replicate gcmNonceLen 1, ciphertext := [0x7b, 0x7d]
    tag := List.replicate gcmTagLen 9 }

/-- An established session. -/
def session : State :=
  { keyAb := some key, authenticated := true, trail := [.signatureVerified] }

/-- The device encrypts the sample payload under a nonce of its choice. -/
theorem encrypts : secureChannelEncrypt gcm key (List.replicate gcmNonceLen 1) [0x7b, 0x7d] =
    some data :=
  rfl

/-- The sample payload opens. -/
theorem opens : opened runtime key (dataMessage data).toJson = some ([0x7b, 0x7d], data) :=
  opened_dataMessage rfl rfl rfl

end Sample

/-- In a run that delivers one message twice, the accepted plaintexts follow the
delivery. -/
theorem sample_follows_delivery :
    ∃ channel, Relation.ReflTransGen (Step Sample.runtime Sample.gcm Sample.key)
        (begun Sample.session) channel ∧
      (channel.session.payloads =
          (accepted Sample.runtime Sample.key channel).map Prod.fst ∧
        (∀ plaintext ∈ channel.session.payloads, plaintext ∈ channel.sent.map Prod.fst) ∧
        ((accepted Sample.runtime Sample.key channel).Sublist channel.sent →
          channel.session.payloads.Sublist (channel.sent.map Prod.fst))) := by
  obtain ⟨channel, run, _⟩ := repeated_delivery Sample.gcm Sample.session rfl rfl
    Sample.encrypts Sample.opens
  exact ⟨channel, run,
    accepted_follow_delivery Sample.runtime Sample.gcm Sample.key Sample.session rfl rfl channel run⟩

/-- The accepted plaintexts need not be a subsequence of those sent. -/
theorem replayed_packet_accepted :
    ∃ channel, Relation.ReflTransGen (Step Sample.runtime Sample.gcm Sample.key)
        (begun Sample.session) channel ∧
      ¬ channel.session.payloads.Sublist (channel.sent.map Prod.fst) := by
  obtain ⟨channel, run, sent, payloads⟩ := repeated_delivery Sample.gcm Sample.session rfl rfl
    Sample.encrypts Sample.opens
  refine ⟨channel, run, fun sublist => ?_⟩
  rw [sent, payloads] at sublist
  exact absurd sublist.length_le (by decide)

end Microgrid.DataChannel
