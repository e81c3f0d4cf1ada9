import Microgrid.SecureNode.Logout

/-!
# Packing and unpacking a dictionary

`pack_payload` decides by the type of a value what becomes hexadecimal text, and
`unpack_payload` by its key what becomes bytes. The two agree on the dictionaries whose byte
strings are under the keys of `BYTES_FIELDS` and whose texts there are not taken for bytes.
Every message of both sides is such a dictionary, or has the hexadecimal text of a byte
string in its place.

The codec exists twice, in `protocol.py` and in the PC client, with a key list in each copy.
`json.loads` is a parameter; a dictionary is representable where it undoes `json.dumps`.
-/

namespace Microgrid.SecureNode

open PythonValues Ems HexText

/-- The two copies of the codec. -/
inductive CodecCopy
  | server
  | client
deriving DecidableEq

/-- `BYTES_FIELDS` of `pc_client.py`. -/
def clientBytesFields : List String :=
  ["A_GEN_bl", "B_GEN_bl", "ID_A", "ID_B", "ShS_A", "ShS_B", "INIT_cif", "SES_cif", "SES_id",
    "MSG_cif", "RES_cif", "A_END_cif", "B_END_cif", "VERIF_cif", "RESP_cif", "CONF_cif"]

namespace CodecCopy

/-- `BYTES_FIELDS` of a copy. -/
def bytesFields : CodecCopy → List String
  | .server => SecureNode.bytesFields
  | .client => clientBytesFields

/-- The entry of `serialized` for a value. -/
def serializedValue : MsgField → PyValue
  | .bytes data => .str (bytesHex data)
  | .json value => value

/-- `pack_payload`: the length, and the body behind it. -/
def packPayload (_ : CodecCopy) (floatText : PyFloat → List Char) (payload : Message) :
    Except PyException Bytes :=
  let serialized : Fields PyValue := payload.map fun (key, value) => (key, serializedValue value)
  let body := utf8 (jsonText floatText (.dict serialized))
  if body.length < 256 ^ 4 then .ok (bigEndian 4 body.length ++ body) else .error .overflow

/-- The entry of `result` for a member. -/
def resultValue (copy : CodecCopy) (key : String) : PyValue → MsgField
  | .str text =>
    if key ∈ copy.bytesFields then
      match unhexlify text.toList with
      | some data => .bytes data
      | none => .json (.str text)
    else .json (.str text)
  | value => .json value

/-- `unpack_payload`. -/
def unpackPayload (copy : CodecCopy) (loads : Bytes → Except PyException (Fields PyValue))
    (raw : Bytes) : Except PyException Message := do
  let members ← loads raw
  pure (members.map fun (key, value) => (key, copy.resultValue key value))

end CodecCopy

/-- Text that `unhexlify` turns into bytes: digits only, and an even number of them. -/
def IsEvenHex (text : String) : Prop := IsHex text.toList ∧ text.toList.length % 2 = 0

/-- Byte strings are under keys for byte strings, and the texts under these keys are not even
hexadecimal text. -/
def CodecCopy.Encodable (copy : CodecCopy) (payload : Message) : Prop :=
  ∀ field ∈ payload, match field.2 with
    | .bytes _ => field.1 ∈ copy.bytesFields
    | .json (.str text) => field.1 ∈ copy.bytesFields → ¬IsEvenHex text
    | .json _ => True

/-- A member that is kept, or whose byte string is replaced by its hexadecimal text. -/
def HexReplacedField (field sent : String × MsgField) : Prop :=
  sent = field ∨ ∃ data, field.2 = .bytes data ∧ sent = (field.1, .json (.str (bytesHex data)))

/-- Some byte strings of a dictionary are replaced by their hexadecimal text. -/
def HexReplaced (payload msg : Message) : Prop := List.Forall₂ HexReplacedField payload msg

/-- JSON can represent a dictionary: `json.loads` undoes `json.dumps` on it. -/
def Representable (floatText : PyFloat → List Char)
    (loads : Bytes → Except PyException (Fields PyValue)) (members : Fields PyValue) : Prop :=
  loads (utf8 (jsonText floatText (.dict members))) = .ok members

/-! ### One member -/

/-- The two key lists are one. -/
theorem bytesFields_copy (copy : CodecCopy) : copy.bytesFields = bytesFields := by
  cases copy <;> rfl

/-- `unhexlify` fails on text that is not even hexadecimal text. -/
theorem unhexlify_eq_none (text : List Char) (notHex : ¬(IsHex text ∧ text.length % 2 = 0)) :
    unhexlify text = none := by
  induction text using unhexlify.induct with
  | case1 => exact absurd ⟨fun _ member => absurd member List.not_mem_nil, rfl⟩ notHex
  | case2 => rfl
  | case3 top bot rest high low isLow isHigh inductionHypothesis =>
    have inner : ¬(IsHex rest ∧ rest.length % 2 = 0) := by
      rintro ⟨digits, even⟩
      apply notHex
      constructor
      · intro digit member
        rcases List.mem_cons.mp member with rfl | member
        · rw [isHigh]
          rfl
        rcases List.mem_cons.mp member with rfl | member
        · rw [isLow]
          rfl
        · exact digits digit member
      · simp only [List.length_cons]
        omega
    rw [unhexlify, isHigh, isLow, inductionHypothesis inner]
    rfl
  | case4 top bot rest noDigit =>
    rw [unhexlify]
    split
    · exact absurd ‹_› (noDigit _ _ ‹_›)
    · rfl

/-- A member of an encodable dictionary comes back as it was. -/
theorem resultValue_serializedValue {copy : CodecCopy} {payload : Message}
    (encodable : copy.Encodable payload) {field : String × MsgField} (member : field ∈ payload) :
    copy.resultValue field.1 (CodecCopy.serializedValue field.2) = field.2 := by
  have here := encodable field member
  obtain ⟨key, value⟩ := field
  cases value with
  | bytes data =>
    have listed : key ∈ copy.bytesFields := here
    simp only [CodecCopy.serializedValue, CodecCopy.resultValue, if_pos listed, bytesHex,
      String.toList_ofList, unhexlify_lowerHex]
  | json value =>
    cases value with
    | str text =>
      have notHex : key ∈ copy.bytesFields → ¬IsEvenHex text := here
      by_cases listed : key ∈ copy.bytesFields
      · have kept := unhexlify_eq_none text.toList (notHex listed)
        simp only [CodecCopy.serializedValue, CodecCopy.resultValue, if_pos listed, kept]
      · simp only [CodecCopy.serializedValue, CodecCopy.resultValue, if_neg listed]
    | _ => rfl

/-- A replaced member is written as the member. -/
theorem serializedValue_replaced {field sent : String × MsgField}
    (replaced : HexReplacedField field sent) :
    (sent.1, CodecCopy.serializedValue sent.2) = (field.1, CodecCopy.serializedValue field.2) := by
  rcases replaced with rfl | ⟨data, isBytes, rfl⟩
  · rfl
  · rw [isBytes]
    rfl

/-! ### The dictionary -/

/-- Replacing byte strings does not change what is written. -/
theorem serialized_replaced {payload msg : Message} (replaced : HexReplaced payload msg) :
    (msg.map fun (key, value) => (key, CodecCopy.serializedValue value)) =
      payload.map fun (key, value) => (key, CodecCopy.serializedValue value) := by
  induction replaced with
  | nil => rfl
  | cons here later inductionHypothesis =>
    rw [List.map_cons, List.map_cons, inductionHypothesis]
    congr 1
    exact serializedValue_replaced here

/-- The decoder undoes the encoder on the members of an encodable dictionary. -/
theorem result_serialized {copy : CodecCopy} {payload : Message}
    (encodable : copy.Encodable payload) :
    (payload.map fun (key, value) => (key, CodecCopy.serializedValue value)).map
      (fun (key, value) => (key, copy.resultValue key value)) = payload := by
  rw [List.map_map]
  apply (List.map_congr_left _).trans (List.map_id payload)
  intro field member
  have value := resultValue_serializedValue encodable member
  exact Prod.ext rfl value

/-- The entries are those of the session model. -/
theorem serializedValue_map (payload : Message) :
    (payload.map fun (key, value) => (key, CodecCopy.serializedValue value)) =
      serialized payload := by
  apply List.map_congr_left
  rintro ⟨key, value⟩ -
  cases value <;> rfl

/-- What a copy packs is the frame of the session model. -/
theorem packPayload_frame (copy : CodecCopy) (floatText : PyFloat → List Char) (payload : Message) :
    copy.packPayload floatText payload =
      (packPayload floatText payload).map fun frame =>
        bigEndian 4 frame.length ++ utf8 (jsonText floatText (.dict frame.object)) := by
  rw [CodecCopy.packPayload, packPayload, serializedValue_map]
  split <;> rfl

/-- What a copy unpacks is what the session model unpacks of the frame's object. -/
theorem unpackPayload_frame (copy : CodecCopy)
    (loads : Bytes → Except PyException (Fields PyValue)) (raw : Bytes) :
    copy.unpackPayload loads raw = (loads raw).map unpackPayload := by
  cases loaded : loads raw with
  | error exception => rw [CodecCopy.unpackPayload, loaded]; rfl
  | ok members =>
    have same : (members.map fun (key, value) => (key, copy.resultValue key value)) =
        unpackPayload members := by
      apply List.map_congr_left
      rintro ⟨key, value⟩ -
      rw [Prod.mk.injEq]
      refine ⟨rfl, ?_⟩
      cases value with
      | str text => cases copy <;> rfl
      | _ => rfl
    rw [CodecCopy.unpackPayload, loaded]
    exact congrArg Except.ok same

/-! ### The messages of both sides -/

section Messages

variable (crypto : Primitives) (library : Library)

/-- The messages that `run_client` and its `SecureNodeClient` construct. -/
inductive ClientMessage : Message → Prop
  | rotHello (shSA genA id : Bytes) : ClientMessage (rotHello shSA genA id)
  | sesInit {device : Device} {draws : Draws} {root : RootOfTrust Bytes} {msg : Message}
      (made : device.prepareSesInit crypto draws root = .ok msg) : ClientMessage msg
  | sesConf {device : Device} {draws : Draws} {root : RootOfTrust Bytes} {reply msg : Message}
      {client : SecureNodeClient}
      (made : device.receiveSesReply crypto draws root reply = .ok (client, msg)) :
      ClientMessage msg
  | dxMsg {client sent : SecureNodeClient} {ts : ℕ} {nonce sensorText : Bytes} {msg : Message}
      (made : p4Send crypto client ts nonce sensorText = .ok (sent, msg)) : ClientMessage msg
  | logoutReq {client : SecureNodeClient} {ts : ℕ} {nonce : Bytes} {msg : Message}
      (made : p5LogoutInitiate crypto client ts nonce = .ok msg) : ClientMessage msg

/-- The messages that `NodeSession` constructs. -/
inductive SessionMessage : Message → Prop
  | rotAck {server : Server} {hello msg : Message} {root : RootOfTrust Bytes} {nodeLabel : String}
      (made : server.runP2 crypto hello = .ok (root, nodeLabel, msg)) : SessionMessage msg
  | sesReply {server : Server} {root : RootOfTrust Bytes} {draws : Draws} {init msg : Message}
      {pending : P3Pending Bytes}
      (made : server.runP3Init crypto root draws init = .ok (pending, msg)) : SessionMessage msg
  | sesConfAck {server : Server} {root : RootOfTrust Bytes} {nodeLabel : String}
      {pending : P3Pending Bytes} {conf msg : Message} {session : NodeSession}
      (made : server.runP3Conf crypto root nodeLabel pending conf = .ok (session, msg)) :
      SessionMessage msg
  | loop {state : LoopState} {reception : Reception} {msg : Message}
      (sent : msg ∈ state.sends crypto library reception) : SessionMessage msg
  | error {text : String} {fails : Bool} {msg : Message} (sent : msg ∈ sendError text fails) :
      SessionMessage msg

end Messages

section Carriers

variable {crypto : Primitives} {library : Library}

/-- A dictionary that was sent as it is. -/
theorem hexReplaced_refl (payload : Message) : HexReplaced payload payload := by
  induction payload with
  | nil => exact .nil
  | cons field rest inductionHypothesis => exact .cons (.inl rfl) inductionHypothesis

/-- Of the client's messages only `rot_hello` has hexadecimal text in the place of bytes. -/
theorem client_encodable {msg : Message} (constructed : ClientMessage crypto msg)
    (copy : CodecCopy) : ∃ payload, copy.Encodable payload ∧ HexReplaced payload msg := by
  cases constructed with
  | rotHello shSA genA id =>
    refine ⟨receivedHello shSA genA id, ?_, ?_⟩
    · simp [receivedHello, typed, CodecCopy.Encodable, bytesFields_copy, bytesFields]
    · exact .cons (.inl rfl) (.cons (.inr ⟨shSA, rfl, rfl⟩) (.cons (.inr ⟨genA, rfl, rfl⟩)
        (.cons (.inr ⟨id, rfl, rfl⟩) .nil)))
  | sesInit made =>
    obtain ⟨tsB, -, made⟩ := bind_ok made
    obtain ⟨initCif, -, made⟩ := bind_ok made
    obtain rfl := Except.ok.inj made
    refine ⟨_, ?_, hexReplaced_refl _⟩
    simp [SecureNode.sesInit, CodecCopy.Encodable, bytesFields_copy, bytesFields]
  | sesConf made =>
    obtain ⟨-, -, made⟩ := bind_ok made
    obtain ⟨sesCif, -, made⟩ := bind_ok made
    obtain ⟨⟨node, confCif⟩, -, made⟩ := bind_ok made
    obtain ⟨-, rfl⟩ := Prod.mk.inj (Except.ok.inj made)
    refine ⟨_, ?_, hexReplaced_refl _⟩
    simp [SecureNode.sesConf, CodecCopy.Encodable, bytesFields_copy, bytesFields]
  | dxMsg made =>
    obtain ⟨tsB, -, made⟩ := bind_ok made
    obtain ⟨smgReg, -, made⟩ := bind_ok made
    obtain ⟨regReg, -, made⟩ := bind_ok made
    obtain ⟨msgReg, -, made⟩ := bind_ok made
    obtain ⟨msgCif, -, made⟩ := bind_ok made
    obtain ⟨-, rfl⟩ := Prod.mk.inj (Except.ok.inj made)
    refine ⟨_, ?_, hexReplaced_refl _⟩
    simp [CodecCopy.Encodable, bytesFields_copy, bytesFields]
  | logoutReq made =>
    obtain ⟨tsB, -, made⟩ := bind_ok made
    obtain ⟨endReg, -, made⟩ := bind_ok made
    obtain ⟨aEndCif, -, made⟩ := bind_ok made
    obtain rfl := Except.ok.inj made
    refine ⟨_, ?_, hexReplaced_refl _⟩
    simp [CodecCopy.Encodable, bytesFields_copy, bytesFields]

/-- The messages of `_send_error` carry texts only. -/
theorem error_encodable {text : String} {fails : Bool} {msg : Message}
    (sent : msg ∈ sendError text fails) (copy : CodecCopy) : copy.Encodable msg := by
  rw [sendError] at sent
  split at sent
  · cases sent
  · rw [List.mem_singleton.mp sent]
    simp [CodecCopy.Encodable, bytesFields_copy, bytesFields]

/-- The response to a reading can be packed, and the setpoint behind it. -/
theorem respondP4_encodable {session : NodeSession} {setpoint : Option PyFloat}
    {message : Accepted} {delivery : Delivery} {msg : Message}
    (sent : msg ∈ (respondP4 crypto session setpoint message delivery).1) (copy : CodecCopy) :
    copy.Encodable msg := by
  have response (resCif : Bytes) : copy.Encodable (dxRes resCif message.mNum) := by
    simp [dxRes, CodecCopy.Encodable, bytesFields_copy, bytesFields]
  have demand (value : PyFloat) : copy.Encodable (setpointMsg value) := by
    simp [setpointMsg, CodecCopy.Encodable, bytesFields_copy, bytesFields]
  rw [respondP4] at sent
  cases encrypted : encryptGcm crypto delivery.nonce message.bRegBl session.sesKey with
  | error exception =>
    rw [encrypted] at sent
    cases sent
  | ok resCif =>
    rw [encrypted] at sent
    dsimp only at sent
    split at sent
    · cases sent
    · rw [List.mem_singleton.mp sent]
      exact response resCif
    · rw [List.mem_singleton.mp sent]
      exact response resCif
    · rcases List.mem_cons.mp sent with rfl | second
      · exact response resCif
      · rw [List.mem_singleton.mp second]
        exact demand _

/-- So can whatever `_handle_p4` sends. -/
theorem handleP4_encodable {session : NodeSession} {store : DataStore} {setpoint : Option PyFloat}
    {now : ℚ} {delivery : Delivery} {received msg : Message}
    (sent : msg ∈ (handleP4 crypto library session store setpoint now delivery received).2.2)
    (copy : CodecCopy) : copy.Encodable msg := by
  unfold handleP4 at sent
  cases accepts : acceptP4 crypto session received with
  | error exception =>
    rw [accepts] at sent
    exact error_encodable sent copy
  | ok result =>
    obtain ⟨accepted, message⟩ := result
    rw [accepts] at sent
    dsimp only at sent
    cases answer : respondP4 crypto (judgeReading library accepted store message).1 setpoint message
      delivery with
    | mk responses outcome =>
      have responded (member : msg ∈ responses) : copy.Encodable msg := by
        apply respondP4_encodable
        rw [answer]
        exact member
      rw [answer] at sent
      cases outcome with
      | error exception =>
        rcases List.mem_append.mp sent with response | failure
        · exact responded response
        · exact error_encodable failure copy
      | ok done => exact responded sent

/-- Every message of the session has its bytes under keys for bytes. -/
theorem session_encodable {msg : Message} (constructed : SessionMessage crypto library msg)
    (copy : CodecCopy) : copy.Encodable msg := by
  cases constructed with
  | rotAck made =>
    obtain ⟨idA, -, made⟩ := bind_ok made
    obtain ⟨shSA, -, made⟩ := bind_ok made
    obtain ⟨aGenBl, -, made⟩ := bind_ok made
    dsimp only at made
    split at made
    · cases made
    · split at made
      · cases made
      · split at made
        · cases made
        · obtain ⟨-, rest⟩ := Prod.mk.inj (Except.ok.inj made)
          rw [← (Prod.mk.inj rest).2]
          simp [SecureNode.rotAck, CodecCopy.Encodable, bytesFields_copy, bytesFields]
  | sesReply made =>
    obtain ⟨initCif, -, made⟩ := bind_ok made
    obtain ⟨⟨pending, sesCif⟩, -, made⟩ := bind_ok made
    rw [← (Prod.mk.inj (Except.ok.inj made)).2]
    simp [SecureNode.sesReply, CodecCopy.Encodable, bytesFields_copy, bytesFields]
  | sesConfAck made =>
    obtain ⟨-, -, made⟩ := bind_ok made
    obtain ⟨-, -, made⟩ := bind_ok made
    obtain ⟨confCif, -, made⟩ := bind_ok made
    obtain ⟨responder, -, made⟩ := bind_ok made
    rw [← (Prod.mk.inj (Except.ok.inj made)).2]
    simp [SecureNode.sesConfAck, CodecCopy.Encodable, bytesFields_copy, bytesFields]
  | loop sent =>
    rw [LoopState.sends] at sent
    split at sent
    · exact handleP4_encodable sent copy
    · split at sent
      · split at sent
        · rw [List.mem_singleton.mp sent]
          simp [logoutRes, CodecCopy.Encodable, bytesFields_copy, bytesFields]
        · cases sent
      · cases sent
  | error sent => exact error_encodable sent copy

end Carriers

/-- The codec round-trips: whichever copy packs and whichever unpacks, an encodable dictionary
comes back, also when byte strings of it were replaced by their hexadecimal text; and every
message of both sides is such a dictionary up to that replacement. -/
theorem codec_round_trips (crypto : Primitives) (library : Library)
    (floatText : PyFloat → List Char) (loads : Bytes → Except PyException (Fields PyValue)) :
    (∀ (sender receiver : CodecCopy) (payload msg : Message) (data : Bytes),
      receiver.Encodable payload → HexReplaced payload msg →
      Representable floatText loads (serialized payload) →
      sender.packPayload floatText msg = .ok data →
      receiver.unpackPayload loads (data.drop 4) = .ok payload) ∧
    ∀ msg, ClientMessage crypto msg ∨ SessionMessage crypto library msg → ∀ copy : CodecCopy,
      ∃ payload, copy.Encodable payload ∧ HexReplaced payload msg := by
  constructor
  · intro sender receiver payload msg data encodable replaced representable packed
    rw [CodecCopy.packPayload, serialized_replaced replaced] at packed
    dsimp only at packed
    split at packed
    · rw [← Except.ok.inj packed, List.drop_left' (bigEndian_length 4 _), CodecCopy.unpackPayload]
      rw [Representable, ← serializedValue_map] at representable
      rw [representable]
      exact congrArg Except.ok (result_serialized encodable)
    · cases packed
  · rintro msg (sent | sent) copy
    · exact client_encodable sent copy
    · exact ⟨msg, session_encodable sent copy, hexReplaced_refl msg⟩

/-- A `rot_hello` with its hexadecimal text, as the server reads it. -/
theorem codec_round_trips_rotHello : ∃ data,
    CodecCopy.client.packPayload (fun _ => []) (rotHello [1] [2] [255]) = .ok data ∧
    CodecCopy.server.unpackPayload (fun _ => .ok (serialized (receivedHello [1] [2] [255])))
      (data.drop 4) = .ok (receivedHello [1] [2] [255]) := by
  have packed : ∃ data,
      CodecCopy.client.packPayload (fun _ => []) (rotHello [1] [2] [255]) = .ok data := by
    rw [CodecCopy.packPayload]
    exact ⟨_, if_pos (by decide)⟩
  obtain ⟨data, packed⟩ := packed
  refine ⟨data, packed, ?_⟩
  apply (codec_round_trips plainPrimitives emptyObjectLibrary (fun _ => [])
    (fun _ => .ok (serialized (receivedHello [1] [2] [255])))).1 .client .server _ _ _ ?_ ?_ rfl packed
  · simp [receivedHello, typed, CodecCopy.Encodable, bytesFields_copy, bytesFields]
  · exact .cons (.inl rfl) (.cons (.inr ⟨[1], rfl, rfl⟩) (.cons (.inr ⟨[2], rfl, rfl⟩)
      (.cons (.inr ⟨[255], rfl, rfl⟩) .nil)))

end Microgrid.SecureNode
