import Microgrid.SecureNode.DataLoop
import Microgrid.SecureNode.Protocol
import Microgrid.SecureNode.SessionProtocol

/-!
# P2 and P3 between a client and the server

`run_client` up to the end of P3 against `NodeSession.run` up to its data loop, message by
message. Every message goes through a frame in both directions. What one side raises, or
answers with an error message, ends the setup for both.
-/

namespace Microgrid.SecureNode

open PythonValues HexText

/-- What `os.urandom` returns. -/
abbrev Urandom (size : ℕ) : Type := { data : Bytes // data.length = size }

/-- `ID_SIZE`. -/
def idSize : ℕ := 16

/-- What the server is configured with: `node_registry.json`, `server_id` and `server_key`. -/
structure Server where
  registry : Fields (Fields String)
  serverId : Bytes
  serverKey : Bytes

/-- What the client is started with. -/
structure Device where
  id : Bytes
  key : Bytes
  salt : Bytes

/-- What both sides draw up to the end of P3, and the client's clock. -/
structure Draws where
  rA : Urandom idSize
  rA2 : Urandom idSize
  ts : ℕ
  initNonce : Urandom gcmNonceSize
  sesId : Urandom idSize
  rdn2 : Urandom idSize
  sesNonce : Urandom gcmNonceSize
  confNonce : Urandom gcmNonceSize

section Messages

/-- The server's check on the type of a message. -/
def expectType (kind : String) (msg : Message) : Except PyException Unit :=
  if msgType msg = some kind then .ok ()
  else .error (.runtime ("Expected " ++ kind ++ ", got: " ++ (msgType msg).getD "?"))

/-- The check for an error message, with the text that is raised then. -/
def refuseError (context absent : String) (msg : Message) : Except PyException Unit :=
  if msgType msg = some "error" then
    let error := match msg.lookup "error" with
      | some (.json (.str text)) => text
      | _ => absent
    .error (.runtime (context ++ error))
  else .ok ()

/-- The `rot_hello` of `run_client`, which writes the hexadecimal text itself. -/
def rotHello (shSA genA id : Bytes) : Message :=
  [("type", .json (.str "rot_hello")), ("ShS_A", .json (.str (bytesHex shSA))),
    ("A_GEN_bl", .json (.str (bytesHex genA))), ("ID_A", .json (.str (bytesHex id)))]

/-- The `rot_ack` of `_run_p2`. -/
def rotAck (shSB bGenBl serverId : Bytes) : Message :=
  [("type", .json (.str "rot_ack")), ("ShS_B", .bytes shSB), ("B_GEN_bl", .bytes bGenBl),
    ("ID_B", .bytes serverId)]

/-- The `ses_init` of `p3_initiator_prepare`. -/
def sesInit (initCif id : Bytes) : Message :=
  [("type", .json (.str "ses_init")), ("INIT_cif", .bytes initCif), ("ID_A", .bytes id)]

/-- The `ses_reply` of `_run_p3`. -/
def sesReply (sesCif : Bytes) : Message :=
  [("type", .json (.str "ses_reply")), ("SES_cif", .bytes sesCif)]

/-- The `ses_conf` of `p3_initiator_finalize`. -/
def sesConf (confCif id : Bytes) : Message :=
  [("type", .json (.str "ses_conf")), ("CONF_cif", .bytes confCif), ("ID_A", .bytes id)]

/-- The `ses_conf_ack` of `_run_p3`. -/
def sesConfAck (sesId : Bytes) : Message :=
  [("type", .json (.str "ses_conf_ack")), ("SES_id", .bytes sesId)]

end Messages

section Setup

variable (crypto : Primitives)

/-- `_run_p2`: what the server keeps, the label of the node, and the answer. -/
def Server.runP2 (server : Server) (msg : Message) :
    Except PyException (RootOfTrust Bytes × String × Message) := do
  let idA ← bytesField msg "ID_A"
  let shSA ← bytesField msg "ShS_A"
  let aGenBl ← bytesField msg "A_GEN_bl"
  let nodeIdHex := bytesHex idA
  match server.registry.lookup nodeIdHex with
  | none => throw (.runtime ("Unknown node ID: " ++ nodeIdHex))
  | some entry =>
    let nodeLabel := (entry.lookup "label").getD (String.ofList (nodeIdHex.toList.take 8))
    match entry.lookup "node_salt" with
    | none => throw (.key "node_salt")
    | some saltHex =>
      match unhexlify saltHex.toList with
      | none => throw .value
      | some nodeSalt =>
        let (root, shSB, bGenBl) := (Operations.bytes crypto).answerHello nodeSalt server.serverId
          server.serverKey idA shSA aGenBl
        pure (root, nodeLabel, rotAck shSB bGenBl server.serverId)

/-- `_run_p3` up to the sending of `ses_reply`. -/
def Server.runP3Init (server : Server) (root : RootOfTrust Bytes) (draws : Draws) (msg : Message) :
    Except PyException (P3Pending Bytes × Message) := do
  let initCif ← bytesField msg "INIT_cif"
  let (pending, sesCif) ← (Operations.bytes crypto).receiveSesInit root server.serverId initCif
    draws.sesId.val draws.rdn2.val draws.sesNonce.val
  pure (pending, sesReply sesCif)

/-- `_run_p3` from the receiving of `ses_conf` on. -/
def Server.runP3Conf (server : Server) (root : RootOfTrust Bytes) (nodeLabel : String)
    (pending : P3Pending Bytes) (msg : Message) : Except PyException (NodeSession × Message) := do
  refuseError "Client P3 error: " "?" msg
  expectType "ses_conf" msg
  let confCif ← bytesField msg "CONF_cif"
  let responder ← (Operations.bytes crypto).receiveSesConf root server.serverId pending confCif
  pure (established responder.serverId nodeLabel responder.prvBl responder.sesId responder.sesKey,
    sesConfAck responder.sesId)

/-- The client's turn on `rot_ack`, which ends P2 for it. -/
def Device.receiveRotAck (shSA genA : Bytes) (msg : Message) :
    Except PyException (RootOfTrust Bytes) := do
  refuseError "P2 error: " "None" msg
  let shSB ← bytesField msg "ShS_B"
  let bGenBl ← bytesField msg "B_GEN_bl"
  let idB ← bytesField msg "ID_B"
  pure ((Operations.bytes crypto).p2Finalize shSA shSB genA bGenBl idB)

/-- The client's `ses_init`. -/
def Device.prepareSesInit (device : Device) (draws : Draws) (root : RootOfTrust Bytes) :
    Except PyException Message := do
  let tsB ← structPack 8 draws.ts
  let initCif ← (Operations.bytes crypto).p3InitiatorPrepare root device.id draws.rA2.val tsB
    draws.initNonce.val
  pure (sesInit initCif device.id)

/-- The client's turn on `ses_reply`: the client, and its `ses_conf`. -/
def Device.receiveSesReply (device : Device) (draws : Draws) (root : RootOfTrust Bytes)
    (msg : Message) : Except PyException (SecureNodeClient × Message) := do
  refuseError "P3 error: " "None" msg
  let sesCif ← bytesField msg "SES_cif"
  let (node, confCif) ← (Operations.bytes crypto).p3InitiatorFinalize root device.id device.key
    draws.rA2.val sesCif draws.confNonce.val
  pure (⟨node.id, node.key, node.peerId, node.prvBl, node.sesId, node.kABEnc, node.mNum,
    node.lastARegBl⟩, sesConf confCif device.id)

variable (floatText : PyFloat → List Char)

/-- A message as the receiver with the given limit gets it. -/
def deliver (limit : ℕ) (msg : Message) : Except PyException Message :=
  packPayload floatText msg >>= recvMsg limit

/-- P2: what the server keeps, with the label of the node, and what the client keeps. -/
def rootOfTrust (server : Server) (device : Device) (draws : Draws) :
    Except PyException (RootOfTrust Bytes × String × RootOfTrust Bytes) := do
  let (shSA, genA) := (Operations.bytes crypto).p2InitiatorCompute device.salt draws.rA.val device.id
  let hello ← deliver floatText serverLimit (rotHello shSA genA device.id)
  expectType "rot_hello" hello
  let (serverRoot, nodeLabel, ack) ← server.runP2 crypto hello
  let ack ← deliver floatText clientLimit ack
  let root ← Device.receiveRotAck crypto shSA genA ack
  pure (serverRoot, nodeLabel, root)

/-- P3, from what the two sides keep of P2. -/
def sessionEstablishment (server : Server) (device : Device) (draws : Draws)
    (serverRoot : RootOfTrust Bytes) (nodeLabel : String) (root : RootOfTrust Bytes) :
    Except PyException (SecureNodeClient × NodeSession) := do
  let init ← device.prepareSesInit crypto draws root
  let init ← deliver floatText serverLimit init
  expectType "ses_init" init
  let (pending, reply) ← server.runP3Init crypto serverRoot draws init
  let reply ← deliver floatText clientLimit reply
  let (client, conf) ← device.receiveSesReply crypto draws root reply
  let conf ← deliver floatText serverLimit conf
  let (session, confAck) ← server.runP3Conf crypto serverRoot nodeLabel pending conf
  let confAck ← deliver floatText clientLimit confAck
  refuseError "P3 conf error: " "None" confAck
  pure (client, session)

/-- P2 and P3 of a client and the server. -/
def setup (server : Server) (device : Device) (draws : Draws) :
    Except PyException (SecureNodeClient × NodeSession) := do
  let (serverRoot, nodeLabel, root) ← rootOfTrust crypto floatText server device draws
  sessionEstablishment crypto floatText server device draws serverRoot nodeLabel root

end Setup

/-- A cut gives back pieces that have the widths. -/
theorem cut_flatten (front : List Bytes) (last : Bytes) :
    cut (front.map List.length) (front ++ [last]).flatten = front ++ [last] := by
  induction front with
  | nil =>
    rw [List.map_nil, cut, List.nil_append, List.flatten_singleton]
  | cons head rest inductionHypothesis =>
    rw [List.map_cons, cut, List.cons_append, List.flatten_cons, List.take_left, List.drop_left,
      inductionHypothesis]

section Agreement

variable {crypto : Primitives}

/-- Encrypting a text that is not too long, with the size of the ciphertext and what it
decrypts to. -/
theorem Primitives.Lawful.sealed (lawful : crypto.Lawful) (nonce : Urandom gcmNonceSize)
    {plaintext : Bytes} (short : plaintext.length < 2 ^ 31) (key : Bytes) :
    ∃ ciphertext, encryptGcm crypto nonce.val plaintext key = .ok ciphertext ∧
      decryptGcm crypto ciphertext key = .ok plaintext ∧
      ciphertext.length = gcmNonceSize + plaintext.length + gcmTagSize := by
  obtain ⟨ciphertext, encrypted, decrypted⟩ :=
    lawful.decrypt_encrypt nonce.val plaintext key nonce.property short
  exact ⟨ciphertext, encrypted, decrypted,
    lawful.encryptGcm_length nonce.property short encrypted⟩

/-- The server accepts the `ses_init` of a client that shares its secret and its block. -/
theorem receiveSesInit_prepared (lawful : crypto.Lawful) (shSAB prvBl id serverId : Bytes)
    {tsB : Bytes} (clock : tsB.length = 8) (draws : Draws) :
    ∃ initCif preinitBl sesCif,
      (Operations.bytes crypto).p3InitiatorPrepare ⟨shSAB, prvBl, serverId⟩ id draws.rA2.val tsB
        draws.initNonce.val = .ok initCif ∧ initCif.length = 84 ∧
      (Operations.bytes crypto).receiveSesInit ⟨shSAB, prvBl, id⟩ serverId initCif draws.sesId.val
        draws.rdn2.val draws.sesNonce.val = .ok (⟨draws.sesId.val,
          hSha256 crypto [draws.rdn2.val, shSAB].flatten, draws.rA2.val, draws.rdn2.val, preinitBl⟩,
          sesCif) ∧ sesCif.length = 108 ∧ preinitBl.length = 32 ∧
      decryptGcm crypto sesCif shSAB
        = .ok [draws.sesId.val, draws.rdn2.val, draws.rA2.val, preinitBl].flatten := by
  set preinitBl := hSha256 crypto [prvBl,
    hSha256 crypto [draws.rA2.val, tsB, id, serverId, shSAB].flatten].flatten with preinitNamed
  have digest : preinitBl.length = 32 := lawful.digest_length _
  have initLength : [preinitBl, draws.rA2.val, tsB].flatten.length = 56 := by
    simp [digest, clock, draws.rA2.property, idSize]
  have replyLength :
      [draws.sesId.val, draws.rdn2.val, draws.rA2.val, preinitBl].flatten.length = 80 := by
    simp [digest, draws.rA2.property, draws.sesId.property, draws.rdn2.property, idSize]
  obtain ⟨initCif, encrypted, decrypted, initSize⟩ :=
    lawful.sealed draws.initNonce (by rw [initLength]; decide) shSAB
  obtain ⟨sesCif, answered, opened, replySize⟩ :=
    lawful.sealed draws.sesNonce (by rw [replyLength]; decide) shSAB
  refine ⟨initCif, preinitBl, sesCif, encrypted, ?_, ?_, ?_, digest, opened⟩
  · rw [initSize, initLength]
    rfl
  · have pieces := cut_flatten [preinitBl, draws.rA2.val] tsB
    rw [List.map_cons, List.map_singleton, digest, draws.rA2.property] at pieces
    have slices : (Operations.bytes crypto).slices [32, 16] [preinitBl, draws.rA2.val, tsB].flatten
        = .ok [preinitBl, draws.rA2.val, tsB] := congrArg Except.ok pieces
    have answer : (Operations.bytes crypto).encryptGcm draws.sesNonce.val
        ((Operations.bytes crypto).concat [draws.sesId.val, draws.rdn2.val, draws.rA2.val, preinitBl])
        shSAB = .ok sesCif := answered
    have read : (Operations.bytes crypto).decryptGcm initCif shSAB
        = .ok [preinitBl, draws.rA2.val, tsB].flatten := decrypted
    rw [Operations.receiveSesInit]
    simp only [read, bind, Except.bind, slices, answer]
    exact if_neg (not_not.mpr rfl)
  · rw [replySize, replyLength]
    rfl

/-- The client accepts the `ses_reply` that carries its own `RDN1`, and the server accepts the
`ses_conf` that the client makes of it: both hold the same block, identifier and key. -/
theorem receiveSesConf_finalized (lawful : crypto.Lawful) (shSAB prvBl id key serverId : Bytes)
    (draws : Draws) {preinitBl sesCif : Bytes} (digest : preinitBl.length = 32)
    (opened : decryptGcm crypto sesCif shSAB
      = .ok [draws.sesId.val, draws.rdn2.val, draws.rA2.val, preinitBl].flatten) :
    ∃ (node : Initiator Bytes) (confCif : Bytes),
      (Operations.bytes crypto).p3InitiatorFinalize ⟨shSAB, prvBl, serverId⟩ id key draws.rA2.val
        sesCif draws.confNonce.val = .ok (node, confCif) ∧ confCif.length = 60 ∧
      (Operations.bytes crypto).receiveSesConf ⟨shSAB, prvBl, id⟩ serverId ⟨draws.sesId.val,
        hSha256 crypto [draws.rdn2.val, shSAB].flatten, draws.rA2.val, draws.rdn2.val, preinitBl⟩
        confCif = .ok ⟨serverId, node.prvBl, node.sesId, node.kABEnc⟩ ∧
      node.id = id ∧ node.peerId = serverId ∧ node.sesId = draws.sesId.val ∧ node.mNum = 0 := by
  set sesKey := hSha256 crypto [draws.rdn2.val, shSAB].flatten with keyNamed
  set confTag := hSha256 crypto [sesKey, draws.sesId.val, draws.rA2.val, draws.rdn2.val].flatten
    with tagNamed
  have tagLength : confTag.length = 32 := lawful.digest_length _
  obtain ⟨confCif, encrypted, decrypted, confSize⟩ :=
    lawful.sealed draws.confNonce (by rw [tagLength]; decide) sesKey
  refine ⟨⟨id, key, serverId, hSha256 crypto [prvBl, draws.sesId.val, preinitBl].flatten,
    draws.sesId.val, sesKey, 0, utf8 "".toList⟩, confCif, ?_, ?_, ?_, rfl, rfl, rfl, rfl⟩
  · have pieces := cut_flatten [draws.sesId.val, draws.rdn2.val, draws.rA2.val, preinitBl] []
    rw [List.map_cons, List.map_cons, List.map_cons, List.map_singleton, digest,
      draws.sesId.property, draws.rdn2.property, draws.rA2.property, List.flatten_append,
      List.flatten_singleton, List.append_nil] at pieces
    have slices : (Operations.bytes crypto).slices [16, 16, 16, 32]
        [draws.sesId.val, draws.rdn2.val, draws.rA2.val, preinitBl].flatten
        = .ok [draws.sesId.val, draws.rdn2.val, draws.rA2.val, preinitBl, []] :=
      congrArg Except.ok pieces
    have read : (Operations.bytes crypto).decryptGcm sesCif shSAB
        = .ok [draws.sesId.val, draws.rdn2.val, draws.rA2.val, preinitBl].flatten := opened
    rw [Operations.p3InitiatorFinalize]
    simp only [read, bind, Except.bind, slices]
    apply (if_neg (not_not.mpr rfl)).trans
    change (encryptGcm crypto draws.confNonce.val confTag sesKey >>= fun confCif =>
      pure (_, confCif)) = _
    rw [encrypted]
    rfl
  · rw [confSize, tagLength]
    rfl
  · have read : (Operations.bytes crypto).decryptGcm confCif sesKey = .ok confTag := decrypted
    rw [Operations.receiveSesConf]
    simp only [read, bind, Except.bind]
    exact if_neg (not_not.mpr rfl)

/-- What arrives of a message is the message. -/
theorem deliver_ok {floatText : PyFloat → List Char} {limit : ℕ} {msg received : Message}
    (carried : Carried msg) (arrived : deliver floatText limit msg = .ok received) :
    received = msg :=
  recvMsg_packed carried arrived

/-- The `rot_hello` that the server gets: the hexadecimal text has become bytes. -/
def receivedHello (shSA genA id : Bytes) : Message :=
  typed "rot_hello" [("ShS_A", shSA), ("A_GEN_bl", genA), ("ID_A", id)] []

/-- The `rot_hello` is on the line what a message with byte strings is. -/
theorem deliver_rotHello (floatText : PyFloat → List Char) (limit : ℕ) (shSA genA id : Bytes) :
    deliver floatText limit (rotHello shSA genA id)
      = deliver floatText limit (receivedHello shSA genA id) := rfl

/-- What the server answers a `rot_hello` with. -/
theorem runP2_ok {server : Server} {shSA genA id : Bytes} {root : RootOfTrust Bytes}
    {nodeLabel : String} {ack : Message}
    (answered : server.runP2 crypto (receivedHello shSA genA id) = .ok (root, nodeLabel, ack)) :
    ∃ nodeSalt, (root, hkdf crypto nodeSalt server.serverKey,
        hSha256 crypto [nodeSalt, server.serverId].flatten)
      = (Operations.bytes crypto).answerHello nodeSalt server.serverId server.serverKey id shSA genA ∧
      ack = rotAck (hkdf crypto nodeSalt server.serverKey)
        (hSha256 crypto [nodeSalt, server.serverId].flatten) server.serverId := by
  obtain ⟨idA, idRead, answered⟩ := bind_ok answered
  obtain ⟨shSRead, secretRead, answered⟩ := bind_ok answered
  obtain ⟨genRead, genesisRead, answered⟩ := bind_ok answered
  obtain rfl := Except.ok.inj idRead
  obtain rfl := Except.ok.inj secretRead
  obtain rfl := Except.ok.inj genesisRead
  dsimp only at answered
  split at answered
  · cases answered
  · split at answered
    · cases answered
    · split at answered
      · cases answered
      · next nodeSalt readable =>
        obtain ⟨rfl, rest⟩ := Prod.mk.inj (Except.ok.inj answered)
        obtain ⟨-, rfl⟩ := Prod.mk.inj rest
        exact ⟨nodeSalt, rfl, rfl⟩

/-- What the two sides hold after P3: they are in step, the session has just been established,
and the client has sent nothing yet. -/
structure Opened (server : Server) (device : Device) (draws : Draws) (client : SecureNodeClient)
    (session : NodeSession) : Prop where
  inStep : InStep client session
  established : ∃ nodeLabel prvBl sesKey,
    session = established server.serverId nodeLabel prvBl draws.sesId.val sesKey
  id : client.id = device.id
  count : client.mNum = 0

/-- Two sides that complete P2 share a secret and a first block. -/
theorem rootOfTrust_shared {floatText : PyFloat → List Char} {server : Server} {device : Device}
    {draws : Draws} {serverRoot root : RootOfTrust Bytes} {nodeLabel : String}
    (completed : rootOfTrust crypto floatText server device draws
      = .ok (serverRoot, nodeLabel, root)) :
    ∃ shSAB prvBl, serverRoot = ⟨shSAB, prvBl, device.id⟩ ∧ root = ⟨shSAB, prvBl, server.serverId⟩ := by
  obtain ⟨hello, helloArrived, completed⟩ := bind_ok completed
  rw [deliver_rotHello] at helloArrived
  obtain rfl := deliver_ok (carried_typed (by simp [bytesFields]) (by simp [Carried])) helloArrived
  obtain ⟨-, -, completed⟩ := bind_ok completed
  obtain ⟨⟨serverKept, label, ack⟩, answered, completed⟩ := bind_ok completed
  obtain ⟨nodeSalt, kept, rfl⟩ := runP2_ok answered
  obtain ⟨received, ackArrived, completed⟩ := bind_ok completed
  obtain rfl := deliver_ok (by simp [Carried, rotAck, bytesFields]) ackArrived
  obtain ⟨clientKept, finalized, completed⟩ := bind_ok completed
  obtain ⟨rfl, rest⟩ := Prod.mk.inj (Except.ok.inj completed)
  obtain ⟨-, rfl⟩ := Prod.mk.inj rest
  obtain ⟨-, -, finalized⟩ := bind_ok finalized
  obtain ⟨shSB, secretRead, finalized⟩ := bind_ok finalized
  obtain ⟨bGenBl, genesisRead, finalized⟩ := bind_ok finalized
  obtain ⟨idB, idRead, finalized⟩ := bind_ok finalized
  obtain rfl := Except.ok.inj secretRead
  obtain rfl := Except.ok.inj genesisRead
  obtain rfl := Except.ok.inj idRead
  exact ⟨_, _, (Prod.mk.inj kept).1, (Except.ok.inj finalized).symm⟩

/-- The messages of P3 between two sides that share a secret and a block, with their sizes,
and what every side computes from the last message. -/
structure P3Exchange (crypto : Primitives) (server : Server) (device : Device) (draws : Draws)
    (nodeLabel : String) (serverRoot root : RootOfTrust Bytes) (initCif sesCif confCif : Bytes)
    (pending : P3Pending Bytes) (client : SecureNodeClient) (session : NodeSession) : Prop where
  prepared : device.prepareSesInit crypto draws root = .ok (sesInit initCif device.id)
  replied : server.runP3Init crypto serverRoot draws (sesInit initCif device.id)
    = .ok (pending, sesReply sesCif)
  confirmed : device.receiveSesReply crypto draws root (sesReply sesCif)
    = .ok (client, sesConf confCif device.id)
  acknowledged : server.runP3Conf crypto serverRoot nodeLabel pending (sesConf confCif device.id)
    = .ok (session, sesConfAck draws.sesId.val)
  sizes : initCif.length = 84 ∧ sesCif.length = 108 ∧ confCif.length = 60
  opened : Opened server device draws client session

/-- Two sides that share a secret and a block can go through P3. -/
theorem exists_p3Exchange (lawful : crypto.Lawful) (server : Server) (device : Device) {draws : Draws}
    {tsB : Bytes} (clock : structPack 8 draws.ts = .ok tsB) (nodeLabel : String)
    (shSAB prvBl : Bytes) :
    ∃ initCif sesCif confCif pending client session, P3Exchange crypto server device draws nodeLabel
      ⟨shSAB, prvBl, device.id⟩ ⟨shSAB, prvBl, server.serverId⟩ initCif sesCif confCif pending client
      session := by
  have width : tsB.length = 8 := by
    rw [(structPack_ok clock).2, bigEndian_length]
  obtain ⟨initCif, preinitBl, sesCif, made, initSize, taken, sesSize, digest, opened⟩ :=
    receiveSesInit_prepared lawful shSAB prvBl device.id server.serverId width draws
  obtain ⟨node, confCif, finalized, confSize, confirmed, id, peerId, sesId, mNum⟩ :=
    receiveSesConf_finalized lawful shSAB prvBl device.id device.key server.serverId draws digest opened
  refine ⟨initCif, sesCif, confCif, ⟨draws.sesId.val, hSha256 crypto [draws.rdn2.val, shSAB].flatten,
    draws.rA2.val, draws.rdn2.val, preinitBl⟩, ⟨node.id, node.key, node.peerId, node.prvBl,
    node.sesId, node.kABEnc, node.mNum, node.lastARegBl⟩,
    established server.serverId nodeLabel node.prvBl node.sesId node.kABEnc, ?_⟩
  constructor
  · rw [Device.prepareSesInit, clock]
    simp only [bind, Except.bind, made]
    rfl
  · have read : bytesField (sesInit initCif device.id) "INIT_cif" = .ok initCif := rfl
    rw [Server.runP3Init, read]
    simp only [bind, Except.bind, taken]
    rfl
  · have read : bytesField (sesReply sesCif) "SES_cif" = .ok sesCif := rfl
    have honest : refuseError "P3 error: " "None" (sesReply sesCif) = .ok () := rfl
    rw [Device.receiveSesReply, honest, read]
    simp only [bind, Except.bind, finalized]
    rfl
  · have read : bytesField (sesConf confCif device.id) "CONF_cif" = .ok confCif := rfl
    have honest : refuseError "Client P3 error: " "?" (sesConf confCif device.id) = .ok () := rfl
    have kind : expectType "ses_conf" (sesConf confCif device.id) = .ok () := rfl
    rw [Server.runP3Conf, honest, kind, read, ← sesId]
    simp only [bind, Except.bind]
    rw [sesId, confirmed]
    simp only [sesId]
    rfl
  · exact ⟨initSize, sesSize, confSize⟩
  · exact ⟨⟨rfl, rfl, rfl, peerId⟩, ⟨_, _, _, by rw [sesId]⟩, id, mNum⟩

/-- Two sides that share a secret and a block and complete P3 are in step. -/
theorem sessionEstablishment_opened (lawful : crypto.Lawful) {floatText : PyFloat → List Char}
    {server : Server} {device : Device} {draws : Draws} {shSAB prvBl : Bytes} {nodeLabel : String}
    {client : SecureNodeClient} {session : NodeSession}
    (completed : sessionEstablishment crypto floatText server device draws ⟨shSAB, prvBl, device.id⟩
      nodeLabel ⟨shSAB, prvBl, server.serverId⟩ = .ok (client, session)) :
    Opened server device draws client session := by
  obtain ⟨init, prepared, completed⟩ := bind_ok completed
  obtain ⟨tsB, clock, -⟩ := bind_ok prepared
  obtain ⟨initCif, sesCif, confCif, pending, sides, established, exchange⟩ :=
    exists_p3Exchange lawful server device clock nodeLabel shSAB prvBl
  obtain rfl := Except.ok.inj (prepared.symm.trans exchange.prepared)
  obtain ⟨received, arrived, completed⟩ := bind_ok completed
  obtain rfl := deliver_ok (by simp [Carried, sesInit, bytesFields]) arrived
  obtain ⟨-, -, completed⟩ := bind_ok completed
  obtain ⟨⟨kept, reply⟩, replied, completed⟩ := bind_ok completed
  obtain ⟨rfl, rfl⟩ := Prod.mk.inj (Except.ok.inj (exchange.replied.symm.trans replied))
  obtain ⟨received, arrived, completed⟩ := bind_ok completed
  obtain rfl := deliver_ok (by simp [Carried, sesReply, bytesFields]) arrived
  obtain ⟨⟨node, conf⟩, confirmed, completed⟩ := bind_ok completed
  obtain ⟨rfl, rfl⟩ := Prod.mk.inj (Except.ok.inj (exchange.confirmed.symm.trans confirmed))
  obtain ⟨received, arrived, completed⟩ := bind_ok completed
  obtain rfl := deliver_ok (by simp [Carried, sesConf, bytesFields]) arrived
  obtain ⟨⟨other, confAck⟩, acknowledged, completed⟩ := bind_ok completed
  obtain ⟨rfl, rfl⟩ := Prod.mk.inj (Except.ok.inj (exchange.acknowledged.symm.trans acknowledged))
  obtain ⟨received, -, completed⟩ := bind_ok completed
  obtain ⟨-, -, completed⟩ := bind_ok completed
  obtain ⟨rfl, rfl⟩ := Prod.mk.inj (Except.ok.inj completed)
  exact exchange.opened

/-- Two sides that complete P3 are in step. -/
theorem setup_opened (lawful : crypto.Lawful) {floatText : PyFloat → List Char} {server : Server}
    {device : Device} {draws : Draws} {client : SecureNodeClient} {session : NodeSession}
    (completed : setup crypto floatText server device draws = .ok (client, session)) :
    Opened server device draws client session := by
  obtain ⟨⟨serverRoot, nodeLabel, root⟩, shared, completed⟩ := bind_ok completed
  obtain ⟨shSAB, prvBl, rfl, rfl⟩ := rootOfTrust_shared shared
  exact sessionEstablishment_opened lawful completed

/-- The identifiers have the size that they are meant to have. -/
structure Sized (server : Server) (device : Device) : Prop where
  id : device.id.length = idSize
  serverId : server.serverId.length = idSize

/-- The registry has an entry for the device, with a salt in hexadecimal text. -/
def Server.Registered (server : Server) (device : Device) : Prop :=
  ∃ entry saltHex nodeSalt, server.registry.lookup (bytesHex device.id) = some entry ∧
    entry.lookup "node_salt" = some saltHex ∧ unhexlify saltHex.toList = some nodeSalt

/-- A message of P2 and P3 is short. -/
theorem deliver_typed (floatText : PyFloat → List Char) {kind : String} {fields : Fields Bytes}
    (listed : ∀ field ∈ fields, field.1 ∈ bytesFields)
    {limit : ℕ} (bound : limit < 256 ^ 4)
    (short : 4 * (12 * kind.toList.length
      + (fields.map fun field => 24 * field.2.length + 116).sum + 58) ≤ limit) :
    deliver floatText limit (typed kind fields []) = .ok (typed kind fields []) :=
  typed_delivered floatText listed (fun _ member => (List.not_mem_nil member).elim) bound short

/-- P2 of a registered device completes. -/
theorem rootOfTrust_completes (lawful : crypto.Lawful) (floatText : PyFloat → List Char)
    {server : Server} {device : Device} (sized : Sized server device)
    (registered : server.Registered device) (draws : Draws) :
    ∃ serverRoot nodeLabel root, rootOfTrust crypto floatText server device draws
      = .ok (serverRoot, nodeLabel, root) := by
  obtain ⟨entry, saltHex, nodeSalt, listed, salted, readable⟩ := registered
  have secret : ∀ salt ikm, (hkdf crypto salt ikm).length = 32 := fun _ _ => lawful.hkdf_length _ _
  have digest : ∀ data, (hSha256 crypto data).length = 32 := fun _ => lawful.digest_length _
  set shSA := hkdf crypto device.salt [draws.rA.val, device.id].flatten with secretNamed
  set genA := hSha256 crypto [draws.rA.val, utf8 "GEN".toList, device.id].flatten with genesisNamed
  set ack := rotAck (hkdf crypto nodeSalt server.serverKey)
    (hSha256 crypto [nodeSalt, server.serverId].flatten) server.serverId with ackNamed
  have helloArrives : deliver floatText serverLimit (rotHello shSA genA device.id)
      = .ok (receivedHello shSA genA device.id) := by
    rw [deliver_rotHello]
    apply deliver_typed floatText (by simp [bytesFields]) (by decide)
    simp [serverLimit, secretNamed, genesisNamed, secret, digest, sized.id, idSize]
  have ackArrives : deliver floatText clientLimit ack = .ok ack := by
    refine @deliver_typed floatText "rot_ack" [("ShS_B", _), ("B_GEN_bl", _), ("ID_B", _)]
      (by simp [bytesFields]) clientLimit (by decide) ?_
    simp [clientLimit, secret, digest, sized.serverId, idSize]
  have answered : ∃ serverRoot nodeLabel,
      server.runP2 crypto (receivedHello shSA genA device.id) = .ok (serverRoot, nodeLabel, ack) := by
    have reads : bytesField (receivedHello shSA genA device.id) "ID_A" = .ok device.id ∧
        bytesField (receivedHello shSA genA device.id) "ShS_A" = .ok shSA ∧
        bytesField (receivedHello shSA genA device.id) "A_GEN_bl" = .ok genA := ⟨rfl, rfl, rfl⟩
    rw [Server.runP2, reads.1, reads.2.1, reads.2.2]
    simp only [bind, Except.bind, listed, salted, readable]
    exact ⟨_, _, rfl⟩
  obtain ⟨serverRoot, nodeLabel, answered⟩ := answered
  have kind : expectType "rot_hello" (receivedHello shSA genA device.id) = .ok () := rfl
  have finalized : ∃ root, Device.receiveRotAck crypto shSA genA ack = .ok root := ⟨_, rfl⟩
  obtain ⟨root, finalized⟩ := finalized
  refine ⟨serverRoot, nodeLabel, root, ?_⟩
  rw [rootOfTrust, Operations.p2InitiatorCompute]
  simp only [Operations.bytes, ← secretNamed, ← genesisNamed, bind, Except.bind, helloArrives, kind,
    answered, ackArrives, finalized]
  rfl

/-- P2 and P3 of a registered device complete. -/
theorem setup_completes (lawful : crypto.Lawful) (floatText : PyFloat → List Char)
    {server : Server} {device : Device} (sized : Sized server device)
    (registered : server.Registered device) {draws : Draws} (time : draws.ts < 256 ^ 8) :
    ∃ client session, setup crypto floatText server device draws = .ok (client, session) := by
  obtain ⟨serverRoot, nodeLabel, root, shared⟩ :=
    rootOfTrust_completes lawful floatText sized registered draws
  obtain ⟨shSAB, prvBl, rfl, rfl⟩ := rootOfTrust_shared shared
  obtain ⟨initCif, sesCif, confCif, pending, client, session, exchange⟩ :=
    exists_p3Exchange lawful server device (if_pos time) nodeLabel shSAB prvBl
  obtain ⟨initSize, sesSize, confSize⟩ := exchange.sizes
  have initArrives : deliver floatText serverLimit (sesInit initCif device.id)
      = .ok (sesInit initCif device.id) := by
    refine @deliver_typed floatText "ses_init" [("INIT_cif", _), ("ID_A", _)]
      (by simp [bytesFields]) serverLimit (by decide) ?_
    simp [serverLimit, initSize, sized.id, idSize]
  have replyArrives : deliver floatText clientLimit (sesReply sesCif) = .ok (sesReply sesCif) := by
    refine @deliver_typed floatText "ses_reply" [("SES_cif", _)]
      (by simp [bytesFields]) clientLimit (by decide) ?_
    simp [clientLimit, sesSize]
  have confArrives : deliver floatText serverLimit (sesConf confCif device.id)
      = .ok (sesConf confCif device.id) := by
    refine @deliver_typed floatText "ses_conf" [("CONF_cif", _), ("ID_A", _)]
      (by simp [bytesFields]) serverLimit (by decide) ?_
    simp [serverLimit, confSize, sized.id, idSize]
  have confAckArrives : deliver floatText clientLimit (sesConfAck draws.sesId.val)
      = .ok (sesConfAck draws.sesId.val) := by
    refine @deliver_typed floatText "ses_conf_ack" [("SES_id", _)]
      (by simp [bytesFields]) clientLimit (by decide) ?_
    simp [clientLimit, draws.sesId.property, idSize]
  refine ⟨client, session, ?_⟩
  have kind : expectType "ses_init" (sesInit initCif device.id) = .ok () := rfl
  have honest : refuseError "P3 conf error: " "None" (sesConfAck draws.sesId.val) = .ok () := rfl
  rw [setup, shared]
  simp only [bind, Except.bind, sessionEstablishment, exchange.prepared, initArrives, kind,
    exchange.replied, replyArrives, exchange.confirmed, confArrives, exchange.acknowledged,
    confAckArrives, honest]
  rfl

end Agreement

end Microgrid.SecureNode
