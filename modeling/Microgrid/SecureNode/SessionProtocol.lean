import Microgrid.SecureNode.PcClient

/-!
# What the two sides of a session compute

P2, P3 and the chain of P4 on both sides, over the operations they call. The same program
text runs on byte strings, where it is what the server and the client compute, and on
symbolic terms, where a hash is injective and a ciphertext opens under its key only.

Random draws, nonces and time stamps are arguments. A value that a side keeps between two
messages is a field of its record.
-/

namespace Microgrid.SecureNode

open PythonValues HexText

/-- The operations on field values `V`. `slices` cuts a value at the given widths; what is
left is its last piece. -/
structure Operations (V : Type) where
  text : String → V
  hSha256 : V → V
  hkdf : V → V → V
  concat : List V → V
  slices : List ℕ → V → Except PyException (List V)
  structPack : ℕ → ℕ → Except PyException V
  structUnpack : ℕ → V → Except PyException ℕ
  packFields : List V → Except PyException V
  parseTlv : ℕ → V → Option (List V)
  encryptGcm : V → V → V → Except PyException V
  decryptGcm : V → V → Except PyException V

/-- What a side holds after P2: `_ShS_AB`, `_PRV_bl` and `_peer_id`. -/
structure RootOfTrust (V : Type) where
  shSAB : V
  prvBl : V
  peerId : V

/-- What the server holds while it waits for `ses_conf`. -/
structure P3Pending (V : Type) where
  sesId : V
  sesKey : V
  rdn1 : V
  rdn2 : V
  preinitBl : V

/-- The client after P3. -/
structure Initiator (V : Type) where
  id : V
  key : V
  peerId : V
  prvBl : V
  sesId : V
  kABEnc : V
  mNum : ℕ
  lastARegBl : V

/-- The server after P3, as far as it enters its chain. -/
structure Responder (V : Type) where
  serverId : V
  prvBl : V
  sesId : V
  sesKey : V

/-- What the server reads from a message and adds to its chain. -/
structure Link (V : Type) where
  smgReg : V
  mNum : ℕ
  ts : ℕ
  regBl : V
  bRegBl : V

/-- A byte string cut at the given widths, and what is left of it. -/
def cut : List ℕ → Bytes → List Bytes
  | [], data => [data]
  | width :: widths, data => data.take width :: cut widths (data.drop width)

namespace Operations

variable {V : Type} (ops : Operations V)

/-- `p2_initiator_compute`. -/
def p2InitiatorCompute (salt rA id : V) : V × V :=
  (ops.hkdf salt (ops.concat [rA, id]), ops.hSha256 (ops.concat [rA, ops.text "GEN", id]))

/-- `p2_finalize`, with the peer that the caller has set. -/
def p2Finalize (shSA shSB genA genB peerId : V) : RootOfTrust V where
  shSAB := ops.hSha256 (ops.concat [shSA, shSB])
  prvBl := ops.hSha256 (ops.concat [genA, genB])
  peerId := peerId

/-- What `_run_p2` keeps, and the two values it answers with. -/
def answerHello (nodeSalt serverId serverKey idA shSA aGenBl : V) : RootOfTrust V × V × V :=
  let shSB := ops.hkdf nodeSalt serverKey
  let bGenBl := ops.hSha256 (ops.concat [nodeSalt, serverId])
  (⟨ops.hSha256 (ops.concat [shSA, shSB]), ops.hSha256 (ops.concat [aGenBl, bGenBl]), idA⟩,
    shSB, bGenBl)

/-- The `INIT_cif` of `p3_initiator_prepare`. -/
def p3InitiatorPrepare (root : RootOfTrust V) (id rA2 ts nonce : V) : Except PyException V :=
  let initReg := ops.concat [rA2, ts, id, root.peerId, root.shSAB]
  let aInitBl := ops.hSha256 initReg
  let preinitBl := ops.hSha256 (ops.concat [root.prvBl, aInitBl])
  ops.encryptGcm nonce (ops.concat [preinitBl, rA2, ts]) root.shSAB

section Checks

variable [DecidableEq V]

/-- `_run_p3` from `ses_init` to the `SES_cif` of `ses_reply`, with the identifier and the
nonce that it draws. -/
def receiveSesInit (root : RootOfTrust V) (serverId initCif sesId rdn2 nonce : V) :
    Except PyException (P3Pending V × V) := do
  let plain ← ops.decryptGcm initCif root.shSAB
  match ← ops.slices [32, 16] plain with
  | [preinitBlRx, rdn1, ts] =>
    let initReg := ops.concat [rdn1, ts, root.peerId, serverId, root.shSAB]
    let aInitBl := ops.hSha256 initReg
    let preinitBl := ops.hSha256 (ops.concat [root.prvBl, aInitBl])
    if preinitBl ≠ preinitBlRx then
      throw (.runtime "PREINIT_bl verification failed")
    else
      let sesKey := ops.hSha256 (ops.concat [rdn2, root.shSAB])
      let sesCif ← ops.encryptGcm nonce (ops.concat [sesId, rdn2, rdn1, preinitBlRx]) root.shSAB
      pure (⟨sesId, sesKey, rdn1, rdn2, preinitBl⟩, sesCif)
  | _ => throw .value

/-- `p3_initiator_finalize`: the client afterwards, and the `CONF_cif` of `ses_conf`. -/
def p3InitiatorFinalize (root : RootOfTrust V) (id key rA2 sesCif nonce : V) :
    Except PyException (Initiator V × V) := do
  let pt ← ops.decryptGcm sesCif root.shSAB
  match ← ops.slices [16, 16, 16, 32] pt with
  | [sesId, rdn2, rdn1Echo, preinitBl, _] =>
    if rdn1Echo ≠ rA2 then
      throw (.runtime "P3: RDN1 mismatch")
    else
      let kABEnc := ops.hSha256 (ops.concat [rdn2, root.shSAB])
      let confTag := ops.hSha256 (ops.concat [kABEnc, sesId, rA2, rdn2])
      let confCif ← ops.encryptGcm nonce confTag kABEnc
      let prvBl := ops.hSha256 (ops.concat [root.prvBl, sesId, preinitBl])
      pure (⟨id, key, root.peerId, prvBl, sesId, kABEnc, 0, ops.text ""⟩, confCif)
  | _ => throw .value

/-- `_run_p3` on `ses_conf`. -/
def receiveSesConf (root : RootOfTrust V) (serverId : V) (pending : P3Pending V) (confCif : V) :
    Except PyException (Responder V) := do
  let confTagRx ← ops.decryptGcm confCif pending.sesKey
  let confExpected :=
    ops.hSha256 (ops.concat [pending.sesKey, pending.sesId, pending.rdn1, pending.rdn2])
  if confTagRx ≠ confExpected then
    throw (.runtime "conf_tag mismatch")
  else
    let initBl := ops.hSha256 (ops.concat [root.prvBl, pending.sesId, pending.preinitBl])
    pure ⟨serverId, initBl, pending.sesId, pending.sesKey⟩

end Checks

/-- `make_reg_reg`. -/
def makeRegReg (smgReg tsB : V) (mNum : ℕ) (idA idB sesId : V) : Except PyException V := do
  let mB ← ops.structPack 4 mNum
  ops.packFields [smgReg, tsB, mB, idA, idB, sesId]

/-- `make_msg_reg`. -/
def makeMsgReg (smgReg tsB : V) (mNum : ℕ) (idA pregBl aRegBl : V) : Except PyException V := do
  let mB ← ops.structPack 4 mNum
  ops.packFields [smgReg, tsB, mB, idA, pregBl, aRegBl]

/-- `p4_send` on a normalized text: the client afterwards, and the `MSG_cif`. -/
def p4Send (node : Initiator V) (tsB smgReg nonce : V) : Except PyException (Initiator V × V) := do
  let mNum := node.mNum + 1
  let regReg ← ops.makeRegReg smgReg tsB mNum node.id node.peerId node.sesId
  let pregBl := ops.hSha256 (ops.concat [node.prvBl, ops.hSha256 regReg])
  let aRegBl := ops.hSha256 (ops.concat [pregBl, node.key])
  let msgReg ← ops.makeMsgReg smgReg tsB mNum node.id pregBl aRegBl
  let msgCif ← ops.encryptGcm nonce msgReg node.kABEnc
  pure ({ node with mNum := mNum, lastARegBl := aRegBl }, msgCif)

/-- `p4_finalize`. -/
def p4Finalize (node : Initiator V) (resCif : V) : Except PyException (Initiator V) := do
  let bRegBl ← ops.decryptGcm resCif node.kABEnc
  pure { node with prvBl := ops.hSha256 (ops.concat [node.lastARegBl, bRegBl]) }

/-- `_handle_p4` up to the audit chain. -/
def acceptP4 [DecidableEq V] (session : Responder V) (msgCif : V) :
    Except PyException (Responder V × Link V) := do
  let msgReg ← ops.decryptGcm msgCif session.sesKey
  match ops.parseTlv 6 msgReg with
  | some [smgReg, tsB, mB, idA, pregBlRx, aRegBl] =>
    let mNum ← ops.structUnpack 4 mB
    let ts ← ops.structUnpack 8 tsB
    let regReg ← ops.makeRegReg smgReg tsB mNum idA session.serverId session.sesId
    let pregBl := ops.hSha256 (ops.concat [session.prvBl, ops.hSha256 regReg])
    if pregBl ≠ pregBlRx then
      throw (.runtime ("PREG_bl mismatch at M#" ++ toString mNum))
    else
      let bRegBl := ops.hSha256 (ops.concat [pregBl, session.sesKey])
      let regBl := ops.hSha256 (ops.concat [aRegBl, bRegBl])
      pure ({ session with prvBl := regBl }, ⟨smgReg, mNum, ts, regBl, bRegBl⟩)
  | _ => throw (.runtime "MSG_reg malformed")

/-- The `RES_cif` of `_handle_p4`. -/
def respondP4 (session : Responder V) (link : Link V) (nonce : V) : Except PyException V :=
  ops.encryptGcm nonce link.bRegBl session.sesKey

/-- The operations on byte strings. -/
def bytes (crypto : Primitives) : Operations Bytes where
  text label := utf8 label.toList
  hSha256 := SecureNode.hSha256 crypto
  hkdf := SecureNode.hkdf crypto
  concat := List.flatten
  slices widths data := .ok (cut widths data)
  structPack := SecureNode.structPack
  structUnpack := SecureNode.structUnpack
  packFields := SecureNode.packFields
  parseTlv := SecureNode.parseTlv
  encryptGcm := SecureNode.encryptGcm crypto
  decryptGcm := SecureNode.decryptGcm crypto

end Operations

/-- The client's values. -/
def SecureNodeClient.initiator (client : SecureNodeClient) : Initiator Bytes where
  id := client.id
  key := client.key
  peerId := client.peerId
  prvBl := client.prvBl
  sesId := client.sesId
  kABEnc := client.kABEnc
  mNum := client.mNum
  lastARegBl := client.lastARegBl

/-- The server's values. -/
def NodeSession.responder (session : NodeSession) : Responder Bytes where
  serverId := session.serverId
  prvBl := session.prvBl
  sesId := session.sesId
  sesKey := session.sesKey

/-- On byte strings, sending is what the client does with a normalized text. -/
theorem p4Send_bytes (crypto : Primitives) (client : SecureNodeClient) (ts : ℕ)
    (nonce sensorText : Bytes) : p4Send crypto client ts nonce sensorText = (do
      let tsB ← structPack 8 ts
      let smgReg ← smgNormalize sensorText
      let (node, msgCif) ← (Operations.bytes crypto).p4Send client.initiator tsB smgReg nonce
      pure ({ client with mNum := node.mNum, lastARegBl := node.lastARegBl },
        [("type", .json (.str "dx_msg")), ("MSG_cif", .bytes msgCif), ("ID_A", .bytes client.id),
          ("M_num", .json (.int node.mNum))])) := by
  simp only [p4Send, Operations.p4Send, Operations.makeRegReg, Operations.makeMsgReg, Operations.bytes,
    SecureNodeClient.initiator, makeRegReg, makeMsgReg, bind_assoc, pure_bind, List.flatten_cons,
    List.flatten_nil, List.append_nil]

/-- On byte strings, accepting is what the server does with a `MSG_cif`, up to its records. -/
theorem acceptP4_bytes (crypto : Primitives) (session : NodeSession) (msg : Message) :
    acceptP4 crypto session msg = (do
      let msgCif ← bytesField msg "MSG_cif"
      let (responder, link) ← (Operations.bytes crypto).acceptP4 session.responder msgCif
      pure ({ session with
        prvBl := responder.prvBl
        mNumExpected := link.mNum + 1
        chain := session.chain ++
          [⟨session.chain.length + 1, link.mNum, link.ts, bytesHex link.regBl, session.nodeLabel⟩] },
        ⟨link.smgReg, link.mNum, link.bRegBl⟩)) := by
  simp only [acceptP4, Operations.acceptP4, Operations.makeRegReg, Operations.bytes,
    NodeSession.responder, makeRegReg, bind_assoc, List.flatten_cons, List.flatten_nil,
    List.append_nil]
  refine congrArg (bytesField msg "MSG_cif" >>= ·) (funext fun msgCif => ?_)
  refine congrArg (decryptGcm crypto msgCif session.sesKey >>= ·) (funext fun msgReg => ?_)
  cases parsed : parseTlv 6 msgReg with
  | none => rfl
  | some fields =>
    -- both sides read the same six fields and raise for any other number of them
    rcases fields with _ | ⟨smgReg, _ | ⟨tsB, _ | ⟨mB, _ | ⟨idA, _ | ⟨pregBlRx, _ |
      ⟨aRegBl, _ | ⟨_, _⟩⟩⟩⟩⟩⟩⟩
    case cons.cons.cons.cons.cons.cons.nil =>
      simp only [bind_assoc]
      refine congrArg (structUnpack 4 mB >>= ·) (funext fun mNum => ?_)
      refine congrArg (structUnpack 8 tsB >>= ·) (funext fun ts => ?_)
      refine congrArg (structPack 4 mNum >>= ·) (funext fun x => ?_)
      refine congrArg (packFields [smgReg, tsB, x, idA, session.serverId, session.sesId] >>= ·)
        (funext fun regReg => ?_)
      split <;> rfl
    all_goals rfl

end Microgrid.SecureNode
