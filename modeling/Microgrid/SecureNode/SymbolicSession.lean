import Microgrid.Foundation.SymbolicKnowledge
import Microgrid.SecureNode.SessionProtocol

/-!
# The session on symbolic terms

The same program text as on byte strings, with operations that have no equations but the
intended ones: a hash is a constructor, so it is injective, and a ciphertext opens under the
key it was made with and under no other. A byte string that the protocol puts together is a
tuple of its pieces, and a packed number is a name.
-/

namespace Microgrid.SecureNode

open PythonValues SymbolicKnowledge SymbolicKnowledge.Term

/-- Identifiers, long-term secrets, random draws, numbers, application data, and the
attacker's own names. A draw names the run of the protocol and its place in it. -/
inductive Label where
  | text (label : String)
  | number (width value : ℕ)
  | nodeId (node : ℕ)
  | nodeKey (node : ℕ)
  | nodeSalt (node : ℕ)
  | serverId
  | serverKey
  | clientDraw (run place : ℕ)
  | serverDraw (session place : ℕ)
  | payload (index : ℕ)
  | invented (index : ℕ)
deriving DecidableEq

/-- Field values. -/
abbrev Value := Term Label Empty

/-- The pieces of a tuple. -/
def untuple : Value → Option (List Value)
  | .unit => some []
  | .pair head rest => (untuple rest).map (head :: ·)
  | _ => none

/-- A tuple has the pieces it was made of. -/
@[simp] theorem untuple_tuple (pieces : List Value) : untuple (tuple pieces) = some pieces := by
  induction pieces with
  | nil => rfl
  | cons head rest inductionHypothesis =>
    rw [tuple, untuple, inductionHypothesis]
    rfl

/-- What has pieces is their tuple. -/
theorem untuple_eq_some {value : Value} {pieces : List Value} (taken : untuple value = some pieces) :
    value = tuple pieces := by
  induction value generalizing pieces with
  | unit =>
    obtain rfl := Option.some.inj taken
    rfl
  | pair head rest _ inductionHypothesis =>
    obtain ⟨others, later, rfl⟩ := Option.map_eq_some_iff.mp taken
    rw [inductionHypothesis later]
    rfl
  | _ => cases taken

/-- The operations on symbolic terms. -/
def symbolic : Operations Value where
  text label := .name (.text label)
  hSha256 := .hash
  hkdf salt ikm := .hash (tuple [.name (.text "hkdf"), salt, ikm])
  concat := tuple
  slices widths value :=
    match untuple value with
    | some pieces =>
      if pieces.length = widths.length then .ok (pieces ++ [.unit])
      else if pieces.length = widths.length + 1 then .ok pieces
      else .error .value
    | none => .error .value
  structPack width value :=
    if value < 256 ^ width then .ok (.name (.number width value)) else .error .struct
  structUnpack width value :=
    match value with
    | .name (.number packed number) => if packed = width then .ok number else .error .struct
    | _ => .error .struct
  packFields parts := .ok (tuple parts)
  parseTlv nFields value := (untuple value).bind fun fields =>
    if nFields ≤ fields.length then some (fields.take nFields) else none
  encryptGcm nonce plaintext key := .ok (.box key nonce plaintext)
  decryptGcm ciphertext key :=
    match ciphertext with
    | .box sealed _ body => if sealed = key then .ok body else .error .invalidTag
    | _ => .error .invalidTag

/-- Only a box under the right key opens. -/
theorem decrypt_symbolic {ciphertext key body : Value}
    (opened : symbolic.decryptGcm ciphertext key = .ok body) :
    ∃ nonce, ciphertext = .box key nonce body := by
  cases ciphertext with
  | box sealed nonce inside =>
    by_cases same : sealed = key
    · subst same
      refine ⟨nonce, ?_⟩
      rw [← Except.ok.inj ((if_pos rfl).symm.trans opened)]
    · rw [symbolic] at opened
      dsimp only at opened
      rw [if_neg same] at opened
      cases opened
  | _ => cases opened

/-- Only a packed number unpacks, and only in its own width. -/
theorem structUnpack_symbolic {width number : ℕ} {value : Value}
    (unpacked : symbolic.structUnpack width value = .ok number) :
    value = .name (.number width number) := by
  unfold symbolic at unpacked
  dsimp only at unpacked
  split at unpacked
  · next packed found =>
    split at unpacked
    · next same =>
      rw [same, Except.ok.inj unpacked]
    · cases unpacked
  · cases unpacked

/-- A number that fits is packed as its name. -/
theorem structPack_symbolic {width number : ℕ} {value : Value}
    (packed : symbolic.structPack width number = .ok value) :
    value = .name (.number width number) := by
  unfold symbolic at packed
  dsimp only at packed
  split at packed
  · exact (Except.ok.inj packed).symm
  · cases packed

/-- Parsed fields are the first pieces of a tuple. -/
theorem parseTlv_symbolic {nFields : ℕ} {value : Value} {fields : List Value}
    (parsed : symbolic.parseTlv nFields value = some fields) :
    ∃ rest, value = tuple (fields ++ rest) := by
  obtain ⟨pieces, taken, parsed⟩ := Option.bind_eq_some_iff.mp parsed
  split at parsed
  · refine ⟨pieces.drop nFields, ?_⟩
    rw [← Option.some.inj parsed, List.take_append_drop, untuple_eq_some taken]
  · cases parsed

/-- A cut value is the tuple of its front pieces and of at most one more. -/
theorem slices_symbolic {widths : List ℕ} {value last : Value} {front : List Value}
    (cut : symbolic.slices widths value = .ok (front ++ [last])) :
    ∃ rest, value = tuple (front ++ rest) := by
  unfold symbolic at cut
  dsimp only at cut
  split at cut
  · next pieces taken =>
    split_ifs at cut
    · refine ⟨[], ?_⟩
      rw [untuple_eq_some taken, (List.append_inj' (Except.ok.inj cut) rfl).1, List.append_nil]
    · refine ⟨[last], ?_⟩
      rw [untuple_eq_some taken, Except.ok.inj cut]
  · cases cut

/-- What the server has read from a `ses_init`, and what it answers. -/
theorem receiveSesInit_symbolic {root : RootOfTrust Value} {serverId initCif sesId rdn2 nonce : Value}
    {pending : P3Pending Value} {sesCif : Value}
    (received : symbolic.receiveSesInit root serverId initCif sesId rdn2 nonce
      = .ok (pending, sesCif)) :
    ∃ sealing preinitBl rdn1 rest,
      initCif = .box root.shSAB sealing (tuple (preinitBl :: rdn1 :: rest)) ∧
      pending = ⟨sesId, .hash (tuple [rdn2, root.shSAB]), rdn1, rdn2, preinitBl⟩ ∧
      sesCif = .box root.shSAB nonce (tuple [sesId, rdn2, rdn1, preinitBl]) := by
  obtain ⟨plain, opened, cutting⟩ := bind_ok received
  obtain ⟨sealing, carried⟩ := decrypt_symbolic opened
  obtain ⟨pieces, cut, checking⟩ := bind_ok cutting
  split at checking
  · next preinitBl rdn1 ts =>
    obtain ⟨rest, rfl⟩ := @slices_symbolic _ _ ts [preinitBl, rdn1] cut
    dsimp only at checking
    split at checking
    · cases checking
    · next same =>
      obtain ⟨cif, encrypted, answering⟩ := bind_ok checking
      obtain rfl := Except.ok.inj encrypted
      obtain ⟨rfl, rfl⟩ := Prod.mk.inj (Except.ok.inj answering)
      exact ⟨sealing, preinitBl, rdn1, rest, carried, by rw [not_not.mp same]; rfl, rfl⟩
  · cases checking

/-- What the server keeps of a confirmed session. -/
theorem receiveSesConf_symbolic {root : RootOfTrust Value} {serverId confCif : Value}
    {pending : P3Pending Value} {session : Responder Value}
    (received : symbolic.receiveSesConf root serverId pending confCif = .ok session) :
    session = ⟨serverId, .hash (tuple [root.prvBl, pending.sesId, pending.preinitBl]),
      pending.sesId, pending.sesKey⟩ := by
  obtain ⟨tag, -, checking⟩ := bind_ok received
  dsimp only at checking
  split at checking
  · cases checking
  · exact (Except.ok.inj checking).symm

/-- What the client makes of a `ses_reply`. -/
theorem p3InitiatorFinalize_symbolic {root : RootOfTrust Value} {id key rA2 sesCif nonce : Value}
    {client : Initiator Value} {confCif : Value}
    (finalized : symbolic.p3InitiatorFinalize root id key rA2 sesCif nonce = .ok (client, confCif)) :
    ∃ sesId rdn2 preinitBl,
      client = ⟨id, key, root.peerId, .hash (tuple [root.prvBl, sesId, preinitBl]), sesId,
        .hash (tuple [rdn2, root.shSAB]), 0, .name (.text "")⟩ ∧
      confCif = .box client.kABEnc nonce (.hash (tuple [client.kABEnc, sesId, rA2, rdn2])) := by
  obtain ⟨pt, -, cutting⟩ := bind_ok finalized
  obtain ⟨pieces, -, checking⟩ := bind_ok cutting
  split at checking
  · next sesId rdn2 rdn1Echo preinitBl _ =>
    split at checking
    · cases checking
    · obtain ⟨cif, encrypted, answering⟩ := bind_ok checking
      obtain rfl := Except.ok.inj encrypted
      obtain ⟨rfl, rfl⟩ := Prod.mk.inj (Except.ok.inj answering)
      exact ⟨sesId, rdn2, preinitBl, rfl, rfl⟩
  · cases checking

/-- The `PREG_bl` of the next message. -/
def Initiator.pregBl (node : Initiator Value) (ts : ℕ) (smgReg : Value) : Value :=
  .hash (tuple [node.prvBl, .hash (tuple [smgReg, .name (.number 8 ts),
    .name (.number 4 (node.mNum + 1)), node.id, node.peerId, node.sesId])])

/-- The `A_REG_bl` of the next message. -/
def Initiator.aRegBl (node : Initiator Value) (ts : ℕ) (smgReg : Value) : Value :=
  .hash (tuple [node.pregBl ts smgReg, node.key])

/-- The `MSG_cif` of the next message. -/
def Initiator.msgCif (node : Initiator Value) (ts : ℕ) (smgReg nonce : Value) : Value :=
  .box node.kABEnc nonce (tuple [smgReg, .name (.number 8 ts), .name (.number 4 (node.mNum + 1)),
    node.id, node.pregBl ts smgReg, node.aRegBl ts smgReg])

/-- What the client has sent, and what it keeps of it. -/
theorem p4Send_symbolic {node after : Initiator Value} {ts : ℕ} {tsB smgReg nonce msgCif : Value}
    (time : symbolic.structPack 8 ts = .ok tsB)
    (sending : symbolic.p4Send node tsB smgReg nonce = .ok (after, msgCif)) :
    after = { node with mNum := node.mNum + 1, lastARegBl := node.aRegBl ts smgReg } ∧
      msgCif = node.msgCif ts smgReg nonce := by
  obtain ⟨reg, made, sending⟩ := bind_ok sending
  obtain ⟨mB, count, made⟩ := bind_ok made
  obtain ⟨msg, packed, sending⟩ := bind_ok sending
  obtain ⟨mB', again, packed⟩ := bind_ok packed
  obtain ⟨cif, encrypted, sending⟩ := bind_ok sending
  obtain rfl := structPack_symbolic time
  obtain rfl := structPack_symbolic count
  obtain rfl := structPack_symbolic again
  obtain rfl := Except.ok.inj made
  obtain rfl := Except.ok.inj packed
  obtain rfl := Except.ok.inj encrypted
  obtain ⟨rfl, rfl⟩ := Prod.mk.inj (Except.ok.inj sending)
  exact ⟨rfl, rfl⟩

/-- What the server has accepted: a box under its session key, linked to its own chain head,
its own identity and its own session identifier. -/
theorem acceptP4_symbolic {session after : Responder Value} {msgCif : Value} {link : Link Value}
    (accepted : symbolic.acceptP4 session msgCif = .ok (after, link)) :
    ∃ nonce idA aReg rest,
      msgCif = .box session.sesKey nonce (tuple ([link.smgReg, .name (.number 8 link.ts),
        .name (.number 4 link.mNum), idA,
        .hash (tuple [session.prvBl, .hash (tuple [link.smgReg, .name (.number 8 link.ts),
          .name (.number 4 link.mNum), idA, session.serverId, session.sesId])]), aReg] ++ rest)) ∧
      link.regBl = .hash (tuple [aReg, link.bRegBl]) ∧
      (∃ preg, link.bRegBl = .hash (tuple [preg, session.sesKey])) ∧
      after = { session with prvBl := link.regBl } := by
  obtain ⟨msg, opened, parsing⟩ := bind_ok accepted
  obtain ⟨nonce, carried⟩ := decrypt_symbolic opened
  split at parsing
  · next smgReg tsB mB idA pregRx aReg parsed =>
    obtain ⟨rest, rfl⟩ := parseTlv_symbolic parsed
    obtain ⟨mNum, count, reading⟩ := bind_ok parsing
    obtain ⟨ts, time, making⟩ := bind_ok reading
    obtain ⟨reg, made, linking⟩ := bind_ok making
    obtain ⟨mB', again, made⟩ := bind_ok made
    obtain rfl := structUnpack_symbolic count
    obtain rfl := structUnpack_symbolic time
    obtain rfl := structPack_symbolic again
    obtain rfl := Except.ok.inj made
    dsimp only at linking
    split at linking
    · cases linking
    · next same =>
      obtain rfl := not_not.mp same
      obtain ⟨rfl, rfl⟩ := Prod.mk.inj (Except.ok.inj linking)
      exact ⟨nonce, idA, aReg, rest, carried, rfl, ⟨_, rfl⟩, rfl⟩
  · cases parsing

/-- A client's message is accepted only on the chain head, and with the session identifier,
under which it was sent. The chain then goes on from the client's contribution. -/
theorem acceptP4_sent {session after : Responder Value} {node : Initiator Value} {ts : ℕ}
    {smgReg nonce : Value} {link : Link Value}
    (accepted : symbolic.acceptP4 session (node.msgCif ts smgReg nonce) = .ok (after, link)) :
    session.prvBl = node.prvBl ∧ session.sesId = node.sesId ∧ link.smgReg = smgReg ∧
      link.ts = ts ∧ link.mNum = node.mNum + 1 ∧
      after = { session with prvBl := .hash (tuple [node.aRegBl ts smgReg, link.bRegBl]) } := by
  obtain ⟨nonce', idA, aReg, rest, carried, regBl, -, rfl⟩ := acceptP4_symbolic accepted
  simp only [Initiator.msgCif, Initiator.pregBl, box.injEq, tuple_inj, List.cons_append,
    List.nil_append, List.cons.injEq, name.injEq, Label.number.injEq, hash.injEq] at carried
  obtain ⟨-, -, rfl, ⟨-, rfl⟩, ⟨-, number⟩, -, ⟨head, ⟨-, -, -, -, -, identifier, -⟩, -⟩, rfl, -⟩ :=
    carried
  refine ⟨head.symm, identifier.symm, rfl, rfl, number.symm, ?_⟩
  rw [regBl]

end Microgrid.SecureNode
