import Mathlib.Data.List.Infix
import Microgrid.Foundation.LabelledRuns
import Microgrid.SecureNode.SymbolicSession

/-!
# In which order messages are accepted

`_handle_p4` compares no counter. A message is accepted only if it continues the chain head,
and a head names the message it took in last: it is the hash of that message's contribution,
which is a hash over its number. So whatever the network does with the messages of a session
and with those of others, the chain takes them in as they were produced.

The client is the loop of `run_client`: it sends, waits for a response, and sends again. The
network holds every message and every response that was sent, delivers each as often as it
wants or never, and knows the messages that clients sent in other sessions. A rejected
message ends the session; after an accepted one the server may go on or not, which depends
on the trust score and on its own sends.
-/

namespace Microgrid.SecureNode

open PythonValues SymbolicKnowledge SymbolicKnowledge.Term LabelledRuns

/-- A message that the client has produced. -/
structure Produced where
  smgReg : Value
  mNum : ℕ
  ts : ℕ
  msgCif : Value

/-- What a message says. -/
def Produced.content (sent : Produced) : Value × ℕ × ℕ := (sent.smgReg, sent.mNum, sent.ts)

/-- What a record of the audit chain says of its message. -/
def Link.content (link : Link Value) : Value × ℕ × ℕ := (link.smgReg, link.mNum, link.ts)

/-- A client, a server, and the network between them. -/
structure Relay where
  client : Initiator Value
  waiting : Bool
  produced : List Produced
  session : Responder Value
  active : Bool
  chain : List (Link Value)
  responses : List Value

/-- Both sides after P3. -/
def Relay.start (client : Initiator Value) (session : Responder Value) : Relay :=
  ⟨client, false, [], session, true, [], []⟩

/-- What happens in one step. -/
inductive RelayEvent where
  | send (ts : ℕ) (smgReg nonce : Value)
  | finalize (resCif : Value)
  | deliver (msgCif nonce : Value) (goesOn : Bool)

/-- The server's turn on a message: `_handle_p4`, unless the data loop is over. -/
def Relay.deliver (relay : Relay) (msgCif nonce : Value) (goesOn : Bool) : Relay :=
  if relay.active = true then
    match symbolic.acceptP4 relay.session msgCif with
    | .error _ => { relay with active := false }
    | .ok (session, link) => { relay with
        session := session
        active := goesOn
        chain := relay.chain ++ [link]
        responses := relay.responses ++ (symbolic.respondP4 session link nonce).toOption.toList }
  else relay

/-- A message that a client sends in a session with another identifier. -/
def Elsewhere (sesId msgCif : Value) : Prop :=
  ∃ (node after : Initiator Value) (ts : ℕ) (tsB smgReg nonce : Value), node.sesId ≠ sesId ∧
    symbolic.structPack 8 ts = .ok tsB ∧
    symbolic.p4Send node tsB smgReg nonce = .ok (after, msgCif)

/-- The messages the network can deliver. -/
def Relay.Available (relay : Relay) (msgCif : Value) : Prop :=
  (∃ sent ∈ relay.produced, sent.msgCif = msgCif) ∨ Elsewhere relay.session.sesId msgCif

/-- A step of the client or of the network. -/
inductive RelayStep : Relay → RelayEvent → Relay → Prop where
  /-- The client sends the next message. -/
  | send {relay : Relay} {client : Initiator Value} {ts : ℕ} {tsB smgReg nonce msgCif : Value}
      (idle : relay.waiting = false) (time : symbolic.structPack 8 ts = .ok tsB)
      (sending : symbolic.p4Send relay.client tsB smgReg nonce = .ok (client, msgCif)) :
      RelayStep relay (.send ts smgReg nonce) { relay with
        client := client
        waiting := true
        produced := relay.produced ++ [⟨smgReg, client.mNum, ts, msgCif⟩] }
  /-- The client takes a response. -/
  | finalize {relay : Relay} {client : Initiator Value} {resCif : Value}
      (waits : relay.waiting = true) (answered : resCif ∈ relay.responses)
      (finalized : symbolic.p4Finalize relay.client resCif = .ok client) :
      RelayStep relay (.finalize resCif) { relay with client := client, waiting := false }
  /-- The network delivers a message. -/
  | deliver (relay : Relay) (msgCif nonce : Value) (goesOn : Bool)
      (available : relay.Available msgCif) :
      RelayStep relay (.deliver msgCif nonce goesOn) (relay.deliver msgCif nonce goesOn)

/-- The `A_REG_bl` of a message with the given number. -/
def Contribution (mNum : ℕ) (aReg : Value) : Prop :=
  ∃ (node : Initiator Value) (ts : ℕ) (smgReg : Value),
    node.mNum + 1 = mNum ∧ aReg = node.aRegBl ts smgReg

/-- A chain head that has taken in as many messages. -/
def HeadOf : ℕ → Value → Prop
  | 0, head => ∃ prvBl sesId preinitBl, head = .hash (tuple [prvBl, sesId, preinitBl])
  | count + 1, head => ∃ aReg bReg, Contribution (count + 1) aReg ∧ head = .hash (tuple [aReg, bReg])

/-- A contribution belongs to one message number. -/
theorem Contribution.unique {first second : ℕ} {aReg : Value} (one : Contribution first aReg)
    (other : Contribution second aReg) : first = second := by
  obtain ⟨node, ts, smgReg, rfl, rfl⟩ := one
  obtain ⟨node', ts', smgReg', rfl, same⟩ := other
  simp only [Initiator.aRegBl, Initiator.pregBl, hash.injEq, tuple_inj, List.cons.injEq, name.injEq,
    Label.number.injEq] at same
  exact same.1.2.1.2.2.1.2

/-- No head comes back: it tells how many messages it has taken in. -/
theorem HeadOf.unique {first second : ℕ} {head : Value} (one : HeadOf first head)
    (other : HeadOf second head) : first = second := by
  cases first with
  | zero =>
    obtain ⟨prvBl, sesId, preinitBl, rfl⟩ := one
    cases second with
    | zero => rfl
    | succ count =>
      obtain ⟨aReg, bReg, contributed, same⟩ := other
      simp at same
  | succ earlier =>
    obtain ⟨aReg, bReg, contributed, rfl⟩ := one
    cases second with
    | zero =>
      obtain ⟨prvBl, sesId, preinitBl, same⟩ := other
      simp at same
    | succ count =>
      obtain ⟨aReg', bReg', contributed', same⟩ := other
      simp only [hash.injEq, tuple_inj, List.cons.injEq] at same
      exact contributed.unique (same.1 ▸ contributed')

/-- A message produced on a head of `index` messages, and numbered after them. -/
def Linked (index : ℕ) (sent : Produced) : Prop :=
  ∃ (node : Initiator Value) (nonce : Value), HeadOf index node.prvBl ∧ node.mNum = index ∧
    sent.mNum = index + 1 ∧ sent.msgCif = node.msgCif sent.ts sent.smgReg nonce

/-- What holds between the sides and the network in every state. -/
structure Ordered (relay : Relay) : Prop where
  counted : relay.client.mNum = relay.produced.length
  linked : ∀ index sent, relay.produced[index]? = some sent → Linked index sent
  waits : relay.waiting = true → relay.produced ≠ [] ∧
    Contribution relay.produced.length relay.client.lastARegBl
  idle : relay.waiting = false → HeadOf relay.produced.length relay.client.prvBl
  head : HeadOf relay.chain.length relay.session.prvBl
  taken : relay.chain.map Link.content <+: relay.produced.map Produced.content

/-- What the server accepts is the message after those it has taken in. -/
theorem accepted_next {relay : Relay} (ordered : Ordered relay) {msgCif : Value}
    (available : relay.Available msgCif) {session : Responder Value} {link : Link Value}
    (accepted : symbolic.acceptP4 relay.session msgCif = .ok (session, link)) :
    (∃ sent, relay.produced[relay.chain.length]? = some sent ∧ link.content = sent.content) ∧
      HeadOf (relay.chain.length + 1) session.prvBl := by
  rcases available with ⟨sent, member, rfl⟩ |
    ⟨node, after, ts, tsB, smgReg, nonce, other, time, sending⟩
  · obtain ⟨index, listed⟩ := List.mem_iff_getElem?.mp member
    obtain ⟨node, nonce, head, number, numbered, shape⟩ := ordered.linked index sent listed
    rw [shape] at accepted
    obtain ⟨onHead, -, smgReg, ts, mNum, rfl⟩ := acceptP4_sent accepted
    obtain rfl : relay.chain.length = index := ordered.head.unique (onHead ▸ head)
    constructor
    · refine ⟨sent, listed, ?_⟩
      rw [Link.content, Produced.content, smgReg, ts, mNum, numbered, number]
    · have contributed : Contribution (relay.chain.length + 1) (node.aRegBl sent.ts sent.smgReg) :=
        ⟨node, sent.ts, sent.smgReg, by rw [number], rfl⟩
      exact ⟨_, link.bRegBl, contributed, rfl⟩
  · obtain ⟨-, rfl⟩ := p4Send_symbolic time sending
    obtain ⟨-, identifier, -⟩ := acceptP4_sent accepted
    exact absurd identifier.symm other

/-- Sending keeps the order. -/
theorem Ordered.send {relay : Relay} (ordered : Ordered relay) (idle : relay.waiting = false)
    {client : Initiator Value} {ts : ℕ} {tsB smgReg nonce msgCif : Value}
    (time : symbolic.structPack 8 ts = .ok tsB)
    (sending : symbolic.p4Send relay.client tsB smgReg nonce = .ok (client, msgCif)) :
    Ordered { relay with
      client := client
      waiting := true
      produced := relay.produced ++ [⟨smgReg, client.mNum, ts, msgCif⟩] } := by
  obtain ⟨rfl, rfl⟩ := p4Send_symbolic time sending
  have length : ∀ sent : Produced,
      relay.client.mNum + 1 = (relay.produced ++ [sent]).length := by
    intro sent
    rw [List.length_append, List.length_singleton, ordered.counted]
  constructor
  · exact length _
  · intro index sent listed
    rcases Nat.lt_or_ge index relay.produced.length with earlier | last
    · rw [List.getElem?_append_left earlier] at listed
      exact ordered.linked index sent listed
    · rw [List.getElem?_append_right last] at listed
      obtain ⟨here, -⟩ := List.getElem?_eq_some_iff.mp listed
      rw [List.length_singleton] at here
      obtain rfl : index = relay.produced.length := by omega
      rw [Nat.sub_self] at listed
      obtain rfl := Option.some.inj listed
      exact ⟨relay.client, nonce, ordered.idle idle, ordered.counted, by rw [ordered.counted], rfl⟩
  · intro _
    refine ⟨List.append_ne_nil_of_right_ne_nil _ (List.cons_ne_nil _ _), ?_⟩
    rw [← length]
    exact ⟨relay.client, ts, smgReg, rfl, rfl⟩
  · intro busy
    cases busy
  · exact ordered.head
  · rw [List.map_append]
    exact ordered.taken.trans (List.prefix_append _ _)

/-- Finalizing keeps the order. -/
theorem Ordered.finalize {relay : Relay} (ordered : Ordered relay) (waits : relay.waiting = true)
    {client : Initiator Value} {resCif : Value}
    (finalized : symbolic.p4Finalize relay.client resCif = .ok client) :
    Ordered { relay with client := client, waiting := false } := by
  obtain ⟨bRegBl, -, finalized⟩ := bind_ok finalized
  obtain rfl := Except.ok.inj finalized
  obtain ⟨some, contributed⟩ := ordered.waits waits
  refine ⟨ordered.counted, ordered.linked, fun busy => ?_, fun _ => ?_, ordered.head, ordered.taken⟩
  · cases busy
  · obtain ⟨count, length⟩ := Nat.exists_eq_succ_of_ne_zero (mt List.length_eq_zero_iff.mp some)
    dsimp only
    rw [length] at contributed ⊢
    exact ⟨_, _, contributed, rfl⟩

/-- Delivering keeps the order. -/
theorem Ordered.deliver {relay : Relay} (ordered : Ordered relay) {msgCif : Value}
    (available : relay.Available msgCif) (nonce : Value) (goesOn : Bool) :
    Ordered (relay.deliver msgCif nonce goesOn) := by
  unfold Relay.deliver
  by_cases active : relay.active = true
  · rw [if_pos active]
    cases accepted : symbolic.acceptP4 relay.session msgCif with
    | error exception => exact { ordered with }
    | ok result =>
      obtain ⟨session, link⟩ := result
      obtain ⟨⟨sent, listed, content⟩, head⟩ := accepted_next ordered available accepted
      refine { ordered with head := ?_, taken := ?_ }
      · dsimp only
        rwa [List.length_append, List.length_singleton]
      · obtain ⟨bound, rfl⟩ := List.getElem?_eq_some_iff.mp listed
        have grown := List.concat_get_prefix ordered.taken (by simpa using bound)
        simpa [content] using grown
  · rw [if_neg active]
    exact ordered

/-- Every step keeps the order. -/
theorem Ordered.step {before after : Relay} {event : RelayEvent} (taken : RelayStep before event after)
    (ordered : Ordered before) : Ordered after := by
  cases taken with
  | send idle time sending => exact ordered.send idle time sending
  | finalize waits answered finalized => exact ordered.finalize waits finalized
  | deliver msgCif nonce goesOn available => exact ordered.deliver available nonce goesOn

/-- The messages of a session are numbered 1, 2, 3 and so on. -/
theorem Ordered.numbered {relay : Relay} (ordered : Ordered relay) :
    relay.produced.map Produced.mNum = List.range' 1 relay.produced.length := by
  refine List.ext_getElem? fun index => ?_
  rw [List.getElem?_map]
  cases listed : relay.produced[index]? with
  | none =>
    rw [List.getElem?_eq_none_iff] at listed
    symm
    rw [Option.map_none, List.getElem?_eq_none_iff, List.length_range']
    exact listed
  | some sent =>
    obtain ⟨node, nonce, -, -, number, -⟩ := ordered.linked index sent listed
    obtain ⟨bound, -⟩ := List.getElem?_eq_some_iff.mp listed
    rw [List.getElem?_range' (by simpa using bound), Option.map_some, number]
    congr 1
    omega

/-- A closed session stays closed, and its chain as it is. -/
theorem closed_step {chain : List (Link Value)} {before after : Relay} {event : RelayEvent}
    (taken : RelayStep before event after) (closed : before.active = false ∧ before.chain = chain) :
    after.active = false ∧ after.chain = chain := by
  cases taken with
  | send idle time sending => exact closed
  | finalize waits answered finalized => exact closed
  | deliver msgCif nonce goesOn available =>
    have off : ¬before.active = true := by
      rw [closed.1]
      exact Bool.false_ne_true
    rw [Relay.deliver, if_neg off]
    exact closed

/-- What P3 leaves is in order. -/
theorem Ordered.start {root peerRoot : RootOfTrust Value} {id key rA2 sesCif nonce confCif : Value}
    {client : Initiator Value} {serverId received : Value} {pending : P3Pending Value}
    {session : Responder Value}
    (finalized : symbolic.p3InitiatorFinalize root id key rA2 sesCif nonce = .ok (client, confCif))
    (confirmed : symbolic.receiveSesConf peerRoot serverId pending received = .ok session) :
    Ordered (.start client session) := by
  obtain ⟨sesId', rdn2, preinitBl, rfl, -⟩ := p3InitiatorFinalize_symbolic finalized
  obtain rfl := receiveSesConf_symbolic confirmed
  have head : ∀ prvBl sesId preinitBl : Value, HeadOf 0 (.hash (tuple [prvBl, sesId, preinitBl])) :=
    fun prvBl sesId preinitBl => ⟨prvBl, sesId, preinitBl, rfl⟩
  refine ⟨rfl, fun index sent none => ?_, fun busy => ?_, fun _ => head _ _ _, head _ _ _,
    List.nil_prefix⟩
  · cases none
  · cases busy

/-- However the network delivers, repeats, delays and mixes the messages of a session and of
others, the audit chain holds what the client sent, in order and each message once, up to
some message. After a rejected message it stays as it is. -/
theorem accepted_in_order {root peerRoot : RootOfTrust Value} {id key rA2 sesCif nonce confCif : Value}
    {client : Initiator Value} {serverId received : Value} {pending : P3Pending Value}
    {session : Responder Value}
    (finalized : symbolic.p3InitiatorFinalize root id key rA2 sesCif nonce = .ok (client, confCif))
    (confirmed : symbolic.receiveSesConf peerRoot serverId pending received = .ok session)
    {events : List (RelayEvent × Relay)} (run : Run RelayStep (.start client session) events) :
    (∀ entry ∈ events,
      entry.2.chain.map Link.content <+: entry.2.produced.map Produced.content ∧
      entry.2.produced.map Produced.mNum = List.range' 1 entry.2.produced.length) ∧
    ∀ earlier msgCif nonce goesOn after later,
      events = earlier ++ (.deliver msgCif nonce goesOn, after) :: later →
      (final (.start client session) earlier).active = true →
      (∀ result, symbolic.acceptP4 (final (.start client session) earlier).session msgCif
        ≠ .ok result) →
      ∀ entry ∈ (.deliver msgCif nonce goesOn, after) :: later,
        entry.2.chain = (final (.start client session) earlier).chain := by
  constructor
  · intro entry member
    have ordered := @Run.states _ _ _ Ordered Ordered.step _ _ run (.start finalized confirmed)
      entry.2 (List.mem_cons_of_mem _ (List.mem_map_of_mem member))
    exact ⟨ordered.taken, ordered.numbered⟩
  · intro earlier msgCif nonce goesOn after later cut active rejected entry member
    subst cut
    obtain ⟨-, rest⟩ := run.split
    cases rest with
    | next taken rest =>
      have closed : after.active = false ∧
          after.chain = (final (.start client session) earlier).chain := by
        cases taken with
        | deliver _ _ _ available =>
          rw [Relay.deliver, if_pos active]
          cases accepted : symbolic.acceptP4 (final (.start client session) earlier).session msgCif with
          | error exception => exact ⟨rfl, rfl⟩
          | ok result => exact absurd accepted (rejected result)
      have states := @Run.states _ _ _ (fun relay => relay.active = false ∧ relay.chain = after.chain)
        closed_step _ _ rest ⟨closed.1, rfl⟩
      rcases List.mem_cons.mp member with rfl | tail
      · exact closed.2
      · exact (states entry.2 (List.mem_cons_of_mem _ (List.mem_map_of_mem tail))).2.trans closed.2

/-- A session whose first message is delivered twice: the second delivery ends it. -/
theorem accepted_in_order_replayed : ∃ client session events,
    Run RelayStep (.start client session) events ∧
    (∃ entry ∈ events, entry.2.chain.length = 1 ∧ entry.2.active = false) ∧
    (∀ entry ∈ events,
      entry.2.chain.map Link.content <+: entry.2.produced.map Produced.content ∧
      entry.2.produced.map Produced.mNum = List.range' 1 entry.2.produced.length) ∧
    ∀ earlier msgCif nonce goesOn after later,
      events = earlier ++ (.deliver msgCif nonce goesOn, after) :: later →
      (final (.start client session) earlier).active = true →
      (∀ result, symbolic.acceptP4 (final (.start client session) earlier).session msgCif
        ≠ .ok result) →
      ∀ entry ∈ (.deliver msgCif nonce goesOn, after) :: later,
        entry.2.chain = (final (.start client session) earlier).chain := by
  let shSAB : Value := .hash .unit
  let rdn1 : Value := .name (.clientDraw 0 0)
  let sesId : Value := .name (.serverDraw 0 0)
  let rdn2 : Value := .name (.serverDraw 0 1)
  let sesKey : Value := .hash (tuple [rdn2, shSAB])
  let initBl : Value := .hash (tuple [.unit, sesId, .unit])
  let client : Initiator Value :=
    ⟨.name (.nodeId 0), .name (.nodeKey 0), .name .serverId, initBl, sesId, sesKey, 0, .name (.text "")⟩
  let session : Responder Value := ⟨.name .serverId, initBl, sesId, sesKey⟩
  have finalized : symbolic.p3InitiatorFinalize ⟨shSAB, .unit, .name .serverId⟩ (.name (.nodeId 0))
      (.name (.nodeKey 0)) rdn1 (.box shSAB .unit (tuple [sesId, rdn2, rdn1, .unit])) .unit
      = .ok (client, .box sesKey .unit (.hash (tuple [sesKey, sesId, rdn1, rdn2]))) := rfl
  have confirmed : symbolic.receiveSesConf ⟨shSAB, .unit, .name (.nodeId 0)⟩ (.name .serverId)
      ⟨sesId, sesKey, rdn1, rdn2, .unit⟩
      (.box sesKey .unit (.hash (tuple [sesKey, sesId, rdn1, rdn2]))) = .ok session := rfl
  let msgCif : Value := client.msgCif 0 (.name (.payload 0)) .unit
  let sent : Relay := { Relay.start client session with
    client := { client with mNum := 1, lastARegBl := client.aRegBl 0 (.name (.payload 0)) }
    waiting := true
    produced := [⟨.name (.payload 0), 1, 0, msgCif⟩] }
  have sends : RelayStep (.start client session) (.send 0 (.name (.payload 0)) .unit) sent :=
    @RelayStep.send (.start client session) _ _ _ _ _ _ rfl rfl rfl
  have available : sent.Available msgCif := .inl ⟨_, List.mem_singleton_self _, rfl⟩
  have again : (sent.deliver msgCif .unit true).Available msgCif :=
    .inl ⟨_, List.mem_singleton_self _, rfl⟩
  have run : Run RelayStep (.start client session) _ :=
    .next sends (.next (.deliver sent msgCif .unit true available)
      (.next (.deliver _ msgCif .unit true again) (.done _)))
  refine ⟨client, session, _, run, ?_, accepted_in_order finalized confirmed run⟩
  exact ⟨_, List.mem_cons_of_mem _ (List.mem_cons_of_mem _ (List.mem_singleton_self _)), rfl, rfl⟩

end Microgrid.SecureNode
