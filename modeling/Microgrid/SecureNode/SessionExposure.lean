import Mathlib.Data.Rat.Defs
import Microgrid.Foundation.LabelledRuns
import Microgrid.SecureNode.SymbolicSession

/-!
# What an active attacker learns of a session

Any number of server sessions and client runs, and a network that is the attacker: what a
party sends becomes known to it, and a party receives what it can derive. It knows the
identifiers and the labels of the registry, and its own names, but no `node_key`, no
`node_salt` and not the `server_key`.

`ShS_A` and `ShS_B` travel in the clear, and `_ShS_AB` is their hash. So the attacker opens
`ses_reply`, learns `RDN2` and with it the session key of every session that completes P3;
and since no secret of the node enters P2 or P3, it can be the peer itself. The node keys
stay secret all along: they are simply not asked for.
-/

namespace Microgrid.SecureNode

open PythonValues SymbolicKnowledge SymbolicKnowledge.Term LabelledRuns

/-- Where a `NodeSession` stands: before `rot_hello`, after P2, before `ses_conf`, in its
data loop, or at its end. -/
inductive ServerStage where
  | hello
  | rooted (node : ℕ) (root : RootOfTrust Value)
  | pending (node : ℕ) (root : RootOfTrust Value) (waiting : P3Pending Value)
  | data (node : ℕ) (session : Responder Value) (trustScore : ℚ)
  | closed

/-- Where a `SecureNodeClient` stands. -/
inductive ClientStage where
  | hello (shSA genA : Value)
  | rooted (root : RootOfTrust Value)
  | data (client : Initiator Value)
  | closed

/-- A client of a node. -/
structure ClientRun where
  node : ℕ
  stage : ClientStage

/-- All sessions and clients so far, and what the attacker has seen. -/
structure OpenWorld where
  sessions : List ServerStage
  runs : List ClientRun
  known : Set Value

/-- What the attacker knows from the start. -/
inductive Public : Value → Prop where
  | text (label : String) : Public (.name (.text label))
  | number (width value : ℕ) : Public (.name (.number width value))
  | nodeId (node : ℕ) : Public (.name (.nodeId node))
  | serverId : Public (.name .serverId)
  | payload (index : ℕ) : Public (.name (.payload index))
  | invented (index : ℕ) : Public (.name (.invented index))

/-- Nothing has happened. -/
def OpenWorld.initial : OpenWorld := ⟨[], [], { value | Public value }⟩

/-- The world after a session has moved on and sent some values. -/
def OpenWorld.withSession (world : OpenWorld) (index : ℕ) (stage : ServerStage)
    (sent : List Value) : OpenWorld :=
  { world with
    sessions := world.sessions.set index stage
    known := world.known ∪ { value | value ∈ sent } }

/-- The world after a client has moved on and sent some values. -/
def OpenWorld.withRun (world : OpenWorld) (index : ℕ) (run : ClientRun) (sent : List Value) :
    OpenWorld :=
  { world with
    runs := world.runs.set index run
    known := world.known ∪ { value | value ∈ sent } }

/-- What happens in one step. -/
inductive OpenEvent where
  | connect
  | start (node : ℕ)
  | rotHello (index node : ℕ)
  | rotAck (index : ℕ)
  | sesInit (index : ℕ)
  | sesReply (index : ℕ)
  | sesConf (index : ℕ)
  | dxMsg (index : ℕ)
  | send (index : ℕ)
  | dxRes (index : ℕ)
  | close (index : ℕ)
  | giveUp (index : ℕ)

/-- The first two values of client `index` of a node. -/
def clientHello (node index : ℕ) : Value × Value :=
  symbolic.p2InitiatorCompute (.name (.nodeSalt node)) (.name (.clientDraw index 0))
    (.name (.nodeId node))

/-- What the server answers to a registered node. -/
def serverAnswer (node : ℕ) (shSA aGenBl : Value) : RootOfTrust Value × Value × Value :=
  symbolic.answerHello (.name (.nodeSalt node)) (.name .serverId) (.name .serverKey)
    (.name (.nodeId node)) shSA aGenBl

/-- A step of a party, on values that the attacker can derive. Draw 0 of a session is its
identifier, draw 1 `RDN2`, and later ones are nonces; of a client, 0 is `r_A` and 1 `RDN1`. -/
inductive OpenStep (registered : ℕ → Bool) : OpenWorld → OpenEvent → OpenWorld → Prop where
  | connect (world : OpenWorld) :
      OpenStep registered world .connect { world with sessions := world.sessions ++ [.hello] }
  | start (world : OpenWorld) (node : ℕ) :
      OpenStep registered world (.start node) { world with
        runs := world.runs ++ [⟨node, .hello (clientHello node world.runs.length).1
          (clientHello node world.runs.length).2⟩]
        known := world.known ∪ { value | value ∈ [(clientHello node world.runs.length).1,
          (clientHello node world.runs.length).2] } }
  /-- P2 for a registered node. -/
  | rotHello (world : OpenWorld) (index node : ℕ) (shSA aGenBl : Value)
      (present : world.sessions[index]? = some .hello) (known : registered node = true)
      (derivesShSA : Derives world.known shSA) (derivesGen : Derives world.known aGenBl) :
      OpenStep registered world (.rotHello index node) (world.withSession index
        (.rooted node (serverAnswer node shSA aGenBl).1)
        [(serverAnswer node shSA aGenBl).2.1, (serverAnswer node shSA aGenBl).2.2])
  /-- The client finishes P2 and sends `ses_init`. -/
  | rotAck (world : OpenWorld) (index node : ℕ) (shSA genA shSB bGenBl idB ts initCif : Value)
      (present : world.runs[index]? = some ⟨node, .hello shSA genA⟩)
      (derivesShSB : Derives world.known shSB) (derivesGen : Derives world.known bGenBl)
      (derivesId : Derives world.known idB) (time : ∃ now, symbolic.structPack 8 now = .ok ts)
      (prepared : symbolic.p3InitiatorPrepare (symbolic.p2Finalize shSA shSB genA bGenBl idB)
        (.name (.nodeId node)) (.name (.clientDraw index 1)) ts (.name (.clientDraw index 2))
        = .ok initCif) :
      OpenStep registered world (.rotAck index) (world.withRun index
        ⟨node, .rooted (symbolic.p2Finalize shSA shSB genA bGenBl idB)⟩ [initCif])
  /-- The server answers `ses_init`. -/
  | sesInit (world : OpenWorld) (index node : ℕ) (root : RootOfTrust Value)
      (pending : P3Pending Value) (initCif sesCif : Value)
      (present : world.sessions[index]? = some (.rooted node root))
      (derivesInit : Derives world.known initCif)
      (received : symbolic.receiveSesInit root (.name .serverId) initCif
        (.name (.serverDraw index 0)) (.name (.serverDraw index 1)) (.name (.serverDraw index 2))
        = .ok (pending, sesCif)) :
      OpenStep registered world (.sesInit index)
        (world.withSession index (.pending node root pending) [sesCif])
  /-- The client finishes P3 and sends `ses_conf`. -/
  | sesReply (world : OpenWorld) (index node : ℕ) (root : RootOfTrust Value)
      (client : Initiator Value) (sesCif confCif : Value)
      (present : world.runs[index]? = some ⟨node, .rooted root⟩)
      (derivesReply : Derives world.known sesCif)
      (finalized : symbolic.p3InitiatorFinalize root (.name (.nodeId node)) (.name (.nodeKey node))
        (.name (.clientDraw index 1)) sesCif (.name (.clientDraw index 3)) = .ok (client, confCif)) :
      OpenStep registered world (.sesReply index)
        (world.withRun index ⟨node, .data client⟩ [confCif])
  /-- The server finishes P3. -/
  | sesConf (world : OpenWorld) (index node : ℕ) (root : RootOfTrust Value)
      (pending : P3Pending Value) (session : Responder Value) (confCif : Value)
      (present : world.sessions[index]? = some (.pending node root pending))
      (derivesConf : Derives world.known confCif)
      (received : symbolic.receiveSesConf root (.name .serverId) pending confCif = .ok session) :
      OpenStep registered world (.sesConf index)
        (world.withSession index (.data node session (8 / 10)) [session.sesId])
  /-- A message is accepted and answered; the trust score may fall. -/
  | dxMsg (world : OpenWorld) (index node : ℕ) (session after : Responder Value)
      (trustScore lowered : ℚ) (link : Link Value) (msgCif nonce resCif : Value)
      (present : world.sessions[index]? = some (.data node session trustScore))
      (derivesMsg : Derives world.known msgCif) (derivesNonce : Derives world.known nonce)
      (accepted : symbolic.acceptP4 session msgCif = .ok (after, link))
      (answered : symbolic.respondP4 after link nonce = .ok resCif) (falls : lowered ≤ trustScore) :
      OpenStep registered world (.dxMsg index)
        (world.withSession index (.data node after lowered) [resCif])
  /-- The client sends a message. -/
  | send (world : OpenWorld) (index node ts payload : ℕ) (client after : Initiator Value)
      (tsB nonce msgCif : Value) (present : world.runs[index]? = some ⟨node, .data client⟩)
      (derivesNonce : Derives world.known nonce) (time : symbolic.structPack 8 ts = .ok tsB)
      (sending : symbolic.p4Send client tsB (.name (.payload payload)) nonce = .ok (after, msgCif)) :
      OpenStep registered world (.send index) (world.withRun index ⟨node, .data after⟩ [msgCif])
  /-- The client takes a response. -/
  | dxRes (world : OpenWorld) (index node : ℕ) (client after : Initiator Value) (resCif : Value)
      (present : world.runs[index]? = some ⟨node, .data client⟩)
      (derivesRes : Derives world.known resCif)
      (finalized : symbolic.p4Finalize client resCif = .ok after) :
      OpenStep registered world (.dxRes index) (world.withRun index ⟨node, .data after⟩ [])
  /-- A session ends: by an error, a logout, a timeout or a lost connection. -/
  | close (world : OpenWorld) (index : ℕ) :
      OpenStep registered world (.close index) (world.withSession index .closed [])
  /-- A client ends. -/
  | giveUp (world : OpenWorld) (index node : ℕ) (stage : ClientStage)
      (present : world.runs[index]? = some ⟨node, stage⟩) :
      OpenStep registered world (.giveUp index) (world.withRun index ⟨node, .closed⟩ [])

/-- The peer of a session knew the key of its node: an honest client of the node has the
session, or the attacker knows the key. -/
def OpenWorld.Authentic (world : OpenWorld) (node : ℕ) (session : Responder Value) : Prop :=
  Derives world.known (.name (.nodeKey node)) ∨ ∃ client : Initiator Value,
    ⟨node, .data client⟩ ∈ world.runs ∧ client.sesId = session.sesId ∧
      client.kABEnc = session.sesKey

/-- Every active session with the trust score that P3 sets has an authentic peer and a
secret key. -/
def OpenWorld.Protected (world : OpenWorld) : Prop :=
  ∀ node session, .data node session (8 / 10) ∈ world.sessions →
    world.Authentic node session ∧ ¬Derives world.known session.sesKey

/-- The attacker follows a session: it can derive the shared secret of P2, and then the
session key. -/
def Followed (known : Set Value) : ServerStage → Prop
  | .hello => True
  | .rooted _ root => Derives known root.shSAB
  | .pending _ root pending => Derives known root.shSAB ∧ Derives known pending.sesKey
  | .data _ session trustScore => Derives known session.sesKey ∧ trustScore ≤ 8 / 10
  | .closed => True

/-- The attacker follows all sessions. -/
def OpenWorld.Exposed (world : OpenWorld) : Prop :=
  ∀ stage ∈ world.sessions, Followed world.known stage

/-- A step in which a session completes P3. -/
def OpenEvent.Completes : OpenEvent → Prop
  | .sesConf _ => True
  | _ => False

/-- The attacker goes on following. -/
theorem followed_mono {known more : Set Value} (grows : known ⊆ more) {stage : ServerStage}
    (followed : Followed known stage) : Followed more stage := by
  cases stage with
  | hello => exact followed
  | rooted node root => exact derives_mono grows followed
  | pending node root waiting => exact ⟨derives_mono grows followed.1, derives_mono grows followed.2⟩
  | data node session trustScore => exact ⟨derives_mono grows followed.1, followed.2⟩
  | closed => exact followed

/-- The attacker follows all sessions after one of them has moved on. -/
theorem OpenWorld.Exposed.withSession {world : OpenWorld} (exposed : world.Exposed) (index : ℕ)
    {stage : ServerStage} {sent : List Value}
    (followed : Followed (world.known ∪ { value | value ∈ sent }) stage) :
    (world.withSession index stage sent).Exposed := by
  intro other member
  rcases List.mem_or_eq_of_mem_set member with old | rfl
  · exact followed_mono Set.subset_union_left (exposed other old)
  · exact followed

/-- The attacker follows all sessions after a client has moved on. -/
theorem OpenWorld.Exposed.withRun {world : OpenWorld} (exposed : world.Exposed) (index : ℕ)
    (run : ClientRun) (sent : List Value) : (world.withRun index run sent).Exposed :=
  fun stage member => followed_mono Set.subset_union_left (exposed stage member)

/-- What a party has just sent is known. -/
theorem derives_sent (known : Set Value) {sent : List Value} {value : Value} (member : value ∈ sent) :
    Derives (known ∪ { value | value ∈ sent }) value := .known (.inr member)

/-- From the two values of the client and the server's answer the attacker derives what both
sides keep of P2. -/
theorem derives_root {known : Set Value} (node : ℕ) {shSA aGenBl : Value} (first : Derives known shSA)
    (second : Derives known aGenBl) :
    let answer := serverAnswer node shSA aGenBl
    Derives (known ∪ { value | value ∈ [answer.2.1, answer.2.2] }) answer.1.shSAB ∧
      Derives (known ∪ { value | value ∈ [answer.2.1, answer.2.2] }) answer.1.prvBl := by
  intro answer
  have shSB := derives_sent known (List.mem_cons_self (a := answer.2.1) (l := [answer.2.2]))
  have bGenBl := derives_sent known
    (List.mem_cons_of_mem answer.2.1 (List.mem_singleton_self answer.2.2))
  constructor
  · exact .hash (.pair (derives_mono Set.subset_union_left first) (.pair shSB .unit))
  · exact .hash (.pair (derives_mono Set.subset_union_left second) (.pair bGenBl .unit))

/-- From the shared secret and a `ses_reply` it derives the identifier, `RDN2` and the key of
the session. -/
theorem derives_session {known : Set Value} {shSAB nonce sesId rdn2 rdn1 preinitBl : Value}
    (secret : Derives known shSAB)
    (reply : Derives known (.box shSAB nonce (tuple [sesId, rdn2, rdn1, preinitBl]))) :
    Derives known sesId ∧ Derives known rdn2 ∧ Derives known (.hash (tuple [rdn2, shSAB])) := by
  have opened := (derives_tuple _).mp (reply.disclose secret)
  have draw : Derives known rdn2 := opened _ (List.mem_cons_of_mem _ List.mem_cons_self)
  exact ⟨opened _ List.mem_cons_self, draw, .hash (.pair draw (.pair secret .unit))⟩

/-- The attacker follows every step: each message it needs is one it sees. -/
theorem OpenWorld.Exposed.step {registered : ℕ → Bool} {before after : OpenWorld} {event : OpenEvent}
    (taken : OpenStep registered before event after) (exposed : before.Exposed) : after.Exposed := by
  cases taken with
  | connect =>
    intro stage member
    rcases List.mem_append.mp member with old | new
    · exact exposed stage old
    · rw [List.mem_singleton.mp new]
      exact trivial
  | start node => exact fun stage member => followed_mono Set.subset_union_left (exposed stage member)
  | rotHello index node shSA aGenBl present known derivesShSA derivesGen =>
    exact exposed.withSession index (derives_root node derivesShSA derivesGen).1
  | rotAck => exact exposed.withRun _ _ _
  | sesInit index node root pending initCif sesCif present derivesInit received =>
    apply exposed.withSession index
    have shSAB : Derives (before.known ∪ { value | value ∈ [sesCif] }) root.shSAB :=
      derives_mono Set.subset_union_left (exposed _ (List.mem_of_getElem? present))
    obtain ⟨sealing, preinitBl, rdn1, rest, -, rfl, rfl⟩ := receiveSesInit_symbolic received
    exact ⟨shSAB,
      (derives_session shSAB (derives_sent before.known (List.mem_singleton_self _))).2.2⟩
  | sesReply => exact exposed.withRun _ _ _
  | sesConf index node root pending session confCif present derivesConf received =>
    refine exposed.withSession index ⟨?_, le_rfl⟩
    obtain rfl := receiveSesConf_symbolic received
    exact derives_mono Set.subset_union_left (exposed _ (List.mem_of_getElem? present)).2
  | dxMsg index node session responder trustScore lowered link msgCif nonce resCif present derivesMsg
      derivesNonce accepted answered falls =>
    obtain ⟨followed, bound⟩ := exposed _ (List.mem_of_getElem? present)
    obtain ⟨_, _, _, _, -, -, -, rfl⟩ := acceptP4_symbolic accepted
    exact exposed.withSession index
      ⟨derives_mono Set.subset_union_left followed, falls.trans bound⟩
  | send => exact exposed.withRun _ _ _
  | dxRes => exact exposed.withRun _ _ _
  | close index => exact exposed.withSession index trivial
  | giveUp => exact exposed.withRun _ _ _

/-- Where the attacker follows, no session is protected that has the score of P3. -/
theorem OpenWorld.Exposed.protected_iff {world : OpenWorld} (exposed : world.Exposed) :
    world.Protected ↔ ∀ node session, .data node session (8 / 10) ∉ world.sessions := by
  constructor
  · intro safe node session member
    exact (safe node session member).2 (exposed _ member).1
  · intro none node session member
    exact absurd member (none node session)

/-- Without a completed P3 no session gets the score of P3. -/
theorem trusted_before {registered : ℕ → Bool} {before after : OpenWorld} {event : OpenEvent}
    (taken : OpenStep registered before event after) (exposed : before.Exposed)
    (incomplete : ¬event.Completes) {node : ℕ} {session : Responder Value}
    (trusted : .data node session (8 / 10) ∈ after.sessions) :
    ∃ session, .data node session (8 / 10) ∈ before.sessions := by
  have kept : ∀ {index : ℕ} {stage : ServerStage} {sent : List Value},
      .data node session (8 / 10) ∈ (before.withSession index stage sent).sessions →
      .data node session (8 / 10) ≠ stage →
      ∃ session, .data node session (8 / 10) ∈ before.sessions := by
    intro index stage sent member other
    exact ⟨session, (List.mem_or_eq_of_mem_set member).resolve_right other⟩
  cases taken with
  | connect =>
    rcases List.mem_append.mp trusted with old | new
    · exact ⟨session, old⟩
    · cases List.mem_singleton.mp new
  | start node => exact ⟨session, trusted⟩
  | rotHello => exact kept trusted (by rintro ⟨⟩)
  | rotAck => exact ⟨session, trusted⟩
  | sesInit => exact kept trusted (by rintro ⟨⟩)
  | sesReply => exact ⟨session, trusted⟩
  | sesConf => exact absurd trivial incomplete
  | dxMsg index other earlier responder trustScore lowered link msgCif nonce resCif present derivesMsg
      derivesNonce accepted answered falls =>
    rcases List.mem_or_eq_of_mem_set trusted with old | same
    · exact ⟨session, old⟩
    · obtain ⟨rfl, rfl, rfl⟩ := ServerStage.data.inj same
      have listed := List.mem_of_getElem? present
      obtain rfl : trustScore = 8 / 10 := le_antisymm (exposed _ listed).2 falls
      exact ⟨earlier, listed⟩
  | send => exact ⟨session, trusted⟩
  | dxRes => exact ⟨session, trusted⟩
  | close => exact kept trusted (by rintro ⟨⟩)
  | giveUp => exact ⟨session, trusted⟩

/-- A completed P3 leaves a session with the score of P3. -/
theorem trusted_after {registered : ℕ → Bool} {before after : OpenWorld} {event : OpenEvent}
    (taken : OpenStep registered before event after) (completes : event.Completes) :
    ∃ node session, .data node session (8 / 10) ∈ after.sessions := by
  cases taken with
  | sesConf index node root pending session confCif present derivesConf received =>
    obtain ⟨bound, -⟩ := List.getElem?_eq_some_iff.mp present
    exact ⟨node, session, List.mem_set bound _⟩
  | _ => cases completes

/-- What keeps the node keys out of the traffic: what a party will send in the clear, or to a
peer that may be the attacker, does not contain one. -/
structure OpenWorld.KeysHidden (world : OpenWorld) : Prop where
  absent : ∀ node, ¬Occurs world.known (.name (.nodeKey node))
  identifiers : ∀ node root (pending : P3Pending Value), .pending node root pending ∈ world.sessions →
    ∃ session, pending.sesId = .name (.serverDraw session 0)
  clients : ∀ node (client : Initiator Value), ⟨node, .data client⟩ ∈ world.runs →
    client.id = .name (.nodeId node)

/-- Sent values that show no node key keep the node keys out of the traffic. -/
theorem not_occurs_sent {known : Set Value} {sent : List Value} {label : Label}
    (absent : ¬Occurs known (.name label)) (clean : ∀ value ∈ sent, ¬Part value (.name label)) :
    ¬Occurs (known ∪ { value | value ∈ sent }) (.name label) := by
  rintro ⟨whole, old | new, part⟩
  · exact absent ⟨whole, old, part⟩
  · exact clean whole new part

/-- A session has moved on without showing a node key. -/
theorem OpenWorld.KeysHidden.withSession {world : OpenWorld} (hidden : world.KeysHidden) (index : ℕ)
    {stage : ServerStage} {sent : List Value}
    (clean : ∀ node, ∀ value ∈ sent, ¬Part value (.name (.nodeKey node)))
    (identified : ∀ node root pending, stage = .pending node root pending →
      ∃ session, pending.sesId = .name (.serverDraw session 0)) :
    (world.withSession index stage sent).KeysHidden where
  absent node := not_occurs_sent (hidden.absent node) (clean node)
  identifiers node root pending member := by
    rcases List.mem_or_eq_of_mem_set member with old | same
    · exact hidden.identifiers node root pending old
    · exact identified node root pending same.symm
  clients := hidden.clients

/-- A client has moved on without showing a node key. -/
theorem OpenWorld.KeysHidden.withRun {world : OpenWorld} (hidden : world.KeysHidden) (index : ℕ)
    {run : ClientRun} {sent : List Value}
    (clean : ∀ node, ∀ value ∈ sent, ¬Part value (.name (.nodeKey node)))
    (identified : ∀ client, run.stage = .data client → client.id = .name (.nodeId run.node)) :
    (world.withRun index run sent).KeysHidden where
  absent node := not_occurs_sent (hidden.absent node) (clean node)
  identifiers := hidden.identifiers
  clients node client member := by
    rcases List.mem_or_eq_of_mem_set member with old | rfl
    · exact hidden.clients node client old
    · exact identified client rfl

/-- The attacker starts without the node keys. -/
theorem keysHidden_initial : OpenWorld.initial.KeysHidden := by
  refine ⟨?_, fun node root pending member => absurd member List.not_mem_nil,
    fun node client member => absurd member List.not_mem_nil⟩
  rintro node ⟨whole, isPublic, part⟩
  cases isPublic <;> cases part

/-- No step shows a node key: it enters the traffic under hashes only. -/
theorem OpenWorld.KeysHidden.step {registered : ℕ → Bool} {before after : OpenWorld}
    {event : OpenEvent} (taken : OpenStep registered before event after)
    (hidden : before.KeysHidden) : after.KeysHidden := by
  cases taken with
  | connect =>
    refine { hidden with identifiers := ?_ }
    intro node root pending member
    rcases List.mem_append.mp member with old | new
    · exact hidden.identifiers node root pending old
    · cases List.mem_singleton.mp new
  | start node =>
    refine ⟨fun other => not_occurs_sent (hidden.absent other) ?_, hidden.identifiers, ?_⟩
    · intro value member
      rcases List.mem_cons.mp member with rfl | member
      · exact part_hash_name
      · rw [List.mem_singleton.mp member]
        exact part_hash_name
    · intro other client member
      rcases List.mem_append.mp member with old | new
      · exact hidden.clients other client old
      · cases List.mem_singleton.mp new
  | rotHello index node shSA aGenBl present known derivesShSA derivesGen =>
    refine hidden.withSession index ?_ (by rintro _ _ _ ⟨⟩)
    intro other value member
    rcases List.mem_cons.mp member with rfl | member
    · exact part_hash_name
    · rw [List.mem_singleton.mp member]
      exact part_hash_name
  | rotAck index node shSA genA shSB bGenBl idB ts initCif present derivesShSB derivesGen derivesId time
      prepared =>
    refine hidden.withRun index ?_ (by rintro _ ⟨⟩)
    obtain ⟨now, packed⟩ := time
    obtain rfl := structPack_symbolic packed
    obtain rfl := Except.ok.inj prepared
    intro other value member
    rw [List.mem_singleton.mp member, part_box_name]
    simp only [symbolic, part_tuple_name, List.mem_cons, List.not_mem_nil, or_false, exists_eq_or_imp,
      exists_eq_left, part_name, part_hash_name, name.injEq, reduceCtorEq, not_false_eq_true]
  | sesInit index node root pending initCif sesCif present derivesInit received =>
    obtain ⟨sealing, preinitBl, rdn1, rest, rfl, rfl, rfl⟩ := receiveSesInit_symbolic received
    apply hidden.withSession index
    · intro other value member
      have clean := not_part_derived (hidden.absent other) derivesInit
      rw [part_box_name, part_tuple_name] at clean
      have preinit : ¬Part preinitBl (.name (.nodeKey other)) :=
        fun part => clean ⟨preinitBl, List.mem_cons_self, part⟩
      have first : ¬Part rdn1 (.name (.nodeKey other)) :=
        fun part => clean ⟨rdn1, List.mem_cons_of_mem _ List.mem_cons_self, part⟩
      rw [List.mem_singleton.mp member, part_box_name]
      simp only [part_tuple_name, List.mem_cons, List.not_mem_nil, or_false, exists_eq_or_imp,
        exists_eq_left, part_name, preinit, first, name.injEq, reduceCtorEq, not_false_eq_true]
    · rintro _ _ _ ⟨⟩
      exact ⟨index, rfl⟩
  | sesReply index node root client sesCif confCif present derivesReply finalized =>
    obtain ⟨sesId, rdn2, preinitBl, rfl, rfl⟩ := p3InitiatorFinalize_symbolic finalized
    apply hidden.withRun index
    · intro other value member
      rw [List.mem_singleton.mp member, part_box_name]
      exact part_hash_name
    · rintro _ ⟨⟩
      rfl
  | sesConf index node root pending session confCif present derivesConf received =>
    obtain rfl := receiveSesConf_symbolic received
    refine hidden.withSession index ?_ (by rintro _ _ _ ⟨⟩)
    obtain ⟨drawn, identifier⟩ := hidden.identifiers _ _ _ (List.mem_of_getElem? present)
    intro other value member
    rw [List.mem_singleton.mp member, identifier, part_name]
    rintro ⟨⟩
  | dxMsg index node session responder trustScore lowered link msgCif nonce resCif present derivesMsg
      derivesNonce accepted answered falls =>
    obtain ⟨_, _, _, _, -, -, ⟨preg, digest⟩, rfl⟩ := acceptP4_symbolic accepted
    obtain rfl := Except.ok.inj answered
    refine hidden.withSession index ?_ (by rintro _ _ _ ⟨⟩)
    intro other value member
    rw [List.mem_singleton.mp member, part_box_name, digest]
    exact part_hash_name
  | send index node ts payload client responder tsB nonce msgCif present derivesNonce time sending =>
    obtain ⟨rfl, rfl⟩ := p4Send_symbolic time sending
    have identifier := hidden.clients _ _ (List.mem_of_getElem? present)
    apply hidden.withRun index
    · intro other value member
      rw [List.mem_singleton.mp member, Initiator.msgCif, part_box_name]
      simp only [Initiator.pregBl, Initiator.aRegBl, part_tuple_name, List.mem_cons, List.not_mem_nil,
        or_false, exists_eq_or_imp, exists_eq_left, part_name, part_hash_name, identifier, name.injEq,
        reduceCtorEq, not_false_eq_true]
    · rintro _ ⟨⟩
      exact identifier
  | dxRes index node client responder resCif present derivesRes finalized =>
    obtain ⟨bRegBl, -, finalized⟩ := bind_ok finalized
    obtain rfl := Except.ok.inj finalized
    have identifier := hidden.clients _ _ (List.mem_of_getElem? present)
    refine hidden.withRun index (fun _ _ member => absurd member List.not_mem_nil) ?_
    rintro _ ⟨⟩
    exact identifier
  | close index =>
    exact hidden.withSession index (fun _ _ member => absurd member List.not_mem_nil)
      (by rintro _ _ _ ⟨⟩)
  | giveUp index node stage present =>
    exact hidden.withRun index (fun _ _ member => absurd member List.not_mem_nil) (by rintro _ ⟨⟩)

/-- The attacker never learns a node key. -/
theorem node_key_hidden {registered : ℕ → Bool} {events : List (OpenEvent × OpenWorld)}
    (run : Run (OpenStep registered) .initial events) :
    ∀ entry ∈ events, ∀ node, ¬Derives entry.2.known (.name (.nodeKey node)) := by
  intro entry member node derived
  have hidden := @Run.states _ _ _ OpenWorld.KeysHidden OpenWorld.KeysHidden.step _ _ run
    keysHidden_initial entry.2 (List.mem_cons_of_mem _ (List.mem_map_of_mem member))
  exact hidden.absent node (derives_name derived)

/-- A `ses_init` that is made from the shared secret is accepted, whoever made it. -/
theorem receiveSesInit_made (root : RootOfTrust Value)
    (serverId sealing rdn1 ts sesId rdn2 nonce : Value) :
    let preinitBl : Value := .hash (tuple [root.prvBl,
      .hash (tuple [rdn1, ts, root.peerId, serverId, root.shSAB])])
    symbolic.receiveSesInit root serverId (.box root.shSAB sealing (tuple [preinitBl, rdn1, ts]))
      sesId rdn2 nonce = .ok (⟨sesId, .hash (tuple [rdn2, root.shSAB]), rdn1, rdn2, preinitBl⟩,
        .box root.shSAB nonce (tuple [sesId, rdn2, rdn1, preinitBl])) := by
  intro preinitBl
  have opened : symbolic.decryptGcm (.box root.shSAB sealing (tuple [preinitBl, rdn1, ts])) root.shSAB
      = .ok (tuple [preinitBl, rdn1, ts]) := if_pos rfl
  have cut : symbolic.slices [32, 16] (tuple [preinitBl, rdn1, ts]) = .ok [preinitBl, rdn1, ts] := rfl
  rw [Operations.receiveSesInit, opened]
  simp only [bind, Except.bind, cut]
  exact if_neg (not_not.mpr rfl)

/-- A `ses_conf` that is made from the session key is accepted, whoever made it. -/
theorem receiveSesConf_made (root : RootOfTrust Value) (serverId sealing : Value)
    (pending : P3Pending Value) :
    symbolic.receiveSesConf root serverId pending (.box pending.sesKey sealing (.hash (tuple
      [pending.sesKey, pending.sesId, pending.rdn1, pending.rdn2])))
      = .ok ⟨serverId, .hash (tuple [root.prvBl, pending.sesId, pending.preinitBl]),
        pending.sesId, pending.sesKey⟩ := by
  have opened : symbolic.decryptGcm (.box pending.sesKey sealing (.hash (tuple
      [pending.sesKey, pending.sesId, pending.rdn1, pending.rdn2]))) pending.sesKey
      = .ok (.hash (tuple [pending.sesKey, pending.sesId, pending.rdn1, pending.rdn2])) := if_pos rfl
  rw [Operations.receiveSesConf, opened]
  simp only [bind, Except.bind]
  exact if_neg (not_not.mpr rfl)

/-- A session that has moved on is where it moved to, and it can move on again. -/
theorem withSession_self {world : OpenWorld} {index : ℕ} (bound : index < world.sessions.length)
    (stage : ServerStage) (sent : List Value) :
    (world.withSession index stage sent).sessions[index]? = some stage ∧
      index < (world.withSession index stage sent).sessions.length :=
  ⟨List.getElem?_set_self bound, bound.trans_eq List.length_set.symm⟩

/-- The attacker itself completes P3 as any registered node, in any state. -/
theorem attacker_completes {registered : ℕ → Bool} {node : ℕ} (isRegistered : registered node = true)
    (world : OpenWorld) (knows : ∀ value, Public value → value ∈ world.known) :
    ∃ events, Run (OpenStep registered) world events ∧
      (∃ session, .data node session (8 / 10) ∈ (final world events).sessions) ∧
      (final world events).runs = world.runs := by
  let index := world.sessions.length
  let invented (place : ℕ) : Value := .name (.invented place)
  let answer := serverAnswer node (invented 0) (invented 1)
  let root := answer.1
  let connected : OpenWorld := { world with sessions := world.sessions ++ [.hello] }
  have free : ∀ place, Derives connected.known (invented place) :=
    fun place => .known (knows _ (.invented place))
  have bound : index < connected.sessions.length := by
    rw [List.length_append, List.length_singleton]
    exact Nat.lt_succ_self _
  -- P2: the attacker takes two names of its own for the client's values
  let rooted := connected.withSession index (.rooted node root) [answer.2.1, answer.2.2]
  have hello : OpenStep registered connected (.rotHello index node) rooted :=
    .rotHello connected index node (invented 0) (invented 1) List.getElem?_concat_length isRegistered
      (free 0) (free 1)
  obtain ⟨shSAB, genBl⟩ := derives_root node (free 0) (free 1)
  obtain ⟨isRooted, bound⟩ := withSession_self bound (.rooted node root) [answer.2.1, answer.2.2]
  have early : ∀ {value}, Derives connected.known value → Derives rooted.known value :=
    derives_mono Set.subset_union_left
  -- it makes the `ses_init` from the shared secret
  let preinitBl : Value := .hash (tuple [root.prvBl,
    .hash (tuple [invented 2, invented 3, root.peerId, .name .serverId, root.shSAB])])
  have nodeId : Derives rooted.known root.peerId := early (.known (knows _ (.nodeId node)))
  have serverId : Derives rooted.known (.name .serverId) := early (.known (knows _ .serverId))
  have initReg : Derives rooted.known
      (.hash (tuple [invented 2, invented 3, root.peerId, .name .serverId, root.shSAB])) :=
    .hash (.pair (early (free 2)) (.pair (early (free 3)) (.pair nodeId (.pair serverId
      (.pair shSAB .unit)))))
  have preinit : Derives rooted.known preinitBl := .hash (.pair genBl (.pair initReg .unit))
  have init : Derives rooted.known
      (.box root.shSAB (invented 4) (tuple [preinitBl, invented 2, invented 3])) :=
    .enclose shSAB (early (free 4))
      (.pair preinit (.pair (early (free 2)) (.pair (early (free 3)) .unit)))
  let sesId : Value := .name (.serverDraw index 0)
  let rdn2 : Value := .name (.serverDraw index 1)
  let sesKey : Value := .hash (tuple [rdn2, root.shSAB])
  let pending : P3Pending Value := ⟨sesId, sesKey, invented 2, rdn2, preinitBl⟩
  let sesCif : Value := .box root.shSAB (.name (.serverDraw index 2))
    (tuple [sesId, rdn2, invented 2, preinitBl])
  let replied := rooted.withSession index (.pending node root pending) [sesCif]
  have reply : OpenStep registered rooted (.sesInit index) replied :=
    .sesInit rooted index node root pending _ sesCif isRooted init
      (receiveSesInit_made root (.name .serverId) _ _ _ _ _ _)
  obtain ⟨isPending, bound⟩ := withSession_self bound (.pending node root pending) [sesCif]
  -- it opens the reply and makes the `ses_conf` from the session key
  have late : ∀ {value}, Derives rooted.known value → Derives replied.known value :=
    derives_mono Set.subset_union_left
  obtain ⟨identifier, draw, key⟩ := derives_session (late shSAB)
    (derives_sent rooted.known (List.mem_singleton_self sesCif))
  have conf : Derives replied.known
      (.box sesKey (invented 5) (.hash (tuple [sesKey, sesId, invented 2, rdn2]))) :=
    .enclose key (late (early (free 5))) (.hash (.pair key (.pair identifier
      (.pair (late (early (free 2))) (.pair draw .unit)))))
  have confirm := @OpenStep.sesConf registered replied index node root pending _ _ isPending conf
    (receiveSesConf_made root (.name .serverId) (invented 5) pending)
  refine ⟨_, .next (.connect world) (.next hello (.next reply (.next confirm (.done _)))), ?_, rfl⟩
  exact ⟨_, List.mem_set bound _⟩

/-- A run without any client in which a session of a registered node completes P3. -/
theorem attack_run : ∃ events, Run (OpenStep fun _ => true) .initial events ∧
    ∃ entry ∈ events, entry.2.runs = [] ∧
      ∃ node session, .data node session (8 / 10) ∈ entry.2.sessions := by
  obtain ⟨events, run, ⟨session, member⟩, noClient⟩ :=
    @attacker_completes (fun _ => true) 0 rfl .initial fun value isPublic => isPublic
  rcases List.mem_cons.mp (final_mem OpenWorld.initial events) with start | reached
  · rw [start] at member
    cases member
  · obtain ⟨entry, listed, same⟩ := List.mem_map.mp reached
    rw [← same] at member noClient
    exact ⟨events, run, entry, listed, noClient, 0, session, member⟩

/-- The attacker follows the sessions in all states of a run. -/
theorem exposed_run {registered : ℕ → Bool} {events : List (OpenEvent × OpenWorld)}
    (run : Run (OpenStep registered) .initial events) : ∀ entry ∈ events, entry.2.Exposed := by
  intro entry member
  have initial : OpenWorld.initial.Exposed := fun stage none => absurd none List.not_mem_nil
  exact @Run.states _ _ _ OpenWorld.Exposed OpenWorld.Exposed.step _ _ run initial entry.2
    (List.mem_cons_of_mem _ (List.mem_map_of_mem member))

/-- The sessions that a run establishes are never protected: all of them have authentic peers
and secret keys in all states exactly if none of them completes P3. -/
theorem session_keys_exposed (registered : ℕ → Bool) {events : List (OpenEvent × OpenWorld)}
    (run : Run (OpenStep registered) .initial events) :
    (∀ entry ∈ events, entry.2.Protected) ↔
      Along (fun _ event => ¬event.Completes) OpenWorld.initial events := by
  have initial : OpenWorld.initial.Exposed := fun stage member => absurd member List.not_mem_nil
  refine @Run.states_iff _ _ _ (fun _ event => ¬event.Completes) OpenWorld.Exposed
    OpenWorld.Protected OpenWorld.Exposed.step ?_ _ _ run initial ?_
  · intro before event after taken exposed safe
    rw [(exposed.step taken).protected_iff]
    constructor
    · intro none completes
      obtain ⟨node, session, member⟩ := trusted_after taken completes
      exact none node session member
    · intro incomplete node session member
      obtain ⟨earlier, listed⟩ := trusted_before taken exposed incomplete member
      exact exposed.protected_iff.mp safe node earlier listed
  · exact initial.protected_iff.mpr fun node session => List.not_mem_nil

/-- A run in which a session completes P3. -/
theorem session_keys_exposed_attack : ∃ events, Run (OpenStep fun _ => true) .initial events ∧
    (∃ entry ∈ events, ∃ node session, .data node session (8 / 10) ∈ entry.2.sessions) ∧
    ((∀ entry ∈ events, entry.2.Protected) ↔
      Along (fun _ event => ¬event.Completes) OpenWorld.initial events) := by
  obtain ⟨events, run, entry, listed, -, trusted⟩ := attack_run
  exact ⟨events, run, ⟨entry, listed, trusted⟩, session_keys_exposed (fun _ => true) run⟩

/-- Without any client and without the key of any node, the attacker holds a session of a
registered node with the score of P3: its peer is not authentic, and its key is not secret. -/
theorem peer_without_key : ∃ events, Run (OpenStep fun _ => true) .initial events ∧
    ∃ entry ∈ events, (∀ node, ¬Derives entry.2.known (.name (.nodeKey node))) ∧
      ∃ node session, .data node session (8 / 10) ∈ entry.2.sessions ∧
        ¬entry.2.Authentic node session ∧ Derives entry.2.known session.sesKey := by
  obtain ⟨events, run, entry, listed, noClient, node, session, member⟩ := attack_run
  have hidden := node_key_hidden run entry listed
  refine ⟨events, run, entry, listed, hidden, node, session, member, ?_,
    (exposed_run run entry listed _ member).1⟩
  rintro (derived | ⟨client, present, -⟩)
  · exact hidden node derived
  · rw [noClient] at present
    cases present

end Microgrid.SecureNode
