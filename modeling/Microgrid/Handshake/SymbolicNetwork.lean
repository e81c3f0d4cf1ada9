import Mathlib.Logic.Relation
import Microgrid.Foundation.SymbolicKnowledge
import Microgrid.Handshake.DeviceSession
import Microgrid.Handshake.RotSession

/-!
# Many sessions and an active attacker

Any number of server sessions and device runs exchange messages through a network
that is the attacker: whatever a party sends becomes known to it, and a party
receives only what the attacker can derive. Dropping, replaying, reordering,
redirecting and forging are all instances of that.

The parties compute with the same functions as the byte-level programs, at
symbolic terms: hashes of tuples, signatures by a scalar, points as products of
scalars. Every session and every run draws its own names. Session `i` draws
`challengeB i` and `ephemeralB i`, run `r` draws `challengeA r` and `ephemeralA r`.

Registered nodes have their own verifier each, as the registration tool generates
it. Which long-term and ephemeral secrets the attacker may obtain is a parameter.
-/

namespace Microgrid.SymbolicNetwork

open Handshake SymbolicKnowledge SymbolicKnowledge.Term

/-- Public identifiers, random draws, verifiers, and the attacker's own names. -/
inductive Label where
  | text (label : String)
  | idA (node : Nat)
  | idB
  | challengeA (run : Nat)
  | challengeB (session : Nat)
  | verifier (node : Nat)
  | nonce (run count : Nat)
  | payload (index : Nat)
  | invented (index : Nat)
deriving DecidableEq

/-- Private keys. -/
inductive Secret where
  | identity (node : Nat)
  | ephemeralA (run : Nat)
  | ephemeralB (session : Nat)
  | invented (index : Nat)
deriving DecidableEq

/-- Field values of this model. -/
abbrev Value := Term Label Secret

/-- The operations of both programs on symbolic values. The identity of a group
element is never computed from a value that is no key. -/
def symbolicSuite : Suite Value where
  text label := .name (.text label)
  sha256 fields := .hash (tuple fields)
  isPoint value :=
    match value with
    | .point _ => true
    | _ => false
  publicKey value :=
    match value with
    | .scalar secret => .point {secret}
    | _ => .unit
  sign key digest :=
    match key with
    | .scalar secret => .signature secret digest
    | _ => .unit
  verify key digest sig :=
    match key, sig with
    | .point factors, .signature signer signed => factors == {signer} && signed == digest
    | _, _ => false
  exchange key peer :=
    match key, peer with
    | .scalar secret, .point factors => .shared (secret ::ₘ factors)
    | _, _ => .unit

/-- The registry: registered nodes, found under their identifier. -/
def registry (registered : Nat → Bool) (idA : Value) : Option (RotSession.Entry Value) :=
  match idA with
  | .name (.idA node) =>
    if registered node then some ⟨.point {.identity node}, .name (.verifier node)⟩ else none
  | _ => none

/-- One `RotSession`: its challenge, the peer's ephemeral key and `key_ab` once
`authenticated` is set, the payloads it accepted, and whether it gave up. -/
structure ServerSession where
  challenge : Option (RotSession.Challenge Value) := none
  established : Option (Value × Value) := none
  payloads : List Value := []
  closed : Bool := false

/-- `authenticated`. -/
def ServerSession.authenticated (session : ServerSession) : Bool := session.established.isSome

/-- A session's answer to a hello, and what it sends. -/
def ServerSession.hello (registered : Nat → Bool) (index : Nat) (session : ServerSession)
    (idA challengeA : Value) : ServerSession × List Value :=
  match registry registered idA with
  | none => ({ session with closed := true }, [])
  | some entry =>
    match RotSession.answerHello symbolicSuite entry idA challengeA (.name (.challengeB index))
        (.scalar (.ephemeralB index)) with
    | none => ({ session with closed := true }, [])
    | some challenge => ({ session with challenge := some challenge },
        [.name .idB, challenge.challengeB, challenge.ephPkB, challenge.serverProof])

/-- A session's reaction to a response, and what it sends. -/
def ServerSession.response (session : ServerSession) (challenge : RotSession.Challenge Value)
    (ephPkA deviceProof : Value) : ServerSession × List Value :=
  match RotSession.acceptResponse symbolicSuite (.name .idB) challenge ephPkA deviceProof with
  | .error _ => ({ session with closed := true }, [])
  | .ok keyAb => ({ session with established := some (ephPkA, keyAb) },
      [.name (.text "session_ack")])

/-- One call of `rot_session_handshake` on a node, and the demo messages after it. -/
structure DeviceRun where
  node : Nat
  opening : DeviceSession.Opening Value
  signed : Option (DeviceSession.Signed Value) := none
  keyAb : Option Value := none
  payloads : List Value := []
  closed : Bool := false

/-- What run `index` of a node starts with: the node is pinned to its verifier. -/
def deviceOpening (node index : Nat) : DeviceSession.Opening Value :=
  DeviceSession.openHandshake symbolicSuite (.name (.idA node)) (.name .idB)
    (.name (.verifier node)) (.scalar (.identity node)) (.name (.challengeA index))
    (.scalar (.ephemeralA index))

/-- A run's reaction to a challenge message, and what it sends. -/
def DeviceRun.challenge (run : DeviceRun) (idB challengeB ephPkB serverProof : Value) :
    DeviceRun × List Value :=
  match DeviceSession.checkChallenge symbolicSuite run.opening idB challengeB ephPkB
      serverProof with
  | none => ({ run with closed := true }, [])
  | some signed => ({ run with signed := some signed }, [run.opening.ephPkA, signed.sig])

/-- A run's reaction to the fourth message. -/
def DeviceRun.ack (run : DeviceRun) (signed : DeviceSession.Signed Value) (type : Value) :
    DeviceRun :=
  if type = .name (.text "session_ack") then
    match DeviceSession.finishHandshake symbolicSuite run.opening signed with
    | none => { run with closed := true }
    | some keyAb => { run with keyAb := some keyAb }
  else { run with closed := true }

/-- All sessions and runs so far, and what the attacker has seen. -/
structure World where
  sessions : List ServerSession
  runs : List DeviceRun
  known : Set Value

/-- What the attacker knows from the start: identifiers, constants, application data,
every node's public key, and its own names and keys. -/
inductive Public : Value → Prop where
  | text (label : String) : Public (.name (.text label))
  | idA (node : Nat) : Public (.name (.idA node))
  | idB : Public (.name .idB)
  | nonce (run count : Nat) : Public (.name (.nonce run count))
  | payload (index : Nat) : Public (.name (.payload index))
  | inventedName (index : Nat) : Public (.name (.invented index))
  | inventedScalar (index : Nat) : Public (.scalar (.invented index))
  | identityKey (node : Nat) : Public (.point {.identity node})

/-- Nothing has happened. -/
def World.initial : World := { sessions := [], runs := [], known := { value | Public value } }

/-- The world after a session acted. -/
def World.withSession (world : World) (index : Nat) (outcome : ServerSession × List Value) :
    World :=
  { world with
    sessions := world.sessions.set index outcome.1
    known := world.known ∪ { value | value ∈ outcome.2 } }

/-- The world after a run acted. -/
def World.withRun (world : World) (index : Nat) (outcome : DeviceRun × List Value) : World :=
  { world with
    runs := world.runs.set index outcome.1
    known := world.known ∪ { value | value ∈ outcome.2 } }

/-- What the attacker may obtain beyond the traffic. -/
inductive Power where
  | identity (node : Nat)
  | verifier (node : Nat)
  | ephemeralA (run : Nat)
  | ephemeralB (session : Nat)

/-- The value a power discloses. -/
def Power.value : Power → Value
  | .identity node => .scalar (.identity node)
  | .verifier node => .name (.verifier node)
  | .ephemeralA run => .scalar (.ephemeralA run)
  | .ephemeralB session => .scalar (.ephemeralB session)

/-- One step of one party, or of the attacker. A party that is waiting for a message
takes any derivable one. -/
inductive Step (registered : Nat → Bool) (powers : Set Power) : World → World → Prop where
  | connect (world : World) :
      Step registered powers world { world with sessions := world.sessions ++ [{}] }
  | hello (world : World) (index : Nat) (session : ServerSession) (idA challengeA : Value)
      (present : world.sessions[index]? = some session) (isOpen : session.closed = false)
      (waiting : session.challenge = none) (derivesIdA : Derives world.known idA)
      (derivesChallengeA : Derives world.known challengeA) :
      Step registered powers world
        (world.withSession index (session.hello registered index idA challengeA))
  | response (world : World) (index : Nat) (session : ServerSession)
      (challenge : RotSession.Challenge Value) (ephPkA deviceProof : Value)
      (present : world.sessions[index]? = some session) (isOpen : session.closed = false)
      (challenged : session.challenge = some challenge) (waiting : session.established = none)
      (derivesEphPkA : Derives world.known ephPkA) (derivesProof : Derives world.known deviceProof) :
      Step registered powers world
        (world.withSession index (session.response challenge ephPkA deviceProof))
  | data (world : World) (index : Nat) (session : ServerSession) (ephPkA keyAb nonce body : Value)
      (present : world.sessions[index]? = some session)
      (established : session.established = some (ephPkA, keyAb))
      (derivesBox : Derives world.known (.box keyAb nonce body)) :
      Step registered powers world
        (world.withSession index ({ session with payloads := session.payloads ++ [body] }, []))
  | start (world : World) (node : Nat) :
      Step registered powers world
        { world with
          runs := world.runs ++ [{ node, opening := deviceOpening node world.runs.length }]
          known := world.known ∪
            {.name (.idA node), .name (.challengeA world.runs.length)} }
  | challenge (world : World) (index : Nat) (run : DeviceRun)
      (idB challengeB ephPkB serverProof : Value) (present : world.runs[index]? = some run)
      (isOpen : run.closed = false) (waiting : run.signed = none)
      (derivesIdB : Derives world.known idB) (derivesChallengeB : Derives world.known challengeB)
      (derivesEphPkB : Derives world.known ephPkB) (derivesProof : Derives world.known serverProof) :
      Step registered powers world
        (world.withRun index (run.challenge idB challengeB ephPkB serverProof))
  | ack (world : World) (index : Nat) (run : DeviceRun) (signed : DeviceSession.Signed Value)
      (type : Value) (present : world.runs[index]? = some run) (isOpen : run.closed = false)
      (responded : run.signed = some signed) (waiting : run.keyAb = none)
      (derivesType : Derives world.known type) :
      Step registered powers world (world.withRun index (run.ack signed type, []))
  | encrypt (world : World) (index : Nat) (run : DeviceRun) (keyAb : Value) (payload : Nat)
      (present : world.runs[index]? = some run) (finished : run.keyAb = some keyAb) :
      Step registered powers world
        (world.withRun index
          ({ run with payloads := run.payloads ++ [.name (.payload payload)] },
            [.box keyAb (.name (.nonce index run.payloads.length)) (.name (.payload payload))]))
  | reveal (world : World) (power : Power) (obtained : power ∈ powers) :
      Step registered powers world { world with known := insert power.value world.known }

/-- The worlds that occur. -/
def Reachable (registered : Nat → Bool) (powers : Set Power) (world : World) : Prop :=
  Relation.ReflTransGen (Step registered powers) World.initial world

/-! ### What the parties compute -/

/-- The challenge of session `index` to a registered node. -/
def serverChallenge (node index : Nat) (challengeA : Value) : RotSession.Challenge Value where
  idA := .name (.idA node)
  challengeA := challengeA
  pkA := .point {.identity node}
  shsB := .name (.verifier node)
  challengeB := .name (.challengeB index)
  ephSkB := .scalar (.ephemeralB index)
  ephPkB := .point {.ephemeralB index}
  serverProof := .hash (tuple [.name (.verifier node), challengeA, .point {.ephemeralB index}])

/-- The key of session `index` with a node and a peer point. -/
def serverKey (node index : Nat) (challengeA : Value) (factors : Multiset Secret) : Value :=
  .hash (tuple [.shared (.ephemeralB index ::ₘ factors), .name (.verifier node), challengeA,
    .name (.challengeB index)])

/-- What run `index` of a node signs for a challenge. -/
def deviceDigest (node index : Nat) (challengeB ephPkB : Value) : Value :=
  .hash (tuple [.name (.text DeviceSession.deviceProofDomainTag), .name (.idA node), .name .idB,
    challengeB, .name (.challengeA index), .point {.ephemeralA index}, ephPkB,
    .hash (tuple [.name (.verifier node), .name (.challengeA index), ephPkB])])

/-- The accepted challenge of run `index`, with its signature. -/
def deviceSigned (node index : Nat) (challengeB ephPkB : Value) : DeviceSession.Signed Value where
  idBClaimed := .name .idB
  challengeB := challengeB
  ephPkB := ephPkB
  serverProof := .hash (tuple [.name (.verifier node), .name (.challengeA index), ephPkB])
  sig := .signature (.identity node) (deviceDigest node index challengeB ephPkB)

/-- The key of run `index` with a peer point. -/
def deviceKey (node index : Nat) (challengeB : Value) (factors : Multiset Secret) : Value :=
  .hash (tuple [.shared (.ephemeralA index ::ₘ factors), .name (.verifier node),
    .name (.challengeA index), challengeB])

/-- A hello is answered for registered nodes only, with the challenge above. -/
theorem hello_cases (registered : Nat → Bool) (index : Nat) (session : ServerSession)
    (idA challengeA : Value) :
    session.hello registered index idA challengeA = ({ session with closed := true }, []) ∨
      ∃ node, idA = .name (.idA node) ∧ registered node = true ∧
        session.hello registered index idA challengeA =
          ({ session with challenge := some (serverChallenge node index challengeA) },
            [.name .idB, .name (.challengeB index), .point {.ephemeralB index},
              (serverChallenge node index challengeA).serverProof]) := by
  unfold ServerSession.hello
  cases found : registry registered idA with
  | none => exact .inl rfl
  | some entry =>
    unfold registry at found
    split at found
    · rename_i node
      by_cases isRegistered : registered node = true
      · rw [if_pos isRegistered, Option.some.injEq] at found
        subst found
        exact .inr ⟨node, rfl, isRegistered, rfl⟩
      · simp [isRegistered] at found
    · cases found

/-- A response establishes the session only with a point and the node's signature
over the session's own transcript. -/
theorem response_cases (session : ServerSession) (node index : Nat)
    (challengeA ephPkA deviceProof : Value) :
    session.response (serverChallenge node index challengeA) ephPkA deviceProof =
        ({ session with closed := true }, []) ∨
      ∃ factors, ephPkA = .point factors ∧
        deviceProof = .signature (.identity node) (RotSession.msgHash symbolicSuite (.name .idB)
          (serverChallenge node index challengeA) ephPkA) ∧
        session.response (serverChallenge node index challengeA) ephPkA deviceProof =
          ({ session with
              established := some (ephPkA, serverKey node index challengeA factors) },
            [.name (.text "session_ack")]) := by
  cases ephPkA with
  | point factors =>
    by_cases verified : symbolicSuite.verify (.point {.identity node})
        (RotSession.msgHash symbolicSuite (.name .idB) (serverChallenge node index challengeA)
          (.point factors)) deviceProof = true
    · refine .inr ⟨factors, rfl, ?_, ?_⟩
      · cases deviceProof with
        | signature signer digest =>
          simp only [symbolicSuite, Bool.and_eq_true, beq_iff_eq] at verified
          obtain ⟨same, rfl⟩ := verified
          obtain rfl : Secret.identity node = signer := by simpa using same
          rfl
        | _ => exact absurd verified Bool.false_ne_true
      · have accepted : RotSession.acceptResponse symbolicSuite (.name .idB)
            (serverChallenge node index challengeA) (.point factors) deviceProof =
              .ok (serverKey node index challengeA factors) := by
          unfold RotSession.acceptResponse
          rw [if_neg (by simp [symbolicSuite]), if_neg (by simpa [serverChallenge] using verified)]
          rfl
        unfold ServerSession.response
        rw [accepted]
    · refine .inl ?_
      have refused : RotSession.acceptResponse symbolicSuite (.name .idB)
          (serverChallenge node index challengeA) (.point factors) deviceProof =
            .error .signatureInvalid := by
        unfold RotSession.acceptResponse
        rw [if_neg (by simp [symbolicSuite]), if_pos (by simpa [serverChallenge] using verified)]
      unfold ServerSession.response
      rw [refused]
  | _ => exact .inl rfl

/-- A challenge is signed only with the proof over the run's own nonce. -/
theorem challenge_cases (run : DeviceRun) (index : Nat)
    (opened : run.opening = deviceOpening run.node index)
    (idB challengeB ephPkB serverProof : Value) :
    run.challenge idB challengeB ephPkB serverProof = ({ run with closed := true }, []) ∨
      idB = .name .idB ∧ serverProof = (deviceSigned run.node index challengeB ephPkB).serverProof ∧
        run.challenge idB challengeB ephPkB serverProof =
          ({ run with signed := some (deviceSigned run.node index challengeB ephPkB) },
            [.point {.ephemeralA index},
              (deviceSigned run.node index challengeB ephPkB).sig]) := by
  unfold DeviceRun.challenge
  cases checked : DeviceSession.checkChallenge symbolicSuite run.opening idB challengeB ephPkB
      serverProof with
  | none => exact .inl rfl
  | some signed =>
    rw [DeviceSession.checkChallenge_eq_some, opened] at checked
    obtain ⟨rfl, rfl, rfl⟩ := checked
    rw [opened]
    exact .inr ⟨rfl, rfl, rfl⟩

/-- The fourth message finishes a run only if it is the acknowledgement and the peer's
key is a point. -/
theorem ack_cases (run : DeviceRun) (index : Nat)
    (opened : run.opening = deviceOpening run.node index) (challengeB ephPkB type : Value) :
    run.ack (deviceSigned run.node index challengeB ephPkB) type = { run with closed := true } ∨
      ∃ factors, ephPkB = .point factors ∧ type = .name (.text "session_ack") ∧
        run.ack (deviceSigned run.node index challengeB ephPkB) type =
          { run with keyAb := some (deviceKey run.node index challengeB factors) } := by
  unfold DeviceRun.ack
  by_cases isAck : type = .name (.text "session_ack")
  · rw [if_pos isAck, opened]
    cases ephPkB with
    | point factors => exact .inr ⟨factors, rfl, isAck, rfl⟩
    | _ => exact .inl rfl
  · rw [if_neg isAck]
    exact .inl rfl

end Microgrid.SymbolicNetwork
