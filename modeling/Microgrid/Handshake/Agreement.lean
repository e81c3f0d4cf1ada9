import Microgrid.Handshake.HonestExchange

/-!
# What the handshake guarantees against an active attacker

Read off the invariant of the network: an authenticated session was answered by one
run of the node that signed its whole transcript, a run that signed was challenged
by a session that had received its hello, and the key both derive stays secret as
long as the two ephemeral keys do.

The two sides are not symmetric. The server's proof covers neither `challenge_b` nor
the acknowledgement, and the acknowledgement is a constant. A run that returns `true`
therefore knows which session generated the key it exchanged with, but not that this
session has accepted it, or ever will.
-/

namespace Microgrid.SymbolicNetwork

open Handshake SymbolicKnowledge SymbolicKnowledge.Term

variable {registered : Nat → Bool} {powers : Set Power} {world before after : World}

/-- The session was addressed by this node. -/
def ServerSession.IsFor (session : ServerSession) (node : Nat) : Prop :=
  ∃ challenge, session.challenge = some challenge ∧ challenge.idA = .name (.idA node)

/-- The run signed exactly the transcript of the authenticated session. -/
def Matches (run : DeviceRun) (session : ServerSession) : Prop :=
  ∃ signed challenge ephPkA keyAb, run.signed = some signed ∧
    session.challenge = some challenge ∧ session.established = some (ephPkA, keyAb) ∧
    [run.opening.idA, signed.idBClaimed, signed.challengeB, run.opening.challengeA,
        run.opening.ephPkA, signed.ephPkB, signed.serverProof] =
      [challenge.idA, .name .idB, challenge.challengeB, challenge.challengeA, ephPkA,
        challenge.ephPkB, challenge.serverProof] ∧
    signed.sig = .signature (.identity run.node)
      (RotSession.msgHash symbolicSuite (.name .idB) challenge ephPkA)

/-- A session of a node was addressed in one way only. -/
theorem isFor_challenge {session : ServerSession} {node other index : Nat} {challengeA : Value}
    (isFor : session.IsFor node)
    (made : session.challenge = some (serverChallenge other index challengeA)) : other = node := by
  obtain ⟨challenge, same, addressed⟩ := isFor
  rw [made, Option.some.injEq] at same
  subst same
  simpa [serverChallenge] using addressed

/-- An authenticated session is matched by a run, unless the node's key is known. -/
theorem matching_run (sound : Sound registered powers world) {node index : Nat}
    {session : ServerSession} (present : world.sessions[index]? = some session)
    (authenticated : session.authenticated = true) (isFor : session.IsFor node)
    (unknownKey : ¬ Derives world.known (.scalar (.identity node))) :
    ∃ (run : Nat) (deviceRun : DeviceRun), world.runs[run]? = some deviceRun ∧
      deviceRun.node = node ∧ Matches deviceRun session := by
  obtain ⟨⟨ephPkA, keyAb⟩, isEstablished⟩ := Option.isSome_iff_exists.mp authenticated
  obtain ⟨other, challengeA, factors, made, rfl, rfl, source⟩ :=
    (sound.sessions index session present).established ephPkA keyAb isEstablished
  obtain rfl := isFor_challenge isFor made
  rcases source with stolen | ⟨run, ⟨deviceRun, isRun, rfl, isSigned⟩, rfl, rfl⟩
  · exact absurd stolen unknownKey
  · have opening := (sound.runs run deviceRun isRun).opening
    refine ⟨run, deviceRun, isRun, rfl, _, _, _, _, isSigned, made, isEstablished, ?_, rfl⟩
    rw [opening]
    rfl

/-- Two sessions matched by one run are one session: the run signed its `challenge_b`. -/
theorem matches_injective (sound : Sound registered powers world) {run : DeviceRun}
    {index other : Nat} {session next : ServerSession}
    (present : world.sessions[index]? = some session)
    (isNext : world.sessions[other]? = some next) (first : Matches run session)
    (second : Matches run next) : index = other := by
  obtain ⟨signed, challenge, _, _, isSigned, made, _, fields, _⟩ := first
  obtain ⟨again, remade, _, _, isAgain, made', _, fields', _⟩ := second
  obtain rfl : signed = again := by simpa [isSigned] using isAgain
  obtain ⟨node, challengeA, _, rfl⟩ := (sound.sessions index session present).challenge _ made
  obtain ⟨node', challengeA', _, rfl⟩ := (sound.sessions other next isNext).challenge _ made'
  simp only [serverChallenge, List.cons.injEq] at fields fields'
  have same : Term.name (Label.challengeB index) = .name (.challengeB other) :=
    fields.2.2.1.symm.trans fields'.2.2.1
  simpa using same

/-! ### Secrecy -/

/-- Exchanged coordinates are never sent. -/
theorem traffic_shared {factors : Multiset Secret} :
    ¬ Traffic powers world (.shared factors) := by
  intro traffic
  generalize shape : Term.shared factors = value at traffic
  cases traffic with
  | isPublic isPublic => cases isPublic <;> cases shape
  | @disclosed power obtained => cases power <;> cases shape
  | _ => cases shape

/-- Points in the traffic are public keys. -/
theorem traffic_point {factors : Multiset Secret}
    (traffic : Traffic powers world (.point factors)) : factors.card ≤ 1 := by
  generalize shape : Term.point factors = value at traffic
  cases traffic with
  | isPublic isPublic =>
    cases isPublic <;> cases shape
    simp
  | @disclosed power obtained => cases power <;> cases shape
  | ephemeralA run =>
    cases shape
    simp
  | ephemeralB session =>
    cases shape
    simp
  | _ => cases shape

/-- Hashes in the traffic are server proofs, of three fields. -/
theorem traffic_hash {fields : List Value} (traffic : Traffic powers world (.hash (tuple fields))) :
    fields.length = 3 := by
  generalize shape : Term.hash (tuple fields) = value at traffic
  cases traffic with
  | isPublic isPublic => cases isPublic <;> cases shape
  | @disclosed power obtained => cases power <;> cases shape
  | serverProof challenged =>
    simp only [serverChallenge, Term.hash.injEq, tuple_inj] at shape
    simp [shape]
  | _ => cases shape

/-- A key is secret while both exchanged private keys are. -/
theorem key_secret (sound : Sound registered powers world) {first second : Secret}
    (firstSecret : ¬ Derives world.known (.scalar first))
    (secondSecret : ¬ Derives world.known (.scalar second)) (verifier nonceA nonceB : Value) :
    ¬ Derives world.known
      (.hash (tuple [.shared (first ::ₘ {second}), verifier, nonceA, nonceB])) := by
  intro derived
  rcases derives_hash derived with occurs | preimage
  · have three := traffic_hash (traffic_of_occurs sound occurs)
    simp at three
  · have shared := (derives_tuple _).mp preimage (.shared (first ::ₘ {second})) (by simp)
    exact exchange_secret (fun _ occurs => traffic_shared (traffic_of_occurs sound occurs))
      (fun _ occurs => traffic_point (traffic_of_occurs sound occurs)) firstSecret secondSecret
      shared

/-- Private keys are learnt by power only. -/
theorem scalar_disclosed (sound : Sound registered powers world) {secret : Secret}
    (derived : Derives world.known (.scalar secret)) :
    (∃ index, secret = .invented index) ∨ ∃ power ∈ powers, power.value = .scalar secret := by
  have traffic := traffic_of_occurs sound (derives_scalar derived)
  generalize shape : Term.scalar secret = value at traffic
  cases traffic with
  | isPublic isPublic =>
    cases isPublic <;> cases shape
    exact .inl ⟨_, rfl⟩
  | disclosed obtained => exact .inr ⟨_, obtained, rfl⟩
  | _ => cases shape

/-- Verifiers are learnt by power only. -/
theorem verifier_disclosed (sound : Sound registered powers world) {node : Nat}
    (derived : Derives world.known (.name (.verifier node))) : .verifier node ∈ powers := by
  have traffic := traffic_of_occurs sound (derives_name derived)
  generalize shape : Term.name (Label.verifier node) = value at traffic
  cases traffic with
  | isPublic isPublic => cases isPublic <;> cases shape
  | @disclosed power obtained =>
    cases power <;> cases shape
    exact obtained
  | _ => cases shape

/-- Powers disclose different values. -/
theorem value_injective : Function.Injective Power.value := by
  intro first second same
  cases first <;> cases second <;> simp_all [Power.value]

/-- A private key that nobody may reveal stays unknown. -/
theorem scalar_unknown (reachable : Reachable registered powers world) (power : Power)
    {secret : Secret} (discloses : power.value = .scalar secret) (withheld : power ∉ powers) :
    ¬ Derives world.known (.scalar secret) := by
  intro derived
  rcases scalar_disclosed (sound_reachable reachable) derived with
    ⟨index, rfl⟩ | ⟨other, obtained, same⟩
  · cases power <;> cases discloses
  · exact withheld (value_injective (same.trans discloses.symm) ▸ obtained)

/-! ### The guarantees -/

/-- Injective agreement on the server's side: every session authenticated for a node
whose key the attacker does not hold is matched by a run of that node that signed its
transcript, and no run matches two sessions. -/
theorem server_injective_agreement (reachable : Reachable registered powers world) (node : Nat)
    (unknownKey : ¬ Derives world.known (.scalar (.identity node))) :
    (∀ (index : Nat) (session : ServerSession), world.sessions[index]? = some session →
      session.authenticated = true → session.IsFor node →
        ∃ (run : Nat) (deviceRun : DeviceRun), world.runs[run]? = some deviceRun ∧
          deviceRun.node = node ∧ Matches deviceRun session) ∧
    ∀ (index other : Nat) (session next : ServerSession) (run : Nat) (deviceRun : DeviceRun),
      world.sessions[index]? = some session → world.sessions[other]? = some next →
        world.runs[run]? = some deviceRun → Matches deviceRun session → Matches deviceRun next →
          index = other := by
  have sound := sound_reachable reachable
  exact ⟨fun index session present authenticated isFor =>
      matching_run sound present authenticated isFor unknownKey,
    fun index other session next _ _ present isNext _ first second =>
      matches_injective sound present isNext first second⟩

/-- An attacker who holds every verifier, in a world where a session is authenticated. -/
theorem honest_server_agreement : ∃ (world : World) (session : ServerSession) (run : Nat)
    (deviceRun : DeviceRun),
    Reachable (fun _ => true) {power | ∃ node, power = .verifier node} world ∧
      world.sessions[0]? = some session ∧ session.authenticated = true ∧
      world.runs[run]? = some deviceRun ∧ deviceRun.node = 7 ∧ Matches deviceRun session := by
  obtain ⟨before, world, last, reaches, responds, acks, _, authenticated, kept, _⟩ :=
    exchange_completes (fun _ => true) {power | ∃ node, power = .verifier node} 7 rfl
  have reachable := (reaches.tail responds).tail acks
  have present : last.sessions[0]? = some (authenticatedSession 7 0 0) := by
    simp [kept, authenticated]
  obtain ⟨run, deviceRun, isRun, ofNode, matched⟩ := (server_injective_agreement reachable 7
    (scalar_unknown reachable (.identity 7) rfl (by simp))).1 0 _ present rfl ⟨_, rfl, rfl⟩
  exact ⟨last, _, run, deviceRun, reachable, present, rfl, isRun, ofNode, matched⟩

/-- The key of a session is the key of the run whose signature it accepted. -/
theorem keys_agree (node run session : Nat) :
    serverKey node session (.name (.challengeA run)) {.ephemeralA run} =
      deviceKey node run (.name (.challengeB session)) {.ephemeralB session} := by
  simp only [serverKey, deviceKey, ← Multiset.cons_zero, Multiset.cons_swap]

/-- What a run that returned knows about the server, while both of the node's long-term
secrets are unknown to the attacker: one session made the challenge for this run's
identifier and nonce, and if that session is authenticated at all, the two agree on
everything else, the key included. -/
theorem device_agreement (reachable : Reachable registered powers world) {index : Nat}
    {run : DeviceRun} {keyAb : Value} (present : world.runs[index]? = some run)
    (returned : run.keyAb = some keyAb)
    (unknownKey : ¬ Derives world.known (.scalar (.identity run.node)))
    (unknownVerifier : ¬ Derives world.known (.name (.verifier run.node))) :
    ∃ (signed : DeviceSession.Signed Value) (origin : Nat) (session : ServerSession)
        (challenge : RotSession.Challenge Value),
      run.signed = some signed ∧ world.sessions[origin]? = some session ∧
      session.challenge = some challenge ∧ challenge.idA = run.opening.idA ∧
      challenge.challengeA = run.opening.challengeA ∧ challenge.ephPkB = signed.ephPkB ∧
      ∀ ephPkA key, session.established = some (ephPkA, key) →
        challenge.challengeB = signed.challengeB ∧ ephPkA = run.opening.ephPkA ∧ key = keyAb := by
  have sound := sound_reachable reachable
  have ofRun := sound.runs index run present
  obtain ⟨challengeB, factors, isSigned, rfl⟩ := ofRun.keyAb keyAb returned
  obtain ⟨_, ephPkB, same, source⟩ := ofRun.signed _ isSigned
  obtain ⟨origin, ⟨session, isSession, made⟩, isPoint⟩ :=
    source.resolve_left unknownVerifier
  simp only [deviceSigned, DeviceSession.Signed.mk.injEq] at same
  obtain ⟨-, rfl, rfl, -⟩ := same
  rw [Term.point.injEq] at isPoint
  subst isPoint
  refine ⟨_, origin, session, _, isSigned, isSession, made, ?_, ?_, rfl, ?_⟩
  · rw [ofRun.opening]
    rfl
  · rw [ofRun.opening]
    rfl
  · intro ephPkA key isEstablished
    obtain ⟨node, challengeA, factors, remade, rfl, rfl, answered⟩ :=
      (sound.sessions origin session isSession).established ephPkA key isEstablished
    rw [made, Option.some.injEq] at remade
    obtain rfl : run.node = node := by simpa [serverChallenge] using congrArg (·.idA) remade
    obtain rfl : Term.name (.challengeA index) = challengeA := congrArg (·.challengeA) remade
    obtain ⟨signing, ⟨signer, isSigner, _, again⟩, own, rfl⟩ := answered.resolve_left unknownKey
    obtain rfl : index = signing := by simpa using own
    obtain rfl : run = signer := by simpa [present] using isSigner
    rw [isSigned, Option.some.injEq] at again
    obtain rfl : challengeB = .name (.challengeB origin) := congrArg (·.challengeB) again
    refine ⟨rfl, ?_, keys_agree _ _ _⟩
    rw [ofRun.opening]
    rfl

/-- Returning `true` does not mean that a session is authenticated: nothing but the constant
`session_ack` follows the response, so the attacker can answer in the server's place. -/
theorem forged_acknowledgement : ¬ ∀ (world : World), Reachable (fun _ => true) ∅ world →
    ∀ (index : Nat) (run : DeviceRun) (signed : DeviceSession.Signed Value) (keyAb : Value),
      world.runs[index]? = some run → run.signed = some signed → run.keyAb = some keyAb →
      ¬ Derives world.known (.scalar (.identity run.node)) →
      ¬ Derives world.known (.name (.verifier run.node)) →
        ∃ session ∈ world.sessions, ∃ challenge, session.challenge = some challenge ∧
          session.established = some (run.opening.ephPkA, keyAb) ∧
          challenge.idA = run.opening.idA ∧ challenge.challengeA = run.opening.challengeA ∧
          challenge.challengeB = signed.challengeB ∧ challenge.ephPkB = signed.ephPkB := by
  intro completes
  obtain ⟨world, reachable, sessions, runs⟩ :=
    exchange_forged (fun _ => true) ∅ 7 rfl
  have unknownVerifier : ¬ Derives world.known (.name (.verifier 7)) := fun derived =>
    verifier_disclosed (sound_reachable reachable) derived
  obtain ⟨session, member, challenge, _, established, _⟩ := completes world reachable 0
    (finishedRun 7 0 0) _ _ (by simp [runs]) rfl rfl
    (scalar_unknown reachable (.identity 7) rfl (by simp)) unknownVerifier
  obtain rfl : session = challengedSession 7 0 0 := by simpa [sessions] using member
  cases established

/-- A run that returned after an exchange that the attacker left alone. -/
theorem honest_device_agreement : ∃ (world : World) (session : ServerSession)
    (challenge : RotSession.Challenge Value) (keyAb : Value),
    Reachable (fun _ => true) ∅ world ∧ world.runs[0]? = some (finishedRun 7 0 0) ∧
      (finishedRun 7 0 0).keyAb = some keyAb ∧ session ∈ world.sessions ∧
      session.challenge = some challenge ∧ challenge.challengeA = .name (.challengeA 0) ∧
      session.established = some (.point {.ephemeralA 0}, keyAb) := by
  obtain ⟨before, after, world, reaches, responds, acks, _, authenticated, kept, runs⟩ :=
    exchange_completes (fun _ => true) ∅ 7 rfl
  have reachable := (reaches.tail responds).tail acks
  have unknownVerifier : ¬ Derives world.known (.name (.verifier 7)) := fun derived =>
    verifier_disclosed (sound_reachable reachable) derived
  have present : world.runs[0]? = some (finishedRun 7 0 0) := by simp [runs]
  obtain ⟨signed, origin, session, challenge, _, isSession, made, _, nonce, _, agrees⟩ :=
    device_agreement reachable present rfl
      (scalar_unknown reachable (.identity 7) rfl (by simp)) unknownVerifier
  have member : session ∈ world.sessions := List.mem_of_getElem? isSession
  obtain rfl : session = authenticatedSession 7 0 0 := by
    simpa [kept, authenticated] using member
  obtain ⟨_, _, same⟩ := agrees _ _ rfl
  exact ⟨world, _, challenge, _, reachable, present, rfl, member, made, nonce, by rw [← same]; rfl⟩

/-- Server authentication: the proof a run accepts is the one that a session made for this
run's identifier and nonce and for its own ephemeral key, unless the attacker holds the
node's verifier. So the key the run derives is secret. -/
theorem accepted_proof_genuine (reachable : Reachable registered powers world) {index : Nat}
    {run : DeviceRun} {signed : DeviceSession.Signed Value}
    (present : world.runs[index]? = some run) (passed : run.signed = some signed)
    (unknownVerifier : ¬ Derives world.known (.name (.verifier run.node))) :
    ∃ (origin : Nat) (session : ServerSession) (challenge : RotSession.Challenge Value),
      world.sessions[origin]? = some session ∧ session.challenge = some challenge ∧
      challenge.idA = run.opening.idA ∧ challenge.challengeA = run.opening.challengeA ∧
      signed.serverProof = challenge.serverProof ∧ signed.ephPkB = challenge.ephPkB ∧
      challenge.ephPkB = .point {.ephemeralB origin} ∧
      (.ephemeralA index ∉ powers → .ephemeralB origin ∉ powers →
        ∀ keyAb, run.keyAb = some keyAb → ¬ Derives world.known keyAb) := by
  have sound := sound_reachable reachable
  have ofRun := sound.runs index run present
  obtain ⟨challengeB, ephPkB, rfl, source⟩ := ofRun.signed signed passed
  obtain ⟨origin, ⟨session, isSession, made⟩, rfl⟩ := source.resolve_left unknownVerifier
  refine ⟨origin, session, _, isSession, made, ?_, ?_, rfl, rfl, rfl, ?_⟩
  · rw [ofRun.opening]
    rfl
  · rw [ofRun.opening]
    rfl
  · intro withheldA withheldB keyAb returned
    obtain ⟨_, factors, again, rfl⟩ := ofRun.keyAb keyAb returned
    rw [passed, Option.some.injEq] at again
    obtain rfl : {.ephemeralB origin} = factors := by
      simpa [deviceSigned] using congrArg (·.ephPkB) again
    exact key_secret sound (scalar_unknown reachable (.ephemeralA index) rfl withheldA)
      (scalar_unknown reachable (.ephemeralB origin) rfl withheldB) _ _ _

/-- An attacker who holds every other node's verifier and private key. -/
theorem honest_proof_genuine : ∃ (world : World) (origin : Nat) (session : ServerSession)
    (challenge : RotSession.Challenge Value) (keyAb : Value),
    Reachable (fun _ => true)
        {power | ∃ node, node ≠ 7 ∧ (power = .verifier node ∨ power = .identity node)} world ∧
      world.runs[0]? = some (finishedRun 7 0 0) ∧ world.sessions[origin]? = some session ∧
      session.challenge = some challenge ∧ challenge.challengeA = .name (.challengeA 0) ∧
      (finishedRun 7 0 0).keyAb = some keyAb ∧ ¬ Derives world.known keyAb := by
  obtain ⟨before, after, world, reaches, responds, acks, _, _, _, runs⟩ := exchange_completes
    (fun _ => true) {power | ∃ node, node ≠ 7 ∧ (power = .verifier node ∨ power = .identity node)}
    7 rfl
  have reachable := (reaches.tail responds).tail acks
  have unknownVerifier : ¬ Derives world.known (.name (.verifier 7)) := by
    intro derived
    simpa using verifier_disclosed (sound_reachable reachable) derived
  have present : world.runs[0]? = some (finishedRun 7 0 0) := by simp [runs]
  obtain ⟨origin, session, challenge, isSession, made, _, nonce, _, _, _, secret⟩ :=
    accepted_proof_genuine reachable present rfl unknownVerifier
  exact ⟨world, origin, session, challenge, _, reachable, present, isSession, made, nonce, rfl,
    secret (by simp) (by simp) _ rfl⟩

/-! ### Forward secrecy -/

/-- What a session put in place is there, and the others stay. -/
theorem withSession_cases {index other : Nat} {outcome : ServerSession × List Value}
    {next : ServerSession} (isNext : (world.withSession index outcome).sessions[other]? = some next) :
    index = other ∧ next = outcome.1 ∨ world.sessions[other]? = some next := by
  by_cases same : index = other
  · subst same
    obtain ⟨inside, isOutcome⟩ := List.getElem?_eq_some_iff.mp isNext
    exact .inl ⟨rfl, by simpa [World.withSession] using isOutcome.symm⟩
  · exact .inr (by simpa [World.withSession, same] using isNext)

/-- A session becomes authenticated only by accepting a derivable response. -/
theorem acceptance_cases (step : Step registered powers before after) {index : Nat}
    {session next : ServerSession} {ephPkA keyAb : Value}
    (present : before.sessions[index]? = some session) (waiting : session.established = none)
    (isNext : after.sessions[index]? = some next)
    (accepted : next.established = some (ephPkA, keyAb)) :
    ∃ (challenge : RotSession.Challenge Value) (offered deviceProof : Value),
      session.challenge = some challenge ∧ Derives before.known deviceProof ∧
      next = (session.response challenge offered deviceProof).1 := by
  -- a session that was there already contradicts the new key
  have unchanged (still : before.sessions[index]? = some next) : False := by
    rw [present, Option.some.injEq] at still
    subst still
    simp [waiting] at accepted
  cases step with
  | connect =>
    rw [List.getElem?_append_left (List.getElem?_eq_some_iff.mp present).1] at isNext
    exact (unchanged isNext).elim
  | hello other old idA challengeA isOld _ _ _ _ =>
    rcases withSession_cases isNext with ⟨rfl, rfl⟩ | still
    · obtain rfl : session = old := by simpa [present] using isOld
      rcases hello_cases registered other session idA challengeA with
        refused | ⟨node, _, _, answered⟩
      · simp [refused, waiting] at accepted
      · simp [answered, waiting] at accepted
    · exact (unchanged still).elim
  | response other old challenge offered deviceProof isOld _ challenged _ _ derivesProof =>
    rcases withSession_cases isNext with ⟨rfl, rfl⟩ | still
    · obtain rfl : session = old := by simpa [present] using isOld
      exact ⟨challenge, offered, deviceProof, challenged, derivesProof, rfl⟩
    · exact (unchanged still).elim
  | data other old _ _ _ _ isOld established _ =>
    rcases withSession_cases isNext with ⟨rfl, rfl⟩ | still
    · obtain rfl : session = old := by simpa [present] using isOld
      simp [waiting] at established
    · exact (unchanged still).elim
  | start node => exact (unchanged isNext).elim
  | challenge => exact (unchanged isNext).elim
  | ack => exact (unchanged isNext).elim
  | encrypt => exact (unchanged isNext).elim
  | reveal => exact (unchanged isNext).elim

/-- Forward secrecy: the key of a session that accepts while the node's private key is
unknown stays secret in every later world, whatever is revealed then, as long as the
ephemeral keys of the session and of the run that answered it are not. -/
theorem accepted_key_stays_secret (reachable : Reachable registered powers before)
    (step : Step registered powers before after) {node index : Nat}
    {session next : ServerSession} {ephPkA keyAb : Value}
    (present : before.sessions[index]? = some session) (waiting : session.established = none)
    (isNext : after.sessions[index]? = some next)
    (accepted : next.established = some (ephPkA, keyAb)) (isFor : next.IsFor node)
    (unknownKey : ¬ Derives before.known (.scalar (.identity node))) :
    ∃ run : Nat, ephPkA = .point {.ephemeralA run} ∧
      ∀ later, Relation.ReflTransGen (Step registered powers) after later →
        ¬ Derives later.known (.scalar (.ephemeralA run)) →
        ¬ Derives later.known (.scalar (.ephemeralB index)) →
          ¬ Derives later.known keyAb := by
  have sound := sound_reachable reachable
  obtain ⟨challenge, offered, deviceProof, challenged, derivesProof, rfl⟩ :=
    acceptance_cases step present waiting isNext accepted
  obtain ⟨other, challengeA, _, rfl⟩ := (sound.sessions index session present).challenge _ challenged
  rcases response_cases session other index challengeA offered deviceProof with
    refused | ⟨factors, rfl, rfl, answered⟩
  · simp [refused, waiting] at accepted
  · rw [answered] at accepted isFor
    simp only [Option.some.injEq, Prod.mk.injEq] at accepted
    obtain ⟨rfl, rfl⟩ := accepted
    obtain rfl : other = node := isFor_challenge isFor challenged
    obtain ⟨run, _, _, rfl⟩ := (deviceProof_derived sound derivesProof).resolve_left unknownKey
    refine ⟨run, rfl, fun later onwards unknownA unknownB => ?_⟩
    have reached : Reachable registered powers later := (reachable.tail step).trans onwards
    exact key_secret (sound_reachable reached) unknownB unknownA _ _ _

/-- Both long-term secrets of a node are revealed after its session accepted. -/
theorem honest_key_stays_secret : ∃ (later : World) (keyAb : Value),
    Reachable (fun _ => true) {.identity 7, .verifier 7} later ∧
      (authenticatedSession 7 0 0).established = some (.point {.ephemeralA 0}, keyAb) ∧
      authenticatedSession 7 0 0 ∈ later.sessions ∧
      Derives later.known (.scalar (.identity 7)) ∧
      Derives later.known (.name (.verifier 7)) ∧ ¬ Derives later.known keyAb := by
  obtain ⟨before, after, _, reaches, responds, _, challenged, authenticated, _, _⟩ :=
    exchange_completes (fun _ => true) ∅ 7 rfl
  have unknownKey := scalar_unknown reaches (.identity 7) rfl (by simp)
  have reachable := reachable_mono (Set.empty_subset {.identity 7, .verifier 7}) reaches
  have accepts := step_mono (Set.empty_subset {.identity 7, .verifier 7}) responds
  have onwards : Relation.ReflTransGen (Step (fun _ => true) {.identity 7, .verifier 7}) after
      { after with
        known := insert (Power.verifier 7).value (insert (Power.identity 7).value after.known) } :=
    (Relation.ReflTransGen.single (.reveal after (.identity 7) (by simp))).tail
      (.reveal _ (.verifier 7) (by simp))
  have reached := (reachable.tail accepts).trans onwards
  have present : before.sessions[0]? = some (challengedSession 7 0 0) := by simp [challenged]
  have isNext : after.sessions[0]? = some (authenticatedSession 7 0 0) := by simp [authenticated]
  obtain ⟨run, own, secret⟩ := accepted_key_stays_secret reachable accepts present rfl isNext rfl
    ⟨_, rfl, rfl⟩ unknownKey
  exact ⟨_, _, reached, rfl, by simp [authenticated], .known (by simp [Power.value]),
    .known (by simp [Power.value]), secret _ onwards
      (scalar_unknown reached (.ephemeralA run) rfl (by simp))
      (scalar_unknown reached (.ephemeralB 0) rfl (by simp))⟩

end Microgrid.SymbolicNetwork
