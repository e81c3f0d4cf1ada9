import Microgrid.Handshake.NetworkInvariant

/-!
# The network lets a handshake through

Whatever has happened so far, the attacker may forward the next messages unchanged.
A fresh session and a fresh run of a registered node then exchange their four
messages, and both finish. The attacker may also stop forwarding after the device's
response and invent the acknowledgement, which is a constant: the run then finishes
alone.

The guarantees of the handshake are about such worlds among others, so these runs
show that the guarantees are not vacuous, and where they stop.
-/

namespace Microgrid.SymbolicNetwork

open Handshake SymbolicKnowledge SymbolicKnowledge.Term

variable {registered : Nat → Bool} {powers : Set Power} {world : World}

/-- Session `index` after the hello of run `run`. -/
def challengedSession (node index run : Nat) : ServerSession where
  challenge := some (serverChallenge node index (.name (.challengeA run)))

/-- Session `index` after the response of run `run`. -/
def authenticatedSession (node index run : Nat) : ServerSession where
  challenge := some (serverChallenge node index (.name (.challengeA run)))
  established := some (.point {.ephemeralA run},
    serverKey node index (.name (.challengeA run)) {.ephemeralA run})

/-- Run `index` after the challenge of session `session`. -/
def signedRun (node index session : Nat) : DeviceRun where
  node := node
  opening := deviceOpening node index
  signed := some (deviceSigned node index (.name (.challengeB session))
    (.point {.ephemeralB session}))

/-- Run `index` after an acknowledgement. -/
def finishedRun (node index session : Nat) : DeviceRun :=
  { signedRun node index session with
    keyAb := some (deviceKey node index (.name (.challengeB session)) {.ephemeralB session}) }

/-! ### Forwarded messages are accepted -/

/-- A registered node is challenged. -/
theorem hello_answered {node : Nat} (isRegistered : registered node = true) (index run : Nat) :
    ({} : ServerSession).hello registered index (.name (.idA node)) (.name (.challengeA run)) =
      (challengedSession node index run,
        [.name .idB, .name (.challengeB index), .point {.ephemeralB index},
          (serverChallenge node index (.name (.challengeA run))).serverProof]) := by
  simp only [ServerSession.hello, registry, if_pos isRegistered]
  rfl

/-- The challenge of a session that received the run's own hello is signed. -/
theorem challenge_signed (node index session : Nat) :
    ({ node, opening := deviceOpening node index } : DeviceRun).challenge (.name .idB)
        (.name (.challengeB session)) (.point {.ephemeralB session})
        (serverChallenge node session (.name (.challengeA index))).serverProof =
      (signedRun node index session, [.point {.ephemeralA index},
        (deviceSigned node index (.name (.challengeB session))
          (.point {.ephemeralB session})).sig]) := by
  have checked : DeviceSession.checkChallenge symbolicSuite (deviceOpening node index)
      (.name .idB) (.name (.challengeB session)) (.point {.ephemeralB session})
      (serverChallenge node session (.name (.challengeA index))).serverProof =
        some (deviceSigned node index (.name (.challengeB session))
          (.point {.ephemeralB session})) := by
    rw [DeviceSession.checkChallenge_eq_some]
    exact ⟨rfl, rfl, rfl⟩
  simp only [DeviceRun.challenge, checked]
  rfl

/-- The response of the run that was challenged is accepted. -/
theorem response_accepted (node index run : Nat) :
    (challengedSession node index run).response
        (serverChallenge node index (.name (.challengeA run))) (.point {.ephemeralA run})
        (deviceSigned node run (.name (.challengeB index)) (.point {.ephemeralB index})).sig =
      (authenticatedSession node index run, [.name (.text "session_ack")]) := by
  have accepted : RotSession.acceptResponse symbolicSuite (.name .idB)
      (serverChallenge node index (.name (.challengeA run))) (.point {.ephemeralA run})
      (deviceSigned node run (.name (.challengeB index)) (.point {.ephemeralB index})).sig =
        .ok (serverKey node index (.name (.challengeA run)) {.ephemeralA run}) := by
    unfold RotSession.acceptResponse
    rw [if_neg (by simp [symbolicSuite]), if_neg]
    · rfl
    · simp [symbolicSuite, deviceSigned, deviceDigest, serverChallenge, RotSession.msgHash,
        RotSession.deviceProofDomainTag, DeviceSession.deviceProofDomainTag]
  simp only [ServerSession.response, accepted]
  rfl

/-- Any acknowledgement finishes the run. -/
theorem ack_finishes (node index session : Nat) :
    (signedRun node index session).ack
        (deviceSigned node index (.name (.challengeB session)) (.point {.ephemeralB session}))
        (.name (.text "session_ack")) = finishedRun node index session := by
  simp only [DeviceRun.ack, if_true]
  rfl

/-! ### Exchanges -/

/-- Replacing the newest session. -/
theorem withSession_newest {sessions : List ServerSession} {session : ServerSession}
    (newest : world.sessions = sessions ++ [session]) (outcome : ServerSession × List Value) :
    (world.withSession sessions.length outcome).sessions = sessions ++ [outcome.1] := by
  simp [World.withSession, newest]

/-- Replacing the newest run. -/
theorem withRun_newest {runs : List DeviceRun} {run : DeviceRun}
    (newest : world.runs = runs ++ [run]) (outcome : DeviceRun × List Value) :
    (world.withRun runs.length outcome).runs = runs ++ [outcome.1] := by
  simp [World.withRun, newest]

/-- From every world a fresh run of a registered node can be brought to sign the
challenge of a fresh session, by forwarding two messages. -/
theorem exchange_signs (powers : Set Power) (world : World) {node : Nat}
    (isRegistered : registered node = true) :
    ∃ after, Relation.ReflTransGen (Step registered powers) world after ∧
      after.sessions = world.sessions ++
        [challengedSession node world.sessions.length world.runs.length] ∧
      after.runs = world.runs ++ [signedRun node world.runs.length world.sessions.length] ∧
      world.known ⊆ after.known ∧ .point {.ephemeralA world.runs.length} ∈ after.known ∧
      (deviceSigned node world.runs.length (.name (.challengeB world.sessions.length))
        (.point {.ephemeralB world.sessions.length})).sig ∈ after.known := by
  obtain ⟨connected, isConnected⟩ :
      ∃ next : World, next = { world with sessions := world.sessions ++ [{}] } := ⟨_, rfl⟩
  obtain ⟨started, isStarted⟩ : ∃ next : World, next = { connected with
      runs := connected.runs ++ [{ node, opening := deviceOpening node connected.runs.length }]
      known := connected.known ∪
        {.name (.idA node), .name (.challengeA connected.runs.length)} } := ⟨_, rfl⟩
  have connects : Step registered powers world connected := isConnected ▸ .connect world
  have starts : Step registered powers connected started := isStarted ▸ .start connected node
  have sessions : started.sessions = world.sessions ++ [({} : ServerSession)] := by
    rw [isStarted, isConnected]
  have runs : started.runs = world.runs ++
      [{ node, opening := deviceOpening node world.runs.length }] := by
    rw [isStarted, isConnected]
  have said : started.known =
      world.known ∪ {.name (.idA node), .name (.challengeA world.runs.length)} := by
    rw [isStarted, isConnected]
  -- the hello is forwarded to the new session
  obtain ⟨challenged, isChallenged⟩ : ∃ next : World,
      next = started.withSession world.sessions.length
        (challengedSession node world.sessions.length world.runs.length,
          [.name .idB, .name (.challengeB world.sessions.length),
            .point {.ephemeralB world.sessions.length},
            (serverChallenge node world.sessions.length
              (.name (.challengeA world.runs.length))).serverProof]) := ⟨_, rfl⟩
  have hellos : Step registered powers started challenged := by
    rw [isChallenged, ← hello_answered isRegistered]
    exact .hello started world.sessions.length {} (.name (.idA node))
      (.name (.challengeA world.runs.length)) (by simp [sessions]) rfl rfl
      (.known (by simp [said])) (.known (by simp [said]))
  have heard : ∀ value ∈ [.name .idB, .name (.challengeB world.sessions.length),
      .point {.ephemeralB world.sessions.length}, (serverChallenge node world.sessions.length
        (.name (.challengeA world.runs.length))).serverProof],
      Derives challenged.known value := by
    intro value member
    rw [isChallenged]
    exact .known (.inr member)
  -- and the challenge to the new run
  have challenges : Step registered powers challenged (challenged.withRun world.runs.length
      (({ node, opening := deviceOpening node world.runs.length } : DeviceRun).challenge
        (.name .idB) (.name (.challengeB world.sessions.length))
        (.point {.ephemeralB world.sessions.length})
        (serverChallenge node world.sessions.length
          (.name (.challengeA world.runs.length))).serverProof)) :=
    .challenge challenged world.runs.length _ _ _ _ _
      (by simp [isChallenged, World.withSession, runs]) rfl rfl (heard _ (by simp))
      (heard _ (by simp)) (heard _ (by simp)) (heard _ (by simp))
  rw [challenge_signed] at challenges
  refine ⟨_, (((Relation.ReflTransGen.single connects).tail starts).tail hellos).tail
    challenges, ?_, ?_, ?_, ?_, ?_⟩
  · rw [isChallenged]
    exact withSession_newest sessions _
  · have newest : challenged.runs = world.runs ++
        [{ node, opening := deviceOpening node world.runs.length }] := by
      rw [isChallenged]
      exact runs
    exact withRun_newest newest _
  · intro value member
    refine .inl ?_
    rw [isChallenged]
    refine .inl ?_
    rw [said]
    exact .inl member
  · exact .inr (by simp)
  · exact .inr (by simp)

/-- Forwarding the response as well authenticates the session. The step is singled
out, because secrecy speaks of the moment of acceptance. -/
theorem exchange_authenticates (powers : Set Power) {sessions : List ServerSession} {node run : Nat}
    (newest : world.sessions = sessions ++ [challengedSession node sessions.length run])
    (point : .point {.ephemeralA run} ∈ world.known)
    (proof : (deviceSigned node run (.name (.challengeB sessions.length))
      (.point {.ephemeralB sessions.length})).sig ∈ world.known) :
    ∃ after, Step registered powers world after ∧
      after.sessions = sessions ++ [authenticatedSession node sessions.length run] ∧
      after.runs = world.runs ∧ world.known ⊆ after.known := by
  have responds : Step registered powers world (world.withSession sessions.length
      ((challengedSession node sessions.length run).response
        (serverChallenge node sessions.length (.name (.challengeA run)))
        (.point {.ephemeralA run}) (deviceSigned node run (.name (.challengeB sessions.length))
          (.point {.ephemeralB sessions.length})).sig)) :=
    .response world sessions.length _ _ _ _ (by simp [newest]) rfl rfl rfl (.known point)
      (.known proof)
  rw [response_accepted] at responds
  exact ⟨_, responds, withSession_newest newest _, rfl, Set.subset_union_left⟩

/-- The acknowledgement finishes the run, whoever sent it. -/
theorem acknowledgement_finishes (powers : Set Power) {runs : List DeviceRun} {node session : Nat}
    (newest : world.runs = runs ++ [signedRun node runs.length session])
    (constant : .name (.text "session_ack") ∈ world.known) :
    ∃ after, Step registered powers world after ∧
      after.runs = runs ++ [finishedRun node runs.length session] ∧
      after.sessions = world.sessions := by
  have acks : Step registered powers world (world.withRun runs.length
      ((signedRun node runs.length session).ack (deviceSigned node runs.length
        (.name (.challengeB session)) (.point {.ephemeralB session}))
        (.name (.text "session_ack")), [])) :=
    .ack world runs.length _ _ _ (by simp [newest]) rfl rfl rfl (.known constant)
  rw [ack_finishes] at acks
  exact ⟨_, acks, withRun_newest newest _, rfl⟩

/-- A whole exchange in an untouched network, with the step that authenticates. -/
theorem exchange_completes (registered : Nat → Bool) (powers : Set Power) (node : Nat)
    (isRegistered : registered node = true) :
    ∃ before after last : World, Reachable registered powers before ∧
      Step registered powers before after ∧ Step registered powers after last ∧
      before.sessions = [challengedSession node 0 0] ∧
      after.sessions = [authenticatedSession node 0 0] ∧
      last.sessions = after.sessions ∧ last.runs = [finishedRun node 0 0] := by
  obtain ⟨before, reaches, challenged, signed, more, point, proof⟩ :=
    exchange_signs powers World.initial isRegistered
  obtain ⟨after, responds, authenticated, same, again⟩ :=
    exchange_authenticates powers challenged point proof
  obtain ⟨last, acks, finished, kept⟩ :=
    acknowledgement_finishes powers (same.trans signed) (again (more (.text _)))
  exact ⟨before, after, last, reaches, responds, acks, challenged, authenticated, kept, finished⟩

/-- An exchange with the acknowledgement invented: the run finishes alone. -/
theorem exchange_forged (registered : Nat → Bool) (powers : Set Power) (node : Nat)
    (isRegistered : registered node = true) :
    ∃ last : World, Reachable registered powers last ∧
      last.sessions = [challengedSession node 0 0] ∧ last.runs = [finishedRun node 0 0] := by
  obtain ⟨before, reaches, challenged, signed, more, _, _⟩ :=
    exchange_signs powers World.initial isRegistered
  obtain ⟨last, acks, finished, kept⟩ :=
    acknowledgement_finishes powers signed (more (.text _))
  exact ⟨last, reaches.tail acks, kept.trans challenged, finished⟩

/-- An attacker with more powers can do at least as much. -/
theorem step_mono {more : Set Power} (grows : powers ⊆ more) {before after : World}
    (step : Step registered powers before after) : Step registered more before after := by
  cases step with
  | connect => exact .connect _
  | hello index session idA challengeA present isOpen waiting idKnown nonceKnown =>
    exact .hello _ index session idA challengeA present isOpen waiting idKnown nonceKnown
  | response index session challenge ephPkA deviceProof present isOpen made waiting point proof =>
    exact .response _ index session challenge ephPkA deviceProof present isOpen made waiting
      point proof
  | data index session ephPkA keyAb nonce body present established box =>
    exact .data _ index session ephPkA keyAb nonce body present established box
  | start node => exact .start _ node
  | challenge index run idB challengeB ephPkB serverProof present isOpen waiting idKnown nonceKnown
      pointKnown proofKnown =>
    exact .challenge _ index run idB challengeB ephPkB serverProof present isOpen waiting idKnown
      nonceKnown pointKnown proofKnown
  | ack index run signed type present isOpen responded waiting typeKnown =>
    exact .ack _ index run signed type present isOpen responded waiting typeKnown
  | encrypt index run keyAb payload present finished =>
    exact .encrypt _ index run keyAb payload present finished
  | reveal power obtained => exact .reveal _ power (grows obtained)

/-- And reach at least as many worlds. -/
theorem reachable_mono {more : Set Power} (grows : powers ⊆ more)
    (reachable : Reachable registered powers world) : Reachable registered more world := by
  induction reachable with
  | refl => exact .refl
  | tail _ step inductionHypothesis => exact inductionHypothesis.tail (step_mono grows step)

end Microgrid.SymbolicNetwork
