import Microgrid.Handshake.DataAuthenticity

/-!
# What the node's verifier protects

The server proves itself to a device with the node's verifier and nothing else. A run that
accepts a proof while the attacker does not hold the verifier exchanges with the ephemeral key
of a session, and from then on no disclosure helps the attacker but that of one of the two
ephemeral keys: not the verifier, and no node's private key.

The verifier is also all that the attacker needs. With it he answers the next run of the node
in the server's place, from every world, and shares the key that the run returns with. That is
the limit the server's documentation names.
-/

namespace Microgrid.SymbolicNetwork

open Handshake SymbolicKnowledge SymbolicKnowledge.Term

variable {registered : Nat → Bool} {powers : Set Power} {world before after : World}

/-! ### Every step extends the world -/

theorem extends_refl (world : World) : world.Extends world where
  known := subset_rfl
  sessions := fun _ session present => ⟨session, present, session.keeps_refl⟩
  runs := fun _ run present => ⟨run, present, run.keeps_refl⟩

theorem World.Extends.trans {last : World} (first : before.Extends after)
    (second : after.Extends last) : before.Extends last where
  known := first.known.trans second.known
  sessions := by
    intro index session present
    obtain ⟨next, isNext, keeps⟩ := first.sessions index session present
    obtain ⟨later, isLater, keepsToo⟩ := second.sessions index next isNext
    exact ⟨later, isLater, fun _ made => keepsToo.challenge _ (keeps.challenge _ made),
      fun _ made => keepsToo.established _ (keeps.established _ made)⟩
  runs := by
    intro index run present
    obtain ⟨next, isNext, keeps⟩ := first.runs index run present
    obtain ⟨later, isLater, keepsToo⟩ := second.runs index next isNext
    exact ⟨later, isLater, keepsToo.node.trans keeps.node,
      fun _ made => keepsToo.signed _ (keeps.signed _ made),
      fun _ made => keepsToo.keyAb _ (keeps.keyAb _ made),
      fun _ member => keepsToo.payloads _ (keeps.payloads _ member)⟩

/-- What a party has set it does not set again. -/
theorem extends_step (step : Step registered powers before after) : before.Extends after := by
  cases step with
  | connect =>
    refine ⟨subset_rfl, fun index session present => ⟨session, ?_, session.keeps_refl⟩,
      (extends_refl before).runs⟩
    exact List.getElem?_append_left (List.getElem?_eq_some_iff.mp present).1 ▸ present
  | start =>
    refine ⟨Set.subset_union_left, (extends_refl before).sessions,
      fun index run present => ⟨run, ?_, run.keeps_refl⟩⟩
    exact List.getElem?_append_left (List.getElem?_eq_some_iff.mp present).1 ▸ present
  | reveal => exact ⟨Set.subset_insert _ _, (extends_refl before).sessions, (extends_refl before).runs⟩
  | hello index session idA challengeA present _ waiting _ _ =>
    have kept : (session.hello registered index idA challengeA).1.established =
        session.established := by
      unfold ServerSession.hello
      split
      · rfl
      · split <;> rfl
    refine extends_withSession present ⟨fun challenge made => ?_, fun key made => kept.trans made⟩
    rw [waiting] at made
    cases made
  | response index session challenge ephPkA deviceProof present _ _ waiting _ _ =>
    have kept : (session.response challenge ephPkA deviceProof).1.challenge =
        session.challenge := by
      unfold ServerSession.response
      split <;> rfl
    refine extends_withSession present ⟨fun challenge made => kept.trans made, fun key made => ?_⟩
    rw [waiting] at made
    cases made
  | data index session _ _ _ _ present _ _ =>
    exact extends_withSession present ⟨fun _ made => made, fun _ made => made⟩
  | challenge index run idB challengeB ephPkB serverProof present _ waiting _ _ _ _ =>
    have kept : (run.challenge idB challengeB ephPkB serverProof).1.node = run.node ∧
        (run.challenge idB challengeB ephPkB serverProof).1.keyAb = run.keyAb ∧
        (run.challenge idB challengeB ephPkB serverProof).1.payloads = run.payloads := by
      unfold DeviceRun.challenge
      split <;> exact ⟨rfl, rfl, rfl⟩
    refine extends_withRun present ⟨kept.1, fun signed made => ?_,
      fun key made => kept.2.1.trans made, fun payload member => kept.2.2 ▸ member⟩
    rw [waiting] at made
    cases made
  | ack index run signed type present _ _ waiting _ =>
    have kept : (run.ack signed type).node = run.node ∧ (run.ack signed type).signed = run.signed ∧
        (run.ack signed type).payloads = run.payloads := by
      unfold DeviceRun.ack
      split
      · split <;> exact ⟨rfl, rfl, rfl⟩
      · exact ⟨rfl, rfl, rfl⟩
    refine extends_withRun present ⟨kept.1, fun _ made => kept.2.1.trans made, fun key made => ?_,
      fun payload member => kept.2.2 ▸ member⟩
    rw [waiting] at made
    cases made
  | encrypt index run _ _ present _ =>
    exact extends_withRun present ⟨rfl, fun _ made => made, fun _ made => made,
      fun _ member => List.mem_append_left _ member⟩

/-- So does every run of the network. -/
theorem extends_reaches (onwards : Relation.ReflTransGen (Step registered powers) before after) :
    before.Extends after := by
  induction onwards with
  | refl => exact extends_refl before
  | tail _ step inductionHypothesis => exact inductionHypothesis.trans (extends_step step)

/-! ### Forward secrecy on the device's side -/

/-- A run that signed while the node's verifier was unknown had its challenge from a session that
was addressed by it. The key it establishes stays secret in every later world, whatever is
revealed then but the ephemeral keys of the two, and nothing is ever sealed under it but the
messages that the run sends. -/
theorem device_key_stays_secret (reachable : Reachable registered powers world) {index : Nat}
    {run : DeviceRun} {signed : DeviceSession.Signed Value}
    (present : world.runs[index]? = some run) (passed : run.signed = some signed)
    (unknownVerifier : ¬ Derives world.known (.name (.verifier run.node))) :
    ∃ session : Nat,
      Challenged world session (serverChallenge run.node session run.opening.challengeA) ∧
      signed.ephPkB = .point {.ephemeralB session} ∧
      ∀ later, Relation.ReflTransGen (Step registered powers) world later →
        ¬ Derives later.known (.scalar (.ephemeralA index)) →
        ¬ Derives later.known (.scalar (.ephemeralB session)) →
          ∀ (last : DeviceRun) (keyAb : Value), later.runs[index]? = some last →
            last.keyAb = some keyAb →
              ¬ Derives later.known keyAb ∧ ∀ nonce body, Derives later.known (.box keyAb nonce body) →
                .box keyAb nonce body ∈ last.frames index := by
  have ofRun := (sound_reachable reachable).runs index run present
  obtain ⟨challengeB, ephPkB, rfl, source⟩ := ofRun.signed signed passed
  obtain ⟨session, challenged, rfl⟩ := source.resolve_left unknownVerifier
  refine ⟨session, ?_, rfl, fun later onwards unknownA unknownB last keyAb isLast returned => ?_⟩
  · rw [ofRun.opening]
    exact challenged
  have reached : Reachable registered powers later := reachable.trans onwards
  have sound := sound_reachable reached
  obtain ⟨next, isNext, keeps⟩ := (extends_reaches onwards).runs index run present
  obtain rfl : next = last := by simpa [isNext] using isLast
  obtain ⟨nonceB, factors, again, rfl⟩ := (sound.runs index next isLast).keyAb keyAb returned
  rw [keeps.signed _ passed, Option.some.injEq] at again
  obtain rfl : {.ephemeralB session} = factors := by
    simpa [deviceSigned] using congrArg (·.ephPkB) again
  have secret := key_secret sound unknownA unknownB (.name (.verifier next.node))
    (.name (.challengeA index)) nonceB
  exact ⟨secret, fun nonce body derived =>
    accepted_frame sound (accounted_reachable reached) isLast secret derived⟩

/-- Both long-term secrets of a node are revealed after its run signed. -/
theorem honest_device_key_stays_secret : ∃ (later : World) (keyAb : Value),
    Reachable (fun _ => true) {.identity 7, .verifier 7} later ∧
      later.runs[0]? = some (finishedRun 7 0 0) ∧ (finishedRun 7 0 0).keyAb = some keyAb ∧
      Derives later.known (.scalar (.identity 7)) ∧
      Derives later.known (.name (.verifier 7)) ∧ ¬ Derives later.known keyAb := by
  obtain ⟨before, after, last, reaches, responds, acks, _, _, _, runs⟩ :=
    exchange_completes (fun _ => true) ∅ 7 rfl
  have honest := (reaches.tail responds).tail acks
  have unknownVerifier : ¬ Derives last.known (.name (.verifier 7)) := fun derived =>
    verifier_disclosed (sound_reachable honest) derived
  have reachable := reachable_mono (Set.empty_subset {.identity 7, .verifier 7}) honest
  have onwards : Relation.ReflTransGen (Step (fun _ => true) {.identity 7, .verifier 7}) last
      { last with
        known := insert (Power.verifier 7).value (insert (Power.identity 7).value last.known) } :=
    (Relation.ReflTransGen.single (.reveal last (.identity 7) (by simp))).tail
      (.reveal _ (.verifier 7) (by simp))
  have reached := reachable.trans onwards
  have present : last.runs[0]? = some (finishedRun 7 0 0) := by simp [runs]
  obtain ⟨session, _, _, secret⟩ := device_key_stays_secret reachable present rfl unknownVerifier
  exact ⟨_, _, reached, present, rfl, .known (by simp [Power.value]),
    .known (by simp [Power.value]),
    (secret _ onwards (scalar_unknown reached (.ephemeralA 0) rfl (by simp))
      (scalar_unknown reached (.ephemeralB session) rfl (by simp)) _ _ present rfl).1⟩

/-! ### The verifier in the attacker's hands -/

/-- Run `index` of a node after a challenge that the attacker made with a key of his own. -/
def deceivedRun (node index : Nat) : DeviceRun where
  node := node
  opening := deviceOpening node index
  signed := some (deviceSigned node index (.name (.invented 0)) (.point {.invented 0}))
  keyAb := some (deviceKey node index (.name (.invented 0)) {.invented 0})

/-- The attacker's proof is accepted. -/
theorem invented_signed (node index : Nat) :
    ({ node, opening := deviceOpening node index } : DeviceRun).challenge (.name .idB)
        (.name (.invented 0)) (.point {.invented 0})
        (deviceSigned node index (.name (.invented 0)) (.point {.invented 0})).serverProof =
      ({ deceivedRun node index with keyAb := none }, [.point {.ephemeralA index},
        (deviceSigned node index (.name (.invented 0)) (.point {.invented 0})).sig]) := by
  have checked : DeviceSession.checkChallenge symbolicSuite (deviceOpening node index) (.name .idB)
      (.name (.invented 0)) (.point {.invented 0})
      (deviceSigned node index (.name (.invented 0)) (.point {.invented 0})).serverProof =
        some (deviceSigned node index (.name (.invented 0)) (.point {.invented 0})) := by
    rw [DeviceSession.checkChallenge_eq_some]
    exact ⟨rfl, rfl, rfl⟩
  simp only [DeviceRun.challenge, checked]
  rfl

/-- He derives the key from his own private key and the run's public one. -/
theorem invented_key {known : Set Value} {node index : Nat}
    (point : Derives known (.point {.ephemeralA index}))
    (secret : Derives known (.scalar (.invented 0)))
    (verifier : Derives known (.name (.verifier node)))
    (challengeA : Derives known (.name (.challengeA index)))
    (challengeB : Derives known (.name (.invented 0))) :
    Derives known (deviceKey node index (.name (.invented 0)) {.invented 0}) := by
  have product : Derives known (.point (.ephemeralA index ::ₘ {.invented 0})) := by
    rw [← Multiset.cons_zero, Multiset.cons_swap, Multiset.cons_zero]
    exact .multiply secret point
  refine .hash ((derives_tuple _).mpr ?_)
  simp only [List.mem_cons, List.not_mem_nil, or_false, forall_eq_or_imp, forall_eq]
  exact ⟨.coordinate product, verifier, challengeA, challengeB⟩

/-- Whatever has happened so far, an attacker who may obtain a node's verifier can have the next
run of the node return with a key that he derives. -/
theorem verifier_impersonates (reachable : Reachable registered powers world) {node : Nat}
    (obtained : .verifier node ∈ powers) :
    ∃ after, Relation.ReflTransGen (Step registered powers) world after ∧
      after.sessions = world.sessions ∧
      after.runs = world.runs ++ [deceivedRun node world.runs.length] ∧
      Derives after.known (deviceKey node world.runs.length (.name (.invented 0)) {.invented 0}) := by
  have isPublic : ∀ value, Public value → value ∈ world.known :=
    fun value member => (extends_reaches reachable).known member
  obtain ⟨started, isStarted⟩ : ∃ next : World, next = { world with
      runs := world.runs ++ [{ node, opening := deviceOpening node world.runs.length }]
      known := world.known ∪ {.name (.idA node), .name (.challengeA world.runs.length)} } :=
    ⟨_, rfl⟩
  have starts : Step registered powers world started := isStarted ▸ .start world node
  obtain ⟨revealed, isRevealed⟩ : ∃ next : World, next =
      { started with known := insert (.name (.verifier node)) started.known } := ⟨_, rfl⟩
  have reveals : Step registered powers started revealed :=
    isRevealed ▸ .reveal started (.verifier node) obtained
  have verifier : Derives revealed.known (.name (.verifier node)) := by
    rw [isRevealed]
    exact .known (Set.mem_insert _ _)
  have knows {value : Value} (member : value ∈ world.known) : Derives revealed.known value := by
    rw [isRevealed, isStarted]
    exact .known (.inr (.inl member))
  have challengeA : Derives revealed.known (.name (.challengeA world.runs.length)) := by
    rw [isRevealed, isStarted]
    exact .known (.inr (.inr (by simp)))
  have own : Derives revealed.known (.point {.invented 0}) :=
    .multiply (knows (isPublic _ (.inventedScalar 0))) .generator
  have newest : revealed.runs = world.runs ++
      [{ node, opening := deviceOpening node world.runs.length }] := by
    rw [isRevealed, isStarted]
  -- the attacker's challenge
  have challenges : Step registered powers revealed (revealed.withRun world.runs.length
      (({ node, opening := deviceOpening node world.runs.length } : DeviceRun).challenge
        (.name .idB) (.name (.invented 0)) (.point {.invented 0})
        (deviceSigned node world.runs.length (.name (.invented 0))
          (.point {.invented 0})).serverProof)) :=
    .challenge revealed world.runs.length _ _ _ _ _ (by simp [newest]) rfl rfl
      (knows (isPublic _ .idB)) (knows (isPublic _ (.inventedName 0))) own
      (.hash ((derives_tuple _).mpr (by simpa using ⟨verifier, challengeA, own⟩)))
  rw [invented_signed] at challenges
  obtain ⟨challenged, isChallenged⟩ : ∃ next : World, next = revealed.withRun world.runs.length
      ({ deceivedRun node world.runs.length with keyAb := none },
        [.point {.ephemeralA world.runs.length}, (deviceSigned node world.runs.length
          (.name (.invented 0)) (.point {.invented 0})).sig]) := ⟨_, rfl⟩
  rw [← isChallenged] at challenges
  have signedRuns : challenged.runs = world.runs ++
      [{ deceivedRun node world.runs.length with keyAb := none }] := by
    rw [isChallenged]
    exact withRun_newest newest _
  have more : revealed.known ⊆ challenged.known := (extends_step challenges).known
  have point : Derives challenged.known (.point {.ephemeralA world.runs.length}) := by
    rw [isChallenged]
    exact .known (.inr (by simp))
  -- and his acknowledgement
  have acks : Step registered powers challenged (challenged.withRun world.runs.length
      (({ deceivedRun node world.runs.length with keyAb := none } : DeviceRun).ack
        (deviceSigned node world.runs.length (.name (.invented 0)) (.point {.invented 0}))
        (.name (.text "session_ack")), [])) :=
    .ack challenged world.runs.length _ _ _ (by simp [signedRuns]) rfl rfl rfl
      (derives_mono more (knows (isPublic _ (.text _))))
  refine ⟨_, (((Relation.ReflTransGen.single starts).tail reveals).tail challenges).tail acks,
    ?_, ?_, ?_⟩
  · rw [World.withRun, isChallenged, World.withRun, isRevealed, isStarted]
  · refine (withRun_newest signedRuns _).trans ?_
    simp only [DeviceRun.ack, if_true]
    rfl
  · exact derives_mono (extends_step acks).known (invented_key point
      (derives_mono more (knows (isPublic _ (.inventedScalar 0)))) (derives_mono more verifier)
      (derives_mono more challengeA) (derives_mono more (knows (isPublic _ (.inventedName 0)))))

/-- So he does with the first run of a node, and holds no private key but his own. -/
theorem first_run_impersonated : ∃ after : World,
    Reachable (fun _ => true) {.verifier 7} after ∧ after.sessions = [] ∧
      after.runs = [deceivedRun 7 0] ∧
      Derives after.known (deviceKey 7 0 (.name (.invented 0)) {.invented 0}) ∧
      ¬ Derives after.known (.scalar (.identity 7)) ∧
      ¬ Derives after.known (.scalar (.ephemeralA 0)) := by
  obtain ⟨after, reaches, sessions, runs, derived⟩ := @verifier_impersonates (fun _ => true)
    {.verifier 7} World.initial .refl 7 rfl
  exact ⟨after, reaches, sessions, runs, derived,
    scalar_unknown reaches (.identity 7) rfl (by simp),
    scalar_unknown reaches (.ephemeralA 0) rfl (by simp)⟩

end Microgrid.SymbolicNetwork
