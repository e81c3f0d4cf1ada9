import Microgrid.Handshake.SymbolicNetwork

/-!
# The invariant of the symbolic network

Three statements hold in every reachable world, and they need each other. All that
the attacker has seen is traffic of a known shape. Every session computed its
challenge and its key from its own draws, and if it is established, some run signed
its transcript or the attacker holds the node's key. Every run computed its
signature and its key from its own draws, and if it signed, some session made the
challenge for it or the attacker holds the node's verifier.

Facts about a session or a run only ever accumulate (`Extends`), so each step has to
account for the one object it changes and the values it sends.
-/

namespace Microgrid.SymbolicNetwork

open Handshake SymbolicKnowledge SymbolicKnowledge.Term

variable {registered : Nat → Bool} {powers : Set Power} {world before after : World}

/-! ### Worlds only grow -/

/-- A session keeps its challenge and its key. -/
structure ServerSession.Keeps (before after : ServerSession) : Prop where
  challenge : ∀ challenge, before.challenge = some challenge → after.challenge = some challenge
  established : ∀ key, before.established = some key → after.established = some key

/-- A run keeps its node, its signature, its key and its payloads. -/
structure DeviceRun.Keeps (before after : DeviceRun) : Prop where
  node : after.node = before.node
  signed : ∀ signed, before.signed = some signed → after.signed = some signed
  keyAb : ∀ key, before.keyAb = some key → after.keyAb = some key
  payloads : ∀ payload ∈ before.payloads, payload ∈ after.payloads

/-- A later world knows more, and has every session and every run of the earlier one. -/
structure World.Extends (before after : World) : Prop where
  known : before.known ⊆ after.known
  sessions : ∀ (index : Nat) (session : ServerSession), before.sessions[index]? = some session →
    ∃ later, after.sessions[index]? = some later ∧ session.Keeps later
  runs : ∀ (index : Nat) (run : DeviceRun), before.runs[index]? = some run →
    ∃ later, after.runs[index]? = some later ∧ run.Keeps later

theorem ServerSession.keeps_refl (session : ServerSession) : session.Keeps session :=
  ⟨fun _ same => same, fun _ same => same⟩

theorem DeviceRun.keeps_refl (run : DeviceRun) : run.Keeps run :=
  ⟨rfl, fun _ same => same, fun _ same => same, fun _ member => member⟩

/-- Nothing is lost when a list of objects gets one replaced by a later version. -/
theorem set_keeps {Object : Type} {Keeps : Object → Object → Prop}
    (refl : ∀ object, Keeps object object)
    {objects : List Object} {index : Nat} {object later : Object}
    (present : objects[index]? = some object) (keeps : Keeps object later) (other : Nat)
    (found : Object) (isFound : objects[other]? = some found) :
    ∃ next, (objects.set index later)[other]? = some next ∧ Keeps found next := by
  by_cases same : index = other
  · subst same
    obtain rfl : object = found := by simpa [present] using isFound
    have inside : index < objects.length := (List.getElem?_eq_some_iff.mp present).1
    exact ⟨later, by simp [inside], keeps⟩
  · exact ⟨found, by simp [same, isFound], refl found⟩

/-- Replacing a session by a later version extends the world. -/
theorem extends_withSession {index : Nat} {session : ServerSession}
    (present : world.sessions[index]? = some session) {outcome : ServerSession × List Value}
    (keeps : session.Keeps outcome.1) : world.Extends (world.withSession index outcome) where
  known := Set.subset_union_left
  sessions := set_keeps ServerSession.keeps_refl present keeps
  runs := fun _ run isFound => ⟨run, isFound, run.keeps_refl⟩

/-- Replacing a run by a later version extends the world. -/
theorem extends_withRun {index : Nat} {run : DeviceRun} (present : world.runs[index]? = some run)
    {outcome : DeviceRun × List Value} (keeps : run.Keeps outcome.1) :
    world.Extends (world.withRun index outcome) where
  known := Set.subset_union_left
  sessions := fun _ session isFound => ⟨session, isFound, session.keeps_refl⟩
  runs := set_keeps DeviceRun.keeps_refl present keeps

/-- Session `index` made this challenge. -/
def Challenged (world : World) (index : Nat) (challenge : RotSession.Challenge Value) : Prop :=
  ∃ session, world.sessions[index]? = some session ∧ session.challenge = some challenge

/-- Run `index` of a node signed this challenge. -/
def Signed (world : World) (node index : Nat) (signed : DeviceSession.Signed Value) : Prop :=
  ∃ run, world.runs[index]? = some run ∧ run.node = node ∧ run.signed = some signed

theorem challenged_extends (later : before.Extends after) {index : Nat}
    {challenge : RotSession.Challenge Value} (challenged : Challenged before index challenge) :
    Challenged after index challenge := by
  obtain ⟨session, present, made⟩ := challenged
  obtain ⟨next, isNext, keeps⟩ := later.sessions index session present
  exact ⟨next, isNext, keeps.challenge _ made⟩

theorem signed_extends (later : before.Extends after) {node index : Nat}
    {signed : DeviceSession.Signed Value} (isSigned : Signed before node index signed) :
    Signed after node index signed := by
  obtain ⟨run, present, ofNode, made⟩ := isSigned
  obtain ⟨next, isNext, keeps⟩ := later.runs index run present
  exact ⟨next, isNext, keeps.node.trans ofNode, keeps.signed _ made⟩

/-! ### What can be seen -/

/-- The shapes of everything the attacker sees. -/
inductive Traffic (powers : Set Power) (world : World) : Value → Prop where
  | isPublic {value : Value} (isPublic : Public value) : Traffic powers world value
  | disclosed {power : Power} (obtained : power ∈ powers) : Traffic powers world power.value
  | challengeA (run : Nat) : Traffic powers world (.name (.challengeA run))
  | challengeB (session : Nat) : Traffic powers world (.name (.challengeB session))
  | ephemeralA (run : Nat) : Traffic powers world (.point {.ephemeralA run})
  | ephemeralB (session : Nat) : Traffic powers world (.point {.ephemeralB session})
  | serverProof {node index : Nat} {challengeA : Value}
      (challenged : Challenged world index (serverChallenge node index challengeA)) :
      Traffic powers world (serverChallenge node index challengeA).serverProof
  | deviceProof {node index : Nat} {challengeB ephPkB : Value}
      (isSigned : Signed world node index (deviceSigned node index challengeB ephPkB)) :
      Traffic powers world (deviceSigned node index challengeB ephPkB).sig
  | data {index count payload : Nat} {run : DeviceRun} {keyAb : Value}
      (present : world.runs[index]? = some run) (finished : run.keyAb = some keyAb)
      (sent : .name (.payload payload) ∈ run.payloads) :
      Traffic powers world (.box keyAb (.name (.nonce index count)) (.name (.payload payload)))

/-- Traffic stays traffic. -/
theorem traffic_extends (later : before.Extends after) {value : Value}
    (traffic : Traffic powers before value) : Traffic powers after value := by
  cases traffic with
  | isPublic isPublic => exact .isPublic isPublic
  | disclosed obtained => exact .disclosed obtained
  | challengeA run => exact .challengeA run
  | challengeB session => exact .challengeB session
  | ephemeralA run => exact .ephemeralA run
  | ephemeralB session => exact .ephemeralB session
  | serverProof challenged => exact .serverProof (challenged_extends later challenged)
  | deviceProof isSigned => exact .deviceProof (signed_extends later isSigned)
  | data present finished sent =>
    obtain ⟨next, isNext, keeps⟩ := later.runs _ _ present
    exact .data isNext (keeps.keyAb _ finished) (keeps.payloads _ sent)

/-- Parts of traffic are traffic: only a box has parts, and its body is a payload. -/
theorem traffic_part {whole piece : Value} (traffic : Traffic powers world whole)
    (part : Part whole piece) : Traffic powers world piece := by
  have atomic (isAtomic : ∀ other, Part whole other → other = whole) :
      Traffic powers world piece := isAtomic piece part ▸ traffic
  cases traffic with
  | isPublic isPublic => exact atomic fun other inside => by cases isPublic <;> cases inside <;> rfl
  | @disclosed power obtained =>
    exact atomic fun other inside => by cases power <;> cases inside <;> rfl
  | data present finished sent =>
    cases part with
    | self => exact .data present finished sent
    | body inside =>
      cases inside
      exact .isPublic (.payload _)
  | _ => exact atomic fun other inside => by cases inside; rfl

/-! ### What sessions and runs computed -/

/-- A session computed from its own draws. An established one was answered by a run
that signed its transcript, unless the attacker holds the node's key. -/
structure SoundSession (registered : Nat → Bool) (world : World) (index : Nat)
    (session : ServerSession) : Prop where
  challenge : ∀ challenge, session.challenge = some challenge → ∃ node challengeA,
    registered node = true ∧ challenge = serverChallenge node index challengeA
  established : ∀ ephPkA keyAb, session.established = some (ephPkA, keyAb) →
    ∃ node challengeA factors,
      session.challenge = some (serverChallenge node index challengeA) ∧
      ephPkA = .point factors ∧ keyAb = serverKey node index challengeA factors ∧
      (Derives world.known (.scalar (.identity node)) ∨ ∃ run,
        Signed world node run (deviceSigned node run (.name (.challengeB index))
          (.point {.ephemeralB index})) ∧
        challengeA = .name (.challengeA run) ∧ factors = {.ephemeralA run})

/-- A run computed from its own draws. One that signed was challenged by a session
for its own hello, unless the attacker holds the node's verifier. -/
structure SoundRun (world : World) (index : Nat) (run : DeviceRun) : Prop where
  opening : run.opening = deviceOpening run.node index
  signed : ∀ signed, run.signed = some signed → ∃ challengeB ephPkB,
    signed = deviceSigned run.node index challengeB ephPkB ∧
    (Derives world.known (.name (.verifier run.node)) ∨ ∃ session,
      Challenged world session (serverChallenge run.node session (.name (.challengeA index))) ∧
      ephPkB = .point {.ephemeralB session})
  keyAb : ∀ keyAb, run.keyAb = some keyAb → ∃ challengeB factors,
    run.signed = some (deviceSigned run.node index challengeB (.point factors)) ∧
    keyAb = deviceKey run.node index challengeB factors

/-- The invariant. -/
structure Sound (registered : Nat → Bool) (powers : Set Power) (world : World) : Prop where
  traffic : ∀ value ∈ world.known, Traffic powers world value
  sessions : ∀ (index : Nat) (session : ServerSession), world.sessions[index]? = some session →
    SoundSession registered world index session
  runs : ∀ (index : Nat) (run : DeviceRun), world.runs[index]? = some run →
    SoundRun world index run

/-- A sound session stays sound while others act. -/
theorem soundSession_extends (later : before.Extends after) {index : Nat}
    {session : ServerSession} (sound : SoundSession registered before index session) :
    SoundSession registered after index session where
  challenge := sound.challenge
  established := by
    intro ephPkA keyAb isEstablished
    obtain ⟨node, challengeA, factors, made, isPoint, isKey, source⟩ :=
      sound.established ephPkA keyAb isEstablished
    refine ⟨node, challengeA, factors, made, isPoint, isKey, ?_⟩
    rcases source with stolen | ⟨run, isSigned, own⟩
    · exact .inl (derives_mono later.known stolen)
    · exact .inr ⟨run, signed_extends later isSigned, own⟩

/-- A sound run stays sound while others act. -/
theorem soundRun_extends (later : before.Extends after) {index : Nat} {run : DeviceRun}
    (sound : SoundRun before index run) : SoundRun after index run where
  opening := sound.opening
  keyAb := sound.keyAb
  signed := by
    intro signed isSigned
    obtain ⟨challengeB, ephPkB, same, source⟩ := sound.signed signed isSigned
    refine ⟨challengeB, ephPkB, same, ?_⟩
    rcases source with stolen | ⟨session, challenged, own⟩
    · exact .inl (derives_mono later.known stolen)
    · exact .inr ⟨session, challenged_extends later challenged, own⟩

/-! ### What can be derived -/

/-- What occurs in the attacker's view is traffic. -/
theorem traffic_of_occurs (sound : Sound registered powers world) {value : Value}
    (occurs : Occurs world.known value) : Traffic powers world value := by
  obtain ⟨whole, member, part⟩ := occurs
  exact traffic_part (sound.traffic whole member) part

/-- A proof the attacker can present was made by a session for just these values,
unless the attacker holds the verifier. -/
theorem serverProof_derived (sound : Sound registered powers world) {node : Nat}
    {challengeA ephPkB : Value}
    (derived : Derives world.known
      (.hash (tuple [.name (.verifier node), challengeA, ephPkB]))) :
    Derives world.known (.name (.verifier node)) ∨ ∃ session,
      Challenged world session (serverChallenge node session challengeA) ∧
      ephPkB = .point {.ephemeralB session} := by
  rcases derives_hash derived with occurs | preimage
  · have traffic := traffic_of_occurs sound occurs
    generalize shape : Term.hash (tuple [.name (.verifier node), challengeA, ephPkB]) = value
      at traffic
    cases traffic with
    | isPublic isPublic => cases isPublic <;> cases shape
    | @disclosed power obtained => cases power <;> cases shape
    | @serverProof other index nonce challenged =>
      simp only [serverChallenge, Term.hash.injEq, tuple_inj, List.cons.injEq, Term.name.injEq,
        Label.verifier.injEq, and_true] at shape
      obtain ⟨rfl, rfl, rfl⟩ := shape
      exact .inr ⟨index, challenged, rfl⟩
    | _ => cases shape
  · exact .inl ((derives_tuple _).mp preimage _ (by simp))

/-- A node's signature over a session's transcript was made by a run of the node that
agreed on all of it, unless the attacker holds the node's key. -/
theorem deviceProof_derived (sound : Sound registered powers world) {node index : Nat}
    {challengeA : Value} {factors : Multiset Secret}
    (derived : Derives world.known (.signature (.identity node)
      (RotSession.msgHash symbolicSuite (.name .idB) (serverChallenge node index challengeA)
        (.point factors)))) :
    Derives world.known (.scalar (.identity node)) ∨ ∃ run,
      Signed world node run (deviceSigned node run (.name (.challengeB index))
        (.point {.ephemeralB index})) ∧
      challengeA = .name (.challengeA run) ∧ factors = {.ephemeralA run} := by
  rcases derives_signature derived with occurs | stolen
  · have traffic := traffic_of_occurs sound occurs
    generalize shape : Term.signature (.identity node) (RotSession.msgHash symbolicSuite
      (.name .idB) (serverChallenge node index challengeA) (.point factors)) = value at traffic
    cases traffic with
    | isPublic isPublic => cases isPublic <;> cases shape
    | @disclosed power obtained => cases power <;> cases shape
    | @deviceProof other run challengeB ephPkB isSigned =>
      simp only [deviceSigned, deviceDigest, RotSession.msgHash, symbolicSuite, serverChallenge,
        RotSession.deviceProofDomainTag, DeviceSession.deviceProofDomainTag, Term.signature.injEq,
        Term.hash.injEq, tuple_inj, List.cons.injEq, Term.name.injEq, Label.idA.injEq,
        Term.point.injEq, true_and, and_true] at shape
      obtain ⟨_, rfl, rfl, rfl, rfl, rfl, _⟩ := shape
      exact .inr ⟨run, isSigned, rfl, rfl⟩
    | _ => cases shape
  · exact .inl stolen

/-! ### Every step keeps the invariant -/

/-- A step of a session: only the session itself and what it sends need an account. -/
theorem sound_withSession (sound : Sound registered powers world) {index : Nat}
    {session : ServerSession} (present : world.sessions[index]? = some session)
    {outcome : ServerSession × List Value} (keeps : session.Keeps outcome.1)
    (itself : SoundSession registered world index outcome.1)
    (sent : ∀ value ∈ outcome.2, Traffic powers (world.withSession index outcome) value) :
    Sound registered powers (world.withSession index outcome) := by
  have later := extends_withSession present keeps
  refine ⟨?_, ?_, ?_⟩
  · rintro value (old | new)
    · exact traffic_extends later (sound.traffic value old)
    · exact sent value new
  · intro other found isFound
    by_cases same : index = other
    · subst same
      have inside : index < world.sessions.length := (List.getElem?_eq_some_iff.mp present).1
      obtain rfl : outcome.1 = found := by simpa [World.withSession, inside] using isFound
      exact soundSession_extends later itself
    · have old : world.sessions[other]? = some found := by
        simpa [World.withSession, same] using isFound
      exact soundSession_extends later (sound.sessions other found old)
  · exact fun other run isFound => soundRun_extends later (sound.runs other run isFound)

/-- A step of a run: only the run itself and what it sends need an account. -/
theorem sound_withRun (sound : Sound registered powers world) {index : Nat} {run : DeviceRun}
    (present : world.runs[index]? = some run) {outcome : DeviceRun × List Value}
    (keeps : run.Keeps outcome.1) (itself : SoundRun world index outcome.1)
    (sent : ∀ value ∈ outcome.2, Traffic powers (world.withRun index outcome) value) :
    Sound registered powers (world.withRun index outcome) := by
  have later := extends_withRun present keeps
  refine ⟨?_, ?_, ?_⟩
  · rintro value (old | new)
    · exact traffic_extends later (sound.traffic value old)
    · exact sent value new
  · exact fun other session isFound =>
      soundSession_extends later (sound.sessions other session isFound)
  · intro other found isFound
    by_cases same : index = other
    · subst same
      have inside : index < world.runs.length := (List.getElem?_eq_some_iff.mp present).1
      obtain rfl : outcome.1 = found := by simpa [World.withRun, inside] using isFound
      exact soundRun_extends later itself
    · have old : world.runs[other]? = some found := by
        simpa [World.withRun, same] using isFound
      exact soundRun_extends later (sound.runs other found old)

/-- The object a step put in place is there. -/
theorem withRun_self {index : Nat} {run : DeviceRun} (present : world.runs[index]? = some run)
    (outcome : DeviceRun × List Value) :
    (world.withRun index outcome).runs[index]? = some outcome.1 := by
  have inside : index < world.runs.length := (List.getElem?_eq_some_iff.mp present).1
  simp [World.withRun, inside]

/-- The object a step put in place is there. -/
theorem withSession_self {index : Nat} {session : ServerSession}
    (present : world.sessions[index]? = some session) (outcome : ServerSession × List Value) :
    (world.withSession index outcome).sessions[index]? = some outcome.1 := by
  have inside : index < world.sessions.length := (List.getElem?_eq_some_iff.mp present).1
  simp [World.withSession, inside]

/-- Giving up changes nothing that the invariant speaks of. -/
theorem sound_closeSession (sound : Sound registered powers world) {index : Nat}
    {session : ServerSession} (present : world.sessions[index]? = some session) :
    Sound registered powers (world.withSession index ({ session with closed := true }, [])) :=
  sound_withSession sound present ⟨fun _ same => same, fun _ same => same⟩
    ⟨(sound.sessions index session present).challenge,
      (sound.sessions index session present).established⟩ (by simp)

/-- Giving up changes nothing that the invariant speaks of. -/
theorem sound_closeRun (sound : Sound registered powers world) {index : Nat} {run : DeviceRun}
    (present : world.runs[index]? = some run) :
    Sound registered powers (world.withRun index ({ run with closed := true }, [])) :=
  sound_withRun sound present
    ⟨rfl, fun _ same => same, fun _ same => same, fun _ member => member⟩
    ⟨(sound.runs index run present).opening, (sound.runs index run present).signed,
      (sound.runs index run present).keyAb⟩ (by simp)

/-- A new connection knows nothing yet. -/
theorem sound_connect (sound : Sound registered powers world) :
    Sound registered powers { world with sessions := world.sessions ++ [{}] } := by
  have later : world.Extends { world with sessions := world.sessions ++ [{}] } := {
    known := subset_rfl
    sessions := fun index session isFound =>
      ⟨session, by
        rw [List.getElem?_append_left (List.getElem?_eq_some_iff.mp isFound).1]
        exact isFound, session.keeps_refl⟩
    runs := fun _ run isFound => ⟨run, isFound, run.keeps_refl⟩ }
  refine ⟨fun value member => traffic_extends later (sound.traffic value member), ?_,
    fun index run isFound => soundRun_extends later (sound.runs index run isFound)⟩
  intro index session isFound
  by_cases old : index < world.sessions.length
  · rw [List.getElem?_append_left old] at isFound
    exact soundSession_extends later (sound.sessions index session isFound)
  · rw [List.getElem?_append_right (by omega)] at isFound
    obtain rfl : ({} : ServerSession) = session := by
      have inside := (List.getElem?_eq_some_iff.mp isFound).2
      simpa using inside
    exact ⟨fun challenge made => (nomatch made), fun ephPkA keyAb made => (nomatch made)⟩

/-- A new run has only its opening. -/
theorem sound_start (sound : Sound registered powers world) (node : Nat) :
    Sound registered powers { world with
      runs := world.runs ++ [{ node, opening := deviceOpening node world.runs.length }]
      known := world.known ∪ {.name (.idA node), .name (.challengeA world.runs.length)} } := by
  have later : world.Extends { world with
      runs := world.runs ++ [{ node, opening := deviceOpening node world.runs.length }]
      known := world.known ∪ {.name (.idA node), .name (.challengeA world.runs.length)} } := {
    known := Set.subset_union_left
    sessions := fun _ session isFound => ⟨session, isFound, session.keeps_refl⟩
    runs := fun index run isFound =>
      ⟨run, by
        rw [List.getElem?_append_left (List.getElem?_eq_some_iff.mp isFound).1]
        exact isFound, run.keeps_refl⟩ }
  refine ⟨?_, fun index session isFound =>
    soundSession_extends later (sound.sessions index session isFound), ?_⟩
  · rintro value (old | rfl | rfl)
    · exact traffic_extends later (sound.traffic value old)
    · exact .isPublic (.idA node)
    · exact .challengeA _
  · intro index run isFound
    by_cases old : index < world.runs.length
    · rw [List.getElem?_append_left old] at isFound
      exact soundRun_extends later (sound.runs index run isFound)
    · rw [List.getElem?_append_right (by omega)] at isFound
      have inside := (List.getElem?_eq_some_iff.mp isFound).1
      obtain rfl : index = world.runs.length := by
        simp only [List.length_cons, List.length_nil] at inside
        omega
      obtain rfl : { node, opening := deviceOpening node world.runs.length } = run := by
        simpa using isFound
      exact ⟨rfl, fun signed made => (nomatch made), fun keyAb made => (nomatch made)⟩

/-- A power only adds the value it discloses. -/
theorem sound_reveal (sound : Sound registered powers world) {power : Power}
    (obtained : power ∈ powers) :
    Sound registered powers { world with known := insert power.value world.known } := by
  have later : world.Extends { world with known := insert power.value world.known } := {
    known := Set.subset_insert _ _
    sessions := fun _ session isFound => ⟨session, isFound, session.keeps_refl⟩
    runs := fun _ run isFound => ⟨run, isFound, run.keeps_refl⟩ }
  refine ⟨?_, fun index session isFound =>
    soundSession_extends later (sound.sessions index session isFound), fun index run isFound =>
    soundRun_extends later (sound.runs index run isFound)⟩
  rintro value (rfl | old)
  · exact .disclosed obtained
  · exact traffic_extends later (sound.traffic value old)

/-- One step, whoever takes it. -/
theorem sound_step (sound : Sound registered powers before)
    (step : Step registered powers before after) : Sound registered powers after := by
  cases step with
  | connect => exact sound_connect sound
  | start node => exact sound_start sound node
  | reveal power obtained => exact sound_reveal sound obtained
  | hello index session idA challengeA present isOpen waiting _ _ =>
    have old := sound.sessions index session present
    rcases hello_cases registered index session idA challengeA with
      refused | ⟨node, rfl, isRegistered, answered⟩
    · rw [refused]
      exact sound_closeSession sound present
    · rw [answered]
      refine sound_withSession sound present ⟨fun challenge made => by simp [waiting] at made,
        fun _ same => same⟩ ⟨?_, ?_⟩ ?_
      · rintro challenge ⟨⟩
        exact ⟨node, challengeA, isRegistered, rfl⟩
      · intro ephPkA keyAb isEstablished
        obtain ⟨_, _, _, made, _⟩ := old.established ephPkA keyAb isEstablished
        simp [waiting] at made
      · intro value member
        simp only [List.mem_cons, List.not_mem_nil, or_false] at member
        rcases member with rfl | rfl | rfl | rfl
        · exact .isPublic .idB
        · exact .challengeB index
        · exact .ephemeralB index
        · exact .serverProof ⟨_, withSession_self present _, rfl⟩
  | response index session challenge ephPkA deviceProof present isOpen challenged waiting _
      derivesProof =>
    have old := sound.sessions index session present
    obtain ⟨node, challengeA, isRegistered, rfl⟩ := old.challenge challenge challenged
    rcases response_cases session node index challengeA ephPkA deviceProof with
      refused | ⟨factors, rfl, rfl, accepted⟩
    · rw [refused]
      exact sound_closeSession sound present
    · rw [accepted]
      refine sound_withSession sound present ⟨fun _ same => same,
        fun key made => by simp [waiting] at made⟩ ⟨old.challenge, ?_⟩ ?_
      · rintro ephPkA keyAb ⟨⟩
        exact ⟨node, challengeA, factors, challenged, rfl, rfl,
          deviceProof_derived sound derivesProof⟩
      · intro value member
        obtain rfl : value = .name (.text "session_ack") := by simpa using member
        exact .isPublic (.text _)
  | data index session ephPkA keyAb nonce body present established _ =>
    exact sound_withSession sound present ⟨fun _ same => same, fun _ same => same⟩
      ⟨(sound.sessions index session present).challenge,
        (sound.sessions index session present).established⟩ (by simp)
  | challenge index run idB challengeB ephPkB serverProof present isOpen waiting _ _ _
      derivesProof =>
    have old := sound.runs index run present
    rcases challenge_cases run index old.opening idB challengeB ephPkB serverProof with
      refused | ⟨rfl, rfl, accepted⟩
    · rw [refused]
      exact sound_closeRun sound present
    · rw [accepted]
      refine sound_withRun sound present ⟨rfl, fun signed made => by simp [waiting] at made,
        fun _ same => same, fun _ member => member⟩ ⟨old.opening, ?_, ?_⟩ ?_
      · rintro signed ⟨⟩
        exact ⟨challengeB, ephPkB, rfl, serverProof_derived sound derivesProof⟩
      · intro keyAb finished
        obtain ⟨_, _, made, _⟩ := old.keyAb keyAb finished
        simp [waiting] at made
      · intro value member
        simp only [List.mem_cons, List.not_mem_nil, or_false] at member
        rcases member with rfl | rfl
        · exact .ephemeralA index
        · exact .deviceProof ⟨_, withRun_self present _, rfl, rfl⟩
  | ack index run signed type present isOpen responded waiting _ =>
    have old := sound.runs index run present
    obtain ⟨challengeB, ephPkB, rfl, _⟩ := old.signed signed responded
    rcases ack_cases run index old.opening challengeB ephPkB type with
      refused | ⟨factors, rfl, _, accepted⟩
    · rw [refused]
      exact sound_closeRun sound present
    · rw [accepted]
      refine sound_withRun sound present ⟨rfl, fun _ same => same,
        fun key made => by simp [waiting] at made, fun _ member => member⟩
        ⟨old.opening, old.signed, ?_⟩ (by simp)
      rintro keyAb ⟨⟩
      exact ⟨challengeB, factors, responded, rfl⟩
  | encrypt index run keyAb payload present finished =>
    have old := sound.runs index run present
    refine sound_withRun sound present ⟨rfl, fun _ same => same, fun _ same => same,
      fun _ member => List.mem_append_left _ member⟩ ⟨old.opening, old.signed, old.keyAb⟩ ?_
    intro value member
    simp only [List.mem_cons, List.not_mem_nil, or_false] at member
    subst member
    exact .data (withRun_self present _) finished (by simp)

/-- The invariant holds in every reachable world. -/
theorem sound_reachable (reachable : Reachable registered powers world) :
    Sound registered powers world := by
  induction reachable with
  | refl =>
    exact ⟨fun value member => .isPublic member, fun index session isFound => (nomatch isFound),
      fun index run isFound => (nomatch isFound)⟩
  | tail _ step inductionHypothesis => exact sound_step inductionHypothesis step

end Microgrid.SymbolicNetwork
