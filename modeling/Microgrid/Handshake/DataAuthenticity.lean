import Microgrid.Handshake.Agreement

/-!
# Who encrypted what a session accepts

The data phase adds no identity of its own: a message names neither the node nor the
session, and the server opens it with the key of the session it arrived on. What it
says about its origin rests on the handshake alone. The key of a session contains the
session's own challenge, the run whose signature the session accepted is the only one
that derives the same key, and nobody else can.

So the invariant speaks of boxes only. Every box in the attacker's view was made by
some run, and every payload in a session was in a box that the attacker could present
under the session's key.
-/

namespace Microgrid.SymbolicNetwork

open Handshake SymbolicKnowledge SymbolicKnowledge.Term

variable {registered : Nat → Bool} {powers : Set Power} {world before after : World}

/-- The data messages of run `index`: each payload in a box of its own, under the nonce
drawn for it. -/
def DeviceRun.frames (run : DeviceRun) (index : Nat) : List Value :=
  match run.keyAb with
  | none => []
  | some keyAb =>
    run.payloads.mapIdx fun count body => .box keyAb (.name (.nonce index count)) body

/-- A data message that decrypts in the session: the attacker has it, and it is a box
under the session's `key_ab`. -/
def Accepts (world : World) (session : ServerSession) (frame : Value) : Prop :=
  ∃ ephPkA keyAb nonce body, session.established = some (ephPkA, keyAb) ∧
    frame = .box keyAb nonce body ∧ Derives world.known frame

/-! ### Frames -/

theorem mem_frames {run : DeviceRun} {index : Nat} {frame : Value} :
    frame ∈ run.frames index ↔ ∃ keyAb count body, run.keyAb = some keyAb ∧
      run.payloads[count]? = some body ∧ frame = .box keyAb (.name (.nonce index count)) body := by
  unfold DeviceRun.frames
  cases keyed : run.keyAb with
  | none => simp
  | some keyAb =>
    simp only [List.mem_mapIdx, Option.some.injEq]
    constructor
    · rintro ⟨count, inside, rfl⟩
      exact ⟨keyAb, count, _, rfl, List.getElem?_eq_getElem inside, rfl⟩
    · rintro ⟨_, count, body, rfl, present, rfl⟩
      obtain ⟨inside, rfl⟩ := List.getElem?_eq_some_iff.mp present
      exact ⟨count, inside, rfl⟩

/-- A run that keeps its key and appends payloads keeps its frames. -/
theorem frames_grow {run later : DeviceRun} {index : Nat}
    (keyAb : ∀ key, run.keyAb = some key → later.keyAb = some key)
    (payloads : run.payloads <+: later.payloads) {frame : Value}
    (member : frame ∈ run.frames index) : frame ∈ later.frames index := by
  obtain ⟨key, count, body, keyed, present, rfl⟩ := mem_frames.mp member
  obtain ⟨more, longer⟩ := payloads
  have still : later.payloads[count]? = some body := by
    rw [← longer, List.getElem?_append_left (List.getElem?_eq_some_iff.mp present).1]
    exact present
  exact mem_frames.mpr ⟨key, count, body, keyAb key keyed, still, rfl⟩

/-- No step takes a frame back. -/
theorem frames_step (step : Step registered powers before after) {index : Nat} {run : DeviceRun}
    (present : before.runs[index]? = some run) :
    ∃ later, after.runs[index]? = some later ∧
      ∀ frame ∈ run.frames index, frame ∈ later.frames index := by
  -- a run replaced by one that keeps its key and its payloads
  have replaced {other : Nat} {old : DeviceRun} (isOld : before.runs[other]? = some old)
      {outcome : DeviceRun × List Value}
      (keyAb : ∀ key, old.keyAb = some key → outcome.1.keyAb = some key)
      (payloads : old.payloads <+: outcome.1.payloads) :
      ∃ later, (before.withRun other outcome).runs[index]? = some later ∧
        ∀ frame ∈ run.frames index, frame ∈ later.frames index := by
    by_cases same : other = index
    · subst same
      obtain rfl : run = old := by simpa [present] using isOld
      exact ⟨_, withRun_self present outcome, fun frame => frames_grow keyAb payloads⟩
    · exact ⟨run, by simpa [World.withRun, same] using present, fun frame member => member⟩
  cases step with
  | connect => exact ⟨run, present, fun frame member => member⟩
  | hello => exact ⟨run, present, fun frame member => member⟩
  | response => exact ⟨run, present, fun frame member => member⟩
  | data => exact ⟨run, present, fun frame member => member⟩
  | reveal => exact ⟨run, present, fun frame member => member⟩
  | start node =>
    refine ⟨run, ?_, fun frame member => member⟩
    rw [List.getElem?_append_left (List.getElem?_eq_some_iff.mp present).1]
    exact present
  | challenge other old idB challengeB ephPkB serverProof isOld =>
    apply replaced isOld
    · intro key keyed
      unfold DeviceRun.challenge
      split <;> exact keyed
    · unfold DeviceRun.challenge
      split <;> exact List.prefix_rfl
  | ack other old signed type isOld _ _ waiting =>
    apply replaced isOld
    · intro key keyed
      rw [waiting] at keyed
      cases keyed
    · unfold DeviceRun.ack
      split
      · split <;> exact List.prefix_rfl
      · exact List.prefix_rfl
  | encrypt other old keyAb payload isOld =>
    apply replaced isOld
    · intro key keyed
      exact keyed
    · exact List.prefix_append _ _

/-- A box that is new in the attacker's view is a frame of some run. -/
theorem box_step (sound : Sound registered powers before)
    (step : Step registered powers before after) {key nonce body : Value}
    (seen : .box key nonce body ∈ after.known) :
    .box key nonce body ∈ before.known ∨ ∃ (index : Nat) (run : DeviceRun),
      after.runs[index]? = some run ∧ .box key nonce body ∈ run.frames index := by
  cases step with
  | connect => exact .inl seen
  | hello index session idA challengeA =>
    refine seen.imp_right fun new => ?_
    rcases hello_cases registered index session idA challengeA with
      refused | ⟨node, _, _, answered⟩
    · simp [refused] at new
    · simp [answered, serverChallenge] at new
  | response index session challenge ephPkA deviceProof =>
    refine seen.imp_right fun new => ?_
    unfold ServerSession.response at new
    split at new <;> simp at new
  | data => exact seen.imp_right fun new => absurd new List.not_mem_nil
  | start node =>
    refine seen.imp_right fun new => ?_
    simp at new
  | challenge index run idB challengeB ephPkB serverProof present =>
    refine seen.imp_right fun new => ?_
    rcases challenge_cases run index (sound.runs index run present).opening idB challengeB ephPkB
      serverProof with refused | ⟨_, _, accepted⟩
    · simp [refused] at new
    · simp [accepted, deviceSigned] at new
  | ack => exact seen.imp_right fun new => absurd new List.not_mem_nil
  | encrypt index run keyAb payload present finished =>
    refine seen.imp_right fun new => ?_
    refine ⟨index, _, withRun_self present _, mem_frames.mpr ?_⟩
    have same : Term.box key nonce body = .box keyAb (.name (.nonce index run.payloads.length))
        (.name (.payload payload)) := List.mem_singleton.mp new
    exact ⟨keyAb, run.payloads.length, .name (.payload payload), finished, by simp, same⟩
  | reveal power =>
    refine .inl (seen.resolve_left fun new => ?_)
    cases power <;> cases new

/-- Where the payloads and the key of a session can come from in a step. -/
inductive SessionStep (before : World) (index : Nat) (next : ServerSession) : Prop where
  | fresh (empty : next.payloads = [])
  | kept (session : ServerSession) (present : before.sessions[index]? = some session)
      (same : next.payloads = session.payloads)
      (established : session.established = none ∨ next.established = session.established)
  | opened (session : ServerSession) (present : before.sessions[index]? = some session)
      (ephPkA keyAb nonce body : Value) (established : session.established = some (ephPkA, keyAb))
      (kept : next.established = some (ephPkA, keyAb))
      (appended : next.payloads = session.payloads ++ [body])
      (derivesBox : Derives before.known (.box keyAb nonce body))

theorem session_step (step : Step registered powers before after) {index : Nat}
    {next : ServerSession} (isNext : after.sessions[index]? = some next) :
    SessionStep before index next := by
  cases step with
  | connect =>
    by_cases old : index < before.sessions.length
    · rw [List.getElem?_append_left old] at isNext
      exact .kept next isNext rfl (.inr rfl)
    · rw [List.getElem?_append_right (by omega)] at isNext
      obtain rfl : ({} : ServerSession) = next := by
        simpa using (List.getElem?_eq_some_iff.mp isNext).2
      exact .fresh rfl
  | hello other session idA challengeA present =>
    obtain ⟨rfl, rfl⟩ | still := withSession_cases isNext
    · refine .kept session present ?_ (.inr ?_) <;> unfold ServerSession.hello <;>
        cases registry registered idA with
        | none => rfl
        | some entry =>
          dsimp only
          split <;> rfl
    · exact .kept next still rfl (.inr rfl)
  | response other session challenge ephPkA deviceProof present _ _ waiting =>
    obtain ⟨rfl, rfl⟩ | still := withSession_cases isNext
    · refine .kept session present ?_ (.inl waiting)
      unfold ServerSession.response
      split <;> rfl
    · exact .kept next still rfl (.inr rfl)
  | data other session ephPkA keyAb nonce body present established derivesBox =>
    obtain ⟨rfl, rfl⟩ | still := withSession_cases isNext
    · exact .opened session present ephPkA keyAb nonce body established established rfl derivesBox
    · exact .kept next still rfl (.inr rfl)
  | start => exact .kept next isNext rfl (.inr rfl)
  | challenge => exact .kept next isNext rfl (.inr rfl)
  | ack => exact .kept next isNext rfl (.inr rfl)
  | encrypt => exact .kept next isNext rfl (.inr rfl)
  | reveal => exact .kept next isNext rfl (.inr rfl)

/-! ### The invariant -/

/-- Every box was made by a run; every payload was in a box under its session's key. -/
structure Accounted (world : World) : Prop where
  boxes : ∀ key nonce body, .box key nonce body ∈ world.known →
    ∃ (index : Nat) (run : DeviceRun), world.runs[index]? = some run ∧
      .box key nonce body ∈ run.frames index
  payloads : ∀ (index : Nat) (session : ServerSession), world.sessions[index]? = some session →
    ∀ body ∈ session.payloads, ∃ ephPkA keyAb nonce,
      session.established = some (ephPkA, keyAb) ∧ Derives world.known (.box keyAb nonce body)

theorem known_step (step : Step registered powers before after) : before.known ⊆ after.known := by
  cases step with
  | connect => exact subset_rfl
  | hello => exact Set.subset_union_left
  | response => exact Set.subset_union_left
  | data => exact Set.subset_union_left
  | start => exact Set.subset_union_left
  | challenge => exact Set.subset_union_left
  | ack => exact Set.subset_union_left
  | encrypt => exact Set.subset_union_left
  | reveal => exact Set.subset_insert _ _

theorem accounted_step (sound : Sound registered powers before) (accounted : Accounted before)
    (step : Step registered powers before after) : Accounted after := by
  constructor
  · intro key nonce body seen
    obtain old | made := box_step sound step seen
    · obtain ⟨index, run, present, member⟩ := accounted.boxes key nonce body old
      obtain ⟨later, isLater, kept⟩ := frames_step step present
      exact ⟨index, later, isLater, kept _ member⟩
    · exact made
  · intro index next isNext body member
    cases session_step step isNext with
    | fresh empty =>
      rw [empty] at member
      cases member
    | kept session present same established =>
      rw [same] at member
      obtain ⟨ephPkA, keyAb, nonce, isEstablished, derived⟩ :=
        accounted.payloads index session present body member
      obtain waiting | unchanged := established
      · rw [waiting] at isEstablished
        cases isEstablished
      · exact ⟨ephPkA, keyAb, nonce, unchanged.trans isEstablished,
          derives_mono (known_step step) derived⟩
    | opened session present ephPkA keyAb nonce fresh established kept appended derivesBox =>
      rw [appended] at member
      obtain old | new := List.mem_append.mp member
      · obtain ⟨point, key, other, isEstablished, derived⟩ :=
          accounted.payloads index session present body old
        exact ⟨point, key, other, kept.trans (established.symm.trans isEstablished),
          derives_mono (known_step step) derived⟩
      · obtain rfl := List.mem_singleton.mp new
        exact ⟨ephPkA, keyAb, nonce, kept, derives_mono (known_step step) derivesBox⟩

theorem accounted_reachable (reachable : Reachable registered powers world) : Accounted world := by
  induction reachable with
  | refl =>
    constructor
    · intro key nonce body seen
      cases seen
    · intro index session present
      cases present
  | tail reaches step inductionHypothesis =>
    exact accounted_step (sound_reachable reaches) inductionHypothesis step

/-! ### Keys name their session and their run -/

/-- What a session established for a node agreed with one run of that node, and the key is the
one both derive. -/
theorem agreed_key (sound : Sound registered powers world) {node index : Nat}
    {session : ServerSession} {ephPkA keyAb : Value}
    (present : world.sessions[index]? = some session)
    (established : session.established = some (ephPkA, keyAb)) (isFor : session.IsFor node)
    (unknownKey : ¬ Derives world.known (.scalar (.identity node))) :
    ∃ (run : Nat) (deviceRun : DeviceRun), world.runs[run]? = some deviceRun ∧
      deviceRun.node = node ∧ Matches deviceRun session ∧
      keyAb = serverKey node index (.name (.challengeA run)) {.ephemeralA run} := by
  obtain ⟨run, deviceRun, isRun, ofNode, matched⟩ := matching_run sound present
    (Option.isSome_iff_exists.mpr ⟨_, established⟩) isFor unknownKey
  refine ⟨run, deviceRun, isRun, ofNode, matched, ?_⟩
  obtain ⟨other, challengeA, factors, made, rfl, rfl, _⟩ :=
    (sound.sessions index session present).established ephPkA keyAb established
  obtain rfl := isFor_challenge isFor made
  obtain ⟨signed, challenge, point, key, _, remade, again, fields, _⟩ := matched
  rw [made, Option.some.injEq] at remade
  rw [established, Option.some.injEq, Prod.mk.injEq] at again
  obtain ⟨rfl, -⟩ := again
  subst remade
  rw [(sound.runs run deviceRun isRun).opening] at fields
  simp only [List.cons.injEq] at fields
  obtain ⟨-, -, -, nonce, ephemeral, -⟩ := fields
  obtain rfl : Term.name (.challengeA run) = challengeA := nonce
  obtain rfl : {.ephemeralA run} = factors := by
    simpa [deviceOpening, DeviceSession.openHandshake, symbolicSuite] using ephemeral
  rfl

/-- Different sessions have different keys: the key contains the session's challenge. -/
theorem sessions_of_key (sound : Sound registered powers world) {index other : Nat}
    {session next : ServerSession} {ephPkA ephPkA' keyAb : Value}
    (present : world.sessions[index]? = some session) (isNext : world.sessions[other]? = some next)
    (first : session.established = some (ephPkA, keyAb))
    (second : next.established = some (ephPkA', keyAb)) : index = other := by
  obtain ⟨node, challengeA, factors, _, _, rfl, _⟩ :=
    (sound.sessions index session present).established ephPkA keyAb first
  obtain ⟨node', challengeA', factors', _, _, same, _⟩ :=
    (sound.sessions other next isNext).established ephPkA' _ second
  simp only [serverKey, Term.hash.injEq, tuple_inj, List.cons.injEq, Term.name.injEq,
    Label.challengeB.injEq] at same
  exact same.2.2.2.1

/-- A run's key contains the run's own challenge. -/
theorem run_of_key (sound : Sound registered powers world) {run : Nat} {deviceRun : DeviceRun}
    {shared verifier challengeB : Value} {origin : Nat}
    (present : world.runs[run]? = some deviceRun)
    (finished : deviceRun.keyAb =
      some (.hash (tuple [shared, verifier, .name (.challengeA origin), challengeB]))) :
    run = origin := by
  obtain ⟨nonce, factors, _, same⟩ := (sound.runs run deviceRun present).keyAb _ finished
  simp only [deviceKey, Term.hash.injEq, tuple_inj, List.cons.injEq, Term.name.injEq,
    Label.challengeA.injEq] at same
  exact same.2.2.1.symm

/-- Different runs have different frames. -/
theorem run_of_frame (sound : Sound registered powers world) {run other : Nat}
    {first second : DeviceRun} {frame : Value} (present : world.runs[run]? = some first)
    (isOther : world.runs[other]? = some second) (ofFirst : frame ∈ first.frames run)
    (ofSecond : frame ∈ second.frames other) : run = other := by
  obtain ⟨keyAb, _, _, keyed, _, rfl⟩ := mem_frames.mp ofFirst
  obtain ⟨_, _, _, keyed', _, same⟩ := mem_frames.mp ofSecond
  rw [Term.box.injEq] at same
  obtain ⟨rfl, -, -⟩ := same
  obtain ⟨challengeB, factors, _, rfl⟩ := (sound.runs run first present).keyAb keyAb keyed
  exact (run_of_key sound isOther keyed').symm

/-- A box in the attacker's view is one of its own members: no box contains another. -/
theorem box_known (sound : Sound registered powers world) {key nonce body : Value}
    (occurs : Occurs world.known (.box key nonce body)) : .box key nonce body ∈ world.known := by
  obtain ⟨whole, member, part⟩ := occurs
  cases sound.traffic whole member with
  | isPublic isPublic => cases isPublic <;> cases part
  | @disclosed power obtained => cases power <;> cases part
  | data _ _ _ =>
    cases part with
    | self => exact member
    | body inside => cases inside
  | _ => cases part

/-- While nobody else holds the key of a session, the boxes under it are frames of the run
that agreed on it. -/
theorem accepted_frame (sound : Sound registered powers world) (accounted : Accounted world)
    {run : Nat} {deviceRun : DeviceRun} (isRun : world.runs[run]? = some deviceRun)
    {shared verifier challengeB nonce body : Value}
    (secret : ¬ Derives world.known
      (.hash (tuple [shared, verifier, .name (.challengeA run), challengeB])))
    (derived : Derives world.known
      (.box (.hash (tuple [shared, verifier, .name (.challengeA run), challengeB])) nonce body)) :
    .box (.hash (tuple [shared, verifier, .name (.challengeA run), challengeB])) nonce body ∈
      deviceRun.frames run := by
  have occurs := (derives_box derived).resolve_right secret
  obtain ⟨origin, found, isFound, member⟩ := accounted.boxes _ _ _ (box_known sound occurs)
  obtain ⟨keyAb, _, _, keyed, _, same⟩ := mem_frames.mp member
  rw [Term.box.injEq] at same
  obtain ⟨rfl, -, -⟩ := same
  obtain rfl := run_of_key sound isFound keyed
  obtain rfl : found = deviceRun := by simpa [isFound] using isRun
  exact member

/-! ### The guarantee -/

/-- Every plaintext a session of a node accepted was encrypted by the run that agreed on its
key, and what the session would accept is a frame of that run, as the run sent it. No frame is
good for two sessions, and no two runs send the same one. -/
theorem data_authenticity (reachable : Reachable registered powers world) (node : Nat)
    (withheldKey : .identity node ∉ powers) (withheldA : ∀ run, .ephemeralA run ∉ powers)
    (withheldB : ∀ session, .ephemeralB session ∉ powers) :
    (∀ (index : Nat) (session : ServerSession) (ephPkA keyAb : Value),
      world.sessions[index]? = some session → session.established = some (ephPkA, keyAb) →
      session.IsFor node → ∃ (run : Nat) (deviceRun : DeviceRun),
        world.runs[run]? = some deviceRun ∧ deviceRun.node = node ∧ Matches deviceRun session ∧
        (∀ frame, Accepts world session frame → frame ∈ deviceRun.frames run) ∧
        ∀ body ∈ session.payloads, deviceRun.keyAb = some keyAb ∧ body ∈ deviceRun.payloads) ∧
    (∀ (index other : Nat) (session next : ServerSession) (frame : Value),
      world.sessions[index]? = some session → world.sessions[other]? = some next →
      Accepts world session frame → Accepts world next frame → index = other) ∧
    ∀ (run other : Nat) (first second : DeviceRun) (frame : Value),
      world.runs[run]? = some first → world.runs[other]? = some second →
      frame ∈ first.frames run → frame ∈ second.frames other → run = other := by
  have sound := sound_reachable reachable
  have accounted := accounted_reachable reachable
  refine ⟨?_, ?_, fun run other first second frame => run_of_frame sound⟩
  · intro index session ephPkA keyAb present established isFor
    have unknownKey := scalar_unknown reachable (.identity node) rfl withheldKey
    obtain ⟨run, deviceRun, isRun, ofNode, matched, rfl⟩ :=
      agreed_key sound present established isFor unknownKey
    have secret := key_secret sound
      (scalar_unknown reachable (.ephemeralB index) rfl (withheldB index))
      (scalar_unknown reachable (.ephemeralA run) rfl (withheldA run))
      (.name (.verifier node)) (.name (.challengeA run)) (.name (.challengeB index))
    refine ⟨run, deviceRun, isRun, ofNode, matched, ?_, ?_⟩
    · rintro frame ⟨point, key, nonce, body, again, rfl, derived⟩
      rw [established, Option.some.injEq, Prod.mk.injEq] at again
      obtain ⟨rfl, rfl⟩ := again
      exact accepted_frame sound accounted isRun secret derived
    · intro body member
      obtain ⟨point, key, nonce, again, derived⟩ :=
        accounted.payloads index session present body member
      rw [established, Option.some.injEq, Prod.mk.injEq] at again
      obtain ⟨rfl, rfl⟩ := again
      obtain ⟨keyAb, count, payload, keyed, sent, same⟩ :=
        mem_frames.mp (accepted_frame sound accounted isRun secret derived)
      rw [Term.box.injEq] at same
      obtain ⟨rfl, -, rfl⟩ := same
      exact ⟨keyed, List.mem_of_getElem? sent⟩
  · rintro index other session next frame present isNext ⟨_, key, _, _, first, rfl, _⟩
      ⟨_, key', _, _, second, same, _⟩
    rw [Term.box.injEq] at same
    obtain ⟨rfl, -, -⟩ := same
    exact sessions_of_key sound present isNext first second

/-- An exchange, one message of the node, and its delivery, before an attacker who holds every
verifier. -/
theorem honest_data_authenticity : ∃ (world : World) (session : ServerSession) (run : Nat)
    (deviceRun : DeviceRun),
    Reachable (fun _ => true) {power | ∃ node, power = .verifier node} world ∧
      world.sessions[0]? = some session ∧ session.payloads = [.name (.payload 3)] ∧
      world.runs[run]? = some deviceRun ∧ deviceRun.node = 7 ∧ Matches deviceRun session ∧
      .name (.payload 3) ∈ deviceRun.payloads := by
  obtain ⟨before, world, last, reaches, responds, acks, _, authenticated, kept, runs⟩ :=
    exchange_completes (fun _ => true) {power | ∃ node, power = .verifier node} 7 rfl
  have encrypts : Step (fun _ => true) {power | ∃ node, power = .verifier node} last _ :=
    .encrypt last 0 (finishedRun 7 0 0) _ 3 (by simp [runs]) rfl
  have delivers : Step (fun _ => true) {power | ∃ node, power = .verifier node} _ _ :=
    .data (last.withRun 0 ({ finishedRun 7 0 0 with payloads := [.name (.payload 3)] },
        [.box (deviceKey 7 0 (.name (.challengeB 0)) {.ephemeralB 0}) (.name (.nonce 0 0))
          (.name (.payload 3))]))
      0 (authenticatedSession 7 0 0) (.point {.ephemeralA 0})
      (serverKey 7 0 (.name (.challengeA 0)) {.ephemeralA 0}) (.name (.nonce 0 0))
      (.name (.payload 3)) (by simp [World.withRun, kept, authenticated]) rfl
      (by rw [keys_agree]; exact .known (.inr (by simp)))
  have reachable := (((reaches.tail responds).tail acks).tail encrypts).tail delivers
  obtain ⟨run, deviceRun, isRun, ofNode, matched, _, sent⟩ :=
    (data_authenticity reachable 7 (by simp) (by simp) (by simp)).1 0
      { authenticatedSession 7 0 0 with payloads := [.name (.payload 3)] } _ _
      (by simp [World.withSession, World.withRun, kept, authenticated]; rfl) rfl ⟨_, rfl, rfl⟩
  exact ⟨_, _, run, deviceRun, reachable,
    by simp [World.withSession, World.withRun, kept, authenticated, authenticatedSession], rfl,
    isRun, ofNode, matched,
    (sent _ (List.mem_singleton.mpr rfl)).2⟩

end Microgrid.SymbolicNetwork
