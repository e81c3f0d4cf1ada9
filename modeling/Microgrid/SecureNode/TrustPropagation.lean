import Mathlib.Logic.Function.Basic
import Microgrid.SecureNode.PoisonedReadings
import Microgrid.SecureNode.ServerRuns

/-!
# Where a lowered trust score reaches the coordinator

A session lowers its trust score; the coordinator reads the copy in the last recorded
reading of the node. The copy follows on one path only, from the cross-node check to the
recording of the same message. A security error records nothing and ends the session, so
the coordinator goes on with the score from before it.

For each label, `ceiling` keeps the lowest score to which a session has been lowered since
a session of that label last completed P3.
-/

namespace Microgrid.SecureNode

open PythonValues Ems LabelledRuns

/-- A thread is about to record a reading. -/
def Thread.Pending (thread : Thread) (reading : Reading) : Prop :=
  ∃ message, thread.stage = .judged message (some reading)

/-- A thread elsewhere is not about to record anything. -/
theorem Thread.idle {thread : Thread}
    (elsewhere : ∀ message reading, thread.stage ≠ .judged message (some reading)) :
    ∀ reading, ¬thread.Pending reading := by
  rintro reading ⟨message, stands⟩
  exact elsewhere message reading stands

/-- What a step of a thread can do to the trust score, to the reading it is about to
record, and to the store. -/
inductive Effect (store : DataStore) (thread : Thread) (after : NodeSession)
    (stage : Option Stage) : DataStore → Prop where
  /-- Neither the score nor the store changes. -/
  | quiet (same : after.trustScore = thread.session.trustScore)
      (idle : ∀ reading, ¬thread.Pending reading)
      (still : ∀ message reading, stage ≠ some (.judged message (some reading))) :
      Effect store thread after stage store
  /-- A security error lowers the score and ends the session. -/
  | security (ended : stage = none) (idle : ∀ reading, ¬thread.Pending reading) :
      Effect store thread after stage store
  /-- A check may lower the score, and then there is a reading that carries it. -/
  | checked (message : Accepted) (reading : Option Reading)
      (stands : stage = some (.judged message reading))
      (idle : ∀ reading, ¬thread.Pending reading)
      (lower : after.trustScore ≤ thread.session.trustScore) (nonneg : 0 ≤ after.trustScore)
      (lowered : after.trustScore < thread.session.trustScore → ∃ kept, reading = some kept)
      (carries : ∀ kept, reading = some kept → TrustScore kept after.trustScore) :
      Effect store thread after stage store
  /-- The reading is recorded. -/
  | recorded (reading : Reading) (now : ℚ) (pending : thread.Pending reading)
      (same : after.trustScore = thread.session.trustScore)
      (still : ∀ message reading, stage ≠ some (.judged message (some reading))) :
      Effect store thread after stage (store.record thread.session.nodeLabel reading now)

section Effects

variable {crypto : Primitives} {library : Library} {store store' : DataStore}
  {ems : EMSCoordinator} {thread : Thread} {after : NodeSession} {stage : Option Stage}

/-- A loop stage is no check. -/
theorem loopStage_ne (session : NodeSession) (message : Accepted) (reading : Option Reading) :
    loopStage session ≠ some (.judged message reading) := by
  unfold loopStage
  split <;> simp

/-- Every step of a thread has one of the four effects. -/
theorem ThreadStep.effect (taken : ThreadStep crypto library store ems thread after stage store')
    (nonneg : 0 ≤ thread.session.trustScore) : Effect store thread after stage store' := by
  cases taken with
  | accept msg kind passed =>
    exact .quiet (acceptP4_keeps passed).2.1 (Thread.idle (by simp)) (by simp)
  | reject msg kind raised => exact .security (loopStage_failP4 _ _) (Thread.idle (by simp))
  | judge session message =>
    obtain ⟨afterNonneg, lower⟩ := @judgeReading_trust library session nonneg store message
    refine .checked message _ rfl (Thread.idle (by simp)) lower afterNonneg ?_ ?_
    · intro lowered
      cases judged : (judgeReading library session store message).2 with
      | none =>
        rw [judgeReading_none judged] at lowered
        exact absurd lowered (lt_irrefl _)
      | some reading => exact ⟨reading, rfl⟩
    · intro kept judged
      obtain ⟨payload, -, -, -, -, carried⟩ := recorded_payload judged
      exact carried
  | record session message reading now => exact .recorded reading now ⟨message, rfl⟩ rfl (by simp)
  | skip session message => exact .quiet rfl (Thread.idle (by simp)) (by simp)
  | respond delivery sent =>
    exact .quiet (finishP4_spec _).2 (Thread.idle (by simp))
      (fun message reading => loopStage_ne _ message _)
  | respondFails delivery raised =>
    exact .security (loopStage_failP4 _ _) (Thread.idle (by simp))
  | logout session msg kind nonce resFails =>
    exact .quiet (handleP5_spec nonce resFails session msg).2 (Thread.idle (by simp)) (by simp)
  | ignore session msg noData noLogout => exact .quiet rfl (Thread.idle (by simp)) (by simp)
  | disconnect session => exact .quiet rfl (Thread.idle (by simp)) (by simp)

end Effects

/-- The server together with, for every label, the lowest trust score to which one of its
sessions has been lowered since one of them last completed P3. -/
structure Watched where
  server : SmgServer
  ceiling : String → Option ℚ

/-- The ceilings after a session has moved: lowered for its label if its score was. -/
def lower (ceiling : String → Option ℚ) (before after : NodeSession) : String → Option ℚ :=
  if after.trustScore < before.trustScore then
    Function.update ceiling before.nodeLabel
      (some (((ceiling before.nodeLabel).map (min after.trustScore)).getD after.trustScore))
  else ceiling

/-- The ceilings after a step. -/
def watch (ceiling : String → Option ℚ) : Event → String → Option ℚ
  | .connected nodeLabel => Function.update ceiling nodeLabel none
  | .moved _ before after _ => lower ceiling before after
  | .updated => ceiling

/-- A step of the server, watched. -/
def Watched.Step (crypto : Primitives) (library : Library) (watched : Watched) (event : Event)
    (after : Watched) : Prop :=
  SmgServer.Step crypto library watched.server event after.server ∧
    after.ceiling = watch watched.ceiling event

/-- Every step of the server can be watched. -/
theorem watched {crypto : Primitives} {library : Library} {server after : SmgServer}
    {event : Event} (taken : server.Step crypto library event after) (ceiling : String → Option ℚ) :
    Watched.Step crypto library ⟨server, ceiling⟩ event ⟨after, watch ceiling event⟩ :=
  ⟨taken, rfl⟩

/-- The server when it starts. -/
def Watched.init : Watched := ⟨.init, fun _ => none⟩

/-- For every node whose trust has been lowered, an update now uses no higher score. -/
def Propagated (watched : Watched) : Prop :=
  ∀ nodeLabel score reading, watched.ceiling nodeLabel = some score →
    watched.server.dataStore.getLatest nodeLabel = some reading →
      ∃ t, TrustScore reading t ∧ t ≤ score

/-- Every update finds the lowered scores. -/
def Informed (watched : Watched) (event : Event) : Prop := event = .updated → Propagated watched

/-- The store has no reading of the node with a trust score above `score`. -/
def NoneAbove (store : DataStore) (nodeLabel : String) (score : ℚ) : Prop :=
  ∀ reading t, store.getLatest nodeLabel = some reading → TrustScore reading t → t ≤ score

/-- A security error comes only while the store has no reading of the node above the
lowered score; a score is lowered only below those of no other session of the node; and
no update comes between a check and the recording if the store has a reading above the
score of the session. -/
def Admissible (watched : Watched) : Event → Prop
  | .connected _ => True
  | .moved others before after stage => after.trustScore < before.trustScore →
    (stage = none → NoneAbove watched.server.dataStore before.nodeLabel after.trustScore) ∧
      ∀ thread ∈ others, thread.session.nodeLabel = before.nodeLabel →
        thread.session.trustScore ≤ after.trustScore
  | .updated => ∀ thread ∈ watched.server.sessions, ∀ reading, thread.Pending reading →
      NoneAbove watched.server.dataStore thread.session.nodeLabel thread.session.trustScore

/-- What holds along the admissible runs: no session is above its ceiling, and a reading
above the ceiling is about to be replaced. -/
structure Kept (watched : Watched) : Prop where
  nonneg : ∀ thread ∈ watched.server.sessions, 0 ≤ thread.session.trustScore
  below : ∀ thread ∈ watched.server.sessions, ∀ score,
    watched.ceiling thread.session.nodeLabel = some score → thread.session.trustScore ≤ score
  pending : ∀ thread ∈ watched.server.sessions, ∀ reading, thread.Pending reading →
    TrustScore reading thread.session.trustScore
  carried : ∀ nodeLabel reading, watched.server.dataStore.getLatest nodeLabel = some reading →
    ∃ t, TrustScore reading t
  stored : ∀ nodeLabel score, watched.ceiling nodeLabel = some score →
    NoneAbove watched.server.dataStore nodeLabel score ∨
      ∃ thread ∈ watched.server.sessions, thread.session.nodeLabel = nodeLabel ∧
        ∃ reading, thread.Pending reading

/-- With the invariant, an update that the condition allows finds the lowered scores. -/
theorem Kept.propagated {watched : Watched} (kept : Kept watched)
    (allowed : Admissible watched .updated) : Propagated watched := by
  intro nodeLabel score reading limit recorded
  obtain ⟨t, carries⟩ := kept.carried nodeLabel reading recorded
  refine ⟨t, carries, ?_⟩
  rcases kept.stored nodeLabel score limit with none | ⟨thread, member, rfl, waiting, pending⟩
  · exact none reading t recorded carries
  · have own := allowed thread member waiting pending reading t recorded carries
    exact own.trans (kept.below thread member score limit)

/-- A score that is below the old ceiling, and below the score after a step that lowers it
for the label, is below the new ceiling. -/
theorem le_lower {ceiling : String → Option ℚ} {before after : NodeSession} {nodeLabel : String}
    {score t : ℚ} (limit : lower ceiling before after nodeLabel = some score)
    (old : ∀ former, ceiling nodeLabel = some former → t ≤ former)
    (new : after.trustScore < before.trustScore → nodeLabel = before.nodeLabel →
      t ≤ after.trustScore) : t ≤ score := by
  rw [lower] at limit
  by_cases lowered : after.trustScore < before.trustScore
  · rw [if_pos lowered] at limit
    by_cases same : nodeLabel = before.nodeLabel
    · subst same
      rw [Function.update_self] at limit
      cases former : ceiling before.nodeLabel with
      | none =>
        rw [former] at limit
        exact (new lowered rfl).trans_eq (Option.some.inj limit)
      | some low =>
        rw [former] at limit
        exact (le_min (new lowered rfl) (old low former)).trans_eq (Option.some.inj limit)
    · rw [Function.update_of_ne same] at limit
      exact old score limit
  · rw [if_neg lowered] at limit
    exact old score limit

/-- A step that lowers a score leaves a ceiling that is not above it. -/
theorem lower_some (ceiling : String → Option ℚ) {before after : NodeSession}
    (less : after.trustScore < before.trustScore) :
    ∃ score, lower ceiling before after before.nodeLabel = some score ∧
      score ≤ after.trustScore := by
  rw [lower, if_pos less, Function.update_self]
  refine ⟨_, rfl, ?_⟩
  cases ceiling before.nodeLabel with
  | none => exact le_rfl
  | some low => exact min_le_left _ _

/-- A step that does not lower a score of the label leaves its ceiling. -/
theorem lower_of_not {ceiling : String → Option ℚ} {before after : NodeSession} {nodeLabel : String}
    (untouched : ¬(after.trustScore < before.trustScore ∧ nodeLabel = before.nodeLabel)) :
    lower ceiling before after nodeLabel = ceiling nodeLabel := by
  rw [lower]
  by_cases lowered : after.trustScore < before.trustScore
  · rw [if_pos lowered, Function.update_of_ne fun same => untouched ⟨lowered, same⟩]
  · rw [if_neg lowered]

/-- Recording a reading with a score that is not above `score`. -/
theorem noneAbove_record {store : DataStore} {nodeLabel : String} {reading : Reading} {now : ℚ}
    {t score : ℚ} (carries : TrustScore reading t) (low : t ≤ score) :
    NoneAbove (store.record nodeLabel reading now) nodeLabel score := by
  intro other t' found carried
  rw [DataStore.getLatest_record] at found
  rw [← Option.some.inj found] at carried
  exact (TrustScore.unique (carries.recorded now) carried).symm.trans_le low

section Steps

variable {crypto : Primitives} {library : Library}

/-- A new session starts with a clean record. -/
theorem Kept.connect {watched : Watched} (kept : Kept watched) (serverId : Bytes)
    (nodeLabel : String) (initBl sesId sesKey : Bytes) :
    Kept ⟨{ watched.server with sessions := watched.server.sessions ++
      [⟨established serverId nodeLabel initBl sesId sesKey, .receiving⟩] },
        watch watched.ceiling (.connected nodeLabel)⟩ := by
  set fresh : Thread := ⟨established serverId nodeLabel initBl sesId sesKey, .receiving⟩
  have former : ∀ {label score}, watch watched.ceiling (.connected nodeLabel) label = some score →
      label ≠ nodeLabel ∧ watched.ceiling label = some score := by
    intro label score limit
    rw [watch] at limit
    by_cases same : label = nodeLabel
    · rw [same, Function.update_self] at limit
      cases limit
    · exact ⟨same, by rwa [Function.update_of_ne same] at limit⟩
  constructor
  · intro thread member
    rcases List.mem_append.mp member with old | new
    · exact kept.nonneg thread old
    · rw [List.mem_singleton.mp new]
      exact (by norm_num : (0 : ℚ) ≤ 8 / 10)
  · intro thread member score limit
    rcases List.mem_append.mp member with old | new
    · exact kept.below thread old score (former limit).2
    · rw [List.mem_singleton.mp new] at limit
      exact absurd rfl (former limit).1
  · intro thread member reading pending
    rcases List.mem_append.mp member with old | new
    · exact kept.pending thread old reading pending
    · rw [List.mem_singleton.mp new] at pending
      obtain ⟨message, stands⟩ := pending
      cases stands
  · exact kept.carried
  · intro label score limit
    rcases kept.stored label score (former limit).2 with none | ⟨thread, member, rest⟩
    · exact .inl none
    · exact .inr ⟨thread, List.mem_append_left _ member, rest⟩

/-- A session that goes on has not gained trust. -/
theorem Effect.trust {dataStore store : DataStore} {acting : Thread} {after : NodeSession}
    {stage : Option Stage} (effect : Effect dataStore acting after stage store)
    (nonneg : 0 ≤ acting.session.trustScore) {stands : Stage} (goesOn : stage = some stands) :
    0 ≤ after.trustScore ∧ after.trustScore ≤ acting.session.trustScore := by
  cases effect with
  | quiet same idle still => rw [same]; exact ⟨nonneg, le_rfl⟩
  | security ended idle => rw [ended] at goesOn; cases goesOn
  | checked message reading stands idle lower afterNonneg lowered carries =>
    exact ⟨afterNonneg, lower⟩
  | recorded reading now pending same still => rw [same]; exact ⟨nonneg, le_rfl⟩

/-- A reading that is about to be recorded carries the score of its session. -/
theorem Effect.pending {dataStore store : DataStore} {acting : Thread} {after : NodeSession}
    {stage : Option Stage} (effect : Effect dataStore acting after stage store) {stands : Stage}
    (goesOn : stage = some stands) {reading : Reading}
    (pending : Thread.Pending ⟨after, stands⟩ reading) : TrustScore reading after.trustScore := by
  obtain ⟨message, rfl⟩ := pending
  cases effect with
  | quiet same idle still => exact absurd goesOn (still message reading)
  | security ended idle => rw [ended] at goesOn; cases goesOn
  | checked checkedMessage kept stands idle lower afterNonneg lowered carries =>
    rw [stands] at goesOn
    injection goesOn with equal
    injection equal with sameMessage sameReading
    exact carries reading sameReading
  | recorded recorded now pending same still => exact absurd goesOn (still message reading)

/-- The store changes only by the recording of a reading that the thread was about to record. -/
theorem Effect.store {dataStore store : DataStore} {acting : Thread} {after : NodeSession}
    {stage : Option Stage} (effect : Effect dataStore acting after stage store) :
    (store = dataStore ∧ ∀ reading, ¬acting.Pending reading) ∨
      ∃ reading now, acting.Pending reading ∧
        store = dataStore.record acting.session.nodeLabel reading now := by
  cases effect with
  | quiet same idle still => exact .inl ⟨rfl, idle⟩
  | security ended idle => exact .inl ⟨rfl, idle⟩
  | checked message reading stands idle lower afterNonneg lowered carries => exact .inl ⟨rfl, idle⟩
  | recorded reading now pending same still => exact .inr ⟨reading, now, pending, rfl⟩

/-- A score is lowered by a security error, which ends the session, or by a check that has
a reading to record. -/
theorem Effect.lowered {dataStore store : DataStore} {acting : Thread} {after : NodeSession}
    {stage : Option Stage} (effect : Effect dataStore acting after stage store)
    (less : after.trustScore < acting.session.trustScore) :
    (store = dataStore ∧ ∀ reading, ¬acting.Pending reading) ∧
      (stage = none ∨ ∃ stands reading, stage = some stands ∧
        Thread.Pending ⟨after, stands⟩ reading) := by
  cases effect with
  | quiet same idle still => exact absurd same less.ne
  | security ended idle => exact ⟨⟨rfl, idle⟩, .inl ended⟩
  | checked message reading stands idle lower afterNonneg lowered carries =>
    obtain ⟨kept, rfl⟩ := lowered less
    exact ⟨⟨rfl, idle⟩, .inr ⟨_, kept, stands, message, rfl⟩⟩
  | recorded reading now pending same still => exact absurd same less.ne

/-- A thread that does not record leaves the readings that others are about to record. -/
theorem pending_stays {front back : List Thread} {acting : Thread} {after : NodeSession}
    {stage : Option Stage} {nodeLabel : String}
    (idle : acting.session.nodeLabel = nodeLabel → ∀ reading, ¬acting.Pending reading)
    (waiting : ∃ thread ∈ front ++ acting :: back, thread.session.nodeLabel = nodeLabel ∧
      ∃ reading, thread.Pending reading) :
    ∃ thread ∈ front ++ (stage.map (Thread.mk after)).toList ++ back,
      thread.session.nodeLabel = nodeLabel ∧ ∃ reading, thread.Pending reading := by
  obtain ⟨thread, listed, same, reading, pending⟩ := waiting
  rcases mem_before.mp listed with rfl | other
  · exact absurd pending (idle same reading)
  · exact ⟨thread, mem_moved.mpr (.inl other), same, reading, pending⟩

/-- A step of a thread that the condition allows leaves no reading above a ceiling, unless
it is about to be replaced. -/
theorem Kept.stored_thread {dataStore store : DataStore} {ems : EMSCoordinator}
    {front back : List Thread} {acting : Thread} {after : NodeSession} {stage : Option Stage}
    {ceiling : String → Option ℚ}
    (kept : Kept ⟨⟨dataStore, ems, front ++ acting :: back⟩, ceiling⟩)
    (effect : Effect dataStore acting after stage store)
    (label : after.nodeLabel = acting.session.nodeLabel)
    (allowed : Admissible ⟨⟨dataStore, ems, front ++ acting :: back⟩, ceiling⟩
      (.moved (front ++ back) acting.session after stage))
    {nodeLabel : String} {score : ℚ}
    (limit : lower ceiling acting.session after nodeLabel = some score) :
    NoneAbove store nodeLabel score ∨
      ∃ thread ∈ front ++ (stage.map (Thread.mk after)).toList ++ back,
        thread.session.nodeLabel = nodeLabel ∧ ∃ reading, thread.Pending reading := by
  have member : acting ∈ front ++ acting :: back := mem_before.mpr (.inl rfl)
  by_cases lowered : after.trustScore < acting.session.trustScore ∧
      nodeLabel = acting.session.nodeLabel
  · obtain ⟨less, rfl⟩ := lowered
    obtain ⟨⟨rfl, idle⟩, ended | ⟨stands, reading, goesOn, pending⟩⟩ := effect.lowered less
    · -- a security error: neither the old ceiling nor the new score has a reading above it
      have fresh := (allowed less).1 ended
      by_cases waiting : ∃ thread ∈ front ++ acting :: back,
          thread.session.nodeLabel = acting.session.nodeLabel ∧ ∃ reading, thread.Pending reading
      · exact .inr (pending_stays (fun _ => idle) waiting)
      · refine .inl fun reading t found carries =>
          le_lower limit (fun former same => ?_) fun _ _ => fresh reading t found carries
        have none := (kept.stored _ former same).resolve_right waiting
        exact none reading t found carries
    · exact .inr ⟨⟨after, stands⟩, mem_moved.mpr (.inr ⟨stands, goesOn, rfl⟩), label, reading,
        pending⟩
  · have former : ceiling nodeLabel = some score := (lower_of_not lowered).symm.trans limit
    have stored := kept.stored nodeLabel score former
    rcases effect.store with ⟨rfl, idle⟩ | ⟨recorded, now, waiting, rfl⟩
    · exact stored.imp_right (pending_stays fun _ => idle)
    · by_cases own : nodeLabel = acting.session.nodeLabel
      · -- the recorded reading carries the score of its session, which is below the ceiling
        subst own
        exact .inl (noneAbove_record (kept.pending acting member recorded waiting)
          (kept.below acting member score former))
      · refine stored.imp (fun none reading t found => none reading t ?_)
          (pending_stays fun same => absurd same.symm own)
        rwa [DataStore.getLatest_record_ne _ _ _ _ own] at found

/-- A step of a thread keeps the invariant if the condition allows it. -/
theorem Kept.thread {dataStore store : DataStore} {ems : EMSCoordinator} {front back : List Thread}
    {acting : Thread} {after : NodeSession} {stage : Option Stage} {ceiling : String → Option ℚ}
    (kept : Kept ⟨⟨dataStore, ems, front ++ acting :: back⟩, ceiling⟩)
    (taken : ThreadStep crypto library dataStore ems acting after stage store)
    (allowed : Admissible ⟨⟨dataStore, ems, front ++ acting :: back⟩, ceiling⟩
      (.moved (front ++ back) acting.session after stage)) :
    Kept ⟨⟨store, ems, front ++ (stage.map (Thread.mk after)).toList ++ back⟩,
      watch ceiling (.moved (front ++ back) acting.session after stage)⟩ := by
  have label := taken.label
  have member : acting ∈ front ++ acting :: back := mem_before.mpr (.inl rfl)
  have effect := taken.effect (kept.nonneg acting member)
  have others : ∀ {thread}, thread ∈ front ++ back → thread ∈ front ++ acting :: back :=
    fun listed => mem_before.mpr (.inr listed)
  constructor
  · intro thread listed
    rcases mem_moved.mp listed with other | ⟨stands, goesOn, rfl⟩
    · exact kept.nonneg thread (others other)
    · exact (effect.trust (kept.nonneg acting member) goesOn).1
  · intro thread listed score limit
    rcases mem_moved.mp listed with other | ⟨stands, goesOn, rfl⟩
    · exact le_lower limit (fun former => kept.below thread (others other) former)
        fun less same => (allowed less).2 thread other same
    · refine le_lower limit (fun former found => ?_) fun _ _ => le_rfl
      rw [label] at found
      exact (effect.trust (kept.nonneg acting member) goesOn).2.trans
        (kept.below acting member former found)
  · intro thread listed reading pending
    rcases mem_moved.mp listed with other | ⟨stands, goesOn, rfl⟩
    · exact kept.pending thread (others other) reading pending
    · exact effect.pending goesOn pending
  · intro nodeLabel reading found
    rcases effect.store with ⟨rfl, -⟩ | ⟨recorded, now, pending, rfl⟩
    · exact kept.carried nodeLabel reading found
    · by_cases own : nodeLabel = acting.session.nodeLabel
      · subst own
        rw [DataStore.getLatest_record] at found
        rw [← Option.some.inj found]
        exact ⟨_, (kept.pending acting member recorded pending).recorded now⟩
      · rw [DataStore.getLatest_record_ne _ _ _ _ own] at found
        exact kept.carried nodeLabel reading found
  · intro nodeLabel score limit
    exact kept.stored_thread effect label allowed limit

/-- Every step that the condition allows keeps the invariant. -/
theorem Kept.step {watched next : Watched} {event : Event}
    (taken : Watched.Step crypto library watched event next) (allowed : Admissible watched event)
    (kept : Kept watched) : Kept next := by
  obtain ⟨server, ceiling⟩ := watched
  obtain ⟨server', ceiling'⟩ := next
  obtain ⟨moved, rfl⟩ := taken
  cases moved with
  | connect server serverId nodeLabel initBl sesId sesKey =>
    exact kept.connect serverId nodeLabel initBl sesId sesKey
  | thread taken => exact kept.thread taken allowed
  | update server now => exact ⟨kept.nonneg, kept.below, kept.pending, kept.carried, kept.stored⟩

end Steps

/-- The invariant holds when the server starts. -/
theorem kept_init : Kept .init :=
  ⟨fun _ listed => (List.not_mem_nil listed).elim, fun _ listed => (List.not_mem_nil listed).elim,
    fun _ listed => (List.not_mem_nil listed).elim,
    fun _ _ found => (Option.some_ne_none _ found.symm).elim,
    fun _ _ limit => (Option.some_ne_none _ limit.symm).elim⟩

/-- In every run all of whose steps are admissible, every update finds the lowered scores. -/
theorem lowered_trust_propagates (crypto : Primitives) (library : Library)
    (events : List (Event × Watched)) (run : Run (Watched.Step crypto library) .init events)
    (admissible : Along Admissible .init events) : Along Informed .init events :=
  run.along (fun taken allowed kept => kept.step taken allowed)
    (fun allowed kept same => kept.propagated (by rwa [same] at allowed)) kept_init admissible

/-- Whoever holds the session key can send a message that fails the chain check. -/
theorem mismatch_rejected {crypto : Primitives} (lawful : crypto.Lawful) {session : NodeSession}
    (serverId : session.serverId.length < 256 ^ 2) (sesId : session.sesId.length < 256 ^ 2) :
    ∃ msg, HasType msg "dx_msg" ∧ acceptP4 crypto session msg
      = .error (.runtime ("PREG_bl mismatch at M#" ++ toString 0)) := by
  set parts : List Bytes := [[], bigEndian 8 0, bigEndian 4 0, [], [], []]
  obtain ⟨msgReg, packed⟩ := packFields_ok parts (by decide)
  have length : msgReg.length < 2 ^ 31 := packFields_short packed (by decide)
  obtain ⟨msgCif, -, decrypted⟩ := lawful.decrypt_encrypt (List.replicate gcmNonceSize 0) msgReg
    session.sesKey List.length_replicate length
  have parsed : parseTlv 6 msgReg = some parts := by
    have exact := parseTlv_packFields packed []
    rwa [List.append_nil] at exact
  have zero : structPack 4 0 = .ok (bigEndian 4 0) := rfl
  obtain ⟨regReg, made⟩ := packFields_ok
    [[], bigEndian 8 0, bigEndian 4 0, [], session.serverId, session.sesId]
    (by simpa using ⟨serverId, sesId⟩)
  have regMade : makeRegReg [] (bigEndian 8 0) 0 [] session.serverId session.sesId
      = .ok regReg := by
    rw [makeRegReg, zero]
    exact made
  have differs : hSha256 crypto (session.prvBl ++ hSha256 crypto regReg) ≠ [] := by
    intro empty
    have digest : (hSha256 crypto (session.prvBl ++ hSha256 crypto regReg)).length = 32 :=
      lawful.digest_length _
    rw [empty] at digest
    cases digest
  refine ⟨[("type", .json (.str "dx_msg")), ("MSG_cif", .bytes msgCif)], rfl, ?_⟩
  have carried : bytesField [("type", .json (.str "dx_msg")), ("MSG_cif", .bytes msgCif)] "MSG_cif"
      = .ok msgCif := rfl
  have count : structUnpack 4 (bigEndian 4 0) = .ok 0 := rfl
  have clock : structUnpack 8 (bigEndian 8 0) = .ok 0 := rfl
  rw [acceptP4, carried]
  simp only [bind, Except.bind, decrypted, parsed, parts, count, clock, regMade, ne_eq, differs,
    not_false_eq_true, if_true]
  rfl

/-- A message without a ciphertext lowers the score of a session that has recorded nothing,
and the next update uses no other. -/
theorem unrecorded_trust_propagates : ∃ events : List (Event × Watched),
    Run (Watched.Step plainPrimitives nominalLibrary) .init events ∧ Along Admissible .init events ∧
      (∃ entry ∈ events, entry.1 = .updated ∧ ∃ score, entry.2.ceiling "node_a" = some score) ∧
      Along Informed .init events := by
  set session := established [] "node_a" [] [] []
  set failed := failP4 nominalLibrary session (.key "MSG_cif") with failedNamed
  set connected := watch (fun _ => none) (.connected "node_a")
  have trust : failed.trustScore = 1 / 2 := by
    rw [failedNamed, (failP4_spec session _).2.2]
    exact (by norm_num : max (0 : ℚ) (8 / 10 - 30 / 100) = 1 / 2)
  have ended : loopStage failed = none := loopStage_failP4 _ _
  have rejected : ThreadStep plainPrimitives nominalLibrary (.init maxReadingsPerNode) .init
      ⟨session, .receiving⟩ failed (loopStage failed) (.init maxReadingsPerNode) :=
    .reject [("type", .json (.str "dx_msg"))] rfl rfl
  rw [ended] at rejected
  have less : failed.trustScore < session.trustScore := by
    rw [trust]
    exact (by norm_num : (1 / 2 : ℚ) < 8 / 10)
  set events : List (Event × Watched) :=
    [(.connected "node_a", ⟨⟨.init maxReadingsPerNode, .init, [⟨session, .receiving⟩]⟩, connected⟩),
      (.moved [] session failed none,
        ⟨⟨.init maxReadingsPerNode, .init, []⟩, lower connected session failed⟩),
      (.updated, ⟨⟨.init maxReadingsPerNode, .init, []⟩, lower connected session failed⟩)]
  have run : Run (Watched.Step plainPrimitives nominalLibrary) .init events :=
    .next ⟨.connect .init [] "node_a" [] [] [], rfl⟩ <|
      .next ⟨@SmgServer.Step.thread _ _ _ _ _ [] [] _ _ _ rejected, rfl⟩ <|
        .next ⟨.update _ 0, rfl⟩ (.done _)
  have admissible : Along Admissible .init events := by
    refine ⟨trivial, fun _ => ⟨fun _ reading t found => ?_, fun _ listed => ?_⟩,
      fun _ listed => ?_, trivial⟩
    · cases found
    · cases listed
    · cases listed
  obtain ⟨score, limit, -⟩ := lower_some connected less
  exact ⟨events, run, admissible, ⟨_, .tail _ (.tail _ (.head _)), rfl, score, limit⟩,
    lowered_trust_propagates _ _ events run admissible⟩

/-- Whatever the primitives, a session whose score is lowered by a failed chain check
leaves a reading with the score from before it, and the update uses that. -/
theorem stale_trust_survives : (∃ crypto : Primitives, crypto.Lawful) ∧
    ¬∃ (crypto : Primitives) (library : Library), crypto.Lawful ∧
      library.loads nominalText = .ok (.dict [("V_bus", .float (.finite 12))]) ∧
      ∀ events, Run (Watched.Step crypto library) .init events → Along Informed .init events := by
  refine ⟨⟨plainPrimitives, plainPrimitives_lawful⟩, ?_⟩
  rintro ⟨crypto, library, lawful, parses, informed⟩
  have size : ([] : Bytes).length < 256 ^ 2 := by decide
  obtain ⟨accepted, answered, message, reading, received, judged, recorded, responded, continues,
    carries⟩ := first_exchange lawful library [] "node_a" [] [] [] size size (by decide) parses
  set store := DataStore.init maxReadingsPerNode
  set session := established [] "node_a" [] [] []
  obtain ⟨msg, kind, raised⟩ := @mismatch_rejected crypto lawful answered
    (by rw [continues.serverId]; decide) (by rw [continues.sesId]; decide)
  set exception := PyException.runtime ("PREG_bl mismatch at M#" ++ toString 0)
  set failed := failP4 library answered exception with failedNamed
  have ended : loopStage failed = none := loopStage_failP4 _ _
  have rejected := @ThreadStep.reject crypto library (store.record "node_a" reading 0) .init
    answered exception msg kind raised
  rw [← failedNamed, ended] at rejected
  have trust : failed.trustScore = 1 / 2 := by
    rw [failedNamed, (failP4_spec answered exception).2.2, continues.trustScore]
    exact (by norm_num : max (0 : ℚ) (8 / 10 - 30 / 100) = 1 / 2)
  have less : failed.trustScore < answered.trustScore := by
    rw [trust, continues.trustScore]
    exact (by norm_num : (1 / 2 : ℚ) < 8 / 10)
  -- the run: one exchange, the failed check, and an update
  obtain ⟨-, -, -, -, -, -, last, -⟩ := informed _ <|
    .next (watched (.connect .init [] "node_a" [] [] []) _) <|
    .next (watched (.alone received) _) <| .next (watched (.alone judged) _) <|
    .next (watched (.alone recorded) _) <| .next (watched (.alone responded) _) <|
    .next (watched (.alone rejected) _) <| .next (watched (.update _ 0) _) (.done _)
  obtain ⟨score, limit, below⟩ := lower_some _ less
  rw [continues.nodeLabel] at limit
  obtain ⟨t, used, low⟩ := last rfl "node_a" score _ limit (DataStore.getLatest_record _ _ _ 0)
  rw [TrustScore.unique used (carries.recorded 0)] at low
  have high : (8 / 10 : ℚ) ≤ 1 / 2 := low.trans (below.trans_eq trust)
  norm_num at high

end Microgrid.SecureNode
