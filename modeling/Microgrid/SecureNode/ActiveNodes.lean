import Microgrid.SecureNode.PoisonedReadings
import Microgrid.SecureNode.ServerRuns

/-!
# Which nodes the energy management works with

The data store keeps the latest reading of every node that has ever sent one. Sessions end,
by a logout, a timeout, a lost connection or too little trust, and nothing removes the
reading: the update goes on to average and add it up, and the medians of the other nodes
are still taken over it.

The readings in use are those of the active nodes exactly as long as no session leaves as
the last one of a node that has sent a reading.
-/

namespace Microgrid.SecureNode

open PythonValues Ems LabelledRuns

/-- A session of the node is active in its data loop. -/
def SmgServer.Active (server : SmgServer) (nodeLabel : String) : Prop :=
  ∃ thread ∈ server.sessions, thread.session.nodeLabel = nodeLabel ∧
    thread.session.sessionActive = true

/-- The latest reading of a node that has an active session. -/
def SmgServer.ActiveReading (server : SmgServer) (nodeLabel : String) (reading : Reading) : Prop :=
  server.Active nodeLabel ∧ server.dataStore.getLatest nodeLabel = some reading

/-- `r.get('V_bus') is not None`. -/
def reportsVBus (reading : Reading) : Bool :=
  match reading.lookup "V_bus" with
  | none | some .none => false
  | some _ => true

/-- The readings whose voltages enter `get_median_v_bus`. -/
def comparedReadings (store : DataStore) (excludeNode : String) : Fields Reading :=
  store.latest.entries.filter fun (node, reading) => node ≠ excludeNode && reportsVBus reading

/-- The voltages of the median are those of the readings that enter it. -/
theorem otherVBus_eq (store : DataStore) (excludeNode : String) :
    store.otherVBus excludeNode = (comparedReadings store excludeNode).map fun (_, reading) =>
      (reading.lookup "V_bus").getD .none := by
  rw [DataStore.otherVBus, comparedReadings]
  induction store.latest.entries with
  | nil => rfl
  | cons entry entries inductionHypothesis =>
    obtain ⟨node, reading⟩ := entry
    rw [List.filterMap_cons, List.filter_cons]
    by_cases own : node = excludeNode
    · simp only [own, if_true, ne_eq, not_true_eq_false, decide_false, Bool.false_and,
        Bool.false_eq_true, if_false, inductionHypothesis]
    · cases found : reading.lookup "V_bus" with
      | none => simp [own, found, reportsVBus, inductionHypothesis]
      | some value => cases value <;> simp [own, found, reportsVBus, inductionHypothesis]

/-- The readings in use are exactly the latest ones of the nodes with an active session. -/
structure FedByActive (server : SmgServer) : Prop where
  /-- What an update averages and adds up. -/
  updated : ∀ nodeLabel reading, (nodeLabel, reading) ∈ server.dataStore.getAllLatest.entries ↔
    server.ActiveReading nodeLabel reading
  /-- What a reading of `excludeNode` is compared with. -/
  compared : ∀ excludeNode nodeLabel reading,
    (nodeLabel, reading) ∈ comparedReadings server.dataStore excludeNode ↔
      server.ActiveReading nodeLabel reading ∧ nodeLabel ≠ excludeNode ∧ reportsVBus reading = true

/-- It comes down to the store: every node with a reading has an active session. -/
theorem fedByActive_iff {server : SmgServer} : FedByActive server ↔
    ∀ nodeLabel reading, server.dataStore.getLatest nodeLabel = some reading →
      server.Active nodeLabel := by
  have member : ∀ nodeLabel reading, (nodeLabel, reading) ∈ server.dataStore.latest.entries ↔
      server.dataStore.getLatest nodeLabel = some reading :=
    fun nodeLabel reading => Dict.mem_entries_iff server.dataStore.latest nodeLabel reading
  constructor
  · intro fed nodeLabel reading latest
    exact ((fed.updated nodeLabel reading).mp ((member nodeLabel reading).mpr latest)).1
  · intro active
    have inUse : ∀ nodeLabel reading, (nodeLabel, reading) ∈ server.dataStore.latest.entries ↔
        server.ActiveReading nodeLabel reading := by
      intro nodeLabel reading
      rw [member]
      exact ⟨fun latest => ⟨active nodeLabel reading latest, latest⟩, fun used => used.2⟩
    refine ⟨inUse, fun excludeNode nodeLabel reading => ?_⟩
    rw [comparedReadings, List.mem_filter, inUse, Bool.and_eq_true, decide_eq_true_eq]

/-- A session leaves as the last one of its node only if the node has sent no reading. -/
def Replaced (server : SmgServer) : Event → Prop
  | .moved others before _ none => ∀ reading,
    server.dataStore.getLatest before.nodeLabel = some reading →
      ∃ thread ∈ others, thread.session.nodeLabel = before.nodeLabel
  | _ => True

section Steps

variable {crypto : Primitives} {library : Library}

/-- A thread changes the store only by recording a reading of its node, and then its
session goes on. -/
theorem ThreadStep.store {store store' : DataStore} {ems : EMSCoordinator} {thread : Thread}
    {after : NodeSession} {stage : Option Stage}
    (taken : ThreadStep crypto library store ems thread after stage store') :
    store' = store ∨ (∃ stands, stage = some stands) ∧ ∃ reading now,
      store' = store.record thread.session.nodeLabel reading now := by
  cases taken with
  | record session message reading now => exact .inr ⟨⟨_, rfl⟩, reading, now, rfl⟩
  | _ => exact .inl rfl

/-- A session that goes on is active. -/
theorem ThreadStep.active {store store' : DataStore} {ems : EMSCoordinator} {thread : Thread}
    {after : NodeSession} {stage : Option Stage} {stands : Stage}
    (taken : ThreadStep crypto library store ems thread after stage store')
    (active : thread.session.sessionActive = true) (goesOn : stage = some stands) :
    after.sessionActive = true := by
  have looped : ∀ {session : NodeSession}, loopStage session = some stands →
      session.sessionActive = true := by
    intro session loops
    rw [loopStage] at loops
    split at loops
    · assumption
    · cases loops
  cases taken with
  | accept msg kind passed => exact (acceptP4_keeps passed).2.2.trans active
  | reject msg kind raised => exact looped goesOn
  | judge session message => exact (judgeReading_keeps session store message).2.trans active
  | record session message reading now => exact active
  | skip session message => exact active
  | respond delivery sent => exact looped goesOn
  | respondFails delivery raised => exact looped goesOn
  | logout session msg kind nonce resFails => cases goesOn
  | ignore session msg noData noLogout => exact active
  | disconnect session => cases goesOn

/-- Every session in its data loop is active. -/
def Looping (server : SmgServer) : Prop :=
  ∀ thread ∈ server.sessions, thread.session.sessionActive = true

/-- Sessions stay in their data loop only while they are active. -/
theorem looping_step {server next : SmgServer} {event : Event}
    (taken : server.Step crypto library event next) (looping : Looping server) : Looping next := by
  cases taken with
  | connect server serverId nodeLabel initBl sesId sesKey =>
    intro thread listed
    rcases List.mem_append.mp listed with old | new
    · exact looping thread old
    · rw [List.mem_singleton.mp new]
      rfl
  | thread taken =>
    intro thread listed
    rcases mem_moved.mp listed with other | ⟨stands, goesOn, rfl⟩
    · exact looping thread (mem_before.mpr (.inr other))
    · exact taken.active (looping _ (mem_before.mpr (.inl rfl))) goesOn
  | update server now => exact looping

/-- A thread that goes on leaves its node active, and one that ends leaves the nodes of the
other sessions. -/
theorem active_moved {dataStore store : DataStore} {ems : EMSCoordinator} {front back : List Thread}
    {acting : Thread} {after : NodeSession} {stage : Option Stage}
    (taken : ThreadStep crypto library dataStore ems acting after stage store)
    (looping : Looping ⟨dataStore, ems, front ++ acting :: back⟩) (nodeLabel : String) :
    SmgServer.Active ⟨store, ems, front ++ (stage.map (Thread.mk after)).toList ++ back⟩ nodeLabel ↔
      (∃ thread ∈ front ++ back, thread.session.nodeLabel = nodeLabel) ∨
        (∃ stands, stage = some stands) ∧ acting.session.nodeLabel = nodeLabel := by
  constructor
  · rintro ⟨thread, listed, label, -⟩
    rcases mem_moved.mp listed with other | ⟨stands, goesOn, rfl⟩
    · exact .inl ⟨thread, other, label⟩
    · exact .inr ⟨⟨stands, goesOn⟩, taken.label.symm.trans label⟩
  · rintro (⟨thread, other, label⟩ | ⟨⟨stands, goesOn⟩, label⟩)
    · exact ⟨thread, mem_moved.mpr (.inl other), label,
        looping thread (mem_before.mpr (.inr other))⟩
    · exact ⟨⟨after, stands⟩, mem_moved.mpr (.inr ⟨stands, goesOn, rfl⟩), taken.label.trans label,
        taken.active (looping acting (mem_before.mpr (.inl rfl))) goesOn⟩

/-- A step leads to a server that works with the active nodes exactly if no session leaves
unreplaced. -/
theorem fedByActive_step {server next : SmgServer} {event : Event}
    (taken : server.Step crypto library event next) (looping : Looping server)
    (fed : FedByActive server) : FedByActive next ↔ Replaced server event := by
  rw [fedByActive_iff] at fed ⊢
  cases taken with
  | connect server serverId nodeLabel initBl sesId sesKey =>
    refine ⟨fun _ => trivial, fun _ label reading latest => ?_⟩
    obtain ⟨thread, listed, same, active⟩ := fed label reading latest
    exact ⟨thread, List.mem_append_left _ listed, same, active⟩
  | update server now => exact ⟨fun _ => trivial, fun _ => fed⟩
  | @thread dataStore store ems front back acting after stage taken =>
    have nodes : ∀ label reading, dataStore.getLatest label = some reading →
        (∃ thread ∈ front ++ back, thread.session.nodeLabel = label) ∨
          acting.session.nodeLabel = label := by
      intro label reading latest
      obtain ⟨thread, listed, same, -⟩ := fed label reading latest
      rcases mem_before.mp listed with rfl | other
      · exact .inr same
      · exact .inl ⟨thread, other, same⟩
    simp only [active_moved taken looping]
    cases stage with
    | some stands =>
      -- the acting node stays active, so it may as well have recorded a reading
      refine ⟨fun _ => trivial, fun _ label reading latest => ?_⟩
      by_cases own : label = acting.session.nodeLabel
      · exact .inr ⟨⟨stands, rfl⟩, own.symm⟩
      · have old : dataStore.getLatest label = some reading := by
          rcases taken.store with rfl | ⟨-, recorded, now, rfl⟩
          · exact latest
          · rwa [DataStore.getLatest_record_ne _ _ _ _ own] at latest
        exact (nodes label reading old).imp_right fun same => absurd same.symm own
    | none =>
      have unchanged : store = dataStore := by
        rcases taken.store with same | ⟨⟨stands, goesOn⟩, -⟩
        · exact same
        · cases goesOn
      subst unchanged
      constructor
      · intro active reading latest
        rcases active _ reading latest with other | ⟨⟨stands, goesOn⟩, -⟩
        · exact other
        · cases goesOn
      · intro replaced label reading latest
        rcases nodes label reading latest with other | rfl
        · exact .inl other
        · exact .inl (replaced reading latest)

end Steps

/-- In a run of the server, the readings in use are always those of the active nodes exactly
if every session that leaves is replaced. -/
theorem active_nodes_feed_ems (crypto : Primitives) (library : Library)
    (events : List (Event × SmgServer)) (run : Run (SmgServer.Step crypto library) .init events) :
    (∀ entry ∈ events, FedByActive entry.2) ↔ Along Replaced .init events := by
  have looping : Looping .init := fun _ listed => (List.not_mem_nil listed).elim
  have fed : FedByActive .init :=
    fedByActive_iff.mpr fun _ _ latest => (Option.some_ne_none _ latest.symm).elim
  exact @Run.states_iff _ _ (SmgServer.Step crypto library) Replaced Looping FedByActive
    looping_step fedByActive_step _ _ run looping fed

/-- A node sends a reading, connects a second time and loses the first connection; the
update works with its reading. -/
theorem reconnected_node_feeds_ems : ∃ events : List (Event × SmgServer),
    Run (SmgServer.Step plainPrimitives nominalLibrary) .init events ∧
      (∃ entry ∈ events, entry.1 = .updated ∧ (entry.2.dataStore.getLatest "node_a").isSome) ∧
      ∀ entry ∈ events, FedByActive entry.2 := by
  have parses : nominalLibrary.loads nominalText
      = .ok (.dict [("V_bus", .float (.finite 12))]) := by
    simp only [nominalLibrary, if_true]
  have none : ([] : Bytes).length < 256 ^ 2 := by decide
  obtain ⟨accepted, answered, message, reading, received, judged, recorded, responded, continues,
    -⟩ := first_exchange plainPrimitives_lawful nominalLibrary [] "node_a" [] [] [] none none
      (by decide) parses
  set store := DataStore.init maxReadingsPerNode
  set session := established [] "node_a" [] [] []
  have dropped := @ThreadStep.disconnect plainPrimitives nominalLibrary
    (store.record "node_a" reading 0) .init answered
  have run : Run (SmgServer.Step plainPrimitives nominalLibrary) .init _ :=
    .next (.connect .init [] "node_a" [] [] []) <|
    .next (.alone received) <| .next (.alone judged) <| .next (.alone recorded) <|
    .next (.alone responded) <| .next (.connect _ [] "node_a" [] [] []) <|
    .next (@SmgServer.Step.thread _ _ _ _ _ [] [⟨session, .receiving⟩] _ _ _ dropped) <|
    .next (.update _ 0) (.done _)
  refine ⟨_, run, ⟨_, .tail _ <| .tail _ <| .tail _ <| .tail _ <| .tail _ <| .tail _ <|
    .tail _ <| .head _, rfl, ?_⟩, (active_nodes_feed_ems _ _ _ run).mpr ?_⟩
  · exact congrArg Option.isSome (DataStore.getLatest_record store "node_a" reading 0)
  · refine ⟨trivial, trivial, trivial, trivial, trivial, trivial, fun kept latest => ?_, trivial,
      trivial⟩
    exact ⟨⟨session, .receiving⟩, .head _, continues.nodeLabel.symm⟩

/-- Whatever the primitives, a node whose connection is lost after a reading still enters
the next update. -/
theorem departed_node_feeds_ems : (∃ crypto : Primitives, crypto.Lawful) ∧
    ¬∃ (crypto : Primitives) (library : Library), crypto.Lawful ∧
      library.loads nominalText = .ok (.dict [("V_bus", .float (.finite 12))]) ∧
      ∀ events, Run (SmgServer.Step crypto library) .init events →
        ∀ entry ∈ events, entry.1 = .updated → FedByActive entry.2 := by
  refine ⟨⟨plainPrimitives, plainPrimitives_lawful⟩, ?_⟩
  rintro ⟨crypto, library, lawful, parses, fed⟩
  have none : ([] : Bytes).length < 256 ^ 2 := by decide
  obtain ⟨accepted, answered, message, reading, received, judged, recorded, responded, -, -⟩ :=
    first_exchange lawful library [] "node_a" [] [] [] none none (by decide) parses
  set store := DataStore.init maxReadingsPerNode
  have dropped := @ThreadStep.disconnect crypto library (store.record "node_a" reading 0) .init
    answered
  -- one exchange, the lost connection, and an update
  have run : Run (SmgServer.Step crypto library) .init _ :=
    .next (.connect .init [] "node_a" [] [] []) <|
    .next (.alone received) <| .next (.alone judged) <| .next (.alone recorded) <|
    .next (.alone responded) <| .next (.alone dropped) <| .next (.update _ 0) (.done _)
  have last := fed _ run _ (.tail _ <| .tail _ <| .tail _ <| .tail _ <| .tail _ <| .tail _ <|
    .head _) rfl
  obtain ⟨thread, listed, -⟩ := fedByActive_iff.mp last "node_a" _
    (DataStore.getLatest_record _ _ _ 0)
  cases listed

end Microgrid.SecureNode
