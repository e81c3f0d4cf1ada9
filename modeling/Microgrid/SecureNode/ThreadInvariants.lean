import Microgrid.SecureNode.ServerThreads

/-!
# What the threads of the server keep

Four things hold through every run, however the threads are interleaved. `_sessions` lists
exactly the sessions that have been entered and not yet taken out. Whatever is stored or
commanded goes by the label of a registered node, since a thread gets past P2 only with an entry
of the registry, whose keys cannot be metadata keys. A session is not listened to any more once
it has lost too much trust; this is shown for the data loops alone and carried over. And the
status loop, around whose rounds nothing is caught, lives until it meets a power that it cannot
add up.
-/

namespace Microgrid.SecureNode

open PythonValues Ems HexText LabelledRuns Simulations

/-! ### The list of sessions -/

/-- The session of a client is in `_sessions`. -/
def Client.Listed (client : Client) : Prop := client.phase ≠ .started

/-- Threads have distinct connections, all accepted before, and `_sessions` lists, once each,
those whose session was entered and not yet taken out. -/
structure Orderly (process : SmgProcess) : Prop where
  distinct : (process.clients.map Client.id).Nodup
  accepted : ∀ client ∈ process.clients, client.id < process.accepted
  once : process.sessions.Nodup
  listed : ∀ id, id ∈ process.sessions ↔ ∃ client ∈ process.clients, client.id = id ∧ client.Listed

theorem orderly_init : Orderly .init where
  distinct := List.nodup_nil
  accepted := fun _ member => (List.not_mem_nil member).elim
  once := List.nodup_nil
  listed := fun _ => ⟨fun member => (List.not_mem_nil member).elim,
    fun ⟨_, member, _⟩ => (List.not_mem_nil member).elim⟩

section Lists

variable {dataStore store : DataStore} {ems ems' : EMSCoordinator} {sessions : List ℕ}
  {front back : List Client} {id accepted : ℕ} {reporting : Bool} {before after : Phase}

/-- The other clients have other connections. -/
theorem Orderly.apart (orderly : Orderly ⟨dataStore, ems, sessions, front ++ ⟨id, before⟩ :: back,
    accepted, reporting⟩) : ∀ client ∈ front ++ back, client.id ≠ id := by
  have distinct := orderly.distinct
  rw [List.map_append, List.map_cons] at distinct
  have fresh := (List.nodup_middle.mp distinct)
  rw [List.nodup_cons, ← List.map_append] at fresh
  intro client member same
  exact fresh.1 (List.mem_map.mpr ⟨client, member, same⟩)

/-- A client that is entered or not, as it was before, leaves the list as it is. -/
theorem Orderly.move (orderly : Orderly ⟨dataStore, ems, sessions, front ++ ⟨id, before⟩ :: back,
    accepted, reporting⟩) (entered : before ≠ .started) (stays : after ≠ .started) :
    Orderly ⟨store, ems', sessions, front ++ ⟨id, after⟩ :: back, accepted, reporting⟩ := by
  have members : ∀ phase client, client ∈ front ++ ⟨id, phase⟩ :: back ↔
      client = ⟨id, phase⟩ ∨ client ∈ front ++ back := by
    intro phase client
    rw [List.mem_append, List.mem_cons, List.mem_append]
    tauto
  refine ⟨?_, ?_, orderly.once, fun other => ?_⟩
  · have distinct := orderly.distinct
    rw [List.map_append, List.map_cons] at distinct ⊢
    exact distinct
  · intro client member
    rcases (members after client).mp member with rfl | elsewhere
    · exact orderly.accepted ⟨id, before⟩ ((members before _).mpr (.inl rfl))
    · exact orderly.accepted client ((members before _).mpr (.inr elsewhere))
  · refine (orderly.listed other).trans ?_
    constructor
    · rintro ⟨client, member, same, isListed⟩
      rcases (members before client).mp member with rfl | elsewhere
      · exact ⟨⟨id, after⟩, (members after _).mpr (.inl rfl), same, stays⟩
      · exact ⟨client, (members after _).mpr (.inr elsewhere), same, isListed⟩
    · rintro ⟨client, member, same, isListed⟩
      rcases (members after client).mp member with rfl | elsewhere
      · exact ⟨⟨id, before⟩, (members before _).mpr (.inl rfl), same, entered⟩
      · exact ⟨client, (members before _).mpr (.inr elsewhere), same, isListed⟩

/-- Entering a session lists it. -/
theorem Orderly.register (orderly : Orderly ⟨dataStore, ems, sessions,
    front ++ ⟨id, .started⟩ :: back, accepted, reporting⟩) :
    Orderly ⟨dataStore, ems, sessions ++ [id], front ++ ⟨id, .hello⟩ :: back, accepted, reporting⟩ := by
  have members : ∀ phase client, client ∈ front ++ ⟨id, phase⟩ :: back ↔
      client = ⟨id, phase⟩ ∨ client ∈ front ++ back := by
    intro phase client
    rw [List.mem_append, List.mem_cons, List.mem_append]
    tauto
  have unlisted : id ∉ sessions := by
    intro member
    obtain ⟨client, present, same, isListed⟩ := (orderly.listed id).mp member
    rcases (members .started client).mp present with rfl | elsewhere
    · exact isListed rfl
    · exact orderly.apart client elsewhere same
  refine ⟨?_, ?_, ?_, fun other => ?_⟩
  · have distinct := orderly.distinct
    rw [List.map_append, List.map_cons] at distinct ⊢
    exact distinct
  · intro client member
    rcases (members .hello client).mp member with rfl | elsewhere
    · exact orderly.accepted ⟨id, .started⟩ ((members .started _).mpr (.inl rfl))
    · exact orderly.accepted client ((members .started _).mpr (.inr elsewhere))
  · refine List.nodup_append.mpr ⟨orderly.once, List.nodup_singleton id, ?_⟩
    intro first isFirst last isLast same
    rw [same, List.mem_singleton.mp isLast] at isFirst
    exact unlisted isFirst
  · rw [List.mem_append, orderly.listed other, List.mem_singleton]
    constructor
    · rintro (⟨client, member, same, isListed⟩ | rfl)
      · rcases (members .started client).mp member with rfl | elsewhere
        · exact absurd rfl isListed
        · exact ⟨client, (members .hello _).mpr (.inr elsewhere), same, isListed⟩
      · exact ⟨⟨other, .hello⟩, (members .hello _).mpr (.inl rfl), rfl, nofun⟩
    · rintro ⟨client, member, same, isListed⟩
      rcases (members .hello client).mp member with rfl | elsewhere
      · exact .inr same.symm
      · exact .inl ⟨client, (members .started _).mpr (.inr elsewhere), same, isListed⟩

/-- A session that is taken out was listed, and is no longer. -/
theorem Orderly.leave (orderly : Orderly ⟨dataStore, ems, sessions,
    front ++ ⟨id, .closed⟩ :: back, accepted, reporting⟩) :
    removeSession sessions id = .ok (sessions.erase id) ∧
      Orderly ⟨dataStore, ems, sessions.erase id, front ++ back, accepted, reporting⟩ := by
  have present : (⟨id, .closed⟩ : Client) ∈ front ++ ⟨id, .closed⟩ :: back :=
    List.mem_append_right _ List.mem_cons_self
  have within : ∀ {client : Client}, client ∈ front ++ back →
      client ∈ front ++ ⟨id, .closed⟩ :: back := by
    intro client member
    rcases List.mem_append.mp member with early | late
    · exact List.mem_append_left _ early
    · exact List.mem_append_right _ (List.mem_cons_of_mem _ late)
  have entered : id ∈ sessions := (orderly.listed id).mpr ⟨_, present, rfl, nofun⟩
  refine ⟨if_pos entered, ?_, ?_, orderly.once.erase id, fun other => ?_⟩
  · have distinct := orderly.distinct
    rw [List.map_append, List.map_cons] at distinct
    have fresh := List.nodup_middle.mp distinct
    rw [List.nodup_cons, ← List.map_append] at fresh
    exact fresh.2
  · exact fun client member => orderly.accepted client (within member)
  · rw [orderly.once.mem_erase_iff, orderly.listed other]
    constructor
    · rintro ⟨other_ne, client, member, same, isListed⟩
      refine ⟨client, ?_, same, isListed⟩
      rcases List.mem_append.mp member with early | here
      · exact List.mem_append_left _ early
      · rcases List.mem_cons.mp here with rfl | late
        · exact absurd same.symm other_ne
        · exact List.mem_append_right _ late
    · rintro ⟨client, member, same, isListed⟩
      refine ⟨?_, client, within member, same, isListed⟩
      rw [← same]
      exact orderly.apart client member

end Lists

/-- A session goes on from an entered phase to another one. -/
theorem PhaseStep.entered {config : Server} {crypto : Primitives} {library : Library}
    {store store' : DataStore} {ems : EMSCoordinator} {before after : Phase}
    (taken : PhaseStep config crypto library store ems before after store') :
    before ≠ .started ∧ after ≠ .started := by
  cases taken with
  | hello msg kind answered => exact ⟨nofun, nofun⟩
  | init draws msg kind answered => exact ⟨nofun, nofun⟩
  | conf msg confirmed => exact ⟨nofun, nofun⟩
  | refuse early =>
    refine ⟨?_, nofun⟩
    rintro rfl
    exact early
  | @exchange thread session stage store' taken =>
    refine ⟨nofun, ?_⟩
    cases stage with
    | none => exact nofun
    | some stands => exact nofun

/-- Every step keeps the list in order. -/
theorem Orderly.step {config : Server} {crypto : Primitives} {library : Library}
    {process after : SmgProcess} {event : ProcessEvent}
    (taken : SmgProcess.Step config crypto library process event after) (orderly : Orderly process) :
    Orderly after := by
  cases taken with
  | accept process =>
    refine ⟨?_, ?_, orderly.once, fun other => ?_⟩
    · dsimp only
      rw [List.map_append]
      refine List.nodup_append.mpr ⟨orderly.distinct, List.nodup_singleton _, ?_⟩
      intro first isFirst last isLast same
      obtain ⟨client, member, isId⟩ := List.mem_map.mp isFirst
      have below := orderly.accepted client member
      rw [isId, same, List.mem_singleton.mp isLast] at below
      exact lt_irrefl _ below
    · intro client member
      rcases List.mem_append.mp member with early | new
      · exact Nat.lt_succ_of_lt (orderly.accepted client early)
      · rw [List.mem_singleton.mp new]
        exact Nat.lt_succ_self _
    · refine (orderly.listed other).trans ?_
      constructor
      · rintro ⟨client, member, same, isListed⟩
        exact ⟨client, List.mem_append_left _ member, same, isListed⟩
      · rintro ⟨client, member, same, isListed⟩
        rcases List.mem_append.mp member with early | new
        · exact ⟨client, early, same, isListed⟩
        · rw [List.mem_singleton.mp new] at isListed
          exact absurd rfl isListed
  | register => exact orderly.register
  | advance taken =>
    obtain ⟨entered, stays⟩ := taken.entered
    exact orderly.move entered stays
  | close => exact orderly.move nofun nofun
  | leave =>
    obtain ⟨removed, after⟩ := orderly.leave
    rw [removed]
    exact after
  | update process now => exact ⟨orderly.distinct, orderly.accepted, orderly.once, orderly.listed⟩
  | report process now alive => exact ⟨orderly.distinct, orderly.accepted, orderly.once, orderly.listed⟩

/-- Taking the session out does not raise. -/
def RemovesSession : ProcessEvent → Prop
  | .left _ (.error _) => False
  | _ => True

/-- Through every run, `_sessions` lists exactly the sessions of the threads between entering
and leaving, each once, and no thread fails to find its session there. -/
theorem sessions_listed (config : Server) (crypto : Primitives) (library : Library)
    {events : List (ProcessEvent × SmgProcess)}
    (run : Run (SmgProcess.Step config crypto library) .init events) :
    (∀ process ∈ SmgProcess.init :: events.map Prod.snd, Orderly process) ∧
      Along (fun _ event => RemovesSession event) .init events := by
  refine ⟨run.states (fun taken orderly => orderly.step taken) orderly_init, ?_⟩
  apply run.each (fun taken orderly => Orderly.step taken orderly) ?_ orderly_init
  intro start event after taken orderly
  cases taken with
  | leave =>
    rw [orderly.leave.1]
    exact trivial
  | _ => exact trivial

/-- A registered node in its data loop is listed. -/
theorem nominal_listed : ∃ events : List (ProcessEvent × SmgProcess),
    Orderly (final .init events) ∧ (final .init events).sessions = [0] := by
  obtain ⟨client, session, -, completed, -⟩ := nominal_exchange
  obtain ⟨root, nodeLabel, pending, run⟩ := joining_run nominalLibrary completed
  exact ⟨_, (sessions_listed nominalServer plainPrimitives nominalLibrary run).1 _ (final_mem _ _),
    rfl⟩

/-! ### Labels -/

/-- The entries of the registry that `main` counts. -/
def Server.nodeEntries (config : Server) : Fields (Fields String) :=
  config.registry.filter fun (key, _) => key.toList.head? ≠ some '_'

/-- The label of a node that is registered. -/
def Server.Labels (config : Server) (nodeLabel : String) : Prop :=
  ∃ nodeIdHex entry, (nodeIdHex, entry) ∈ config.nodeEntries ∧
    nodeLabel = (entry.lookup "label").getD (String.ofList (nodeIdHex.toList.take 8))

/-- The phase works for a registered node. -/
def Phase.Registered (config : Server) : Phase → Prop
  | .init _ nodeLabel | .conf _ nodeLabel _ => config.Labels nodeLabel
  | .exchanging thread => config.Labels thread.session.nodeLabel
  | _ => True

/-- All labels that the server works with belong to registered nodes. -/
structure OnlyRegistered (config : Server) (process : SmgProcess) : Prop where
  clients : ∀ client ∈ process.clients, client.phase.Registered config
  stored : ∀ nodeLabel ∈ process.dataStore.getAllNodes, config.Labels nodeLabel
  latest : ∀ nodeLabel reading, process.dataStore.getLatest nodeLabel = some reading →
    config.Labels nodeLabel
  setpoints : ∀ nodeLabel sp, process.ems.getSetpoint nodeLabel = some sp → config.Labels nodeLabel

theorem onlyRegistered_init (config : Server) : OnlyRegistered config .init where
  clients := fun _ member => (List.not_mem_nil member).elim
  stored := fun _ member => (List.not_mem_nil member).elim
  latest := fun _ _ found => nomatch found
  setpoints := fun _ _ found => nomatch found

/-- Hexadecimal text is no metadata key. -/
theorem bytesHex_head (data : Bytes) : (bytesHex data).toList.head? ≠ some '_' := by
  intro first
  rw [bytesHex, String.toList_ofList] at first
  have digit : '_' ∈ hexd := lowerHex_digits data '_' (List.mem_of_mem_head? first)
  simp [hexd] at digit

variable {config : Server} {crypto : Primitives} {library : Library}

/-- P2 completes for registered nodes only. -/
theorem runP2_labels {msg ack : Message} {root : RootOfTrust Bytes} {nodeLabel : String}
    (answered : config.runP2 crypto msg = .ok (root, nodeLabel, ack)) : config.Labels nodeLabel := by
  obtain ⟨idA, -, answered⟩ := bind_ok answered
  obtain ⟨shSA, -, answered⟩ := bind_ok answered
  obtain ⟨aGenBl, -, answered⟩ := bind_ok answered
  dsimp only at answered
  split at answered
  · cases answered
  · next entry registered =>
    split at answered
    · cases answered
    · split at answered
      · cases answered
      · obtain ⟨-, rest⟩ := Prod.mk.inj (Except.ok.inj answered)
        obtain ⟨rfl, -⟩ := Prod.mk.inj rest
        refine ⟨bytesHex idA, entry, List.mem_filter.mpr ⟨Fields.mem_of_lookup registered, ?_⟩, rfl⟩
        exact decide_eq_true (bytesHex_head idA)

/-- A session goes on for the node it has found in the registry. -/
theorem PhaseStep.registered {store store' : DataStore} {ems : EMSCoordinator} {before after : Phase}
    (taken : PhaseStep config crypto library store ems before after store')
    (known : before.Registered config) : after.Registered config := by
  cases taken with
  | hello msg kind answered => exact runP2_labels answered
  | init draws msg kind answered => exact known
  | conf msg confirmed =>
    obtain ⟨serverId, initBl, sesId, sesKey, rfl⟩ := runP3Conf_established confirmed
    exact known
  | refuse early => exact trivial
  | @exchange thread session stage store' taken =>
    cases stage with
    | none => exact trivial
    | some stands =>
      change config.Labels session.nodeLabel
      rw [taken.label]
      exact known

/-- A session records under its own label only. -/
theorem PhaseStep.store {store store' : DataStore} {ems : EMSCoordinator} {before after : Phase}
    (taken : PhaseStep config crypto library store ems before after store')
    (known : before.Registered config) :
    store' = store ∨ ∃ nodeLabel reading now, config.Labels nodeLabel ∧
      store' = store.record nodeLabel reading now := by
  cases taken with
  | exchange taken =>
    rcases taken.store with same | ⟨-, reading, now, recorded⟩
    · exact .inl same
    · exact .inr ⟨_, reading, now, known, recorded⟩
  | _ => exact .inl rfl

/-- The loop of an update leaves the answers about other labels alone. -/
theorem updateNodes_getSetpoint {error : PyFloat} {demand : PyNumber} {now : ℚ} {label : String}
    (nodes : Fields Reading) (absent : label ∉ nodes.map Prod.fst) (ems : EMSCoordinator) :
    (EMSCoordinator.updateNodes error demand now nodes ems).1.getSetpoint label
      = ems.getSetpoint label := by
  induction nodes generalizing ems with
  | nil => rfl
  | cons head rest inductionHypothesis =>
    obtain ⟨node, reading⟩ := head
    rw [List.map_cons, List.mem_cons, not_or] at absent
    rw [EMSCoordinator.updateNodes]
    split
    · rfl
    · rw [inductionHypothesis absent.2, EMSCoordinator.getSetpoint, EMSCoordinator.getSetpoint,
        Dict.get?_set_ne _ absent.1, Dict.get?_set_ne _ absent.1]

/-- An update sets nothing for a label without a reading. -/
theorem update_getSetpoint {ems : EMSCoordinator} {store : DataStore} {now : ℚ} {label : String}
    (unread : store.getLatest label = none) :
    (ems.update store now).1.getSetpoint label = ems.getSetpoint label := by
  have absent : label ∉ store.latest.entries.map Prod.fst := by
    intro member
    obtain ⟨⟨node, reading⟩, listed, rfl⟩ := List.mem_map.mp member
    have found : store.getLatest node = some reading := (Dict.mem_entries_iff _ _ _).mp listed
    rw [unread] at found
    cases found
  rw [update_loop]
  split
  · exact updateNodes_getSetpoint _ absent ems
  · rfl

/-- Every step keeps to the registered labels. -/
theorem OnlyRegistered.step {process after : SmgProcess} {event : ProcessEvent}
    (taken : SmgProcess.Step config crypto library process event after)
    (only : OnlyRegistered config process) : OnlyRegistered config after := by
  have replaced : ∀ {front back : List Client} {before next client : Client},
      (∀ client ∈ front ++ before :: back, client.phase.Registered config) →
      next.phase.Registered config → client ∈ front ++ next :: back →
      client.phase.Registered config := by
    intro front back before next client all new member
    rcases List.mem_append.mp member with early | here
    · exact all client (List.mem_append_left _ early)
    · rcases List.mem_cons.mp here with rfl | late
      · exact new
      · exact all client (List.mem_append_right _ (List.mem_cons_of_mem _ late))
  cases taken with
  | accept process =>
    refine ⟨?_, only.stored, only.latest, only.setpoints⟩
    intro client member
    rcases List.mem_append.mp member with early | new
    · exact only.clients client early
    · rw [List.mem_singleton.mp new]
      exact trivial
  | register =>
    exact ⟨fun _ => replaced only.clients trivial, only.stored, only.latest, only.setpoints⟩
  | @advance dataStore store ems sessions front back id accepted reporting before next taken =>
    have known : before.Registered config :=
      only.clients ⟨id, before⟩ (List.mem_append_right _ List.mem_cons_self)
    refine ⟨fun _ => replaced only.clients (taken.registered known), ?_, ?_, only.setpoints⟩
    · intro nodeLabel member
      rcases taken.store known with same | ⟨label, reading, now, registered, recorded⟩
      · rw [same] at member
        exact only.stored nodeLabel member
      · dsimp only at member
        rw [recorded, getAllNodes_record] at member
        split at member
        · exact only.stored nodeLabel member
        · rcases List.mem_append.mp member with old | new
          · exact only.stored nodeLabel old
          · rw [List.mem_singleton.mp new]
            exact registered
    · intro nodeLabel reading found
      rcases taken.store known with same | ⟨label, recordedReading, now, registered, recorded⟩
      · rw [same] at found
        exact only.latest nodeLabel reading found
      · dsimp only at found
        rw [recorded] at found
        by_cases own : nodeLabel = label
        · rw [own]
          exact registered
        · rw [DataStore.getLatest_record_ne _ _ _ _ own] at found
          exact only.latest nodeLabel reading found
  | close =>
    exact ⟨fun _ => replaced only.clients trivial, only.stored, only.latest, only.setpoints⟩
  | leave =>
    refine ⟨?_, only.stored, only.latest, only.setpoints⟩
    intro client member
    rcases List.mem_append.mp member with early | late
    · exact only.clients client (List.mem_append_left _ early)
    · exact only.clients client (List.mem_append_right _ (List.mem_cons_of_mem _ late))
  | update process now =>
    refine ⟨only.clients, only.stored, only.latest, ?_⟩
    intro nodeLabel sp found
    cases latest : process.dataStore.getLatest nodeLabel with
    | some reading => exact only.latest nodeLabel reading latest
    | none =>
      dsimp only at found
      rw [update_getSetpoint latest] at found
      exact only.setpoints nodeLabel sp found
  | report process now alive => exact ⟨only.clients, only.stored, only.latest, only.setpoints⟩

/-- In every state of every run, each session past P2, each reading and each setpoint belongs to
the label of a node that is registered. -/
theorem only_registered (config : Server) (crypto : Primitives) (library : Library)
    {events : List (ProcessEvent × SmgProcess)}
    (run : Run (SmgProcess.Step config crypto library) .init events) :
    ∀ process ∈ SmgProcess.init :: events.map Prod.snd, OnlyRegistered config process :=
  run.states (fun taken only => only.step taken) (onlyRegistered_init config)

/-- A registered node in its data loop goes by a registered label. -/
theorem nominal_registered : ∃ events : List (ProcessEvent × SmgProcess),
    OnlyRegistered nominalServer (final .init events) ∧ (final .init events).clients ≠ [] := by
  obtain ⟨client, session, -, completed, -⟩ := nominal_exchange
  obtain ⟨root, nodeLabel, pending, run⟩ := joining_run nominalLibrary completed
  exact ⟨_, only_registered nominalServer plainPrimitives nominalLibrary run _ (final_mem _ _),
    List.cons_ne_nil _ _⟩

/-! ### Trust -/

/-- The score of a session in its data loop is between 0 and 0.8, and a session whose next
message is awaited is active and has enough trust. -/
structure Guarded (thread : Thread) : Prop where
  nonneg : 0 ≤ thread.session.trustScore
  most : thread.session.trustScore ≤ 8 / 10
  awaits : thread.stage = .receiving →
    thread.session.sessionActive = true ∧ trustDropThreshold ≤ thread.session.trustScore

/-- A loop that goes on does so with an active session. -/
theorem loopStage_some {session : NodeSession} {stands : Stage}
    (goesOn : loopStage session = some stands) : session.sessionActive = true := by
  rw [loopStage] at goesOn
  split at goesOn
  · assumption
  · cases goesOn

/-- After an exchange the loop goes on only with enough trust. -/
theorem finishP4_loops {session : NodeSession} {stands : Stage}
    (goesOn : loopStage (finishP4 session) = some stands) :
    trustDropThreshold ≤ (finishP4 session).trustScore := by
  have active := loopStage_some goesOn
  rw [(finishP4_spec session).2]
  by_contra few
  rw [finishP4, if_pos (not_le.mp few)] at active
  cases active

/-- A step of a thread that goes on keeps it guarded. -/
theorem Guarded.step {store store' : DataStore} {ems : EMSCoordinator} {thread : Thread}
    {after : NodeSession} {stage : Option Stage} {stands : Stage}
    (taken : ThreadStep crypto library store ems thread after stage store')
    (guarded : Guarded thread) (goesOn : stage = some stands) : Guarded ⟨after, stands⟩ := by
  cases taken with
  | accept msg kind passed =>
    obtain ⟨-, trust, -⟩ := acceptP4_keeps passed
    cases goesOn
    exact ⟨guarded.nonneg.trans trust.ge, trust.le.trans guarded.most, nofun⟩
  | reject msg kind raised =>
    rw [loopStage_failP4] at goesOn
    cases goesOn
  | judge session message =>
    obtain ⟨nonneg, lower⟩ := @judgeReading_trust library session guarded.nonneg store message
    cases goesOn
    exact ⟨nonneg, lower.trans guarded.most, nofun⟩
  | record session message reading now =>
    cases goesOn
    exact ⟨guarded.nonneg, guarded.most, nofun⟩
  | skip session message =>
    cases goesOn
    exact ⟨guarded.nonneg, guarded.most, nofun⟩
  | @respond session message delivery sent =>
    have trust := (finishP4_spec session).2
    refine ⟨guarded.nonneg.trans trust.ge, trust.le.trans guarded.most, fun _ => ?_⟩
    exact ⟨loopStage_some goesOn, finishP4_loops goesOn⟩
  | respondFails delivery raised =>
    rw [loopStage_failP4] at goesOn
    cases goesOn
  | logout session msg kind nonce resFails => cases goesOn
  | ignore session msg noData noLogout =>
    cases goesOn
    exact ⟨guarded.nonneg, guarded.most, guarded.awaits⟩
  | disconnect session => cases goesOn

/-- Every step of the server of the data loops keeps its sessions guarded. -/
theorem guarded_step {server after : SmgServer} {event : Event}
    (taken : SmgServer.Step crypto library server event after)
    (guarded : ∀ thread ∈ server.sessions, Guarded thread) :
    ∀ thread ∈ after.sessions, Guarded thread := by
  cases taken with
  | connect server serverId nodeLabel initBl sesId sesKey =>
    intro thread member
    rcases List.mem_append.mp member with early | new
    · exact guarded thread early
    · rw [List.mem_singleton.mp new]
      refine ⟨?_, le_rfl, fun _ => ⟨rfl, ?_⟩⟩
      · exact (by norm_num : (0 : ℚ) ≤ 8 / 10)
      · exact (by norm_num [trustDropThreshold] : trustDropThreshold ≤ (8 / 10 : ℚ))
  | thread taken =>
    intro thread member
    rcases mem_moved.mp member with others | ⟨stands, goesOn, rfl⟩
    · exact guarded thread (mem_before.mpr (.inr others))
    · exact (guarded _ (mem_before.mpr (.inl rfl))).step taken goesOn
  | update server now => exact guarded

/-- In every state of every run of the server, with any interleaving of its threads, the score of
a session in its data loop is between 0 and 0.8, and no message is awaited from a session that
has lost too much trust. -/
theorem sessions_guarded (config : Server) (crypto : Primitives) (library : Library)
    {events : List (ProcessEvent × SmgProcess)}
    (run : Run (SmgProcess.Step config crypto library) .init events) :
    ∀ process ∈ SmgProcess.init :: events.map Prod.snd, ∀ client ∈ process.clients,
      ∀ thread, client.phase = .exchanging thread → Guarded thread := by
  have abstractly : ∀ {shown : List (Event × SmgServer)},
      Run (SmgServer.Step crypto library) .init shown →
      ∀ server ∈ SmgServer.init :: shown.map Prod.snd, ∀ thread ∈ server.sessions, Guarded thread :=
    fun followed => followed.states (fun taken guarded => guarded_step taken guarded)
      (fun _ member => (List.not_mem_nil member).elim)
  refine (shows_simulates config crypto library).transfers abstractly ?_ run shows_init
  intro process server shows guarded client member thread exchanging
  refine guarded thread (shows.sessions.mem_iff.mpr (List.mem_filterMap.mpr ⟨client, member, ?_⟩))
  rw [Client.thread?, exchanging]

/-- A registered node in its data loop is guarded. -/
theorem nominal_guarded : ∃ session : NodeSession, Guarded ⟨session, .receiving⟩ := by
  obtain ⟨client, session, -, completed, -⟩ := nominal_exchange
  obtain ⟨root, nodeLabel, pending, run⟩ := joining_run nominalLibrary completed
  exact ⟨session, sessions_guarded nominalServer plainPrimitives nominalLibrary run _
    (final_mem _ _) ⟨0, .exchanging ⟨session, .receiving⟩⟩ (List.mem_singleton_self _) _ rfl⟩

/-! ### The status loop -/

/-- Every latest reading can be added to the totals. -/
def Reportable (store : DataStore) : Prop :=
  ∀ nodeLabel reading, store.getLatest nodeLabel = some reading → Totalled reading

/-- A round of the status loop raises exactly if a power cannot be added. -/
theorem statusRound_ok_iff {store : DataStore} (aligned : Aligned store) (now : ℚ) :
    (statusRound store now).toOption.isSome = true ↔ Reportable store := by
  rw [statusRound]
  by_cases empty : store.getAllNodes = []
  · rw [if_pos empty]
    refine iff_of_true rfl ?_
    intro nodeLabel reading found
    have labels := aligned.latest
    rw [empty, List.map_eq_nil_iff] at labels
    have member := (Dict.mem_entries_iff _ _ _).mpr found
    rw [labels] at member
    cases member
  · rw [if_neg empty, Reportable, ← aggregatePower_ok_iff store now]
    cases store.aggregatePower now with
    | error exception => exact ⟨nofun, fun ⟨_, returned⟩ => nomatch returned⟩
    | ok power => exact ⟨fun _ => ⟨power, rfl⟩, fun _ => rfl⟩

/-- Every step keeps the dictionaries of the store aligned. -/
theorem aligned_step {process after : SmgProcess} {event : ProcessEvent}
    (taken : SmgProcess.Step config crypto library process event after)
    (aligned : Aligned process.dataStore) : Aligned after.dataStore := by
  cases taken with
  | advance taken =>
    cases taken with
    | exchange taken =>
      rcases taken.store with same | ⟨-, reading, now, recorded⟩
      · rw [same]
        exact aligned
      · rw [recorded]
        exact aligned.record _ _ _
    | _ => exact aligned
  | _ => exact aligned

/-- A round of the status loop finds readings whose powers it can add. -/
def RoundReportable (process : SmgProcess) : ProcessEvent → Prop
  | .reported _ => Reportable process.dataStore
  | _ => True

/-- The thread of the status loop does not come back. -/
theorem silent_step {process after : SmgProcess} {event : ProcessEvent}
    (taken : SmgProcess.Step config crypto library process event after)
    (silent : process.reporting = false) : after.reporting = false := by
  cases taken with
  | report process now alive =>
    rw [silent] at alive
    cases alive
  | _ => exact silent

/-- The thread of the status loop lives through a run exactly if every round of it finds only
latest readings whose powers are numbers that fit a `float`. The first other reading ends it for
good. -/
theorem status_survives_iff (config : Server) (crypto : Primitives) (library : Library)
    {start : SmgProcess} {events : List (ProcessEvent × SmgProcess)}
    (run : Run (SmgProcess.Step config crypto library) start events)
    (aligned : Aligned start.dataStore) (alive : start.reporting = true) :
    ((∀ entry ∈ events, entry.2.reporting = true) ↔ Along RoundReportable start events) ∧
      ∀ earlier later, events = earlier ++ later → (final start earlier).reporting = false →
        ∀ entry ∈ later, entry.2.reporting = false := by
  have rounds : ∀ {before : SmgProcess} {event : ProcessEvent} {after : SmgProcess},
      SmgProcess.Step config crypto library before event after → Aligned before.dataStore →
      before.reporting = true → (after.reporting = true ↔ RoundReportable before event) := by
    intro before event after taken kept reporting
    cases taken with
    | report process now alive => exact statusRound_ok_iff kept now
    | _ => exact iff_of_true reporting trivial
  constructor
  · exact @Run.states_iff _ _ _ RoundReportable (fun process => Aligned process.dataStore)
      (fun process => process.reporting = true) aligned_step rounds _ _ run aligned alive
  · rintro earlier later rfl silent entry listed
    have silenced := @Run.states _ _ _ (fun process : SmgProcess => process.reporting = false)
      (fun taken => silent_step taken) _ _ run.split.2 silent
    exact silenced _ (List.mem_cons_of_mem _ (List.mem_map_of_mem listed))

/-- A server that has read a text for a power. -/
def mutteringServer : SmgProcess :=
  { SmgProcess.init with
    dataStore := SmgProcess.init.dataStore.record "node_a" [("P_bus", .str "high")] 0 }

/-- Its next status round is the last. -/
theorem muttering_silenced : ¬Along RoundReportable mutteringServer
    [(ProcessEvent.reported 0, { mutteringServer with reporting := false })] := by
  intro reportable
  have alive := (status_survives_iff ⟨[], [], []⟩ plainPrimitives nominalLibrary
    (.next (.report mutteringServer 0 rfl) (.done _)) ((aligned_init _).record _ _ _) rfl).1.mpr
    reportable _ (List.mem_singleton_self _)
  cases alive

end Microgrid.SecureNode
