import Microgrid.Ems.SetpointBoard
import Microgrid.Ems.StoreReports
import Microgrid.Foundation.Simulations
import Microgrid.SecureNode.ActiveNodes
import Microgrid.SecureNode.Conversation

/-!
# The server with all its threads

`SMGServer` from the accepting of a connection to the end of its thread: the thread enters its
session into `_sessions`, runs P2, P3 and the data loop, closes the connection and takes the
session out again. The update loop and the status loop have threads of their own. A session is
told apart from others by its identity, for which the number of its connection stands here.

The server of the data loops alone is an abstraction of it: a thread appears there when its P3
completes and is gone when its data loop ends (`Shows`). What holds of every run of that server
therefore holds of this one.
-/

namespace Microgrid.SecureNode

open PythonValues Ems HexText LabelledRuns Simulations

/-- Where the thread of a connection stands in `_handle_client`: before its session is in
`_sessions`, at the `recv_msg` of `rot_hello`, of `ses_init` or of `ses_conf`, in the data loop,
after `run`, or after `conn.close`. -/
inductive Phase where
  | started
  | hello
  | init (root : RootOfTrust Bytes) (nodeLabel : String)
  | conf (root : RootOfTrust Bytes) (nodeLabel : String) (pending : P3Pending Bytes)
  | exchanging (thread : Thread)
  | ended
  | closed

/-- The thread is in P2 or P3. -/
def Phase.InSetup : Phase → Prop
  | .hello | .init _ _ | .conf _ _ _ => True
  | _ => False

/-- The thread of a connection. -/
structure Client where
  id : ℕ
  phase : Phase

/-- `SMGServer`, with the threads of its connections, the number of connections accepted so
far, and whether the thread of `_status_loop` is alive. -/
structure SmgProcess where
  dataStore : DataStore
  ems : EMSCoordinator
  sessions : List ℕ
  clients : List Client
  accepted : ℕ
  reporting : Bool

/-- The server when it starts to listen. -/
def SmgProcess.init : SmgProcess := ⟨.init maxReadingsPerNode, .init, [], [], 0, true⟩

/-- `_sessions.remove(session)`. -/
def removeSession (sessions : List ℕ) (id : ℕ) : Except PyException (List ℕ) :=
  if id ∈ sessions then .ok (sessions.erase id) else .error .value

/-- One round of `_status_loop`. No exception is caught around it. -/
def statusRound (store : DataStore) (now : ℚ) : Except PyException Unit :=
  if store.getAllNodes = [] then .ok ()
  else do
    let _ ← store.aggregatePower now
    pure ()

section Threads

variable (config : Server) (crypto : Primitives) (library : Library)

/-- A step of `NodeSession.run`: the phase afterwards, and the store. -/
inductive PhaseStep (store : DataStore) (ems : EMSCoordinator) : Phase → Phase → DataStore → Prop where
  /-- P2 completes. -/
  | hello {root : RootOfTrust Bytes} {nodeLabel : String} {ack : Message} (msg : Message)
      (kind : expectType "rot_hello" msg = .ok ())
      (answered : config.runP2 crypto msg = .ok (root, nodeLabel, ack)) :
      PhaseStep store ems .hello (.init root nodeLabel) store
  /-- `ses_init` is answered. -/
  | init {root : RootOfTrust Bytes} {nodeLabel : String} {pending : P3Pending Bytes} {reply : Message}
      (draws : Draws) (msg : Message) (kind : expectType "ses_init" msg = .ok ())
      (answered : config.runP3Init crypto root draws msg = .ok (pending, reply)) :
      PhaseStep store ems (.init root nodeLabel) (.conf root nodeLabel pending) store
  /-- P3 completes. -/
  | conf {root : RootOfTrust Bytes} {nodeLabel : String} {pending : P3Pending Bytes}
      {session : NodeSession} {ack : Message} (msg : Message)
      (confirmed : config.runP3Conf crypto root nodeLabel pending msg = .ok (session, ack)) :
      PhaseStep store ems (.conf root nodeLabel pending) (.exchanging ⟨session, .receiving⟩) store
  /-- Receiving or sending raises, or a check fails, before the session is established. -/
  | refuse {phase : Phase} (early : phase.InSetup) : PhaseStep store ems phase .ended store
  /-- A step within the data loop, after which `run` returns unless the loop goes on. -/
  | exchange {thread : Thread} {after : NodeSession} {stage : Option Stage} {store' : DataStore}
      (taken : ThreadStep crypto library store ems thread after stage store') :
      PhaseStep store ems (.exchanging thread)
        ((stage.map fun stands => Phase.exchanging ⟨after, stands⟩).getD .ended) store'

/-- What a step of the server is about. -/
inductive ProcessEvent where
  | accepted (id : ℕ)
  | registered (id : ℕ)
  | advanced (id : ℕ) (before after : Phase)
  | closed (id : ℕ)
  | left (id : ℕ) (outcome : Except PyException (List ℕ))
  | updated (now : ℚ)
  | reported (now : ℚ)

/-- A step of the server. -/
inductive SmgProcess.Step : SmgProcess → ProcessEvent → SmgProcess → Prop where
  /-- `accept` returns a connection, and its thread is started. -/
  | accept (process : SmgProcess) :
      Step process (.accepted process.accepted) { process with
        clients := process.clients ++ [⟨process.accepted, .started⟩]
        accepted := process.accepted + 1 }
  /-- `_sessions.append`. -/
  | register {dataStore : DataStore} {ems : EMSCoordinator} {sessions : List ℕ}
      {front back : List Client} {id accepted : ℕ} {reporting : Bool} :
      Step ⟨dataStore, ems, sessions, front ++ ⟨id, .started⟩ :: back, accepted, reporting⟩
        (.registered id)
        ⟨dataStore, ems, sessions ++ [id], front ++ ⟨id, .hello⟩ :: back, accepted, reporting⟩
  /-- A session goes on. -/
  | advance {dataStore store : DataStore} {ems : EMSCoordinator} {sessions : List ℕ}
      {front back : List Client} {id accepted : ℕ} {reporting : Bool} {before after : Phase}
      (taken : PhaseStep config crypto library dataStore ems before after store) :
      Step ⟨dataStore, ems, sessions, front ++ ⟨id, before⟩ :: back, accepted, reporting⟩
        (.advanced id before after)
        ⟨store, ems, sessions, front ++ ⟨id, after⟩ :: back, accepted, reporting⟩
  /-- `conn.close`. -/
  | close {dataStore : DataStore} {ems : EMSCoordinator} {sessions : List ℕ}
      {front back : List Client} {id accepted : ℕ} {reporting : Bool} :
      Step ⟨dataStore, ems, sessions, front ++ ⟨id, .ended⟩ :: back, accepted, reporting⟩
        (.closed id)
        ⟨dataStore, ems, sessions, front ++ ⟨id, .closed⟩ :: back, accepted, reporting⟩
  /-- `_sessions.remove`, after which the thread is gone, whether it raised or not. -/
  | leave {dataStore : DataStore} {ems : EMSCoordinator} {sessions : List ℕ}
      {front back : List Client} {id accepted : ℕ} {reporting : Bool} :
      Step ⟨dataStore, ems, sessions, front ++ ⟨id, .closed⟩ :: back, accepted, reporting⟩
        (.left id (removeSession sessions id))
        ⟨dataStore, ems, (removeSession sessions id).toOption.getD sessions, front ++ back,
          accepted, reporting⟩
  /-- The update loop calls `update`, and catches what it raises. -/
  | update (process : SmgProcess) (now : ℚ) :
      Step process (.updated now)
        { process with ems := (process.ems.update process.dataStore now).1 }
  /-- The status loop comes round, as long as its thread is alive. -/
  | report (process : SmgProcess) (now : ℚ) (alive : process.reporting = true) :
      Step process (.reported now)
        { process with reporting := (statusRound process.dataStore now).toOption.isSome }

end Threads

/-! ### The data loops alone -/

/-- The thread of a client that is in its data loop. -/
def Client.thread? (client : Client) : Option Thread :=
  match client.phase with
  | .exchanging thread => some thread
  | _ => none

/-- The server of the data loops has the same store and coordinator, and the threads that are
in their data loop, in any order. -/
structure Shows (process : SmgProcess) (server : SmgServer) : Prop where
  dataStore : server.dataStore = process.dataStore
  ems : server.ems = process.ems
  sessions : List.Perm server.sessions (process.clients.filterMap Client.thread?)

/-- What one client contributes. -/
theorem filterMap_client (front back : List Client) (client : Client) :
    (front ++ client :: back).filterMap Client.thread? =
      front.filterMap Client.thread? ++ client.thread?.toList ++ back.filterMap Client.thread? := by
  rw [List.filterMap_append, List.filterMap_cons]
  cases client.thread? with
  | none => simp
  | some thread => simp

section Simulation

variable {config : Server} {crypto : Primitives} {library : Library}

/-- A client that was not in its data loop and is not afterwards does not show. -/
theorem Shows.unseen {dataStore : DataStore} {ems : EMSCoordinator} {front back : List Client}
    {before after : Client} {sessions sessions' : List ℕ} {accepted : ℕ} {reporting : Bool}
    {server : SmgServer} (shows : Shows ⟨dataStore, ems, sessions, front ++ before :: back,
      accepted, reporting⟩ server) (outside : before.thread? = none) (still : after.thread? = none) :
    Shows ⟨dataStore, ems, sessions', front ++ after :: back, accepted, reporting⟩ server := by
  refine ⟨shows.dataStore, shows.ems, ?_⟩
  have same := shows.sessions
  dsimp only at same ⊢
  rw [filterMap_client, outside] at same
  rw [filterMap_client, still]
  exact same

/-- A phase of P2 or P3 is outside the data loop. -/
theorem Phase.InSetup.unseen {phase : Phase} (early : phase.InSetup) (id : ℕ) :
    (Client.mk id phase).thread? = none := by
  cases phase with
  | hello => rfl
  | init root nodeLabel => rfl
  | conf root nodeLabel pending => rfl
  | started => cases early
  | exchanging thread => cases early
  | ended => cases early
  | closed => cases early

/-- A session that is confirmed has just been established. -/
theorem runP3Conf_established {root : RootOfTrust Bytes} {nodeLabel : String}
    {pending : P3Pending Bytes} {msg ack : Message} {session : NodeSession}
    (confirmed : config.runP3Conf crypto root nodeLabel pending msg = .ok (session, ack)) :
    ∃ serverId initBl sesId sesKey, session = established serverId nodeLabel initBl sesId sesKey := by
  obtain ⟨-, -, confirmed⟩ := bind_ok confirmed
  obtain ⟨-, -, confirmed⟩ := bind_ok confirmed
  obtain ⟨confCif, -, confirmed⟩ := bind_ok confirmed
  obtain ⟨responder, -, confirmed⟩ := bind_ok confirmed
  exact ⟨_, _, _, _, (Prod.mk.inj (Except.ok.inj confirmed)).1.symm⟩

/-- A step of a thread in its data loop is a step of the server that shows it. -/
theorem Shows.exchange {dataStore store : DataStore} {ems : EMSCoordinator} {front back : List Client}
    {sessions : List ℕ} {id accepted : ℕ} {reporting : Bool} {server : SmgServer} {thread : Thread}
    {after : NodeSession} {stage : Option Stage}
    (shows : Shows ⟨dataStore, ems, sessions, front ++ ⟨id, .exchanging thread⟩ :: back, accepted,
      reporting⟩ server)
    (taken : ThreadStep crypto library dataStore ems thread after stage store) :
    ∃ event server', SmgServer.Step crypto library server event server' ∧
      Shows ⟨store, ems, sessions, front ++ ⟨id, (stage.map fun stands =>
        Phase.exchanging ⟨after, stands⟩).getD .ended⟩ :: back, accepted, reporting⟩ server' := by
  obtain ⟨serverStore, serverEms, threads⟩ := server
  obtain rfl : serverStore = dataStore := shows.dataStore
  obtain rfl : serverEms = ems := shows.ems
  have listed := shows.sessions
  dsimp only at listed
  rw [filterMap_client] at listed
  set others := front.filterMap Client.thread? ++ back.filterMap Client.thread? with othersNamed
  have first : threads.Perm (thread :: others) := by
    refine listed.trans ?_
    rw [show (Client.mk id (.exchanging thread)).thread?.toList = [thread] from rfl,
      List.append_assoc, List.singleton_append]
    exact List.perm_middle
  obtain ⟨before, later, rfl⟩ := List.append_of_mem (first.mem_iff.mpr List.mem_cons_self)
  have rest : (before ++ later).Perm others :=
    (List.perm_middle.symm.trans first).cons_inv
  refine ⟨_, _, .thread taken, rfl, rfl, ?_⟩
  dsimp only
  rw [filterMap_client]
  have contributes : (Client.mk id ((stage.map fun stands =>
      Phase.exchanging ⟨after, stands⟩).getD .ended)).thread?.toList
        = (stage.map (Thread.mk after)).toList := by
    cases stage <;> rfl
  rw [contributes]
  have moved : ∀ {some left right : List Thread},
      (left ++ some ++ right).Perm (some ++ (left ++ right)) := by
    intro some left right
    rw [← List.append_assoc]
    exact List.perm_append_comm.append_right right
  exact moved.trans ((rest.append_left _).trans moved.symm)

/-- A thread that completes P3 is a session that connects. -/
theorem Shows.connect {dataStore : DataStore} {ems : EMSCoordinator} {front back : List Client}
    {sessions : List ℕ} {id accepted : ℕ} {reporting : Bool} {server : SmgServer}
    {root : RootOfTrust Bytes} {nodeLabel : String} {pending : P3Pending Bytes}
    (shows : Shows ⟨dataStore, ems, sessions, front ++ ⟨id, .conf root nodeLabel pending⟩ :: back,
      accepted, reporting⟩ server) (serverId initBl sesId sesKey : Bytes) :
    Shows ⟨dataStore, ems, sessions, front ++ ⟨id, .exchanging
        ⟨established serverId nodeLabel initBl sesId sesKey, .receiving⟩⟩ :: back, accepted, reporting⟩
      { server with sessions := server.sessions ++
        [⟨established serverId nodeLabel initBl sesId sesKey, .receiving⟩] } := by
  refine ⟨shows.dataStore, shows.ems, ?_⟩
  have listed := shows.sessions
  dsimp only at listed ⊢
  rw [filterMap_client] at listed ⊢
  have joined := listed.append_right [Thread.mk (established serverId nodeLabel initBl sesId sesKey)
    .receiving]
  refine joined.trans ?_
  rw [show (Client.mk id (.conf root nodeLabel pending)).thread?.toList = [] from rfl,
    List.append_nil, List.append_assoc, List.append_assoc]
  exact List.perm_append_comm.append_left _

/-- Every step of the server is at most one step of the server of the data loops. -/
theorem shows_simulates (config : Server) (crypto : Primitives) (library : Library) :
    Simulates (SmgProcess.Step config crypto library) (SmgServer.Step crypto library) Shows := by
  constructor
  intro process event after step server shows
  have quiet : ∀ {next : SmgProcess}, Shows next server → ∃ events : List (Event × SmgServer),
      Run (SmgServer.Step crypto library) server events ∧ Shows next (final server events) :=
    fun same => ⟨[], .done server, same⟩
  have single : ∀ {next : SmgProcess} {abstractEvent : Event} {server' : SmgServer},
      SmgServer.Step crypto library server abstractEvent server' → Shows next server' →
      ∃ events : List (Event × SmgServer), Run (SmgServer.Step crypto library) server events ∧
        Shows next (final server events) :=
    fun taken same => ⟨[(_, _)], .next taken (.done _), same⟩
  cases step with
  | accept process =>
    refine quiet ⟨shows.dataStore, shows.ems, ?_⟩
    dsimp only
    rw [List.filterMap_append]
    exact shows.sessions.trans (List.Perm.of_eq (List.append_nil _).symm)
  | register => exact quiet (shows.unseen rfl rfl)
  | advance taken =>
    cases taken with
    | hello msg kind answered => exact quiet (shows.unseen rfl rfl)
    | init draws msg kind answered => exact quiet (shows.unseen rfl rfl)
    | refuse early => exact quiet (shows.unseen (early.unseen _) rfl)
    | conf msg confirmed =>
      obtain ⟨serverId, initBl, sesId, sesKey, rfl⟩ := runP3Conf_established confirmed
      exact single (.connect server serverId _ initBl sesId sesKey)
        (shows.connect serverId initBl sesId sesKey)
    | exchange taken =>
      obtain ⟨event, server', matched, same⟩ := shows.exchange taken
      exact single matched same
  | close => exact quiet (shows.unseen rfl rfl)
  | leave =>
    refine quiet ⟨shows.dataStore, shows.ems, ?_⟩
    have listed := shows.sessions
    dsimp only at listed ⊢
    rw [filterMap_client] at listed
    rw [List.filterMap_append]
    refine listed.trans (List.Perm.of_eq ?_)
    rw [show (Client.mk _ .closed).thread?.toList = [] from rfl, List.append_nil]
  | update process now =>
    refine single (.update server now) ⟨shows.dataStore, ?_, shows.sessions⟩
    dsimp only
    rw [shows.ems, shows.dataStore]
  | report process now alive => exact quiet ⟨shows.dataStore, shows.ems, shows.sessions⟩

/-- At the start both servers are alike. -/
theorem shows_init : Shows .init .init := ⟨rfl, rfl, List.Perm.refl _⟩

/-- Every run of the server, with any interleaving of its threads, is a run of the server of
the data loops, which passes through what each of its states shows. -/
theorem threads_refine (config : Server) (crypto : Primitives) (library : Library)
    {events : List (ProcessEvent × SmgProcess)}
    (run : Run (SmgProcess.Step config crypto library) .init events) :
    ∃ shown : List (Event × SmgServer), Run (SmgServer.Step crypto library) .init shown ∧
      Shows (final .init events) (final .init shown) ∧
      ∀ process ∈ SmgProcess.init :: events.map Prod.snd,
        ∃ server ∈ SmgServer.init :: shown.map Prod.snd, Shows process server :=
  (shows_simulates config crypto library).run run shows_init

end Simulation

/-! ### The connection of a registered node -/

section Joining

variable {config : Server} {crypto : Primitives}

/-- The server's turns in a setup that completes. -/
theorem setup_turns {floatText : PyFloat → List Char} {device : Device} {draws : Draws}
    {client : SecureNodeClient} {session : NodeSession}
    (completed : setup crypto floatText config device draws = .ok (client, session)) :
    ∃ hello root nodeLabel ack init pending reply conf confAck,
      expectType "rot_hello" hello = .ok () ∧
      config.runP2 crypto hello = .ok (root, nodeLabel, ack) ∧
      expectType "ses_init" init = .ok () ∧
      config.runP3Init crypto root draws init = .ok (pending, reply) ∧
      config.runP3Conf crypto root nodeLabel pending conf = .ok (session, confAck) := by
  obtain ⟨⟨root, nodeLabel, kept⟩, shared, completed⟩ := bind_ok completed
  obtain ⟨hello, -, shared⟩ := bind_ok shared
  obtain ⟨_, isHello, shared⟩ := bind_ok shared
  obtain ⟨⟨serverRoot, label, ack⟩, answered, shared⟩ := bind_ok shared
  dsimp only at shared completed
  obtain ⟨_, -, shared⟩ := bind_ok shared
  obtain ⟨_, -, shared⟩ := bind_ok shared
  obtain ⟨rfl, rest⟩ := Prod.mk.inj (Except.ok.inj shared)
  obtain ⟨rfl, -⟩ := Prod.mk.inj rest
  obtain ⟨_, -, completed⟩ := bind_ok completed
  obtain ⟨init, -, completed⟩ := bind_ok completed
  obtain ⟨_, isInit, completed⟩ := bind_ok completed
  obtain ⟨⟨pending, reply⟩, replied, completed⟩ := bind_ok completed
  dsimp only at completed
  obtain ⟨_, -, completed⟩ := bind_ok completed
  obtain ⟨⟨_, _⟩, -, completed⟩ := bind_ok completed
  dsimp only at completed
  obtain ⟨conf, -, completed⟩ := bind_ok completed
  obtain ⟨⟨other, confAck⟩, confirmed, completed⟩ := bind_ok completed
  dsimp only at completed
  obtain ⟨_, -, completed⟩ := bind_ok completed
  obtain ⟨_, -, completed⟩ := bind_ok completed
  obtain ⟨-, rfl⟩ := Prod.mk.inj (Except.ok.inj completed)
  exact ⟨hello, _, _, ack, init, pending, reply, conf, confAck, isHello, answered, isInit, replied,
    confirmed⟩

/-- The first connection of a server, up to its data loop. -/
def joining (root : RootOfTrust Bytes) (nodeLabel : String) (pending : P3Pending Bytes)
    (session : NodeSession) : List (ProcessEvent × SmgProcess) :=
  let process (sessions : List ℕ) (phase : Phase) : SmgProcess :=
    ⟨.init maxReadingsPerNode, .init, sessions, [⟨0, phase⟩], 1, true⟩
  let init := Phase.init root nodeLabel
  let conf := Phase.conf root nodeLabel pending
  let exchanging := Phase.exchanging ⟨session, .receiving⟩
  [(.accepted 0, process [] .started), (.registered 0, process [0] .hello),
    (.advanced 0 .hello init, process [0] init), (.advanced 0 init conf, process [0] conf),
    (.advanced 0 conf exchanging, process [0] exchanging)]

/-- A node whose setup completes gets into its data loop. -/
theorem joining_run (library : Library) {floatText : PyFloat → List Char} {device : Device}
    {draws : Draws} {client : SecureNodeClient} {session : NodeSession}
    (completed : setup crypto floatText config device draws = .ok (client, session)) :
    ∃ root nodeLabel pending, Run (SmgProcess.Step config crypto library) .init
      (joining root nodeLabel pending session) := by
  obtain ⟨hello, root, nodeLabel, ack, init, pending, reply, conf, confAck, isHello, answered,
    isInit, replied, confirmed⟩ := setup_turns completed
  refine ⟨root, nodeLabel, pending, ?_⟩
  refine .next (.accept _) ?_
  refine .next (@SmgProcess.Step.register config crypto library _ _ [] [] [] 0 1 true) ?_
  refine .next (@SmgProcess.Step.advance config crypto library _ _ _ [0] [] [] 0 1 true _ _
    (.hello hello isHello answered)) ?_
  refine .next (@SmgProcess.Step.advance config crypto library _ _ _ [0] [] [] 0 1 true _ _
    (.init draws init isInit replied)) ?_
  exact .next (@SmgProcess.Step.advance config crypto library _ _ _ [0] [] [] 0 1 true _ _
    (.conf conf confirmed)) (.done _)

end Joining

/-- The run of a node that is registered, in which the server of the data loops sees it. -/
theorem nominal_refined : ∃ events : List (ProcessEvent × SmgProcess),
    ∃ shown : List (Event × SmgServer),
      Run (SmgServer.Step plainPrimitives nominalLibrary) .init shown ∧
      Shows (final .init events) (final .init shown) ∧ (final .init shown).sessions ≠ [] := by
  obtain ⟨client, session, -, completed, -⟩ := nominal_exchange
  obtain ⟨root, nodeLabel, pending, run⟩ := joining_run nominalLibrary completed
  obtain ⟨shown, followed, ends, -⟩ :=
    threads_refine nominalServer plainPrimitives nominalLibrary run
  refine ⟨_, shown, followed, ends, fun empty => ?_⟩
  have listed := ends.sessions
  rw [empty] at listed
  exact absurd listed.length_eq (by simp [joining, final, Client.thread?])

end Microgrid.SecureNode
