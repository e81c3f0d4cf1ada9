import Mathlib.Algebra.Order.Group.MinMax
import Mathlib.Data.List.Chain
import Microgrid.SecureNode.ThreadInvariants

/-!
# The metrics of a session

`get_metrics` is what a session tells about itself: how many exchanges there were, what went
wrong, which events cost it trust, how long its audit chain is, and its trust score. The numbers
come from different places. `_update_trust` logs an event with the score it leaves and the
exchanges counted so far, the chain grows before a reading is looked at, and an exchange is
counted when it is over.

In whatever way the threads of the server are interleaved, the numbers fit together: the score is
what the logged events leave of the initial one, anomalies are logged at least five messages
apart and at most twice, and the chain is ahead of the count by the exchange in progress. When the
loop has ended it is ahead only by an exchange that failed after its message had been accepted.
-/

namespace Microgrid.SecureNode

open PythonValues Ems LabelledRuns Simulations

/-- What `get_metrics` returns, except for the durations. -/
structure MetricsReport where
  p4Count : ℕ
  errors : List String
  trustEvents : List TrustRecord
  node : String
  chainLength : ℕ
  trustScore : ℚ
  trustEventCount : ℕ

/-- `get_metrics`. -/
def NodeSession.getMetrics (session : NodeSession) : MetricsReport where
  p4Count := session.metrics.p4Count
  errors := session.metrics.errors
  trustEvents := session.metrics.trustEvents
  node := session.nodeLabel
  chainLength := session.chain.length
  trustScore := session.trustScore
  trustEventCount := session.metrics.trustEvents.length

/-! ### A log of trust events -/

/-- What a logged event costs. -/
def TrustEvent.penalty : TrustEvent → ℚ
  | .securityError => 30 / 100
  | .sensorAnomaly => 40 / 100
  | .sensorOk => 0

/-- What all events of a log cost. -/
def penalties : List TrustRecord → ℚ
  | [] => 0
  | record :: log => record.event.penalty + penalties log

/-- The score that a log leaves. -/
def balance (log : List TrustRecord) : ℚ := max 0 (8 / 10 - penalties log)

/-- The messages at which anomalies were logged, counted from one. -/
def marks (log : List TrustRecord) : List ℕ :=
  (log.filter fun record => record.event = .sensorAnomaly).map fun record => record.mNum + 1

/-- Every entry has the score that the log up to it leaves, and between two anomalies, and before
the first, there are five messages. -/
structure Ledger (log : List TrustRecord) : Prop where
  scores : ∀ earlier record later, log = earlier ++ record :: later →
    record.score = balance (earlier ++ [record])
  spaced : (0 :: marks log).IsChain fun earlier later => earlier + vBusAnomalyWindow ≤ later

/-- No event gains anything. -/
theorem penalty_nonneg (event : TrustEvent) : 0 ≤ event.penalty := by
  cases event <;> norm_num [TrustEvent.penalty]

/-- The costs of two logs add up. -/
theorem penalties_append (earlier later : List TrustRecord) :
    penalties (earlier ++ later) = penalties earlier + penalties later := by
  induction earlier with
  | nil => exact (zero_add _).symm
  | cons record earlier inductionHypothesis =>
    rw [List.cons_append, penalties, penalties, inductionHypothesis, add_assoc]

/-- One more entry is taken from what was left. -/
theorem balance_concat (log : List TrustRecord) (record : TrustRecord) :
    balance (log ++ [record]) = max 0 (balance log - record.event.penalty) := by
  have cost := penalty_nonneg record.event
  have total : penalties (log ++ [record]) = penalties log + record.event.penalty := by
    rw [penalties_append, penalties, penalties, add_zero]
  rw [balance, balance, total, ← max_sub_sub_right, ← max_assoc, zero_sub,
    max_eq_left (neg_nonpos.mpr cost), sub_sub]

/-- The last entry splits off a longer log. -/
theorem split_concat {log earlier later : List TrustRecord} {last record : TrustRecord}
    (split : log ++ [last] = earlier ++ record :: later) :
    (earlier = log ∧ record = last ∧ later = []) ∨
      ∃ between, later = between ++ [last] ∧ log = earlier ++ record :: between := by
  rcases List.eq_nil_or_concat later with rfl | ⟨between, other, rfl⟩
  · obtain ⟨rfl, same⟩ := List.append_inj' split rfl
    exact .inl ⟨rfl, (List.cons.inj same).1.symm, rfl⟩
  · rw [List.concat_eq_append, ← List.cons_append, ← List.append_assoc] at split
    obtain ⟨rfl, same⟩ := List.append_inj' split rfl
    exact .inr ⟨between, by rw [List.concat_eq_append, (List.cons.inj same).1], rfl⟩

theorem ledger_nil : Ledger [] where
  scores := fun earlier record later split => by simp at split
  spaced := List.isChain_singleton 0

/-- A new entry with the score it leaves continues the scores. -/
theorem Ledger.scores_concat {log : List TrustRecord} (ledger : Ledger log) (event : TrustEvent)
    (mNum : ℕ) : ∀ earlier record later,
      log ++ [⟨event, max 0 (balance log - event.penalty), mNum⟩] = earlier ++ record :: later →
        record.score = balance (earlier ++ [record]) := by
  intro earlier record later split
  rcases split_concat split with ⟨rfl, rfl, -⟩ | ⟨between, -, inside⟩
  · exact (balance_concat earlier ⟨event, _, mNum⟩).symm
  · exact ledger.scores earlier record between inside

/-- A security error is not marked. -/
theorem marks_failure (log : List TrustRecord) (score : ℚ) (mNum : ℕ) :
    marks (log ++ [⟨.securityError, score, mNum⟩]) = marks log := by
  rw [marks, marks, List.filter_append]
  exact congrArg _ (List.append_nil _)

/-- An anomaly is marked. -/
theorem marks_anomaly (log : List TrustRecord) (score : ℚ) (mNum : ℕ) :
    marks (log ++ [⟨.sensorAnomaly, score, mNum⟩]) = marks log ++ [mNum + 1] := by
  rw [marks, marks, List.filter_append, List.map_append]
  rfl

/-- A security error can be logged at any time. -/
theorem Ledger.fail {log : List TrustRecord} (ledger : Ledger log) (mNum : ℕ) :
    Ledger (log ++ [⟨.securityError, max 0 (balance log - 30 / 100), mNum⟩]) where
  scores := ledger.scores_concat .securityError mNum
  spaced := by
    rw [marks_failure]
    exact ledger.spaced

/-- An anomaly can be logged five messages after the last one. -/
theorem Ledger.suspect {log : List TrustRecord} (ledger : Ledger log) {mNum : ℕ}
    (apart : (marks log).getLastD 0 + vBusAnomalyWindow ≤ mNum + 1) :
    Ledger (log ++ [⟨.sensorAnomaly, max 0 (balance log - 40 / 100), mNum⟩]) where
  scores := ledger.scores_concat .sensorAnomaly mNum
  spaced := by
    rw [marks_anomaly, ← List.cons_append]
    refine List.isChain_append.mpr ⟨ledger.spaced, List.isChain_singleton _, ?_⟩
    intro last isLast next isNext
    rw [List.head?_cons, Option.mem_some_iff] at isNext
    rw [List.getLast?_cons, Option.mem_some_iff, ← List.getLastD_eq_getLast?] at isLast
    rw [← isNext, ← isLast]
    exact apart

/-! ### A session and its report -/

/-- The exchanges that a thread has begun and not yet counted. -/
def Stage.inProgress : Stage → ℕ
  | .receiving => 0
  | _ => 1

/-- Those of them whose reading has been looked at. -/
def Stage.lookedAt : Stage → ℕ
  | .receiving | .accepted _ => 0
  | _ => 1

/-- The numbers of a report fit together: score and log, chain and count, and the log, with two
anomalies at most, and the errors, of which there is at most one. -/
structure Balances (report : MetricsReport) : Prop where
  score : report.trustScore = balance report.trustEvents
  ledger : Ledger report.trustEvents
  events : report.trustEventCount = report.trustEvents.length
  few : (marks report.trustEvents).length ≤ 2
  within : (marks report.trustEvents).getLastD 0 ≤ report.chainLength
  chain : report.p4Count ≤ report.chainLength ∧ report.chainLength ≤ report.p4Count + 1
  errors : report.errors.length ≤ 1
  failures : ∀ earlier record later, report.trustEvents = earlier ++ record :: later →
    record.event = .securityError → later = [] ∧ ∃ text, report.errors = ["P4: " ++ text]

/-- What a loop leaves that has ended: the chain is ahead of the count exactly if there was an
exchange in progress that has failed. -/
structure Closed (thread : Thread) (after : NodeSession) : Prop where
  balances : Balances after.getMetrics
  ahead : after.getMetrics.chainLength = after.getMetrics.p4Count + 1 ↔
    thread.stage.inProgress = 1 ∧ ∃ text, after.getMetrics.errors = ["P4: " ++ text]

/-- A session in its data loop: nothing has gone wrong but anomalies, of which there are none to
spare, and fewer than five anomalies are counted, of messages after the last logged one. -/
structure Accounts (thread : Thread) : Prop where
  score : thread.session.trustScore = balance thread.session.metrics.trustEvents
  ledger : Ledger thread.session.metrics.trustEvents
  chain : thread.session.chain.length = thread.session.metrics.p4Count + thread.stage.inProgress
  clean : thread.session.metrics.errors = []
  anomalies : ∀ record ∈ thread.session.metrics.trustEvents, record.event = .sensorAnomaly
  few : thread.session.metrics.trustEvents.length ≤ 1 + thread.stage.lookedAt
  below : thread.session.consecutiveAnomalies < vBusAnomalyWindow
  recent : (marks thread.session.metrics.trustEvents).getLastD 0 +
    thread.session.consecutiveAnomalies ≤ thread.session.metrics.p4Count + thread.stage.lookedAt

/-- No security error is logged. -/
theorem Accounts.harmless {thread : Thread} (accounts : Accounts thread)
    {earlier later : List TrustRecord} {record : TrustRecord}
    (split : thread.session.metrics.trustEvents = earlier ++ record :: later) :
    record.event ≠ .securityError := by
  have member : record ∈ earlier ++ record :: later := List.mem_append_right _ List.mem_cons_self
  rw [← split] at member
  rw [accounts.anomalies record member]
  exact nofun

/-- There are no more marks than entries. -/
theorem marks_length_le (log : List TrustRecord) : (marks log).length ≤ log.length := by
  rw [marks, List.length_map]
  exact List.length_filter_le _ log

/-- In the data loop a report balances. -/
theorem Accounts.balances {thread : Thread} (accounts : Accounts thread) :
    Balances thread.session.getMetrics := by
  have chain := accounts.chain
  have recent := accounts.recent
  have few := accounts.few
  have marked := marks_length_le thread.session.metrics.trustEvents
  have begun : thread.stage.lookedAt ≤ thread.stage.inProgress ∧ thread.stage.inProgress ≤ 1 := by
    cases thread.stage with
    | receiving => exact ⟨le_rfl, Nat.zero_le _⟩
    | accepted message => exact ⟨Nat.zero_le _, le_rfl⟩
    | judged message reading => exact ⟨le_rfl, le_rfl⟩
    | recorded message => exact ⟨le_rfl, le_rfl⟩
  refine ⟨accounts.score, accounts.ledger, rfl, ?_, ?_, ?_, ?_, ?_⟩
  · dsimp only [NodeSession.getMetrics]
    omega
  · dsimp only [NodeSession.getMetrics]
    omega
  · dsimp only [NodeSession.getMetrics]
    omega
  · dsimp only [NodeSession.getMetrics]
    rw [accounts.clean]
    exact Nat.zero_le 1
  · exact fun earlier record later split failed => absurd failed (accounts.harmless split)

/-- Two logged anomalies leave too little trust. -/
theorem few_anomalies {log : List TrustRecord}
    (anomalies : ∀ record ∈ log, record.event = .sensorAnomaly)
    (trusted : trustDropThreshold ≤ balance log) : log.length ≤ 1 := by
  have cost : penalties log = log.length * (40 / 100) := by
    clear trusted
    induction log with
    | nil => simp [penalties]
    | cons record log inductionHypothesis =>
      have rest := inductionHypothesis fun other member =>
        anomalies other (List.mem_cons_of_mem _ member)
      rw [penalties, rest, anomalies record List.mem_cons_self, List.length_cons]
      push_cast [TrustEvent.penalty]
      ring
  by_contra more
  have two : (2 : ℚ) ≤ log.length := by exact_mod_cast not_le.mp more
  have low : balance log ≤ 0 := max_le le_rfl (by rw [cost]; linarith)
  exact absurd (trusted.trans low) (by norm_num [trustDropThreshold])

/-- A session that has just been established. -/
theorem accounts_established (serverId : Bytes) (nodeLabel : String) (initBl sesId sesKey : Bytes) :
    Accounts ⟨established serverId nodeLabel initBl sesId sesKey, .receiving⟩ where
  score := by norm_num [established, balance, penalties]
  ledger := ledger_nil
  chain := rfl
  clean := rfl
  anomalies := fun _ member => (List.not_mem_nil member).elim
  few := Nat.zero_le _
  below := Nat.zero_lt_succ 4
  recent := le_rfl

/-! ### Steps of a thread -/

section Steps

variable {crypto : Primitives} {library : Library}

/-- Looking at a reading keeps the accounts.

Only the fifth anomaly in a row is logged, and its mark is five messages behind the last one since
each of the five was another message. -/
theorem Accounts.judge {session : NodeSession} {message : Accepted}
    (accounts : Accounts ⟨session, .accepted message⟩) (store : DataStore) {stands : Stage}
    (looked : stands.lookedAt = 1) (progress : stands.inProgress = 1) :
    Accounts ⟨(judgeReading library session store message).1, stands⟩ := by
  obtain ⟨score, ledger, chain, clean, anomalies, few, below, recent⟩ := accounts
  dsimp only [Stage.inProgress, Stage.lookedAt] at chain few recent
  rcases @judgeReading_session library session store message with same | ⟨event, noError, same⟩
  · rw [same]
    refine ⟨score, ledger, ?_, clean, anomalies, ?_, below, ?_⟩ <;>
      simp only [looked, progress] <;> omega
  · rw [same]
    cases event with
    | securityError => exact absurd rfl noError
    | sensorOk =>
      refine ⟨score, ledger, ?_, clean, anomalies, ?_, Nat.zero_lt_succ 4, ?_⟩ <;>
        simp only [looked, progress, NodeSession.updateTrust] <;> omega
    | sensorAnomaly =>
      dsimp only at below score
      rw [NodeSession.updateTrust]
      dsimp only
      split
      · next enough =>
        have apart : (marks session.metrics.trustEvents).getLastD 0 + vBusAnomalyWindow ≤
            session.metrics.p4Count + 1 := by omega
        have entry := ledger.suspect apart
        have left := balance_concat session.metrics.trustEvents ⟨.sensorAnomaly,
          max 0 (balance session.metrics.trustEvents - 40 / 100), session.metrics.p4Count⟩
        rw [← score] at entry left
        refine ⟨left.symm, entry, ?_, clean, ?_, ?_, Nat.zero_lt_succ 4, ?_⟩
        · rw [progress]
          exact chain
        · intro record member
          rcases List.mem_append.mp member with early | new
          · exact anomalies record early
          · rw [List.mem_singleton.mp new]
        · dsimp only [NodeSession.penalize]
          rw [List.length_append, looked]
          exact Nat.add_le_add_right few 1
        · dsimp only [NodeSession.penalize]
          rw [marks_anomaly, List.getLastD_concat, looked]
      · next early =>
        refine ⟨score, ledger, ?_, clean, anomalies, ?_, not_le.mp early, ?_⟩ <;>
          simp only [looked, progress] <;> omega

/-- A failed exchange adds an error and an event. -/
theorem getMetrics_failP4 (session : NodeSession) (exception : PyException) :
    (failP4 library session exception).getMetrics =
      { session.getMetrics with
        errors := session.metrics.errors ++ ["P4: " ++ library.strOf exception]
        trustEvents := session.metrics.trustEvents ++ [⟨.securityError,
          max 0 (session.trustScore - 30 / 100), session.metrics.p4Count⟩]
        trustScore := max 0 (session.trustScore - 30 / 100)
        trustEventCount := session.metrics.trustEvents.length + 1 } := by
  unfold failP4
  dsimp only
  split <;> simp [NodeSession.getMetrics, NodeSession.updateTrust, NodeSession.penalize,
    NodeSession.logError, NodeSession.dropConnection]

/-- An exchange that fails ends with a report that balances, and the chain is ahead if it had been
in progress. -/
theorem Accounts.fails {thread : Thread} (accounts : Accounts thread) (exception : PyException) :
    Closed thread (failP4 library thread.session exception) := by
  obtain ⟨score, ledger, -, few, within, chain, -, -⟩ := accounts.balances
  have report := @getMetrics_failP4 library thread.session exception
  have entry := ledger.fail thread.session.metrics.p4Count
  have left := balance_concat thread.session.metrics.trustEvents ⟨.securityError,
    max 0 (balance thread.session.metrics.trustEvents - 30 / 100), thread.session.metrics.p4Count⟩
  dsimp only [NodeSession.getMetrics] at score entry few within chain
  rw [← score] at entry left
  have texts : thread.session.metrics.errors ++ ["P4: " ++ library.strOf exception] =
      ["P4: " ++ library.strOf exception] := by
    rw [accounts.clean, List.nil_append]
  constructor
  · rw [report]
    refine ⟨left.symm, entry, ?_, ?_, ?_, chain, ?_, ?_⟩
    · dsimp only
      rw [List.length_append]
      rfl
    · dsimp only
      rw [marks_failure]
      exact few
    · dsimp only
      rw [marks_failure]
      exact within
    · dsimp only
      rw [texts]
      exact le_rfl
    · intro earlier record later split failed
      rcases split_concat split with ⟨-, -, last⟩ | ⟨between, -, inside⟩
      · exact ⟨last, _, texts⟩
      · exact absurd failed (accounts.harmless inside)
  · rw [report]
    dsimp only [NodeSession.getMetrics]
    rw [accounts.chain, texts, Nat.add_left_cancel_iff]
    exact ⟨fun ahead => ⟨ahead, _, rfl⟩, And.left⟩

/-- The end of an exchange counts it, and the chain is not ahead any more. -/
theorem Accounts.counts {session : NodeSession} {message : Accepted}
    (accounts : Accounts ⟨session, .recorded message⟩) :
    Closed ⟨session, .recorded message⟩ (finishP4 session) := by
  have report : (finishP4 session).getMetrics = { session.getMetrics with
      p4Count := session.metrics.p4Count + 1 } := by
    unfold finishP4
    dsimp only
    split <;> rfl
  obtain ⟨score, ledger, events, few, within, -, errors, failures⟩ := accounts.balances
  have chain : session.chain.length = session.metrics.p4Count + 1 := accounts.chain
  have clean : session.metrics.errors = [] := accounts.clean
  constructor
  · rw [report]
    refine ⟨score, ledger, events, few, within, ?_, errors, failures⟩
    dsimp only [NodeSession.getMetrics]
    omega
  · rw [report]
    dsimp only [NodeSession.getMetrics]
    rw [chain, clean]
    exact iff_of_false (by omega) fun ⟨_, _, impossible⟩ => List.cons_ne_nil _ _ impossible.symm

/-- A thread that goes on keeps its accounts. -/
theorem Accounts.step {store store' : DataStore} {ems : EMSCoordinator} {thread : Thread}
    {after : NodeSession} {stage : Option Stage} {stands : Stage}
    (taken : ThreadStep crypto library store ems thread after stage store')
    (accounts : Accounts thread) (goesOn : stage = some stands) : Accounts ⟨after, stands⟩ := by
  cases taken with
  | @accept session after message msg kind passed =>
    obtain ⟨regBl, ts, data, rfl, -⟩ := acceptP4_ok passed
    cases goesOn
    obtain ⟨score, ledger, chain, clean, anomalies, few, below, recent⟩ := accounts
    refine ⟨score, ledger, ?_, clean, anomalies, few, below, recent⟩
    dsimp only [Stage.inProgress] at chain ⊢
    rw [List.length_append, chain]
    rfl
  | reject msg kind raised =>
    rw [loopStage_failP4] at goesOn
    cases goesOn
  | judge session message =>
    cases goesOn
    exact accounts.judge store rfl rfl
  | record session message reading now =>
    cases goesOn
    exact ⟨accounts.score, accounts.ledger, accounts.chain, accounts.clean, accounts.anomalies,
      accounts.few, accounts.below, accounts.recent⟩
  | skip session message =>
    cases goesOn
    exact ⟨accounts.score, accounts.ledger, accounts.chain, accounts.clean, accounts.anomalies,
      accounts.few, accounts.below, accounts.recent⟩
  | @respond session message delivery sent =>
    have trusted := finishP4_loops goesOn
    rw [finishP4_trusted ((finishP4_spec session).2 ▸ trusted)] at goesOn ⊢
    rw [(finishP4_spec session).2, accounts.score] at trusted
    rw [loopStage] at goesOn
    split at goesOn
    · cases goesOn
      exact ⟨accounts.score, accounts.ledger, accounts.chain, accounts.clean, accounts.anomalies,
        few_anomalies accounts.anomalies trusted, accounts.below, accounts.recent⟩
    · cases goesOn
  | respondFails delivery raised =>
    rw [loopStage_failP4] at goesOn
    cases goesOn
  | logout session msg kind nonce resFails => cases goesOn
  | ignore session msg noData noLogout =>
    cases goesOn
    exact accounts
  | disconnect session => cases goesOn

/-- Outside an exchange the chain is not ahead, whatever error there is. -/
theorem Accounts.idle {session : NodeSession} (accounts : Accounts ⟨session, .receiving⟩)
    {after : NodeSession} {errors : List String}
    (report : after.getMetrics = { session.getMetrics with errors := errors })
    (one : errors.length ≤ 1) : Closed ⟨session, .receiving⟩ after := by
  obtain ⟨score, ledger, events, few, within, chain, -, -⟩ := accounts.balances
  constructor
  · rw [report]
    exact ⟨score, ledger, events, few, within, chain, one,
      fun earlier record later split failed => absurd failed (accounts.harmless split)⟩
  · rw [report]
    have level : session.chain.length = session.metrics.p4Count := accounts.chain
    dsimp only [NodeSession.getMetrics, Stage.inProgress]
    rw [level]
    exact iff_of_false (by omega) fun impossible => Nat.zero_ne_one impossible.1

/-- A thread whose loop ends leaves a report that balances. -/
theorem Accounts.ends {store store' : DataStore} {ems : EMSCoordinator} {thread : Thread}
    {after : NodeSession} (taken : ThreadStep crypto library store ems thread after none store')
    (accounts : Accounts thread) : Closed thread after := by
  generalize ended : (none : Option Stage) = stage at taken
  cases taken with
  | accept msg kind passed => cases ended
  | reject msg kind raised => exact accounts.fails _
  | judge session message => cases ended
  | record session message reading now => cases ended
  | skip session message => cases ended
  | respond delivery sent => exact accounts.counts
  | respondFails delivery raised => exact accounts.fails _
  | logout session msg kind nonce resFails =>
    have clean : session.metrics.errors = [] := accounts.clean
    have report : ∃ errors : List String, errors.length ≤ 1 ∧
        (handleP5 crypto library nonce resFails session msg).getMetrics =
          { session.getMetrics with errors := errors } := by
      unfold handleP5
      dsimp only
      split
      · next exception raised =>
        refine ⟨["P5: " ++ library.strOf exception], le_rfl, ?_⟩
        simp [NodeSession.getMetrics, NodeSession.logError, clean]
      · exact ⟨[], Nat.zero_le 1, by simp [NodeSession.getMetrics, clean]⟩
    obtain ⟨texts, one, report⟩ := report
    exact accounts.idle report one
  | ignore session msg noData noLogout => cases ended
  | disconnect session => exact accounts.idle rfl accounts.balances.errors

/-- Every step of the server of the data loops keeps the accounts of its sessions. -/
theorem accounts_step {server after : SmgServer} {event : Event}
    (taken : SmgServer.Step crypto library server event after)
    (accounts : ∀ thread ∈ server.sessions, Accounts thread) :
    ∀ thread ∈ after.sessions, Accounts thread := by
  cases taken with
  | connect server serverId nodeLabel initBl sesId sesKey =>
    intro thread member
    rcases List.mem_append.mp member with early | new
    · exact accounts thread early
    · rw [List.mem_singleton.mp new]
      exact accounts_established serverId nodeLabel initBl sesId sesKey
  | thread taken =>
    intro thread member
    rcases mem_moved.mp member with others | ⟨stands, goesOn, rfl⟩
    · exact accounts thread (mem_before.mpr (.inr others))
    · exact (accounts _ (mem_before.mpr (.inl rfl))).step taken goesOn
  | update server now => exact accounts

end Steps

/-- In every state of every run of the server, with any interleaving of its threads, the report of
a session in its data loop balances, nothing having gone wrong in it but at most two anomalies and
the chain being ahead by the exchange in progress. So does the report that the session leaves
whenever and however its loop ends, and there the chain is ahead exactly by an exchange that was in
progress and failed. -/
theorem reports_balance (config : Server) (crypto : Primitives) (library : Library)
    {events : List (ProcessEvent × SmgProcess)}
    (run : Run (SmgProcess.Step config crypto library) .init events) :
    ∀ process ∈ SmgProcess.init :: events.map Prod.snd, ∀ client ∈ process.clients,
      ∀ thread, client.phase = .exchanging thread →
        Accounts thread ∧ Balances thread.session.getMetrics ∧
          ∀ after store, ThreadStep crypto library process.dataStore process.ems thread after none
            store → Closed thread after := by
  have abstractly : ∀ {shown : List (Event × SmgServer)},
      Run (SmgServer.Step crypto library) .init shown →
      ∀ server ∈ SmgServer.init :: shown.map Prod.snd, ∀ thread ∈ server.sessions, Accounts thread :=
    fun followed => followed.states (fun taken accounts => accounts_step taken accounts)
      (fun _ member => (List.not_mem_nil member).elim)
  refine (shows_simulates config crypto library).transfers abstractly ?_ run shows_init
  intro process server shows accounts client member thread exchanging
  have listed : thread ∈ server.sessions := by
    refine shows.sessions.mem_iff.mpr (List.mem_filterMap.mpr ⟨client, member, ?_⟩)
    rw [Client.thread?, exchanging]
  have kept := accounts thread listed
  exact ⟨kept, kept.balances, fun after store ended => kept.ends ended⟩

/-- A registered node makes an exchange, and its next message fails the chain check: the report
balances before and after, with one exchange, one event and one error. -/
theorem nominal_balances : ∃ (thread : Thread) (after : NodeSession),
    Balances thread.session.getMetrics ∧ thread.session.getMetrics.p4Count = 1 ∧
      Closed thread after ∧ after.getMetrics.trustEventCount = 1 ∧
        after.getMetrics.trustScore = 1 / 2 := by
  obtain ⟨client, session, -, completed, -⟩ := nominal_exchange
  obtain ⟨root, nodeLabel, pending, joined⟩ := joining_run nominalLibrary completed
  obtain ⟨label, prvBl, sesKey, rfl⟩ := (setup_opened plainPrimitives_lawful completed).established
  have parses : nominalLibrary.loads nominalText
      = .ok (.dict [("V_bus", .float (.finite 12))]) := by
    simp only [nominalLibrary, if_true]
  have sesId : nominalDraws.sesId.val.length < 256 ^ 2 := by
    rw [nominalDraws.sesId.property]
    decide
  obtain ⟨accepted, answered, message, reading, received, judged, recorded, responded, continues,
    -⟩ := first_exchange plainPrimitives_lawful nominalLibrary nominalServer.serverId label prvBl
      nominalDraws.sesId.val sesKey (by decide) sesId (by decide) parses
  have exchanged := joined.append <|
    .next (@SmgProcess.Step.advance _ _ _ _ _ _ [0] [] [] 0 1 true _ _ (.exchange received)) <|
    .next (@SmgProcess.Step.advance _ _ _ _ _ _ [0] [] [] 0 1 true _ _ (.exchange judged)) <|
    .next (@SmgProcess.Step.advance _ _ _ _ _ _ [0] [] [] 0 1 true _ _ (.exchange recorded)) <|
    .next (@SmgProcess.Step.advance _ _ _ _ _ _ [0] [] [] 0 1 true _ _ (.exchange responded))
      (.done _)
  obtain ⟨-, balances, closes⟩ := reports_balance nominalServer plainPrimitives nominalLibrary
    exchanged _ (final_mem _ _) ⟨0, .exchanging ⟨answered, .receiving⟩⟩
    (List.mem_singleton_self _) _ rfl
  -- a message without a ciphertext
  have rejected := @ThreadStep.reject plainPrimitives nominalLibrary
    ((DataStore.init maxReadingsPerNode).record label reading 0) .init answered (.key "MSG_cif")
    [("type", .json (.str "dx_msg"))] rfl rfl
  rw [loopStage_failP4] at rejected
  have count : answered.metrics.p4Count = 1 := congrArg Metrics.p4Count continues.metrics
  have events : answered.metrics.trustEvents = [] :=
    congrArg Metrics.trustEvents continues.metrics
  have trust : answered.trustScore = 8 / 10 := continues.trustScore
  refine ⟨_, _, balances, count, closes _ _ rejected, ?_, ?_⟩
  · rw [getMetrics_failP4]
    exact congrArg (List.length · + 1) events
  · rw [getMetrics_failP4]
    dsimp only
    rw [trust]
    norm_num

end Microgrid.SecureNode
