import Mathlib.Data.List.Count
import Microgrid.SecureNode.DataLoop
import Microgrid.SecureNode.PoisonedReadings

/-!
# The trust score of a session

What the trust score can do in the data loop of one session, whatever is received and
however the sends end. It only falls: by 0.30 for a security error, which is the last event
of the session, or by 0.40 for five anomalies without a normal reading between them. The
loop receives only while the score is at least 0.30, with fewer than five anomalies counted.

The step lemma carries `Tracked`, which says where the score and the counter come from; the
anomalies behind a drop are then found by the penalty library.
-/

namespace Microgrid.SecureNode

open PythonValues Ems LabelledRuns PenaltyWindows

/-- The trust score after calls of `_update_trust`. -/
def scoreAfter (session : NodeSession) (calls : List TrustEvent) : ℚ :=
  (calls.foldl NodeSession.updateTrust session).trustScore

/-- A drop for a security error, after which the session is inactive. -/
structure ErrorDrop (start : NodeSession) (state : LoopState) (earlier : List TrustEvent)
    (event : TrustEvent) (later : List TrustEvent) : Prop where
  kind : event = .securityError
  amount : scoreAfter start (earlier ++ [event]) = max 0 (scoreAfter start earlier - 30 / 100)
  last : later = []
  inactive : state.session.sessionActive = false

/-- A drop for five anomalies with no normal reading and no such drop between them. -/
structure AnomalyDrop (start : NodeSession) (earlier : List TrustEvent) (event : TrustEvent) :
    Prop where
  kind : event = .sensorAnomaly
  amount : scoreAfter start (earlier ++ [event]) = max 0 (scoreAfter start earlier - 40 / 100)
  streak : ∃ before streak, earlier = before ++ streak ∧ .sensorOk ∉ streak ∧
    (streak ++ [event]).count .sensorAnomaly = 5 ∧
    ∀ inner rest, streak = inner ++ .sensorAnomaly :: rest →
      scoreAfter start (before ++ inner ++ [.sensorAnomaly]) = scoreAfter start (before ++ inner)

/-- The trust score and the anomaly counter in a state of the loop. -/
structure TrustMachine (start : NodeSession) (state : LoopState) : Prop where
  score : state.session.trustScore = scoreAfter start state.calls
  range : 0 ≤ state.session.trustScore ∧ state.session.trustScore ≤ 8 / 10
  drops : ∀ earlier event later, state.calls = earlier ++ event :: later →
    scoreAfter start (earlier ++ [event]) = scoreAfter start earlier ∨
      ErrorDrop start state earlier event later ∨ AnomalyDrop start earlier event
  receiving : state.receiving = true →
    30 / 100 ≤ state.session.trustScore ∧ state.session.consecutiveAnomalies < 5

/-- Where the score and the counter of a state come from. -/
structure Tracked (start : NodeSession) (state : LoopState) : Prop where
  standing : state.session.standing
    = start.standing.after trustRules (state.calls.map TrustEvent.report)
  errorLast : .securityError ∉ state.calls.dropLast
  inactive : .securityError ∈ state.calls → state.session.sessionActive = false
  active : state.receiving = true → state.session.sessionActive = true
  trusted : state.receiving = true → trustDropThreshold ≤ state.session.trustScore

variable {crypto : Primitives} {library : Library} {start : NodeSession}

/-- A session of which no more is known than that it is established. -/
theorem tracked_start (serverId : Bytes) (nodeLabel : String) (initBl sesId sesKey : Bytes) :
    let session := established serverId nodeLabel initBl sesId sesKey
    Tracked session (.start session) := by
  refine ⟨rfl, List.not_mem_nil, fun none => absurd none List.not_mem_nil, fun _ => rfl, fun _ => ?_⟩
  exact (by norm_num [trustDropThreshold] : trustDropThreshold ≤ (8 / 10 : ℚ))

/-- While the loop receives there has been no security error. -/
theorem Tracked.clean {state : LoopState} (tracked : Tracked start state)
    (waits : state.receiving = true) : .securityError ∉ state.calls := by
  intro failed
  have inactive := tracked.inactive failed
  rw [tracked.active waits] at inactive
  exact Bool.false_ne_true inactive.symm

/-- A turn of the loop keeps track. -/
theorem Tracked.receive {state : LoopState} (tracked : Tracked start state)
    (waits : state.receiving = true) (reception : Reception) :
    Tracked start (state.receive crypto library reception) := by
  have clean := tracked.clean waits
  unfold LoopState.receive
  split
  · have handled := @handleP4_handled crypto library state.session reception
    obtain ⟨errorLast, inactive⟩ := handled.error_last
    refine ⟨?_, ?_, ?_, fun active => active, handled.trusted⟩
    · rw [handled.standing, tracked.standing, List.map_append, after_append]
    · dsimp only
      rcases List.eq_nil_or_concat (p4Calls crypto library state.session reception) with
        none | ⟨calls, last, some⟩
      · rw [none, List.append_nil]
        exact tracked.errorLast
      · rw [some, List.concat_eq_append] at errorLast ⊢
        rw [List.dropLast_concat] at errorLast
        rw [← List.append_assoc, List.dropLast_concat, List.mem_append]
        rintro (early | late)
        · exact clean early
        · exact errorLast late
    · intro failed
      rcases List.mem_append.mp failed with early | late
      · exact absurd early clean
      · exact inactive late
  · split
    · refine ⟨?_, tracked.errorLast, fun failed => absurd failed clean,
        fun active => absurd active Bool.false_ne_true, fun active => absurd active Bool.false_ne_true⟩
      exact (standing_handleP5 _ _ _ _).trans tracked.standing
    · exact ⟨tracked.standing, tracked.errorLast, tracked.inactive, fun active => active,
        fun _ => tracked.trusted waits⟩

/-- A step of the loop keeps track. -/
theorem Tracked.step {before after : LoopState} {event : Option Reception}
    (taken : LoopStep crypto library before event after) (tracked : Tracked start before) :
    Tracked start after := by
  cases taken with
  | receive reception waits => exact tracked.receive waits reception
  | stop waits =>
    exact ⟨tracked.standing, tracked.errorLast, tracked.inactive,
      fun active => absurd active Bool.false_ne_true, fun active => absurd active Bool.false_ne_true⟩

/-- The score after calls, by the rules. -/
theorem scoreAfter_eq (session : NodeSession) (calls : List TrustEvent) :
    scoreAfter session calls
      = (session.standing.after trustRules (calls.map TrustEvent.report)).score :=
  congrArg Standing.score (standing_foldl session calls)

/-- The events are told apart by what they report. -/
theorem report_injective : Function.Injective TrustEvent.report := by
  intro first second same
  cases first <;> cases second <;> first | rfl | cases same

/-- Fewer than five anomalies are counted. -/
theorem counter_lt (clean : start.consecutiveAnomalies = 0) (calls : List TrustEvent) :
    (start.standing.after trustRules (calls.map TrustEvent.report)).count < trustRules.window := by
  have fresh : start.standing.count = 0 := clean
  refine count_lt (by decide) ?_ _
  rw [fresh]
  decide

/-- Under the trust rules a score never rises, and never becomes negative. -/
theorem standing_bounds (nonneg : 0 ≤ start.trustScore) (calls : List TrustEvent) :
    0 ≤ (start.standing.after trustRules (calls.map TrustEvent.report)).score ∧
      (start.standing.after trustRules (calls.map TrustEvent.report)).score ≤ start.trustScore :=
  @after_bounds ℚ _ _ trustRules start.standing _ (by norm_num [trustRules])
    (by norm_num [trustRules]) nonneg _

/-- A call that lowers the score is a security error or the last of five anomalies. -/
theorem scoreAfter_concat (clean : start.consecutiveAnomalies = 0) (earlier : List TrustEvent)
    (event : TrustEvent) :
    scoreAfter start (earlier ++ [event]) = scoreAfter start earlier ∨
      (event = .securityError ∧ scoreAfter start (earlier ++ [event])
        = max 0 (scoreAfter start earlier - 30 / 100)) ∨
      AnomalyDrop start earlier event := by
  have moved : scoreAfter start (earlier ++ [event])
      = ((start.standing.after trustRules (earlier.map TrustEvent.report)).report trustRules
        event.report).score := by
    rw [scoreAfter_eq, List.map_append, List.map_singleton, after_concat]
  cases event with
  | securityError => exact .inr (.inl ⟨rfl, moved.trans (by rw [scoreAfter_eq]; rfl)⟩)
  | sensorOk => exact .inl (moved.trans (scoreAfter_eq start earlier).symm)
  | sensorAnomaly =>
    rw [TrustEvent.report, Standing.report] at moved
    split at moved
    · next enough =>
      refine .inr (.inr ⟨rfl, moved.trans (by rw [scoreAfter_eq]; rfl), ?_⟩)
      have below := counter_lt clean earlier
      obtain ⟨reported, counted, split, found, five⟩ :=
        @penalty_streak ℚ _ _ trustRules start.standing clean _ enough below
      obtain ⟨before, streak, rfl, rfl, rfl⟩ := List.map_eq_append_iff.mp split
      refine ⟨before, streak, rfl, fun normal => ?_, ?_, fun inner rest inside => ?_⟩
      · exact found.unbroken (List.mem_map.mpr ⟨_, normal, rfl⟩)
      · rw [← List.count_map_of_injective _ _ report_injective, List.map_append]
        exact five
      · rw [scoreAfter_eq, scoreAfter_eq]
        simp only [List.map_append, List.map_singleton]
        refine @Streak.unpenalized ℚ _ _ trustRules start.standing _ _ _
          (rest.map TrustEvent.report) found ?_
        rw [inside, List.map_append, List.map_cons]
        rfl
    · exact .inl (moved.trans (scoreAfter_eq start earlier).symm)

/-- In every state fewer than five anomalies are counted. -/
theorem Tracked.below (clean : start.consecutiveAnomalies = 0) {state : LoopState}
    (tracked : Tracked start state) : state.session.consecutiveAnomalies < 5 := by
  have below := counter_lt clean state.calls
  rwa [← tracked.standing] at below

/-- What is tracked of a session that started with P3 is what its trust score can do. -/
theorem Tracked.machine (clean : start.consecutiveAnomalies = 0) (initial : start.trustScore = 8 / 10)
    {state : LoopState} (tracked : Tracked start state) : TrustMachine start state := by
  have score : state.session.trustScore = scoreAfter start state.calls :=
    (congrArg Standing.score tracked.standing).trans (scoreAfter_eq start state.calls).symm
  have count := tracked.below clean
  have nonneg : 0 ≤ start.trustScore := by
    rw [initial]
    norm_num
  have range := standing_bounds nonneg state.calls
  rw [← tracked.standing] at range
  refine ⟨score, ⟨range.1, range.2.trans initial.le⟩, ?_, fun waits => ⟨tracked.trusted waits, count⟩⟩
  intro earlier event later split
  rcases scoreAfter_concat clean earlier event with same | ⟨rfl, amount⟩ | drop
  · exact .inl same
  · refine .inr (.inl ⟨rfl, amount, ?_, tracked.inactive ?_⟩)
    · rcases List.eq_nil_or_concat later with none | ⟨calls, last, some⟩
      · exact none
      · refine absurd ?_ tracked.errorLast
        rw [split, some, List.concat_eq_append, ← List.cons_append, ← List.append_assoc,
          List.dropLast_concat]
        exact List.mem_append_right _ List.mem_cons_self
    · rw [split]
      exact List.mem_append_right _ List.mem_cons_self
  · exact .inr (.inr drop)

/-- A step of the loop adds calls of `_update_trust` to those made before. -/
theorem LoopStep.calls {before after : LoopState} {event : Option Reception}
    (taken : LoopStep crypto library before event after) : before.calls <+: after.calls := by
  cases taken with
  | receive reception waits =>
    unfold LoopState.receive
    split
    · exact List.prefix_append _ _
    · split <;> exact List.prefix_rfl
  | stop waits => exact List.prefix_rfl

/-- In the data loop of a session that completed P3, for whatever is received and however
the sends end: the trust score never rises and stays between 0 and 0.8, it drops only by
0.30 for a security error that ends the session or by 0.40 for five anomalies, and while
the loop receives it is at least 0.30 and fewer than five anomalies are counted. -/
theorem trust_machine (crypto : Primitives) (library : Library) (serverId : Bytes)
    (nodeLabel : String) (initBl sesId sesKey : Bytes) {events : List (Option Reception × LoopState)}
    (run : Run (LoopStep crypto library)
      (.start (established serverId nodeLabel initBl sesId sesKey)) events) :
    let session := established serverId nodeLabel initBl sesId sesKey
    (∀ state ∈ .start session :: events.map Prod.snd, TrustMachine session state) ∧
      (LoopState.start session :: events.map Prod.snd).IsChain fun earlier later =>
        later.session.trustScore ≤ earlier.session.trustScore ∧ earlier.calls <+: later.calls := by
  intro session
  have initial := tracked_start serverId nodeLabel initBl sesId sesKey
  have tracked := @Run.states _ _ _ (Tracked session) Tracked.step _ _ run initial
  refine ⟨fun state member => (tracked state member).machine rfl rfl, ?_⟩
  refine @Run.chain _ _ _ (Tracked session) _ Tracked.step ?_ _ _ run initial
  intro before event after taken tracked
  refine ⟨?_, taken.calls⟩
  obtain ⟨more, grown⟩ := taken.calls
  have earlier := tracked.standing
  have later := (tracked.step taken).standing
  rw [← grown, List.map_append, after_append, ← earlier] at later
  have nonneg := (tracked.machine rfl rfl).range.1
  exact (congrArg Standing.score later).trans_le (standing_bounds nonneg more).2

/-- A session whose first message lacks its ciphertext. -/
theorem trust_machine_rejected :
    let session := established [] "node1" [] [] []
    let reception : Reception :=
      ⟨[("type", .json (.str "dx_msg"))], .init 10, none, 0, ⟨[], none, none, false⟩⟩
    TrustMachine session
      ((LoopState.start session).receive plainPrimitives nominalLibrary reception) := by
  intro session reception
  have run : Run (LoopStep plainPrimitives nominalLibrary) (.start session) _ :=
    .next (.receive (.start session) reception rfl) (.done _)
  exact (trust_machine plainPrimitives nominalLibrary [] "node1" [] [] [] run).1 _
    (List.mem_cons_of_mem _ List.mem_cons_self)

end Microgrid.SecureNode
