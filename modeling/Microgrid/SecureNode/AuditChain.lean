import Mathlib.Data.List.Chain
import Microgrid.SecureNode.DataLoop
import Microgrid.SecureNode.PoisonedReadings

/-!
# The audit chain of a session

Every accepted message adds a record to the audit chain. Its index counts the records, but
its message number is what the peer put into the message: `_handle_p4` sets
`_M_num_expected` and never compares it with anything. So the numbers of a chain are
consecutive exactly if the accepted messages were numbered that way to begin with, and a
peer that holds the session key can repeat a number or skip some.
-/

namespace Microgrid.SecureNode

open PythonValues Ems HexText LabelledRuns

/-- The indices of the records are 1, 2, 3 and so on. -/
def Indexed (chain : List ChainRecord) : Prop :=
  chain.map ChainRecord.index = List.range' 1 chain.length

/-- Each record has the message number after that of the record before it. -/
def Numbered (chain : List ChainRecord) : Prop :=
  chain.IsChain fun record next => next.mNum = record.mNum + 1

/-- An accepted message other than the first carries the number that the session expects. -/
def InOrder (crypto : Primitives) (state : LoopState) : Option Reception → Prop
  | none => True
  | some reception => msgType reception.msg = some "dx_msg" → ∀ accepted message,
      acceptP4 crypto state.session reception.msg = .ok (accepted, message) →
      state.session.chain = [] ∨ message.mNum = state.session.mNumExpected

/-- The chain and the number that is expected next, as far as the server keeps them itself. -/
structure Audited (session : NodeSession) : Prop where
  indexed : Indexed session.chain
  expected : ∀ last ∈ session.chain.getLast?, session.mNumExpected = last.mNum + 1

variable {crypto : Primitives} {library : Library}

/-- The check of a reading leaves the chain and the expected number alone. -/
theorem judgeReading_chain (session : NodeSession) (store : DataStore) (message : Accepted) :
    (judgeReading library session store message).1.chain = session.chain ∧
      (judgeReading library session store message).1.mNumExpected = session.mNumExpected := by
  obtain ⟨trustScore, anomalies, metrics, shape⟩ := judgeReading_shape session store message
  rw [shape]
  constructor <;> rfl

/-- Neither end of an exchange touches the chain or the expected number. -/
theorem ended_chain (session : NodeSession) (exception : PyException) :
    ((failP4 library session exception).chain = session.chain ∧
      (failP4 library session exception).mNumExpected = session.mNumExpected) ∧
    (finishP4 session).chain = session.chain ∧
      (finishP4 session).mNumExpected = session.mNumExpected := by
  unfold failP4 finishP4
  dsimp only
  constructor
  · split <;> exact ⟨rfl, rfl⟩
  · split <;> exact ⟨rfl, rfl⟩

/-- `_handle_p4` adds one record for an accepted message and no other. -/
theorem Handled.chain {session after : NodeSession} {reception : Reception} {calls : List TrustEvent}
    (handled : Handled crypto library session reception after calls) :
    ((∃ exception, acceptP4 crypto session reception.msg = .error exception) ∧
        after.chain = session.chain ∧ after.mNumExpected = session.mNumExpected) ∨
      ∃ accepted message ts regBl, acceptP4 crypto session reception.msg = .ok (accepted, message) ∧
        after.chain = session.chain ++
          [⟨session.chain.length + 1, message.mNum, ts, regBl, session.nodeLabel⟩] ∧
        after.mNumExpected = message.mNum + 1 := by
  have judged : ∀ {accepted : NodeSession} {message : Accepted},
      acceptP4 crypto session reception.msg = .ok (accepted, message) → ∃ ts regBl,
        (judgeReading library accepted reception.store message).1.chain = session.chain ++
          [⟨session.chain.length + 1, message.mNum, ts, regBl, session.nodeLabel⟩] ∧
        (judgeReading library accepted reception.store message).1.mNumExpected
          = message.mNum + 1 := by
    intro accepted message passed
    obtain ⟨chain, expected⟩ := @judgeReading_chain library accepted reception.store message
    obtain ⟨regBl, ts, data, rfl, -⟩ := acceptP4_ok passed
    exact ⟨ts, bytesHex regBl, chain, expected⟩
  cases handled with
  | rejected raised => exact .inl ⟨⟨_, raised⟩, (ended_chain session _).1⟩
  | answered passed =>
    obtain ⟨ts, regBl, chain, expected⟩ := judged passed
    obtain ⟨-, sameChain, sameExpected⟩ := @ended_chain library _ .type
    exact .inr ⟨_, _, ts, regBl, passed, sameChain.trans chain, sameExpected.trans expected⟩
  | unanswered exception passed =>
    obtain ⟨ts, regBl, chain, expected⟩ := judged passed
    obtain ⟨⟨sameChain, sameExpected⟩, -⟩ := @ended_chain library _ exception
    exact .inr ⟨_, _, ts, regBl, passed, sameChain.trans chain, sameExpected.trans expected⟩

/-- A step that adds no record, or one that adds the record of an accepted message. -/
theorem LoopStep.chain {before after : LoopState} {event : Option Reception}
    (taken : LoopStep crypto library before event after) :
    (InOrder crypto before event ∧ after.session.chain = before.session.chain ∧
        after.session.mNumExpected = before.session.mNumExpected) ∨
      ∃ mNum ts regBl, (InOrder crypto before event ↔
          before.session.chain = [] ∨ mNum = before.session.mNumExpected) ∧
        after.session.chain = before.session.chain ++
          [⟨before.session.chain.length + 1, mNum, ts, regBl, before.session.nodeLabel⟩] ∧
        after.session.mNumExpected = mNum + 1 := by
  cases taken with
  | stop waits => exact .inl ⟨trivial, rfl, rfl⟩
  | receive reception waits =>
    by_cases kind : msgType reception.msg = some "dx_msg"
    · rcases (@receive_handled crypto library before reception kind).chain with
        ⟨⟨exception, raised⟩, same⟩ | ⟨accepted, message, ts, regBl, passed, chain, expected⟩
      · refine .inl ⟨fun _ accepted message passed => ?_, same⟩
        rw [raised] at passed
        cases passed
      · refine .inr ⟨message.mNum, ts, regBl, ⟨fun inOrder => inOrder kind _ _ passed, ?_⟩, chain,
          expected⟩
        intro inOrder _ other again same
        rw [passed] at same
        rwa [← (Prod.mk.inj (Except.ok.inj same)).2]
    · refine .inl ⟨fun data => absurd data kind, ?_⟩
      rw [LoopState.receive, if_neg kind]
      split
      · unfold handleP5
        dsimp only
        split <;> exact ⟨rfl, rfl⟩
      · exact ⟨rfl, rfl⟩

/-- A step keeps the indices right, and the expected number that of the next record. -/
theorem Audited.step {before after : LoopState} {event : Option Reception}
    (taken : LoopStep crypto library before event after) (audited : Audited before.session) :
    Audited after.session := by
  rcases taken.chain with ⟨-, chain, expected⟩ | ⟨mNum, ts, regBl, -, chain, expected⟩
  · exact ⟨chain ▸ audited.indexed,
      fun last member => expected ▸ audited.expected last (chain ▸ member)⟩
  · constructor
    · rw [Indexed, chain, List.map_append, audited.indexed, List.length_append, List.length_singleton,
        List.range'_concat, Nat.one_mul, Nat.add_comm 1]
      rfl
    · intro last member
      rw [chain, List.getLast?_concat] at member
      rw [← Option.some.inj member]
      exact expected

/-- With consecutive numbers so far, a step keeps them so exactly if it is in order. -/
theorem numbered_step {before after : LoopState} {event : Option Reception}
    (taken : LoopStep crypto library before event after) (audited : Audited before.session)
    (numbered : Numbered before.session.chain) :
    Numbered after.session.chain ↔ InOrder crypto before event := by
  rcases taken.chain with ⟨inOrder, chain, -⟩ | ⟨mNum, ts, regBl, inOrder, chain, -⟩
  · rw [chain]
    exact ⟨fun _ => inOrder, fun _ => numbered⟩
  · rw [chain, inOrder, Numbered, List.isChain_append]
    constructor
    · rintro ⟨-, -, linked⟩
      rcases List.eq_nil_or_concat before.session.chain with none | ⟨records, last, some⟩
      · exact .inl none
      · have listed : last ∈ before.session.chain.getLast? := by
          rw [some, List.concat_eq_append, List.getLast?_concat]
          exact rfl
        rw [audited.expected last listed]
        exact .inr (linked last listed _ rfl)
    · intro next
      refine ⟨numbered, .singleton _, fun last listed record same => ?_⟩
      obtain rfl := Option.some.inj same
      rcases next with none | next
      · rw [none] at listed
        cases listed
      · exact next.trans (audited.expected last listed)

/-- In the audit chain of every session the indices are 1, 2, 3 and so on. The message
numbers are consecutive in all states of a run exactly if every accepted message but the
first carries the number that was expected. -/
theorem audit_chain (crypto : Primitives) (library : Library) (serverId : Bytes)
    (nodeLabel : String) (initBl sesId sesKey : Bytes) {events : List (Option Reception × LoopState)}
    (run : Run (LoopStep crypto library)
      (.start (established serverId nodeLabel initBl sesId sesKey)) events) :
    (∀ entry ∈ events, Indexed entry.2.session.chain) ∧
      ((∀ entry ∈ events, Numbered entry.2.session.chain) ↔
        Along (InOrder crypto) (.start (established serverId nodeLabel initBl sesId sesKey))
          events) := by
  have initial : Audited (LoopState.start
      (established serverId nodeLabel initBl sesId sesKey)).session := by
    refine ⟨rfl, fun last none => ?_⟩
    cases none
  constructor
  · intro entry member
    have states := @Run.states _ _ _ (fun state => Audited state.session) Audited.step _ _ run initial
    exact (states entry.2 (List.mem_cons_of_mem _ (List.mem_map_of_mem member))).indexed
  · exact @Run.states_iff _ _ _ (InOrder crypto) (fun state => Audited state.session)
      (fun state => Numbered state.session.chain) Audited.step numbered_step _ _ run initial .nil

/-- A session that can go on accepts a message under any number, which then is the number of
the last record. -/
theorem exists_record (lawful : crypto.Lawful) {state : LoopState} (ready : Ready state)
    (trusted : trustDropThreshold ≤ state.session.trustScore) {mNum : ℕ}
    (count : mNum + 1 < 256 ^ 4) : ∃ reception after,
      LoopStep crypto nominalLibrary state (some reception) after ∧ Ready after ∧
      after.session.trustScore = state.session.trustScore ∧
      after.session.chain.map ChainRecord.mNum
        = state.session.chain.map ChainRecord.mNum ++ [mNum + 1] := by
  have short : nominalText.length ≤ 65000 := by decide
  set store := DataStore.init maxReadingsPerNode
  obtain ⟨reception, accepted, message, -, -, passed, carried, number, turn⟩ :=
    exists_turn lawful nominalLibrary store ready short count
  have parses : nominalLibrary.loads nominalText = .ok (.dict [("V_bus", .float (.finite 12))]) := by
    simp only [nominalLibrary, if_true]
  have few : (store.otherVBus accepted.nodeLabel).length < 2 := Nat.zero_lt_two
  have judged := judgeReading_unchecked (carried.trans parses) few
  have trust := (acceptP4_keeps passed).2.1
  obtain ⟨finished, goesOn⟩ := turn accepted (by rw [judged]) (by rwa [trust])
  refine ⟨reception, _, .receive state reception ready.receiving, goesOn, ?_, ?_⟩
  · rw [finished, (finishP4_spec accepted).2, trust]
  · obtain ⟨regBl, ts, data, shape, -⟩ := acceptP4_ok passed
    rw [finished, (@ended_chain nominalLibrary accepted .type).2.1, shape, List.map_append,
      List.map_singleton, number]

/-- A session accepts two messages under any two numbers. -/
theorem two_records (lawful : crypto.Lawful) {first second : ℕ} (firstFits : first + 1 < 256 ^ 4)
    (secondFits : second + 1 < 256 ^ 4) : ∃ events,
      Run (LoopStep crypto nominalLibrary) (.start (established [] "node_a" [] [] [])) events ∧
      ∃ entry ∈ events, entry.2.session.chain.map ChainRecord.mNum = [first + 1, second + 1] := by
  have none : ([] : Bytes).length < 256 ^ 2 := by decide
  have ready : Ready (.start (established [] "node_a" [] [] [])) := ⟨rfl, rfl, none, none⟩
  have trusted : trustDropThreshold ≤ (8 / 10 : ℚ) := by norm_num [trustDropThreshold]
  obtain ⟨_, middle, earlier, goesOn, kept, one⟩ := exists_record lawful ready trusted firstFits
  obtain ⟨_, last, later, -, -, two⟩ := exists_record lawful goesOn (kept ▸ trusted) secondFits
  refine ⟨_, .next earlier (.next later (.done last)), _, List.mem_cons_of_mem _ List.mem_cons_self, ?_⟩
  rw [two, one]
  rfl

/-- A session that accepted two messages. -/
theorem audit_chain_two : ∃ events,
    Run (LoopStep plainPrimitives nominalLibrary) (.start (established [] "node_a" [] [] [])) events ∧
      (∃ entry ∈ events, entry.2.session.chain.length = 2) ∧
      (∀ entry ∈ events, Indexed entry.2.session.chain) ∧
      ((∀ entry ∈ events, Numbered entry.2.session.chain) ↔
        Along (InOrder plainPrimitives) (.start (established [] "node_a" [] [] [])) events) := by
  obtain ⟨events, run, entry, member, numbers⟩ :=
    two_records plainPrimitives_lawful (by norm_num : 0 + 1 < 256 ^ 4) (by norm_num : 1 + 1 < 256 ^ 4)
  refine ⟨events, run, ⟨entry, member, ?_⟩, audit_chain plainPrimitives nominalLibrary [] "node_a" []
    [] [] run⟩
  rw [← List.length_map ChainRecord.mNum, numbers]
  rfl

/-- Whatever the primitives, a peer that holds the session key gets a message number into the
chain a second time. -/
theorem repeated_number : (∃ crypto : Primitives, crypto.Lawful) ∧
    ¬∃ crypto : Primitives, crypto.Lawful ∧ ∀ library serverId nodeLabel initBl sesId sesKey events,
      Run (LoopStep crypto library)
        (.start (established serverId nodeLabel initBl sesId sesKey)) events →
      ∀ entry ∈ events, Indexed entry.2.session.chain ∧ Numbered entry.2.session.chain := by
  refine ⟨⟨plainPrimitives, plainPrimitives_lawful⟩, ?_⟩
  rintro ⟨crypto, lawful, consecutive⟩
  have first : 0 + 1 < 256 ^ 4 := by norm_num
  obtain ⟨events, run, entry, member, numbers⟩ := two_records lawful first first
  have numbered := (consecutive _ _ _ _ _ _ events run entry member).2
  have chain : (entry.2.session.chain.map ChainRecord.mNum).IsChain fun number next =>
      next = number + 1 := (List.isChain_map _).mpr numbered
  rw [numbers, List.isChain_pair] at chain
  exact absurd chain (by decide)

end Microgrid.SecureNode
