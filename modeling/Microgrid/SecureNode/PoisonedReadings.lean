import Mathlib.Data.List.Chain
import Microgrid.Ems.OrdinaryReadings
import Microgrid.SecureNode.PcClient

/-!
# Readings that stop the energy management

`_handle_p4` records whatever object a node sends. Its only check is the comparison with
the median, which needs voltages of two other nodes; then a voltage that cannot be
compared raises inside the inner `try` and the reading is not recorded (`MayRecord`).
Powers are never looked at. As long as every reading that does get recorded leaves
voltages and powers that can be added up, without NaN, without infinities of both signs and
without leaving a quarter of the range of a `float`, the update and the medians go on; a single
`null` is enough to stop the update for all nodes.
-/

namespace Microgrid.SecureNode

open PythonValues Ems HexText

/-- The cross-node check lets a reading through: fewer than two other nodes have reported
a voltage, or this one is missing or a number that can be compared. -/
def MayRecord (store : DataStore) (nodeLabel : String) (payload : Reading) : Prop :=
  (store.otherVBus nodeLabel).length < 2 ∨ payload.lookup "V_bus" = none ∨
    ∃ value, payload.lookup "V_bus" = some value ∧ value.Convertible

/-- If a payload is recorded, the latest voltages and powers can still be added up. -/
def Harmless (store : DataStore) (nodeLabel : String) (payload : Reading) : Prop :=
  MayRecord store nodeLabel payload → OrdinaryReadings (store.latest.set nodeLabel payload)

section Recording

variable {crypto : Primitives} {library : Library}

/-- Readings with the same voltage and power are equally ordinary. -/
theorem ordinaryReadings_congr {latest : Dict Reading} {nodeLabel : String} {first second : Reading}
    (voltage : first.lookup "V_bus" = second.lookup "V_bus")
    (power : first.lookup "P_bus" = second.lookup "P_bus")
    (ordinary : OrdinaryReadings (latest.set nodeLabel first)) :
    OrdinaryReadings (latest.set nodeLabel second) := by
  have voltages : vBusValues (latest.set nodeLabel second) = vBusValues (latest.set nodeLabel first) :=
    Fields.map_set_congr latest.entries nodeLabel
      (fun reading : Reading => (reading.lookup "V_bus").getD (.float (.finite vNominal)))
      (by rw [voltage])
  have powers : pBusValues (latest.set nodeLabel second) = pBusValues (latest.set nodeLabel first) :=
    Fields.map_set_congr latest.entries nodeLabel
      (fun reading : Reading => (reading.lookup "P_bus").getD (.float (.finite 0)))
      (by rw [power])
  exact ⟨voltages ▸ ordinary.voltages, powers ▸ ordinary.powers⟩

/-- A reading that passes the check has a voltage the check could work with. -/
theorem mayRecord_of_checked {store : DataStore} {nodeLabel : String} {sensorData : Reading}
    {event : Option TrustEvent}
    (checked : checkReading library store nodeLabel sensorData = .ok event) :
    MayRecord store nodeLabel sensorData := by
  obtain ⟨median, computed, checked⟩ := bind_ok checked
  rw [DataStore.getMedianVBus] at computed
  by_cases few : (store.otherVBus nodeLabel).length < 2
  · exact .inl few
  · cases median with
    | none =>
      rw [if_neg few] at computed
      obtain ⟨_, -, computed⟩ := bind_ok computed
      cases computed
    | some medianV =>
      obtain ⟨distance, measured, -⟩ := bind_ok checked
      obtain ⟨number, operand, measured⟩ := bind_ok measured
      obtain ⟨reported, converted, -⟩ := bind_ok measured
      cases found : sensorData.lookup "V_bus" with
      | none => exact .inr (.inl found)
      | some value =>
        rw [found, Option.getD_some, PyValue.operand] at operand
        cases read : value.number? with
        | none => rw [read] at operand; cases operand
        | some same =>
          rw [read] at operand
          rw [Except.ok.inj operand] at read
          exact .inr (.inr ⟨value, found, number, reported, read, converted⟩)

/-- What a recorded reading takes over from the payload, and what the server puts in. -/
theorem recorded_payload {session : NodeSession} {store : DataStore} {message : Accepted}
    {reading : Reading} (judged : (judgeReading library session store message).2 = some reading) :
    ∃ payload, sensorJson library message = .ok (.dict payload) ∧
      MayRecord store session.nodeLabel payload ∧
      reading.lookup "V_bus" = payload.lookup "V_bus" ∧
      reading.lookup "P_bus" = payload.lookup "P_bus" ∧
      TrustScore reading (judgeReading library session store message).1.trustScore := by
  obtain ⟨sensorData, event, read, checked, rfl⟩ := judgeReading_reading judged
  obtain ⟨json, parsed, read⟩ := bind_ok read
  cases json with
  | dict payload =>
    have kept : ∀ field, field ≠ "node" → field ≠ "M_num" →
        sensorData.lookup field = payload.lookup field := by
      intro field notNode notCount
      rw [← Except.ok.inj read, Fields.lookup_set_ne _ notCount, Fields.lookup_set_ne _ notNode]
    have voltage := kept "V_bus" (by decide) (by decide)
    have allowed := mayRecord_of_checked checked
    rw [MayRecord, voltage] at allowed
    refine ⟨payload, parsed, allowed, ?_, ?_, _, _, Fields.lookup_set_self _ _ _, rfl, rfl⟩
    · rw [Fields.lookup_set_ne _ (by decide), voltage]
    · rw [Fields.lookup_set_ne _ (by decide), kept "P_bus" (by decide) (by decide)]
  | _ => cases read

/-- An accepted message leaves the store as it is or records one reading under the label of
the session. -/
theorem handleP4_store {session accepted : NodeSession} {msg : Message} {message : Accepted}
    (received : acceptP4 crypto session msg = .ok (accepted, message)) (store : DataStore)
    (setpoint : Option PyFloat) (now : ℚ) (delivery : Delivery) :
    (handleP4 crypto library session store setpoint now delivery msg).2.1
      = match (judgeReading library accepted store message).2 with
        | none => store
        | some reading => store.record session.nodeLabel reading now := by
  have label : (judgeReading library accepted store message).1.nodeLabel = session.nodeLabel :=
    (judgeReading_keeps accepted store message).1.trans (acceptP4_keeps received).1
  simp only [handleP4, received, label]
  split <;> rfl

end Recording

/-- One `_handle_p4` of some session for a message that passes its chain check, with the
condition on the store before it, the label and the object that the message carries. -/
def Exchange (crypto : Primitives) (library : Library)
    (condition : DataStore → String → Reading → Prop) (store after : DataStore) : Prop :=
  ∃ (session accepted : NodeSession) (msg : Message) (message : Accepted)
    (setpoint : Option PyFloat) (now : ℚ) (delivery : Delivery),
    acceptP4 crypto session msg = .ok (accepted, message) ∧
    (∀ payload, sensorJson library message = .ok (.dict payload) →
      condition store session.nodeLabel payload) ∧
    (handleP4 crypto library session store setpoint now delivery msg).2.1 = after

/-- The latest readings can be added up, and each carries a trust score. -/
structure Sound (store : DataStore) : Prop where
  ordinary : OrdinaryReadings store.latest
  carried : ∀ entry ∈ store.latest.entries, ∃ t, TrustScore entry.2 t

/-- The store the server starts with. -/
theorem sound_init (maxReadings : ℕ) : Sound (DataStore.init maxReadings) :=
  have empty : 4 * (([] : List ℚ).map abs).sum < overflowBound := by simpa using overflowBound_pos
  ⟨⟨ordinary_finite [] empty, ordinary_finite [] empty⟩, nofun⟩

/-- A harmless exchange keeps the store sound. -/
theorem sound_exchange {crypto : Primitives} {library : Library} {store after : DataStore}
    (exchange : Exchange crypto library Harmless store after) (sound : Sound store) : Sound after := by
  obtain ⟨session, accepted, msg, message, setpoint, now, delivery, received, harmless, rfl⟩ := exchange
  have sameLabel : accepted.nodeLabel = session.nodeLabel := (acceptP4_keeps received).1
  rw [handleP4_store received]
  cases judged : (judgeReading library accepted store message).2 with
  | none => exact sound
  | some reading =>
    obtain ⟨payload, parsed, allowed, voltage, power, score⟩ := recorded_payload judged
    rw [sameLabel] at allowed
    constructor
    · refine ordinaryReadings_congr ?_ ?_ (harmless payload parsed allowed)
      · rw [DataStore.lookup_recorded _ _ (by decide), voltage]
      · rw [DataStore.lookup_recorded _ _ (by decide), power]
    · intro entry member
      rcases Fields.mem_set store.latest.distinct member with rfl | ⟨old, -⟩
      · exact ⟨_, score.recorded now⟩
      · exact sound.carried entry old

/-- Over every sequence of accepted messages that are all harmless, the energy management
keeps running. -/
theorem readings_keep_running (crypto : Primitives) (library : Library) (maxReadings : ℕ)
    (stores : List DataStore)
    (run : List.IsChain (Exchange crypto library Harmless) (DataStore.init maxReadings :: stores)) :
    ∀ store ∈ stores, KeepsRunning library.floatOfStr store := by
  have invariant : ∀ store ∈ stores, Sound store :=
    run.cons_induction Sound stores (fun _ _ => sound_exchange) (sound_init maxReadings)
  intro store member
  exact (invariant store member).ordinary.keepsRunning _ (invariant store member).carried

/-- The text of a reading at 12 V. -/
def nominalText : Bytes := utf8 "\x7b\"V_bus\": 12.0\x7d".toList

/-- The parser on the text of that reading. -/
def nominalLibrary : Library where
  loads text := if text = nominalText then .ok (.dict [("V_bus", .float (.finite 12))])
    else .error .value
  floatOfStr _ := .error .value
  strOf _ := ""

/-- A harmless reading is recorded, and the energy management runs on. -/
theorem nominal_keeps_running : ∃ store : DataStore,
    List.IsChain (Exchange plainPrimitives nominalLibrary Harmless)
        [DataStore.init maxReadingsPerNode, store] ∧
      (store.getLatest "node_a").isSome ∧ KeepsRunning nominalLibrary.floatOfStr store := by
  obtain ⟨msg, accepted, message, -, received, carried⟩ :=
    @established_accepts _ plainPrimitives_lawful nominalLibrary "node_a" nominalText (by decide)
  have parses : sensorJson nominalLibrary message = .ok (.dict [("V_bus", .float (.finite 12))]) :=
    carried.trans (by simp only [nominalLibrary, if_true])
  set store := DataStore.init maxReadingsPerNode
  have few : (store.otherVBus accepted.nodeLabel).length < 2 := Nat.zero_lt_two
  have recorded := @handleP4_store _ nominalLibrary _ _ _ _ received store none 0
    ⟨[], none, none, false⟩
  rw [judgeReading_unchecked parses few] at recorded
  set after := (handleP4 plainPrimitives nominalLibrary (established [] "node_a" [] [] []) store none
    0 ⟨[], none, none, false⟩ msg).2.1
  have exchange : Exchange plainPrimitives nominalLibrary Harmless store after := by
    refine ⟨_, accepted, msg, message, none, 0, _, received, fun payload same _ => ?_, rfl⟩
    rw [parses] at same
    rw [← PyValue.dict.inj (Except.ok.inj same)]
    exact ⟨ordinary_finite [12] (by decide +kernel), ordinary_finite [0] (by decide +kernel)⟩
  have run := List.IsChain.cons_cons exchange (.singleton after)
  refine ⟨after, run, ?_, ?_⟩
  · rw [recorded, DataStore.getLatest, DataStore.latest_record]
    exact congrArg Option.isSome (Dict.get?_set_self _ _ _)
  · exact readings_keep_running _ _ maxReadingsPerNode [after] run after List.mem_cons_self

/-- The text of a reading whose voltage is `null`. -/
def nullText : Bytes := utf8 "\x7b\"V_bus\": null\x7d".toList

/-- Whatever the primitives, one accepted reading whose voltage is `null` leaves a store on
which the update raises. -/
theorem null_voltage_stops_ems : (∃ crypto : Primitives, crypto.Lawful) ∧
    ¬∃ (crypto : Primitives) (library : Library), crypto.Lawful ∧ library.loads nullText
        = .ok (.dict [("V_bus", .none)]) ∧
      ∀ stores, List.IsChain (Exchange crypto library fun _ _ _ => True)
          (DataStore.init maxReadingsPerNode :: stores) →
        ∀ store ∈ stores, KeepsRunning library.floatOfStr store := by
  refine ⟨⟨plainPrimitives, plainPrimitives_lawful⟩, ?_⟩
  rintro ⟨crypto, library, lawful, parses, running⟩
  obtain ⟨msg, accepted, message, -, received, carried⟩ :=
    @established_accepts crypto lawful library "node_a" nullText (by decide)
  rw [parses] at carried
  set store := DataStore.init maxReadingsPerNode
  have few : (store.otherVBus accepted.nodeLabel).length < 2 := Nat.zero_lt_two
  have recorded := @handleP4_store _ library _ _ _ _ received store none 0 ⟨[], none, none, false⟩
  rw [judgeReading_unchecked carried few] at recorded
  set after := (handleP4 crypto library (established [] "node_a" [] [] []) store none 0
    ⟨[], none, none, false⟩ msg).2.1
  have exchange : Exchange crypto library (fun _ _ _ => True) store after :=
    ⟨_, accepted, msg, message, none, 0, _, received, fun _ _ => trivial, rfl⟩
  have goesOn := (running [after] (.cons_cons exchange (.singleton after)) after
    List.mem_cons_self).update_returns .init 0
  have values : vBusValues after.latest = [.none] := by
    rw [recorded]
    rfl
  have listed : PyValue.none ∈ vBusValues after.latest := by
    rw [values]
    exact List.mem_cons_self
  exact update_raises (.inl listed) rfl .init 0 goesOn

end Microgrid.SecureNode
