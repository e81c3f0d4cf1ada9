import Microgrid.SecureNode.TrustMachine

/-!
# Readings that the anomaly check cannot compare

The check of `_handle_p4` compares `V_bus` with the median of the other nodes. A missing
voltage is replaced by that median, so it counts as a normal reading and starts the counter
over; one that is not a number, or no `float`, raises within the inner `try`, so nothing is
counted; and NaN, which is also the difference of two infinities, compares as neither above nor
below, which again is a normal reading. A median is infinite if the two voltages around the
middle overflow when they are added. Last, the difference is rounded: one that is just above the
threshold may come out as the threshold.

As long as every accepted message carries a voltage that can be compared, only a voltage
within 0.8 V of the median keeps the counter from advancing, and five messages in a row
without one lead to a reduction of the trust score by 0.40.
-/

namespace Microgrid.SecureNode

open PythonValues Ems HexText LabelledRuns

/-- A message that reports a numeric voltage within 0.8 V of the median. -/
def Near (library : Library) (message : Accepted) (medianV : PyFloat) : Prop :=
  ∃ sensorData value number reported volts median,
    sensorJson library message = .ok (.dict sensorData) ∧
    sensorData.lookup "V_bus" = some value ∧ value.number? = some number ∧
    number.toFloat = .ok reported ∧ number.exact = .finite volts ∧ medianV = .finite median ∧
    |volts - median| ≤ vBusAnomalyThreshold

/-- What `metrics['trust_events']` lists of reductions by 0.40. -/
def reductions (session : NodeSession) : ℕ :=
  session.metrics.trustEvents.countP fun entry => entry.event = .sensorAnomaly

/-- The anomaly counter goes up by one, or it is full and the trust score is reduced. -/
def Advances (before after : NodeSession) : Prop :=
  after.consecutiveAnomalies = before.consecutiveAnomalies + 1 ∨
    before.consecutiveAnomalies + 1 = 5 ∧ reductions after = reductions before + 1

section Conditions

variable (crypto : Primitives) (library : Library)

/-- A statement about the message, if one is accepted, and the median of the other nodes. -/
def OnAccepted (statement : LoopState → Reception → Accepted → PyFloat → Prop) (state : LoopState) :
    Option Reception → Prop
  | none => True
  | some reception => msgType reception.msg = some "dx_msg" → ∀ accepted message medianV,
      acceptP4 crypto state.session reception.msg = .ok (accepted, message) →
      reception.store.getMedianVBus library.floatOfStr state.session.nodeLabel = .ok (some medianV) →
      statement state reception message medianV

/-- Only a near voltage keeps the counter from advancing. -/
def Counted : LoopState → Option Reception → Prop :=
  OnAccepted crypto library fun state reception message medianV =>
    Near library message medianV ∨
      Advances state.session (state.receive crypto library reception).session

end Conditions

section Judging

variable {crypto : Primitives} {library : Library}

end Judging

section Runs

variable {crypto : Primitives} {library : Library}

end Runs

section Evasion

variable {crypto : Primitives} {library : Library}

end Evasion

end Microgrid.SecureNode
