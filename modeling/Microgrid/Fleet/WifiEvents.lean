import Mathlib.Data.List.Induction
import Microgrid.Fleet.WifiStation

/-!
# Connecting to the access point

The event loop calls `event_handler` for what the WiFi driver and the IP stack report, while
`wifi_station_connect` starts the driver and waits for one of two bits. Events can arrive before
the wait begins. Ten disconnections in a row are answered by another attempt; the next one sets
the failure bit, and nothing but a new address clears the count. The bits are never cleared, so
the first of them that the waiting task finds decides what it returns.
-/

namespace Microgrid.WifiStation

open ProvisionServerRef

/-- `WIFI_MAX_RETRY`. -/
def wifiMaxRetry : ℕ := 10

/-- The events, as far as the handler tells them apart. -/
inductive WifiEvent where
  | staStart
  | staDisconnected
  | staGotIp
  | other
deriving DecidableEq

/-- An event is delivered to the handler, or `wifi_station_connect` gets to
`xEventGroupWaitBits`. -/
inductive Happening where
  | delivered (event : WifiEvent)
  | waits
deriving DecidableEq

/-- `s_retry_count`, the two bits of the event group, how often `esp_wifi_connect` was called,
and where `wifi_station_connect` stands. -/
structure Station where
  retryCount : ℕ := 0
  connectedBit : Bool := false
  failBit : Bool := false
  connects : ℕ := 0
  waiting : Bool := false
  returned : Option Bool := none

/-- `event_handler`. -/
def eventHandler (station : Station) : WifiEvent → Station
  | .staStart => { station with connects := station.connects + 1 }
  | .staDisconnected =>
    if station.retryCount < wifiMaxRetry then
      { station with connects := station.connects + 1, retryCount := station.retryCount + 1 }
    else { station with failBit := true }
  | .staGotIp => { station with retryCount := 0, connectedBit := true }
  | .other => station

/-- The waiting task goes on once a bit is set, with the bits as they are then. -/
def Station.wake (station : Station) : Station :=
  if station.waiting && station.returned.isNone && (station.connectedBit || station.failBit) then
    { station with returned := some station.connectedBit }
  else station

/-- One thing after the other. -/
def Station.step (station : Station) : Happening → Station
  | .delivered event => (eventHandler station event).wake
  | .waits => { station with waiting := true }.wake

/-- The station after all of it. -/
def stationAfter (happenings : List Happening) : Station := happenings.foldl Station.step {}

theorem stationAfter_concat (happenings : List Happening) (last : Happening) :
    stationAfter (happenings ++ [last]) = (stationAfter happenings).step last :=
  List.foldl_concat ..

/-- `wifi_station_connect`: what it returns, if it does. -/
def wifiStationReturns (nvs : NvsImage) (happenings : List Happening) : Option Bool :=
  match wifiStationConnect nvs with
  | none => some false
  | some _ => (stationAfter happenings).returned

/-! ### What the events say -/

/-- The events that were delivered. -/
def eventsOf (happenings : List Happening) : List WifiEvent :=
  happenings.filterMap fun happening =>
    match happening with
    | .delivered event => some event
    | .waits => none

/-- The number of disconnections since the last address. -/
def sinceIp (events : List WifiEvent) : ℕ :=
  (events.reverse.takeWhile (· ≠ .staGotIp)).count .staDisconnected

/-- There was a disconnection after ten others in a row. -/
def GaveUp (events : List WifiEvent) : Prop :=
  ∃ earlier later, events = earlier ++ .staDisconnected :: later ∧ wifiMaxRetry ≤ sinceIp earlier

/-- The task waits, and has something to find. -/
def Settled (happenings : List Happening) : Prop :=
  .waits ∈ happenings ∧ (.staGotIp ∈ eventsOf happenings ∨ GaveUp (eventsOf happenings))

/-- It is settled for the first time with this result. -/
def SettlesWith (happenings : List Happening) (result : Bool) : Prop :=
  ∃ earlier moment later, happenings = earlier ++ moment :: later ∧ ¬Settled earlier ∧
    Settled (earlier ++ [moment]) ∧
    result = decide (.staGotIp ∈ eventsOf (earlier ++ [moment]))

theorem sinceIp_concat (events : List WifiEvent) (last : WifiEvent) :
    sinceIp (events ++ [last]) =
      if last = .staGotIp then 0
      else if last = .staDisconnected then sinceIp events + 1 else sinceIp events := by
  cases last <;> simp [sinceIp]

/-- A list that ends in one more entry, cut somewhere. -/
theorem concat_eq_append_cons {α : Type} {list earlier later : List α} {last entry : α}
    (same : list ++ [last] = earlier ++ entry :: later) :
    (∃ rest, list = earlier ++ entry :: rest) ∨ list = earlier ∧ last = entry := by
  rcases List.eq_nil_or_concat later with rfl | ⟨rest, final, rfl⟩
  · obtain ⟨front, ends⟩ := List.append_inj' same rfl
    exact .inr ⟨front, List.head_eq_of_cons_eq ends⟩
  · rw [List.concat_eq_append, ← List.cons_append, ← List.append_assoc] at same
    exact .inl ⟨rest, (List.append_inj' same rfl).1⟩

/-- What has been settled stays so. -/
theorem Settled.concat {happenings : List Happening} {last : Happening}
    (settled : Settled happenings) : Settled (happenings ++ [last]) := by
  obtain ⟨waits, found⟩ := settled
  have events : eventsOf (happenings ++ [last]) = eventsOf happenings ++ eventsOf [last] :=
    List.filterMap_append ..
  refine ⟨List.mem_append_left _ waits, ?_⟩
  rw [events]
  rcases found with address | ⟨earlier, later, same, enough⟩
  · exact .inl (List.mem_append_left _ address)
  · refine .inr ⟨earlier, later ++ eventsOf [last], ?_, enough⟩
    rw [same, List.append_assoc, List.cons_append]

theorem gaveUp_concat (events : List WifiEvent) (last : WifiEvent) :
    GaveUp (events ++ [last]) ↔
      GaveUp events ∨ last = .staDisconnected ∧ wifiMaxRetry ≤ sinceIp events := by
  constructor
  · rintro ⟨earlier, later, same, enough⟩
    rcases concat_eq_append_cons same with ⟨rest, rfl⟩ | ⟨rfl, rfl⟩
    · exact .inl ⟨earlier, rest, rfl, enough⟩
    · exact .inr ⟨rfl, enough⟩
  · rintro (⟨earlier, later, rfl, enough⟩ | ⟨rfl, enough⟩)
    · exact ⟨earlier, later ++ [last], by rw [List.append_assoc, List.cons_append], enough⟩
    · exact ⟨events, [], rfl, enough⟩

theorem settlesWith_concat (happenings : List Happening) (last : Happening) (result : Bool) :
    SettlesWith (happenings ++ [last]) result ↔
      SettlesWith happenings result ∨ ¬Settled happenings ∧ Settled (happenings ++ [last]) ∧
        result = decide (.staGotIp ∈ eventsOf (happenings ++ [last])) := by
  constructor
  · rintro ⟨earlier, moment, later, same, before, after, found⟩
    rcases concat_eq_append_cons same with ⟨rest, rfl⟩ | ⟨rfl, rfl⟩
    · exact .inl ⟨earlier, moment, rest, rfl, before, after, found⟩
    · exact .inr ⟨before, after, found⟩
  · rintro (⟨earlier, moment, later, rfl, before, after, found⟩ | ⟨before, after, found⟩)
    · exact ⟨earlier, moment, later ++ [last], by rw [List.append_assoc, List.cons_append], before,
        after, found⟩
    · exact ⟨happenings, last, [], rfl, before, after, found⟩

/-! ### Any interleaving -/

/-- The handler's part of the station, in terms of the events. -/
structure Counts (events : List WifiEvent) (station : Station) : Prop where
  retries : station.retryCount = min wifiMaxRetry (sinceIp events)
  connected : station.connectedBit = true ↔ .staGotIp ∈ events
  failed : station.failBit = true ↔ GaveUp events
  connects : station.connects ≤ events.count .staStart +
    wifiMaxRetry * events.count .staGotIp + station.retryCount

/-- One event more is counted. -/
theorem Counts.handle {events : List WifiEvent} {station : Station} (counts : Counts events station)
    (event : WifiEvent) : Counts (events ++ [event]) (eventHandler station event) := by
  obtain ⟨retries, connected, failed, connects⟩ := counts
  cases event with
  | staStart =>
    refine ⟨?_, ?_, ?_, ?_⟩
    · rw [sinceIp_concat]
      exact retries
    · simpa [eventHandler] using connected
    · rw [gaveUp_concat]
      simpa [eventHandler] using failed
    · simp only [eventHandler, List.count_append, List.count_singleton_self]
      rw [List.count_singleton]
      simp
      omega
  | staDisconnected =>
    by_cases few : station.retryCount < wifiMaxRetry
    · have under : sinceIp events < wifiMaxRetry := by omega
      rw [eventHandler, if_pos few]
      refine ⟨?_, ?_, ?_, ?_⟩
      · rw [sinceIp_concat]
        simp
        omega
      · simpa using connected
      · rw [gaveUp_concat]
        simpa [not_le.mpr under] using failed
      · simp
        omega
    · have enough : wifiMaxRetry ≤ sinceIp events := by omega
      rw [eventHandler, if_neg few]
      refine ⟨?_, ?_, ?_, ?_⟩
      · rw [sinceIp_concat]
        simp
        omega
      · simpa using connected
      · rw [gaveUp_concat]
        simp [enough]
      · simp
        omega
  | staGotIp =>
    have bounded : station.retryCount ≤ wifiMaxRetry := by omega
    refine ⟨?_, ?_, ?_, ?_⟩
    · rw [sinceIp_concat]
      rfl
    · simp [eventHandler]
    · rw [gaveUp_concat]
      simpa [eventHandler] using failed
    · simp [eventHandler, Nat.mul_add]
      omega
  | other =>
    refine ⟨?_, ?_, ?_, ?_⟩
    · rw [sinceIp_concat]
      exact retries
    · simpa [eventHandler] using connected
    · rw [gaveUp_concat]
      simpa [eventHandler] using failed
    · simpa [eventHandler] using connects

/-- What the waiting task has found. -/
structure Follows (happenings : List Happening) (station : Station) : Prop where
  counts : Counts (eventsOf happenings) station
  waiting : station.waiting = true ↔ .waits ∈ happenings
  unsettled : station.returned = none ↔ ¬Settled happenings
  settled : ∀ result, station.returned = some result ↔ SettlesWith happenings result

/-- Waking up changes nothing that is counted. -/
theorem Counts.wake {events : List WifiEvent} {station : Station} (counts : Counts events station) :
    Counts events station.wake := by
  unfold Station.wake
  split
  · exact ⟨counts.retries, counts.connected, counts.failed, counts.connects⟩
  · exact counts

/-- A result is kept; without one the task returns whether there is an address, once it waits and
finds a bit. -/
theorem wake_returned (station : Station) (result : Bool) :
    station.wake.returned = some result ↔ station.returned = some result ∨
      station.returned = none ∧
        (station.waiting = true ∧ (station.connectedBit = true ∨ station.failBit = true)) ∧
        result = station.connectedBit := by
  unfold Station.wake
  cases returned : station.returned with
  | none =>
    by_cases finds :
        station.waiting = true ∧ (station.connectedBit = true ∨ station.failBit = true)
    · rw [if_pos (by simpa using finds), Option.some.injEq]
      constructor
      · rintro rfl
        exact .inr ⟨rfl, finds, rfl⟩
      · rintro (kept | ⟨-, -, rfl⟩)
        · cases kept
        · rfl
    · rw [if_neg (by simpa using finds), returned]
      simp [finds]
  | some kept =>
    rw [if_neg (by simp), returned]
    simp

/-- A task that wakes up follows what has happened, if the handler's part does. -/
theorem follows_wake {happenings : List Happening} {last : Happening} {before station : Station}
    (follows : Follows happenings before) (same : station.returned = before.returned)
    (counts : Counts (eventsOf (happenings ++ [last])) station)
    (waiting : station.waiting = true ↔ .waits ∈ happenings ++ [last]) :
    Follows (happenings ++ [last]) station.wake := by
  have finds : station.waiting = true ∧ (station.connectedBit = true ∨ station.failBit = true) ↔
      Settled (happenings ++ [last]) := by
    rw [Settled, waiting, counts.connected, counts.failed]
  have found : station.connectedBit = decide (.staGotIp ∈ eventsOf (happenings ++ [last])) := by
    rw [Bool.eq_iff_iff, decide_eq_true_iff, counts.connected]
  have returns : ∀ result, station.wake.returned = some result ↔ SettlesWith happenings result ∨
      ¬Settled happenings ∧ Settled (happenings ++ [last]) ∧
        result = decide (.staGotIp ∈ eventsOf (happenings ++ [last])) := by
    intro result
    rw [wake_returned, finds, found, same, follows.settled, follows.unsettled]
  refine ⟨counts.wake, ?_, ?_, ?_⟩
  · unfold Station.wake
    split
    · exact waiting
    · exact waiting
  · rw [Option.eq_none_iff_forall_ne_some]
    constructor
    · intro none settled
      by_cases early : Settled happenings
      · cases before_returned : before.returned with
        | none => exact follows.unsettled.mp before_returned early
        | some result =>
          exact none result ((returns result).mpr (.inl ((follows.settled _).mp before_returned)))
      · exact none _ ((returns _).mpr (.inr ⟨early, settled, rfl⟩))
    · intro unsettled result returned
      rcases (returns result).mp returned with early | ⟨-, settled, -⟩
      · rw [← follows.settled] at early
        have still := follows.unsettled.mpr fun early => unsettled early.concat
        rw [early] at still
        cases still
      · exact unsettled settled
  · intro result
    rw [returns, settlesWith_concat]

/-- The handler returns nothing and does not wait. -/
theorem eventHandler_keeps (station : Station) (event : WifiEvent) :
    (eventHandler station event).returned = station.returned ∧
      (eventHandler station event).waiting = station.waiting := by
  cases event with
  | staDisconnected =>
    rw [eventHandler]
    split
    · exact ⟨rfl, rfl⟩
    · exact ⟨rfl, rfl⟩
  | _ => exact ⟨rfl, rfl⟩

/-- However the events and the wait are interleaved, the station follows them.

Induct over what has happened, the last of it first. -/
theorem follows_after (happenings : List Happening) :
    Follows happenings (stationAfter happenings) := by
  induction happenings using List.reverseRecOn with
  | nil =>
    have unsettled : ¬Settled [] := fun settled => List.not_mem_nil settled.1
    refine ⟨⟨rfl, ?_, ?_, Nat.zero_le _⟩, ?_, ?_, ?_⟩
    · exact iff_of_false Bool.false_ne_true List.not_mem_nil
    · refine iff_of_false Bool.false_ne_true ?_
      rintro ⟨earlier, later, same, -⟩
      exact List.append_ne_nil_of_right_ne_nil earlier (List.cons_ne_nil _ _) same.symm
    · exact iff_of_false Bool.false_ne_true List.not_mem_nil
    · exact iff_of_true rfl unsettled
    · intro result
      refine iff_of_false nofun ?_
      rintro ⟨earlier, moment, later, same, -⟩
      exact List.append_ne_nil_of_right_ne_nil earlier (List.cons_ne_nil _ _) same.symm
  | append_singleton happenings last inductionHypothesis =>
    rw [stationAfter_concat]
    cases last with
    | delivered event =>
      obtain ⟨returned, waiting⟩ := eventHandler_keeps (stationAfter happenings) event
      have events : eventsOf (happenings ++ [.delivered event]) = eventsOf happenings ++ [event] :=
        List.filterMap_append ..
      refine follows_wake inductionHypothesis returned ?_ ?_
      · rw [events]
        exact inductionHypothesis.counts.handle event
      · rw [waiting, inductionHypothesis.waiting]
        simp
    | waits =>
      have events : eventsOf (happenings ++ [.waits]) = eventsOf happenings := by
        rw [eventsOf, List.filterMap_append]
        exact List.append_nil _
      obtain ⟨retries, connected, failed, connects⟩ := inductionHypothesis.counts
      refine follows_wake inductionHypothesis rfl ?_ ?_
      · rw [events]
        exact ⟨retries, connected, failed, connects⟩
      · exact iff_of_true rfl (List.mem_append_right _ (List.mem_singleton_self _))

/-- What `wifi_station_connect` does in all interleavings: it returns `false` at once without
credentials; otherwise it returns once it waits and there was an address or the eleventh
disconnection in a row, with whether there was an address by then. The number of attempts stays
within ten for every address, ten more, and one for every start. -/
structure Connects (nvs : NvsImage) (happenings : List Happening) : Prop where
  returns : ∀ result, wifiStationReturns nvs happenings = some result ↔
    (wifiStationConnect nvs = none ∧ result = false) ∨
      (wifiStationConnect nvs).isSome = true ∧ SettlesWith happenings result
  waits : wifiStationReturns nvs happenings = none ↔
    (wifiStationConnect nvs).isSome = true ∧ ¬Settled happenings
  attempts : (stationAfter happenings).connects ≤ (eventsOf happenings).count .staStart +
    wifiMaxRetry * ((eventsOf happenings).count .staGotIp + 1)

/-- Every image and every interleaving of events with the wait. -/
theorem wifi_station_connects (nvs : NvsImage) (happenings : List Happening) :
    Connects nvs happenings := by
  have follows := follows_after happenings
  have retries := follows.counts.retries
  have connects := follows.counts.connects
  refine ⟨fun result => ?_, ?_, ?_⟩
  · unfold wifiStationReturns
    cases wifiStationConnect nvs with
    | none => simp [eq_comm]
    | some config => simpa using follows.settled result
  · unfold wifiStationReturns
    cases wifiStationConnect nvs with
    | none => simp
    | some config => simpa using follows.unsettled
  · rw [Nat.mul_add]
    omega

end Microgrid.WifiStation
