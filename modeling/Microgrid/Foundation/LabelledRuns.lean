import Mathlib.Data.List.Chain

/-!
# Runs of labelled steps

A run is written down as the list of its events, each with the state it leads to, so that
a statement can be about every step (`Along`), about every state reached, or about a stretch
of the run. The rules lift
a step lemma to runs: an invariant of all states, a relation between each state and the
next, an invariant that holds as long as all steps meet a condition, and a property that a
step keeps exactly if it meets the condition.
-/

namespace Microgrid.LabelledRuns

variable {σ ε : Type} {step : σ → ε → σ → Prop}

/-- A run from a state. -/
inductive Run (step : σ → ε → σ → Prop) : σ → List (ε × σ) → Prop where
  | done (start : σ) : Run step start []
  | next {start after : σ} {event : ε} {later : List (ε × σ)}
      (taken : step start event after) (rest : Run step after later) :
      Run step start ((event, after) :: later)

/-- A condition on the state before a step and the event of the step, for all steps of a run. -/
def Along (condition : σ → ε → Prop) : σ → List (ε × σ) → Prop
  | _, [] => True
  | start, (event, after) :: later => condition start event ∧ Along condition after later

/-- Where a run ends. -/
def final : σ → List (ε × σ) → σ
  | start, [] => start
  | _, (_, after) :: later => final after later

/-- A run is cut in two at any of its states. -/
theorem Run.split {start : σ} {earlier later : List (ε × σ)} (run : Run step start (earlier ++ later)) :
    Run step start earlier ∧ Run step (final start earlier) later := by
  induction earlier generalizing start with
  | nil => exact ⟨.done start, run⟩
  | cons entry earlier inductionHypothesis =>
    cases run with
    | next taken rest =>
      obtain ⟨front, back⟩ := inductionHypothesis rest
      exact ⟨.next taken front, back⟩

/-- A run goes on from where it ends. -/
theorem Run.append {start : σ} {earlier later : List (ε × σ)} (front : Run step start earlier)
    (back : Run step (final start earlier) later) : Run step start (earlier ++ later) := by
  induction front with
  | done start => exact back
  | next taken rest inductionHypothesis => exact .next taken (inductionHypothesis back)

/-- A condition along a run that is cut in two. -/
theorem Along.split {condition : σ → ε → Prop} {start : σ} {earlier later : List (ε × σ)}
    (conditions : Along condition start (earlier ++ later)) :
    Along condition start earlier ∧ Along condition (final start earlier) later := by
  induction earlier generalizing start with
  | nil => exact ⟨trivial, conditions⟩
  | cons entry earlier inductionHypothesis =>
    obtain ⟨here, rest⟩ := conditions
    obtain ⟨front, back⟩ := inductionHypothesis rest
    exact ⟨⟨here, front⟩, back⟩

/-- The state in which a run ends is one of its states. -/
theorem final_mem (start : σ) (events : List (ε × σ)) :
    final start events ∈ start :: events.map Prod.snd := by
  induction events generalizing start with
  | nil => exact List.mem_singleton_self start
  | cons entry later inductionHypothesis => exact List.mem_cons_of_mem _ (inductionHypothesis entry.2)

/-- What every step keeps holds of all states of a run. -/
theorem Run.states {invariant : σ → Prop}
    (keeps : ∀ {start event after}, step start event after → invariant start → invariant after)
    {start : σ} {events : List (ε × σ)} (run : Run step start events) (initial : invariant start) :
    ∀ state ∈ start :: events.map Prod.snd, invariant state := by
  induction run with
  | done start =>
    intro state member
    rwa [List.mem_singleton.mp member]
  | next taken rest inductionHypothesis =>
    intro state member
    rcases List.mem_cons.mp member with rfl | later
    · exact initial
    · exact inductionHypothesis (keeps taken initial) state later

/-- What an invariant makes of every step relates each state of a run to the next. -/
theorem Run.chain {invariant : σ → Prop} {relation : σ → σ → Prop}
    (keeps : ∀ {start event after}, step start event after → invariant start → invariant after)
    (relates : ∀ {start event after}, step start event after → invariant start →
      relation start after)
    {start : σ} {events : List (ε × σ)} (run : Run step start events) (initial : invariant start) :
    (start :: events.map Prod.snd).IsChain relation := by
  induction run with
  | done start => exact .singleton start
  | next taken rest inductionHypothesis =>
    exact .cons_cons (relates taken initial) (inductionHypothesis (keeps taken initial))

/-- What an invariant makes of every step holds along a run. -/
theorem Run.each {invariant : σ → Prop} {goal : σ → ε → Prop}
    (keeps : ∀ {start event after}, step start event after → invariant start → invariant after)
    (implies : ∀ {start event after}, step start event after → invariant start → goal start event)
    {start : σ} {events : List (ε × σ)} (run : Run step start events) (initial : invariant start) :
    Along goal start events := by
  induction run with
  | done start => exact trivial
  | next taken rest inductionHypothesis =>
    exact ⟨implies taken initial, inductionHypothesis (keeps taken initial)⟩

/-- If steps that meet the condition keep the invariant, and with the invariant have the
goal, then every step of a run all of whose steps meet the condition has the goal. -/
theorem Run.along {condition goal : σ → ε → Prop} {invariant : σ → Prop}
    (keeps : ∀ {start event after}, step start event after → condition start event →
      invariant start → invariant after)
    (implies : ∀ {start event}, condition start event → invariant start → goal start event)
    {start : σ} {events : List (ε × σ)} (run : Run step start events) (initial : invariant start)
    (conditions : Along condition start events) : Along goal start events := by
  induction run with
  | done start => exact trivial
  | next taken rest inductionHypothesis =>
    obtain ⟨here, later⟩ := conditions
    exact ⟨implies here initial, inductionHypothesis (keeps taken here initial) later⟩

/-- If a step from a state with the property leads to one with the property exactly if it
meets the condition, then all states of a run have the property exactly if all its steps
meet the condition. -/
theorem Run.states_iff {condition : σ → ε → Prop} {invariant property : σ → Prop}
    (keeps : ∀ {start event after}, step start event after → invariant start → invariant after)
    (exact_step : ∀ {start event after}, step start event after → invariant start →
      property start → (property after ↔ condition start event))
    {start : σ} {events : List (ε × σ)} (run : Run step start events) (initial : invariant start)
    (holds : property start) :
    (∀ entry ∈ events, property entry.2) ↔ Along condition start events := by
  induction run with
  | done start => exact ⟨fun _ => trivial, fun _ _ member => (List.not_mem_nil member).elim⟩
  | next taken rest inductionHypothesis =>
    have here := exact_step taken initial holds
    have later := inductionHypothesis (keeps taken initial)
    constructor
    · intro all
      have reached := all _ List.mem_cons_self
      exact ⟨here.mp reached,
        (later reached).mp fun entry member => all entry (List.mem_cons_of_mem _ member)⟩
    · rintro ⟨first, others⟩ entry member
      have reached := here.mpr first
      rcases List.mem_cons.mp member with rfl | tail
      · exact reached
      · exact (later reached).mpr others entry tail

end Microgrid.LabelledRuns
