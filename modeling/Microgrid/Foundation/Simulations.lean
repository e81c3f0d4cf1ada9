import Microgrid.Foundation.LabelledRuns

/-!
# Simulations between labelled systems

A detailed system is followed by an abstract one: whenever the two are related, every step of
the first is matched by a run of the second, of any number of steps, that ends in a related
state. Then every run of the detailed system is matched by one of the abstract system that
passes through a related state for each of its states, and what holds of all abstract states
holds, through the relation, of all detailed ones.
-/

namespace Microgrid.Simulations

open LabelledRuns

variable {σ ε τ δ : Type} {step : σ → ε → σ → Prop} {abstractStep : τ → δ → τ → Prop}

/-- The abstract system can follow every step from related states. -/
structure Simulates (step : σ → ε → σ → Prop) (abstractStep : τ → δ → τ → Prop)
    (related : σ → τ → Prop) : Prop where
  follows : ∀ {start : σ} {event : ε} {after : σ}, step start event after → ∀ {abstract : τ},
    related start abstract → ∃ events : List (δ × τ), Run abstractStep abstract events ∧
      related after (final abstract events)

/-- Two runs, one from where the other ends. -/
theorem run_append {start : σ} {earlier later : List (ε × σ)} (front : Run step start earlier)
    (back : Run step (final start earlier) later) : Run step start (earlier ++ later) := by
  induction front with
  | done start => exact back
  | next taken rest inductionHypothesis => exact .next taken (inductionHypothesis back)

/-- Where two runs in a row end. -/
theorem final_append (start : σ) (earlier later : List (ε × σ)) :
    final start (earlier ++ later) = final (final start earlier) later := by
  induction earlier generalizing start with
  | nil => rfl
  | cons entry earlier inductionHypothesis => exact inductionHypothesis entry.2

/-- The states of two runs in a row. -/
theorem mem_states_append {start state : σ} {earlier later : List (ε × σ)}
    (member : state ∈ final start earlier :: later.map Prod.snd) :
    state ∈ start :: (earlier ++ later).map Prod.snd := by
  rcases List.mem_cons.mp member with rfl | listed
  · rw [List.map_append, ← List.cons_append]
    exact List.mem_append_left _ (final_mem start earlier)
  · rw [List.map_append]
    exact List.mem_cons_of_mem _ (List.mem_append_right _ listed)

/-- Every run is followed by a run of the abstract system that ends in a related state and
passes through one for every state of the run.

Induct over the run; the abstract runs for its steps are put one behind the other. -/
theorem Simulates.run {related : σ → τ → Prop} (simulates : Simulates step abstractStep related)
    {start : σ} {events : List (ε × σ)} (taken : Run step start events) {abstract : τ}
    (initial : related start abstract) :
    ∃ abstractEvents : List (δ × τ), Run abstractStep abstract abstractEvents ∧
      related (final start events) (final abstract abstractEvents) ∧
      ∀ state ∈ start :: events.map Prod.snd,
        ∃ shown ∈ abstract :: abstractEvents.map Prod.snd, related state shown := by
  induction taken generalizing abstract with
  | done start =>
    refine ⟨[], .done abstract, initial, ?_⟩
    intro state member
    rw [List.mem_singleton.mp member]
    exact ⟨abstract, List.mem_singleton_self abstract, initial⟩
  | next here rest inductionHypothesis =>
    obtain ⟨front, followed, reached⟩ := simulates.follows here initial
    obtain ⟨back, later, ended, passes⟩ := inductionHypothesis reached
    refine ⟨front ++ back, run_append followed later, ?_, ?_⟩
    · rw [final_append]
      exact ended
    · intro state member
      rcases List.mem_cons.mp member with rfl | listed
      · exact ⟨abstract, List.mem_cons_self, initial⟩
      · obtain ⟨shown, among, same⟩ := passes state listed
        exact ⟨shown, mem_states_append among, same⟩

/-- What holds of every state that an abstract run reaches holds, through the relation, of
every state of a run. -/
theorem Simulates.transfers {related : σ → τ → Prop}
    (simulates : Simulates step abstractStep related) {abstract : τ} {abstractProperty : τ → Prop}
    {property : σ → Prop}
    (holds : ∀ {abstractEvents : List (δ × τ)}, Run abstractStep abstract abstractEvents →
      ∀ shown ∈ abstract :: abstractEvents.map Prod.snd, abstractProperty shown)
    (carries : ∀ {state : σ} {shown : τ}, related state shown → abstractProperty shown →
      property state)
    {start : σ} {events : List (ε × σ)} (taken : Run step start events)
    (initial : related start abstract) : ∀ state ∈ start :: events.map Prod.snd, property state := by
  obtain ⟨abstractEvents, followed, -, passes⟩ := simulates.run taken initial
  intro state member
  obtain ⟨shown, among, same⟩ := passes state member
  exact carries same (holds followed shown among)

end Microgrid.Simulations
