import Mathlib.Algebra.Order.Group.Unbundled.Basic
import Mathlib.Algebra.Order.Ring.Defs
import Mathlib.Data.List.Induction

/-!
# Scores that fall by penalties

A score falls by one penalty for every fault, and by another for a number of anomalies
without a normal report between them. It never falls below zero and never recovers.

The counter of anomalies starts over with every normal report and with every penalty for
anomalies, so a penalty can be read off the reports: `penalty_streak` finds the anomalies
that earned it.
-/

namespace Microgrid.PenaltyWindows

/-- What is reported. -/
inductive Report where
  | fault
  | anomaly
  | normal
deriving DecidableEq

/-- How many anomalies make a penalty, and the two penalties. -/
structure Rules (K : Type) where
  window : ℕ
  fault : K
  anomaly : K

/-- A score, and the anomalies counted towards the next penalty. -/
structure Standing (K : Type) where
  score : K
  count : ℕ

variable {K : Type} [AddCommGroup K] [LinearOrder K]

/-- The score after a penalty. -/
def penalized (score penalty : K) : K := max 0 (score - penalty)

/-- The standing after a report. -/
def Standing.report (rules : Rules K) (standing : Standing K) : Report → Standing K
  | .fault => { standing with score := penalized standing.score rules.fault }
  | .anomaly =>
    if rules.window ≤ standing.count + 1 then ⟨penalized standing.score rules.anomaly, 0⟩
    else { standing with count := standing.count + 1 }
  | .normal => { standing with count := 0 }

/-- The standing after a sequence of reports. -/
def Standing.after (rules : Rules K) (start : Standing K) (reports : List Report) : Standing K :=
  reports.foldl (Standing.report rules) start

variable {rules : Rules K} {start : Standing K}

@[simp] theorem after_nil : start.after rules [] = start := rfl

@[simp] theorem after_concat (reports : List Report) (report : Report) :
    start.after rules (reports ++ [report]) = (start.after rules reports).report rules report := by
  rw [Standing.after, List.foldl_append]
  rfl

theorem after_append (earlier later : List Report) :
    start.after rules (earlier ++ later) = (start.after rules earlier).after rules later :=
  List.foldl_append

/-- The counter stays below the window. -/
theorem count_lt (positive : 0 < rules.window) (below : start.count < rules.window)
    (reports : List Report) : (start.after rules reports).count < rules.window := by
  induction reports using List.reverseRecOn with
  | nil => exact below
  | append_singleton reports report inductionHypothesis =>
    rw [after_concat]
    cases report with
    | fault => exact inductionHypothesis
    | anomaly =>
      rw [Standing.report]
      split
      · exact positive
      · next short => exact not_le.mp short
    | normal => exact positive

/-- A streak ending with a list: no normal report since, and as many anomalies as counted,
without a penalty for them in between. -/
structure Streak (rules : Rules K) (start : Standing K) (before streak : List Report) : Prop where
  unbroken : .normal ∉ streak
  counted : ∀ inner rest, streak = inner ++ rest →
    (start.after rules (before ++ inner)).count = inner.count .anomaly

/-- Where the counter is at zero, a streak of no reports begins. -/
theorem streak_begins {reports : List Report} (clean : (start.after rules reports).count = 0) :
    Streak rules start reports [] := by
  refine ⟨List.not_mem_nil, fun inner rest empty => ?_⟩
  obtain ⟨rfl, rfl⟩ := List.append_eq_nil_iff.mp empty.symm
  rw [List.append_nil]
  exact clean

/-- A streak goes on with a report that is counted. -/
theorem Streak.extend {before reports : List Report} {report : Report}
    (streak : Streak rules start before reports) (broken : report ≠ .normal)
    (counts : (start.after rules (before ++ reports ++ [report])).count
      = (reports ++ [report]).count .anomaly) :
    Streak rules start before (reports ++ [report]) := by
  constructor
  · rw [List.mem_append, List.mem_singleton]
    rintro (inside | last)
    · exact streak.unbroken inside
    · exact broken last.symm
  · intro inner rest split
    rcases List.eq_nil_or_concat rest with rfl | ⟨shorter, last, rfl⟩
    · rw [List.append_nil] at split
      rw [← split, ← List.append_assoc]
      exact counts
    · rw [List.concat_eq_append, ← List.append_assoc] at split
      exact streak.counted inner shorter (List.append_inj_left' split rfl)

/-- Within a streak no anomaly earns a penalty. -/
theorem Streak.unpenalized {before streak inner rest : List Report}
    (found : Streak rules start before streak) (inside : streak = inner ++ .anomaly :: rest) :
    (start.after rules (before ++ inner ++ [.anomaly])).score
      = (start.after rules (before ++ inner)).score := by
  have counted := found.counted (inner ++ [.anomaly]) rest
    (inside.trans (List.append_cons inner .anomaly rest))
  rw [← List.append_assoc, after_concat, Standing.report, List.count_append,
    List.count_singleton_self] at counted
  rw [after_concat, Standing.report]
  split at counted
  · exact absurd counted.symm (Nat.succ_ne_zero _)
  · next short => rw [if_neg short]

/-- The counter says how many anomalies there were since it was last at zero. -/
theorem exists_streak (clean : start.count = 0) (reports : List Report) :
    ∃ before streak, reports = before ++ streak ∧ Streak rules start before streak := by
  induction reports using List.reverseRecOn with
  | nil => exact ⟨[], [], rfl, streak_begins clean⟩
  | append_singleton reports report inductionHypothesis =>
    by_cases zero : (start.after rules (reports ++ [report])).count = 0
    · exact ⟨_, [], (List.append_nil _).symm, streak_begins zero⟩
    · obtain ⟨before, streak, rfl, found⟩ := inductionHypothesis
      have soFar := found.counted streak [] (List.append_nil _).symm
      refine ⟨before, streak ++ [report], List.append_assoc _ _ _, found.extend ?_ ?_⟩
      · rintro rfl
        rw [after_concat] at zero
        exact zero rfl
      · rw [after_concat] at zero ⊢
        rw [List.count_append]
        cases report with
        | fault => exact soFar
        | anomaly =>
          rw [Standing.report] at zero ⊢
          split at zero
          · exact absurd rfl zero
          · next short =>
            rw [if_neg short]
            exact congrArg (· + 1) soFar
        | normal => exact absurd rfl zero

/-- A penalty for anomalies is earned by a streak of exactly as many as the window. -/
theorem penalty_streak (clean : start.count = 0) {reports : List Report}
    (penalty : rules.window ≤ (start.after rules reports).count + 1)
    (below : (start.after rules reports).count < rules.window) :
    ∃ before streak, reports = before ++ streak ∧ Streak rules start before streak ∧
      (streak ++ [Report.anomaly]).count .anomaly = rules.window := by
  obtain ⟨before, streak, rfl, found⟩ := exists_streak clean reports
  refine ⟨before, streak, rfl, found, ?_⟩
  have counted := found.counted streak [] (List.append_nil _).symm
  rw [List.count_append, List.count_singleton_self, ← counted]
  omega

section Bounds

variable [IsOrderedAddMonoid K]

/-- A score that is not negative never rises, and never becomes negative. -/
theorem report_bounds (fault : 0 ≤ rules.fault) (anomaly : 0 ≤ rules.anomaly)
    {standing : Standing K} (nonneg : 0 ≤ standing.score) (report : Report) :
    0 ≤ (standing.report rules report).score ∧
      (standing.report rules report).score ≤ standing.score := by
  have penalty : ∀ amount : K, 0 ≤ amount →
      0 ≤ penalized standing.score amount ∧ penalized standing.score amount ≤ standing.score :=
    fun amount positive => ⟨le_max_left _ _, max_le nonneg (sub_le_self _ positive)⟩
  cases report with
  | fault => exact penalty rules.fault fault
  | anomaly =>
    rw [Standing.report]
    split
    · exact penalty rules.anomaly anomaly
    · exact ⟨nonneg, le_rfl⟩
  | normal => exact ⟨nonneg, le_rfl⟩

/-- Along any reports the score stays between zero and where it started. -/
theorem after_bounds (fault : 0 ≤ rules.fault) (anomaly : 0 ≤ rules.anomaly)
    (nonneg : 0 ≤ start.score) (reports : List Report) :
    0 ≤ (start.after rules reports).score ∧ (start.after rules reports).score ≤ start.score := by
  induction reports using List.reverseRecOn with
  | nil => exact ⟨nonneg, le_rfl⟩
  | append_singleton reports report inductionHypothesis =>
    rw [after_concat]
    obtain ⟨stays, falls⟩ := report_bounds fault anomaly inductionHypothesis.1 report
    exact ⟨stays, falls.trans inductionHypothesis.2⟩

end Bounds

end Microgrid.PenaltyWindows
