import Microgrid.Ems.SetpointPivots

/-!
# The setpoint on a bus under voltage

Below a bus voltage error of -0.2 the degree of nominal voltage rises from 0 to 3/4 with the
error, and the degree of under voltage falls. Which of them cuts an output set off depends on
the degrees of the demand, and between two changes of it some sets rise and others fall. On
each such stretch two pivots show that the setpoint does not rise.
-/

namespace Microgrid.Ems

open FuzzyControl

/-- The heights on a bus under voltage: `a`, `m` and `b` are the degrees of low, moderate and
high demand and `d` is the degree of nominal voltage. -/
def underVoltage (a m b d : ℚ) : OutLabel → ℚ :=
  cuts 0 (min d a) (max (min (1 - 4 / 3 * d) a) (min d m))
    (max (min (1 - 4 / 3 * d) m) (min d b)) (min (1 - 4 / 3 * d) b)

variable {a m b d d' : ℚ}

/-- Some output set is answered. -/
theorem underVoltage_answers (demand : 0 < m ∨ 0 < b) (d : ℚ) :
    ∃ label, 0 < underVoltage a m b d label := by
  by_cases nominal : 0 < d
  · rcases demand with moderate | high
    · exact ⟨.med, lt_max_of_lt_right (lt_min nominal moderate)⟩
    · exact ⟨.high, lt_max_of_lt_right (lt_min nominal high)⟩
  · have under : 0 < 1 - 4 / 3 * d := by linarith
    rcases demand with moderate | high
    · exact ⟨.high, lt_max_of_lt_left (lt_min under moderate)⟩
    · exact ⟨.max, lt_min under high⟩

section LightDemand

/-- Demands from 32 W to 42.5 W and from 57.5 W to 60 W: mainly moderate and not high. -/
structure LightDemand (a m : ℚ) : Prop where
  nonneg : 0 ≤ a
  little : a ≤ 2 / 5
  moderate : m ≤ 3 / 4
  slopes : a = 0 ∧ 2 / 3 ≤ m ∨ m = 2 / 3 * (1 - a)

/-- While MED is cut off below one half. -/
theorem light_under_first (demand : LightDemand a m) (nonneg : 0 ≤ d) (ordered : d ≤ d')
    (cut : d' ≤ m) (half : d' ≤ 1 / 2) :
    Sinks 172 280 (underVoltage a m 0 d) (underVoltage a m 0 d') := by
  obtain ⟨lowNonneg, little, moderate, slopes⟩ := demand
  constructor
  · have corner : 0 ≤ torqueAt 172 (cuts 0 (2 / 5) (1 / 2) (1 / 3) 0) := by
      apply corner_nonneg 1 0 48 60 40 0 (by decide)
      intro label
      cases label <;> norm_num
    -- MED rises first, then LOW
    have raised : torqueAt 172 (cuts 0 (min d' a) (1 / 2) (1 / 3) 0)
        ≤ torqueAt 172 (underVoltage a m 0 d') := by
      apply torque_43
      all_goals grind
    apply corner.trans (le_trans _ raised)
    apply torque_43
    all_goals grind
  · rw [underVoltage, show min (1 - 4 / 3 * d) (0 : ℚ) = 0 by grind]
    apply torque_70_nonpos
    all_goals grind
  · apply torque_43
    all_goals grind
  · apply torque_70_falling
    all_goals grind

/-- While MED is cut off between one half and the degree of moderate demand. -/
theorem light_under_second (demand : LightDemand a m) (half : 1 / 2 ≤ d) (ordered : d ≤ d')
    (cut : d' ≤ m) : Sinks 166 280 (underVoltage a m 0 d) (underVoltage a m 0 d') := by
  obtain ⟨lowNonneg, little, moderate, slopes⟩ := demand
  constructor
  · rcases le_or_gt a (1 / 8) with small | large
    · by_cases none : a = 0
      · have corner : 0 ≤ torqueAt 166 (cuts 0 0 (3 / 4) 0 0) := by
          apply corner_nonneg 1 0 0 90 0 0 (by decide)
          intro label
          cases label <;> norm_num
        apply corner.trans
        apply torque_83_half
        all_goals grind
      · have corner : 0 ≤ torqueAt 166 (cuts 0 (1 / 8) (2 / 3) (1 / 9) 0) := by
          apply corner_nonneg 3 0 45 240 40 0 (by decide)
          intro label
          cases label <;> norm_num
        apply corner.trans
        apply torque_83_half
        all_goals grind
    · have corner : 0 ≤ torqueAt 166 (cuts 0 (1 / 4) (7 / 12) (2 / 9) 0) := by
        apply corner_nonneg 3 0 90 210 80 0 (by decide)
        intro label
        cases label <;> norm_num
      apply corner.trans
      apply torque_83_half
      all_goals grind
  · rw [underVoltage, show min (1 - 4 / 3 * d) (0 : ℚ) = 0 by grind]
    apply torque_70_nonpos
    all_goals grind
  · apply torque_83_half
    all_goals grind
  · apply torque_70_falling
    all_goals grind

/-- When moderate demand cuts MED off, only HIGH falls. -/
theorem light_under_third (demand : LightDemand a m) (ordered : d ≤ d') (cut : m ≤ d)
    (atMost : d' ≤ 3 / 4) : Sinks 0 280 (underVoltage a m 0 d) (underVoltage a m 0 d') := by
  obtain ⟨lowNonneg, little, moderate, slopes⟩ := demand
  constructor
  · exact torqueAt_first _
  · rw [underVoltage, show min (1 - 4 / 3 * d) (0 : ℚ) = 0 by grind]
    apply torque_70_nonpos
    all_goals grind
  · apply torque_0
    all_goals grind
  · apply torque_70_falling
    all_goals grind

/-- Under a light demand the setpoint does not rise with the voltage. -/
theorem light_under (demand : LightDemand a m) :
    AntitoneOn (fun d => setpointOf (underVoltage a m 0 d)) (Set.Icc 0 (3 / 4)) := by
  have positive : 0 < m := by
    obtain ⟨lowNonneg, little, moderate, slopes⟩ := demand
    grind
  have answers (d : ℚ) := underVoltage_answers (a := a) (b := 0) (.inl positive) d
  have third : AntitoneOn (fun d => setpointOf (underVoltage a m 0 d)) (Set.Icc m (3 / 4)) := by
    apply antitoneOn_of_sinks fun d _ => answers d
    intro d d' first ordered last
    exact light_under_third demand ordered first last
  rcases le_total m (1 / 2) with low | high
  · have first : AntitoneOn (fun d => setpointOf (underVoltage a m 0 d)) (Set.Icc 0 m) := by
      apply antitoneOn_of_sinks fun d _ => answers d
      intro d d' nonneg ordered last
      exact light_under_first demand nonneg ordered last (last.trans low)
    exact antitoneOn_join first third positive.le demand.moderate
  · have first : AntitoneOn (fun d => setpointOf (underVoltage a m 0 d)) (Set.Icc 0 (1 / 2)) := by
      apply antitoneOn_of_sinks fun d _ => answers d
      intro d d' nonneg ordered last
      exact light_under_first demand nonneg ordered (last.trans high) last
    have second : AntitoneOn (fun d => setpointOf (underVoltage a m 0 d)) (Set.Icc (1 / 2) m) := by
      apply antitoneOn_of_sinks fun d _ => answers d
      intro d d' first ordered last
      exact light_under_second demand first ordered last
    apply antitoneOn_join _ third positive.le demand.moderate
    exact antitoneOn_join first second (by norm_num) high

end LightDemand

section RisingDemand

/-- From 60 W to 68 W, while MED rises. -/
theorem rising_under_first (nonneg : 0 ≤ b) (little : b ≤ 2 / 5) (moderate : m = 2 / 3 * (1 - b))
    (start : 0 ≤ d) (ordered : d ≤ d') (under : m ≤ 1 - 4 / 3 * d') :
    Sinks 172 400 (underVoltage 0 m b d) (underVoltage 0 m b d') := by
  constructor
  · have corner : 0 ≤ torqueAt 172 (cuts 0 0 (2 / 3) (1 / 9) 0) := by
      apply corner_nonneg 3 0 0 240 40 0 (by decide)
      intro label
      cases label <;> norm_num
    apply corner.trans
    apply torque_43
    all_goals grind
  · exact torqueAt_last _
  · apply torque_43
    all_goals grind
  · apply torque_100
    all_goals grind

/-- Once MED is cut off above one quarter, the setpoint lies below 70 W. -/
theorem rising_under_start (nonneg : 0 ≤ b) (little : b ≤ 2 / 5) (moderate : m = 2 / 3 * (1 - b))
    (quarter : 1 / 4 ≤ d) (atMost : d ≤ 3 / 4) : torqueAt 280 (underVoltage 0 m b d) ≤ 0 := by
  have corner : torqueAt 280 (cuts 0 0 (1 / 4) (2 / 5) (2 / 5)) ≤ 0 := by
    apply corner_nonpos 1 0 0 30 48 48 (by decide)
    intro label
    cases label <;> norm_num
  -- HIGH rises before MED does, and falls after MAX did
  rcases le_total (2 / 5) (1 - 4 / 3 * d) with rises | falls
  · have raised : torqueAt 280 (cuts 0 0 (1 / 4) (min (1 - 4 / 3 * d) m) (2 / 5))
        ≤ torqueAt 280 (cuts 0 0 (1 / 4) (2 / 5) (2 / 5)) := by
      apply torque_70_rising
      all_goals grind
    apply le_trans _ (raised.trans corner)
    apply torque_70_falling
    all_goals grind
  · have lowered : torqueAt 280 (cuts 0 0 (1 / 4) (2 / 5) (min (1 - 4 / 3 * d) b))
        ≤ torqueAt 280 (cuts 0 0 (1 / 4) (2 / 5) (2 / 5)) := by
      apply torque_70_rising
      all_goals grind
    apply le_trans _ (lowered.trans corner)
    apply torque_70_falling
    all_goals grind

/-- While MED rises and HIGH falls. -/
theorem rising_under_second (nonneg : 0 ≤ b) (little : b ≤ 2 / 5) (moderate : m = 2 / 3 * (1 - b))
    (under : 1 - 4 / 3 * d ≤ m) (ordered : d ≤ d') (cut : d' ≤ m) :
    Sinks 172 280 (underVoltage 0 m b d) (underVoltage 0 m b d') := by
  constructor
  · have corner : 0 ≤ torqueAt 172 (cuts 0 0 (2 / 3) (1 / 9) 0) := by
      apply corner_nonneg 3 0 0 240 40 0 (by decide)
      intro label
      cases label <;> norm_num
    apply corner.trans
    apply torque_43
    all_goals grind
  · apply rising_under_start nonneg little moderate
    all_goals linarith
  · apply torque_43
    all_goals grind
  · apply torque_70_falling
    all_goals grind

/-- While only HIGH and MAX fall. -/
theorem rising_under_third (nonneg : 0 ≤ b) (little : b ≤ 2 / 5) (moderate : m = 2 / 3 * (1 - b))
    (cut : m ≤ d) (ordered : d ≤ d') (atMost : d' ≤ 3 / 4) :
    Sinks 0 280 (underVoltage 0 m b d) (underVoltage 0 m b d') := by
  constructor
  · exact torqueAt_first _
  · apply rising_under_start nonneg little moderate
    all_goals linarith
  · apply torque_0
    all_goals grind
  · apply torque_70_falling
    all_goals grind

/-- From 60 W to 68 W the setpoint does not rise with the voltage. -/
theorem rising_under (nonneg : 0 ≤ b) (little : b ≤ 2 / 5) (moderate : m = 2 / 3 * (1 - b)) :
    AntitoneOn (fun d => setpointOf (underVoltage 0 m b d)) (Set.Icc 0 (3 / 4)) := by
  have answers (d : ℚ) : ∃ label, 0 < underVoltage 0 m b d label :=
    underVoltage_answers (.inl (by linarith)) d
  have third : AntitoneOn (fun d => setpointOf (underVoltage 0 m b d)) (Set.Icc m (3 / 4)) := by
    apply antitoneOn_of_sinks fun d _ => answers d
    intro d d' start ordered last
    exact rising_under_third nonneg little moderate start ordered last
  rcases le_total m (3 / 4 * (1 - m)) with early | late
  · have first : AntitoneOn (fun d => setpointOf (underVoltage 0 m b d)) (Set.Icc 0 m) := by
      apply antitoneOn_of_sinks fun d _ => answers d
      intro d d' start ordered last
      exact rising_under_first nonneg little moderate start ordered (by linarith)
    apply antitoneOn_join first third
    all_goals linarith
  · have first : AntitoneOn (fun d => setpointOf (underVoltage 0 m b d))
        (Set.Icc 0 (3 / 4 * (1 - m))) := by
      apply antitoneOn_of_sinks fun d _ => answers d
      intro d d' start ordered last
      exact rising_under_first nonneg little moderate start ordered (by linarith)
    have second : AntitoneOn (fun d => setpointOf (underVoltage 0 m b d))
        (Set.Icc (3 / 4 * (1 - m)) m) := by
      apply antitoneOn_of_sinks fun d _ => answers d
      intro d d' start ordered last
      exact rising_under_second nonneg little moderate (by linarith) ordered last
    apply antitoneOn_join (antitoneOn_join first second _ late) third
    all_goals linarith

end RisingDemand

section HighDemand

/-- From 72.56 W to 75 W, while MED and HIGH rise. The least such demand is the one at which
the setpoint is at 70 W when the degrees of under voltage and of high demand are equal. -/
theorem high_under_first (least : 216327 / 344480 ≤ b) (most : b ≤ 3 / 4)
    (moderate : m = 2 / 3 * (1 - b)) (start : 0 ≤ d) (ordered : d ≤ d') (under : b ≤ 1 - 4 / 3 * d') :
    Sinks 280 400 (underVoltage 0 m b d) (underVoltage 0 m b d') := by
  constructor
  · have corner : 0 ≤ torqueAt 280 (cuts 0 0 (128153 / 516720) (7 / 25) (216327 / 344480)) := by
      apply corner_nonneg 43060 0 0 1281530 1446816 3244905 (by decide)
      intro label
      cases label <;> norm_num
    -- HIGH rises above MED before MED does
    have raised : torqueAt 280 (cuts 0 0 (min d' m) (7 / 25) b)
        ≤ torqueAt 280 (underVoltage 0 m b d') := by
      apply torque_70_rising
      all_goals grind
    apply corner.trans (le_trans _ raised)
    apply torque_70_rising
    all_goals grind
  · exact torqueAt_last _
  · apply torque_70_rising
    all_goals grind
  · apply torque_100
    all_goals grind

/-- Where HIGH outgrows MED, the setpoint lies below 80 W. -/
theorem high_under_start (most : b ≤ 3 / 4) (moderate : m = 2 / 3 * (1 - b)) (high : 3 / 16 ≤ b)
    (under : 3 / 4 * (1 - b) ≤ d) (atMost : d ≤ 3 / 4) : torqueAt 320 (underVoltage 0 m b d) ≤ 0 := by
  have corner : torqueAt 320 (cuts 0 0 (1 / 6) (3 / 16) (3 / 4)) ≤ 0 := by
    apply corner_nonpos 2 0 0 40 45 180 (by decide)
    intro label
    cases label <;> norm_num
  apply le_trans _ corner
  apply torque_80
  all_goals grind

/-- Where high demand cuts HIGH off, the setpoint lies above 63 W. -/
theorem high_under_end (least : 216327 / 344480 ≤ b) (most : b ≤ 3 / 4)
    (moderate : m = 2 / 3 * (1 - b)) : 0 ≤ torqueAt 252 (cuts 0 0 m b (1 - 4 / 3 * b)) := by
  rcases le_total b (33 / 50) with first | later
  · have corner : 0 ≤ torqueAt 252
        (cuts 0 0 (128153 / 516720) (216327 / 344480) (3 / 25)) := by
      apply corner_nonneg 43060 0 0 1281530 3244905 620064 (by decide)
      intro label
      cases label <;> norm_num
    apply corner.trans
    apply torque_63
    all_goals grind
  · rcases le_total b (7 / 10) with second | third
    · have corner : 0 ≤ torqueAt 252 (cuts 0 0 (17 / 75) (33 / 50) (1 / 15)) := by
        apply corner_nonneg 5 0 0 136 396 40 (by decide)
        intro label
        cases label <;> norm_num
      apply corner.trans
      apply torque_63
      all_goals grind
    · have corner : 0 ≤ torqueAt 252 (cuts 0 0 (1 / 5) (7 / 10) 0) := by
        apply corner_nonneg 1 0 0 24 84 0 (by decide)
        intro label
        cases label <;> norm_num
      apply corner.trans
      apply torque_63
      all_goals grind

/-- While HIGH rises and MAX falls. -/
theorem high_under_second (least : 216327 / 344480 ≤ b) (most : b ≤ 3 / 4)
    (moderate : m = 2 / 3 * (1 - b)) (under : 3 / 4 * (1 - b) ≤ d) (ordered : d ≤ d')
    (cut : d' ≤ b) : Sinks 252 320 (underVoltage 0 m b d) (underVoltage 0 m b d') := by
  have shape {d : ℚ} (under : 3 / 4 * (1 - b) ≤ d) (cut : d ≤ b) :
      underVoltage 0 m b d = cuts 0 0 m d (1 - 4 / 3 * d) := by
    funext label
    cases label <;> simp only [underVoltage, cuts] <;> grind
  constructor
  · apply (high_under_end least most moderate).trans
    rw [shape (under.trans ordered) cut]
    apply torque_63_count
    all_goals grind
  · apply high_under_start most moderate _ under
    all_goals linarith
  · rw [shape under (ordered.trans cut), shape (under.trans ordered) cut]
    apply torque_63_count
    all_goals grind
  · apply torque_80
    all_goals grind

/-- While only MAX falls. -/
theorem high_under_third (least : 216327 / 344480 ≤ b) (most : b ≤ 3 / 4)
    (moderate : m = 2 / 3 * (1 - b)) (cut : b ≤ d) (ordered : d ≤ d') (atMost : d' ≤ 3 / 4) :
    Sinks 0 320 (underVoltage 0 m b d) (underVoltage 0 m b d') := by
  constructor
  · exact torqueAt_first _
  · apply high_under_start most moderate
    all_goals linarith
  · apply torque_0
    all_goals grind
  · apply torque_80
    all_goals grind

/-- From 72.56 W to 75 W the setpoint does not rise with the voltage. -/
theorem high_under (least : 216327 / 344480 ≤ b) (most : b ≤ 3 / 4)
    (moderate : m = 2 / 3 * (1 - b)) :
    AntitoneOn (fun d => setpointOf (underVoltage 0 m b d)) (Set.Icc 0 (3 / 4)) := by
  have answers (d : ℚ) : ∃ label, 0 < underVoltage 0 m b d label :=
    underVoltage_answers (.inl (by linarith)) d
  have first : AntitoneOn (fun d => setpointOf (underVoltage 0 m b d))
      (Set.Icc 0 (3 / 4 * (1 - b))) := by
    apply antitoneOn_of_sinks fun d _ => answers d
    intro d d' start ordered last
    exact high_under_first least most moderate start ordered (by linarith)
  have second : AntitoneOn (fun d => setpointOf (underVoltage 0 m b d))
      (Set.Icc (3 / 4 * (1 - b)) b) := by
    apply antitoneOn_of_sinks fun d _ => answers d
    intro d d' start ordered last
    exact high_under_second least most moderate start ordered last
  have third : AntitoneOn (fun d => setpointOf (underVoltage 0 m b d)) (Set.Icc b (3 / 4)) := by
    apply antitoneOn_of_sinks fun d _ => answers d
    intro d d' start ordered last
    exact high_under_third least most moderate start ordered last
  apply antitoneOn_join (antitoneOn_join first second _ _) third
  all_goals linarith

end HighDemand

section FullDemand

/-- From 80 W, while MAX is cut off above two fifths. -/
theorem full_under_first (start : 0 ≤ d) (ordered : d ≤ d') (cut : d' ≤ 9 / 20) :
    Sinks 280 372 (underVoltage 0 0 1 d) (underVoltage 0 0 1 d') := by
  have shape {d : ℚ} (start : 0 ≤ d) (cut : d ≤ 9 / 20) :
      underVoltage 0 0 1 d = cuts 0 0 0 d (1 - 4 / 3 * d) := by
    funext label
    cases label <;> simp only [underVoltage, cuts] <;> grind
  rw [shape start (ordered.trans cut), shape (start.trans ordered) cut]
  constructor
  · apply torque_70_nonneg
    all_goals grind
  · have corner : torqueAt 372 (cuts 0 0 0 0 1) ≤ 0 := by
      apply corner_nonpos 1 0 0 0 0 120 (by decide)
      intro label
      cases label <;> norm_num
    apply le_trans _ corner
    apply torque_93
    all_goals grind
  · apply torque_70_rising
    all_goals grind
  · apply torque_93
    all_goals grind

/-- And below. -/
theorem full_under_second (start : 9 / 20 ≤ d) (ordered : d ≤ d') (atMost : d' ≤ 3 / 4) :
    Sinks 280 340 (underVoltage 0 0 1 d) (underVoltage 0 0 1 d') := by
  have shape {d : ℚ} (start : 9 / 20 ≤ d) (atMost : d ≤ 3 / 4) :
      underVoltage 0 0 1 d = cuts 0 0 0 d (1 - 4 / 3 * d) := by
    funext label
    cases label <;> simp only [underVoltage, cuts] <;> grind
  rw [shape start (ordered.trans atMost), shape (start.trans ordered) atMost]
  constructor
  · apply torque_70_nonneg
    all_goals grind
  · have corner : torqueAt 340 (cuts 0 0 0 (9 / 20) (2 / 5)) ≤ 0 := by
      apply corner_nonpos 1 0 0 0 54 48 (by decide)
      intro label
      cases label <;> norm_num
    apply le_trans _ corner
    apply torque_85
    all_goals grind
  · apply torque_70_rising
    all_goals grind
  · apply torque_85
    all_goals grind

/-- Under a full demand the setpoint does not rise with the voltage. -/
theorem full_under :
    AntitoneOn (fun d => setpointOf (underVoltage 0 0 1 d)) (Set.Icc 0 (3 / 4)) := by
  have answers (d : ℚ) : ∃ label, 0 < underVoltage 0 0 1 d label :=
    underVoltage_answers (.inr one_pos) d
  have first : AntitoneOn (fun d => setpointOf (underVoltage 0 0 1 d)) (Set.Icc 0 (9 / 20)) := by
    apply antitoneOn_of_sinks fun d _ => answers d
    intro d d' start ordered last
    exact full_under_first start ordered last
  have second : AntitoneOn (fun d => setpointOf (underVoltage 0 0 1 d))
      (Set.Icc (9 / 20) (3 / 4)) := by
    apply antitoneOn_of_sinks fun d _ => answers d
    intro d d' start ordered last
    exact full_under_second start ordered last
  apply antitoneOn_join first second
  all_goals norm_num

end FullDemand

end Microgrid.Ems
