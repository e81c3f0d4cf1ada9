import Microgrid.Ems.UnderVoltage

/-!
# The setpoint on a bus over voltage

Above a bus voltage error of 0.2 the degree of over voltage rises from 0 to 1, and the degree
of nominal voltage falls with it from 3/4 to 0. Both are followed along the degree of over
voltage.
-/

namespace Microgrid.Ems

open FuzzyControl

/-- The heights on a bus over voltage: `a`, `m` and `b` are the degrees of low, moderate and
high demand and `d` is the degree of over voltage. -/
def overVoltage (a m b d : ℚ) : OutLabel → ℚ :=
  cuts (min d a) (max (min (3 / 4 * (1 - d)) a) (min d m))
    (max (min (3 / 4 * (1 - d)) m) (min d b)) (min (3 / 4 * (1 - d)) b) 0

variable {a m b d d' : ℚ}

/-- Some output set is answered. -/
theorem overVoltage_answers (demand : 0 < m ∨ 0 < b) (nonneg : 0 ≤ d) :
    ∃ label, 0 < overVoltage a m b d label := by
  rcases nonneg.eq_or_lt with nominal | above
  · subst nominal
    rcases demand with moderate | high
    · refine ⟨.med, lt_max_of_lt_left (lt_min ?_ moderate)⟩
      norm_num
    · refine ⟨.high, lt_min ?_ high⟩
      norm_num
  · rcases demand with moderate | high
    · exact ⟨.low, lt_max_of_lt_right (lt_min above moderate)⟩
    · exact ⟨.med, lt_max_of_lt_right (lt_min above high)⟩

section LightDemand

/-- While moderate demand cuts MED off, ZERO and LOW rise. -/
theorem light_over_first (demand : LightDemand a m) (nonneg : 0 ≤ d) (ordered : d ≤ d')
    (nominal : m ≤ 3 / 4 * (1 - d')) (cut : d' ≤ m) :
    Sinks 80 400 (overVoltage a m 0 d) (overVoltage a m 0 d') := by
  obtain ⟨lowNonneg, little, moderate, slopes⟩ := demand
  constructor
  · have corner : 0 ≤ torqueAt 80 (cuts (2 / 5) (3 / 4) (3 / 16) 0 0) := by
      apply corner_nonneg 2 96 180 45 0 0 (by decide)
      intro label
      cases label <;> norm_num
    apply corner.trans
    apply torque_20
    all_goals grind
  · exact torqueAt_last _
  · apply torque_20
    all_goals grind
  · apply torque_100
    all_goals grind

/-- While MED falls above two thirds. -/
theorem light_over_second (none : a = 0) (most : 2 / 3 ≤ m ∧ m ≤ 3 / 4) (nonneg : 0 ≤ d)
    (nominal : 3 / 4 * (1 - d) ≤ m) (ordered : d ≤ d') (early : d' ≤ 1 / 9) :
    Sinks 80 168 (overVoltage a m 0 d) (overVoltage a m 0 d') := by
  have shape {d : ℚ} (nonneg : 0 ≤ d) (nominal : 3 / 4 * (1 - d) ≤ m) (early : d ≤ 1 / 9) :
      overVoltage a m 0 d = cuts 0 d (3 / 4 * (1 - d)) 0 0 := by
    funext label
    cases label <;> simp only [overVoltage, cuts] <;> grind
  rw [shape nonneg nominal (ordered.trans early),
    shape (nonneg.trans ordered) (by linarith) early]
  constructor
  · have corner : 0 ≤ torqueAt 80 (cuts 0 (3 / 4) (3 / 16) 0 0) := by
      apply corner_nonneg 2 0 180 45 0 0 (by decide)
      intro label
      cases label <;> norm_num
    apply corner.trans
    apply torque_20
    all_goals grind
  · have corner : torqueAt 168 (cuts 0 0 (2 / 3) 0 0) ≤ 0 := by
      apply corner_nonpos 1 0 0 80 0 0 (by decide)
      intro label
      cases label <;> norm_num
    apply le_trans _ corner
    apply torque_42
    all_goals grind
  · apply torque_20
    all_goals grind
  · apply torque_42_count
    all_goals grind

/-- While MED falls below two thirds. -/
theorem light_over_third (demand : LightDemand a m) (later : 1 / 9 ≤ d) (ordered : d ≤ d')
    (cut : d' ≤ m) : Sinks 80 160 (overVoltage a m 0 d) (overVoltage a m 0 d') := by
  obtain ⟨lowNonneg, little, moderate, slopes⟩ := demand
  constructor
  · have corner : 0 ≤ torqueAt 80 (cuts (2 / 5) (3 / 4) (3 / 16) 0 0) := by
      apply corner_nonneg 2 96 180 45 0 0 (by decide)
      intro label
      cases label <;> norm_num
    apply corner.trans
    apply torque_20
    all_goals grind
  · have corner : torqueAt 160 (cuts 0 (1 / 9) (2 / 3) 0 0) ≤ 0 := by
      apply corner_nonpos 3 0 40 240 0 0 (by decide)
      intro label
      cases label <;> norm_num
    apply le_trans _ corner
    apply torque_40
    all_goals grind
  · apply torque_20
    all_goals grind
  · apply torque_40
    all_goals grind

/-- When moderate demand cuts LOW off, only MED falls. -/
theorem light_over_fourth (demand : LightDemand a m) (cut : m ≤ d) (ordered : d ≤ d')
    (most : d' ≤ 1) : Sinks 0 160 (overVoltage a m 0 d) (overVoltage a m 0 d') := by
  obtain ⟨lowNonneg, little, moderate, slopes⟩ := demand
  constructor
  · exact torqueAt_first _
  · have corner : torqueAt 160 (cuts 0 (1 / 9) (2 / 3) 0 0) ≤ 0 := by
      apply corner_nonpos 3 0 40 240 0 0 (by decide)
      intro label
      cases label <;> norm_num
    apply le_trans _ corner
    apply torque_40
    all_goals grind
  · apply torque_0
    all_goals grind
  · apply torque_40
    all_goals grind

/-- Under a light demand the setpoint does not rise with the voltage. -/
theorem light_over (demand : LightDemand a m) :
    AntitoneOn (fun d => setpointOf (overVoltage a m 0 d)) (Set.Icc 0 1) := by
  have bounds : 1 / 9 ≤ m ∧ m ≤ 1 := by
    obtain ⟨lowNonneg, little, moderate, slopes⟩ := demand
    grind
  have positive : 0 < m := by linarith
  have answers {d : ℚ} (nonneg : 0 ≤ d) :=
    overVoltage_answers (a := a) (b := 0) (.inl positive) nonneg
  have third : AntitoneOn (fun d => setpointOf (overVoltage a m 0 d)) (Set.Icc (1 / 9) m) := by
    apply antitoneOn_of_sinks fun d inside => answers (le_trans (by norm_num) inside.1)
    intro d d' first ordered last
    exact light_over_third demand first ordered last
  have fourth : AntitoneOn (fun d => setpointOf (overVoltage a m 0 d)) (Set.Icc m 1) := by
    apply antitoneOn_of_sinks fun d inside => answers (positive.le.trans inside.1)
    intro d d' first ordered last
    exact light_over_fourth demand first ordered last
  have late := antitoneOn_join third fourth bounds.1 bounds.2
  rcases le_total m (2 / 3) with less | more
  · have first : AntitoneOn (fun d => setpointOf (overVoltage a m 0 d)) (Set.Icc 0 (1 / 9)) := by
      apply antitoneOn_of_sinks fun d inside => answers inside.1
      intro d d' start ordered last
      exact light_over_first demand start ordered (by linarith) (last.trans bounds.1)
    apply antitoneOn_join first late
    all_goals norm_num
  · have most : m ≤ 3 / 4 := demand.moderate
    have first : AntitoneOn (fun d => setpointOf (overVoltage a m 0 d))
        (Set.Icc 0 (1 - 4 / 3 * m)) := by
      apply antitoneOn_of_sinks fun d inside => answers inside.1
      intro d d' start ordered last
      exact light_over_first demand start ordered (by linarith) (by linarith)
    have second : AntitoneOn (fun d => setpointOf (overVoltage a m 0 d))
        (Set.Icc (1 - 4 / 3 * m) (1 / 9)) := by
      apply antitoneOn_of_sinks fun d inside => answers (le_trans (by linarith) inside.1)
      intro d d' start ordered last
      have none : a = 0 := by
        obtain ⟨lowNonneg, little, moderate, slopes⟩ := demand
        grind
      exact light_over_second none ⟨more, most⟩ (by linarith) (by linarith) ordered last
    apply antitoneOn_join (antitoneOn_join first second _ _) late
    all_goals linarith

end LightDemand

section RisingDemand

/-- From 60 W to 64.73 W, while LOW rises alone. -/
theorem rising_over_first (nonneg : 0 ≤ b) (little : b ≤ 12095 / 51096)
    (moderate : m = 2 / 3 * (1 - b)) (start : 0 ≤ d) (ordered : d ≤ d')
    (nominal : m ≤ 3 / 4 * (1 - d')) :
    Sinks 80 400 (overVoltage 0 m b d) (overVoltage 0 m b d') := by
  have shape {d : ℚ} (start : 0 ≤ d) (nominal : m ≤ 3 / 4 * (1 - d)) :
      overVoltage 0 m b d = cuts 0 d m b 0 := by
    funext label
    cases label <;> simp only [overVoltage, cuts] <;> grind
  rw [shape start (by linarith), shape (start.trans ordered) nominal]
  constructor
  · have corner : 0 ≤ torqueAt 80 (cuts 0 (2 / 3) (1 / 4) 0 0) := by
      apply corner_nonneg 1 0 80 30 0 0 (by decide)
      intro label
      cases label <;> norm_num
    apply corner.trans
    apply torque_20
    all_goals grind
  · exact torqueAt_last _
  · apply torque_20
    all_goals grind
  · apply torque_100
    all_goals grind

/-- While LOW rises and MED falls. -/
theorem rising_over_second (nonneg : 0 ≤ b) (little : b ≤ 12095 / 51096)
    (moderate : m = 2 / 3 * (1 - b)) (nominal : 3 / 4 * (1 - d) ≤ m) (ordered : d ≤ d')
    (cut : d' ≤ m) : Sinks 80 200 (overVoltage 0 m b d) (overVoltage 0 m b d') := by
  have shape {d : ℚ} (nominal : 3 / 4 * (1 - d) ≤ m) (cut : d ≤ m) :
      overVoltage 0 m b d = cuts 0 d (3 / 4 * (1 - d)) b 0 := by
    funext label
    cases label <;> simp only [overVoltage, cuts] <;> grind
  rw [shape nominal (ordered.trans cut), shape (by linarith) cut]
  constructor
  · have corner : 0 ≤ torqueAt 80 (cuts 0 (2 / 3) (1 / 4) 0 0) := by
      apply corner_nonneg 1 0 80 30 0 0 (by decide)
      intro label
      cases label <;> norm_num
    apply corner.trans
    apply torque_20
    all_goals grind
  · have corner : torqueAt 200 (cuts 0 (1 / 9) (1 / 2) (1 / 4) 0) ≤ 0 := by
      apply corner_nonpos 3 0 40 180 90 0 (by decide)
      intro label
      cases label <;> norm_num
    -- the stretch begins where the degree of nominal voltage is that of moderate demand
    have begins : torqueAt 200 (cuts 0 (1 - 4 / 3 * m) m b 0) ≤
        torqueAt 200 (cuts 0 (1 / 9) (1 / 2) (1 / 4) 0) := by
      apply torque_50
      all_goals grind
    apply le_trans _ (begins.trans corner)
    apply torque_50_count
    all_goals grind
  · apply torque_20
    all_goals grind
  · apply torque_50_count
    all_goals grind

/-- While MED falls above 11/30. -/
theorem rising_over_third (nonneg : 0 ≤ b) (little : b ≤ 12095 / 51096)
    (moderate : m = 2 / 3 * (1 - b)) (cut : m ≤ d) (ordered : d ≤ d')
    (nominal : 11 / 30 ≤ 3 / 4 * (1 - d')) :
    Sinks 0 167 (overVoltage 0 m b d) (overVoltage 0 m b d') := by
  have shape {d : ℚ} (cut : m ≤ d) (nominal : 11 / 30 ≤ 3 / 4 * (1 - d)) :
      overVoltage 0 m b d = cuts 0 m (3 / 4 * (1 - d)) b 0 := by
    funext label
    cases label <;> simp only [overVoltage, cuts] <;> grind
  rw [shape cut (by linarith), shape (cut.trans ordered) nominal]
  constructor
  · exact torqueAt_first _
  · have corner : torqueAt 167 (cuts 0 (39001 / 76644) (3 / 8) (12095 / 51096) 0) ≤ 0 := by
      apply corner_nonpos 12774 0 780020 574830 362850 0 (by decide)
      intro label
      cases label <;> norm_num
    apply le_trans _ corner
    apply torque_167_quarter
    all_goals grind
  · apply torque_0
    all_goals grind
  · apply torque_167_quarter
    all_goals grind

/-- While MED and HIGH fall. -/
theorem rising_over_fourth (nonneg : 0 ≤ b) (little : b ≤ 12095 / 51096)
    (moderate : m = 2 / 3 * (1 - b)) (cut : m ≤ d) (nominal : 3 / 4 * (1 - d) ≤ 11 / 30)
    (ordered : d ≤ d') (most : d' ≤ 1) :
    Sinks 0 166 (overVoltage 0 m b d) (overVoltage 0 m b d') := by
  have shape {d : ℚ} (cut : m ≤ d) (nominal : 3 / 4 * (1 - d) ≤ 11 / 30) (most : d ≤ 1) :
      overVoltage 0 m b d = cuts 0 m (max (3 / 4 * (1 - d)) b) (min (3 / 4 * (1 - d)) b) 0 := by
    funext label
    cases label <;> simp only [overVoltage, cuts] <;> grind
  rw [shape cut nominal (ordered.trans most), shape (cut.trans ordered) (by linarith) most]
  constructor
  · exact torqueAt_first _
  · have corner : torqueAt 166 (cuts 0 (39001 / 76644) (11 / 30) (12095 / 51096) 0) ≤ 0 := by
      apply corner_nonpos 12774 0 780020 562056 362850 0 (by decide)
      intro label
      cases label <;> norm_num
    -- HIGH falls first, then MED
    have lowered : torqueAt 166
          (cuts 0 (39001 / 76644) (11 / 30) (min (3 / 4 * (1 - d)) b) 0) ≤
        torqueAt 166 (cuts 0 (39001 / 76644) (11 / 30) (12095 / 51096) 0) := by
      apply torque_83_half_low
      all_goals grind
    apply le_trans _ (lowered.trans corner)
    apply torque_83_half_low
    all_goals grind
  · apply torque_0
    all_goals grind
  · apply torque_83_half_low
    all_goals grind

/-- From 60 W to 64.73 W the setpoint does not rise with the voltage. -/
theorem rising_over (nonneg : 0 ≤ b) (little : b ≤ 12095 / 51096)
    (moderate : m = 2 / 3 * (1 - b)) :
    AntitoneOn (fun d => setpointOf (overVoltage 0 m b d)) (Set.Icc 0 1) := by
  have answers {d : ℚ} (start : 0 ≤ d) : ∃ label, 0 < overVoltage 0 m b d label :=
    overVoltage_answers (.inl (by linarith)) start
  have first : AntitoneOn (fun d => setpointOf (overVoltage 0 m b d))
      (Set.Icc 0 (1 - 4 / 3 * m)) := by
    apply antitoneOn_of_sinks fun d inside => answers inside.1
    intro d d' start ordered last
    exact rising_over_first nonneg little moderate start ordered (by linarith)
  have second : AntitoneOn (fun d => setpointOf (overVoltage 0 m b d))
      (Set.Icc (1 - 4 / 3 * m) m) := by
    apply antitoneOn_of_sinks fun d inside => answers (le_trans (by linarith) inside.1)
    intro d d' start ordered last
    exact rising_over_second nonneg little moderate (by linarith) ordered last
  have early : AntitoneOn (fun d => setpointOf (overVoltage 0 m b d)) (Set.Icc 0 m) := by
    apply antitoneOn_join first second
    all_goals linarith
  have fourth {start : ℚ} (cut : m ≤ start) (nominal : 23 / 45 ≤ start) :
      AntitoneOn (fun d => setpointOf (overVoltage 0 m b d)) (Set.Icc start 1) := by
    apply antitoneOn_of_sinks fun d inside => answers (le_trans (by linarith) inside.1)
    intro d d' began ordered last
    exact rising_over_fourth nonneg little moderate (cut.trans began) (by linarith) ordered last
  rcases le_total m (23 / 45) with before | beyond
  · have third : AntitoneOn (fun d => setpointOf (overVoltage 0 m b d))
        (Set.Icc m (23 / 45)) := by
      apply antitoneOn_of_sinks fun d inside => answers (le_trans (by linarith) inside.1)
      intro d d' began ordered last
      exact rising_over_third nonneg little moderate began ordered (by linarith)
    apply antitoneOn_join early (antitoneOn_join third (fourth before le_rfl) before (by norm_num))
    all_goals linarith
  · apply antitoneOn_join early (fourth le_rfl beyond)
    all_goals linarith

end RisingDemand

section HighDemand

/-- From 68 W to 75 W, while MED rises and HIGH falls. -/
theorem high_over_first (least : 2 / 5 ≤ b) (most : b ≤ 3 / 4) (moderate : m = 2 / 3 * (1 - b))
    (start : 0 ≤ d) (ordered : d ≤ d') (cut : d' ≤ b) :
    Sinks 172 280 (overVoltage 0 m b d) (overVoltage 0 m b d') := by
  have shape {d : ℚ} (start : 0 ≤ d) (cut : d ≤ b) :
      overVoltage 0 m b d = cuts 0 (min d m) (max m d) (min (3 / 4 * (1 - d)) b) 0 := by
    funext label
    cases label <;> simp only [overVoltage, cuts] <;> grind
  rw [shape start (ordered.trans cut), shape (start.trans ordered) cut]
  constructor
  · rcases le_total b (3 / 5) with less | more
    · have corner : 0 ≤ torqueAt 172 (cuts 0 (2 / 5) (3 / 5) (3 / 10) 0) := by
        apply corner_nonneg 1 0 48 72 36 0 (by decide)
        intro label
        cases label <;> norm_num
      -- MED rises first, then LOW
      have raised : torqueAt 172 (cuts 0 (min d' m) (3 / 5) (3 / 10) 0)
          ≤ torqueAt 172 (cuts 0 (min d' m) (max m d') (min (3 / 4 * (1 - d')) b) 0) := by
        apply torque_43
        all_goals grind
      apply corner.trans (le_trans _ raised)
      apply torque_43
      all_goals grind
    · have corner : 0 ≤ torqueAt 172 (cuts 0 (4 / 15) (3 / 4) (3 / 16) 0) := by
        apply corner_nonneg 2 0 64 180 45 0 (by decide)
        intro label
        cases label <;> norm_num
      have raised : torqueAt 172 (cuts 0 (min d' m) (3 / 4) (3 / 16) 0)
          ≤ torqueAt 172 (cuts 0 (min d' m) (max m d') (min (3 / 4 * (1 - d')) b) 0) := by
        apply torque_43
        all_goals grind
      apply corner.trans (le_trans _ raised)
      apply torque_43
      all_goals grind
  · apply torque_70_nonpos
    all_goals grind
  · apply torque_43
    all_goals grind
  · apply torque_70_falling
    all_goals grind

/-- When high demand cuts MED off, only HIGH falls. -/
theorem high_over_second (least : 2 / 5 ≤ b) (most : b ≤ 3 / 4) (moderate : m = 2 / 3 * (1 - b))
    (cut : b ≤ d) (ordered : d ≤ d') (last : d' ≤ 1) :
    Sinks 0 280 (overVoltage 0 m b d) (overVoltage 0 m b d') := by
  have shape {d : ℚ} (cut : b ≤ d) (last : d ≤ 1) :
      overVoltage 0 m b d = cuts 0 m b (min (3 / 4 * (1 - d)) b) 0 := by
    funext label
    cases label <;> simp only [overVoltage, cuts] <;> grind
  rw [shape cut (ordered.trans last), shape (cut.trans ordered) last]
  constructor
  · exact torqueAt_first _
  · apply torque_70_nonpos
    all_goals grind
  · apply torque_0
    all_goals grind
  · apply torque_70_falling
    all_goals grind

/-- From 68 W to 75 W the setpoint does not rise with the voltage. -/
theorem high_over (least : 2 / 5 ≤ b) (most : b ≤ 3 / 4) (moderate : m = 2 / 3 * (1 - b)) :
    AntitoneOn (fun d => setpointOf (overVoltage 0 m b d)) (Set.Icc 0 1) := by
  have answers {d : ℚ} (start : 0 ≤ d) : ∃ label, 0 < overVoltage 0 m b d label :=
    overVoltage_answers (.inl (by linarith)) start
  have first : AntitoneOn (fun d => setpointOf (overVoltage 0 m b d)) (Set.Icc 0 b) := by
    apply antitoneOn_of_sinks fun d inside => answers inside.1
    intro d d' start ordered last
    exact high_over_first least most moderate start ordered last
  have second : AntitoneOn (fun d => setpointOf (overVoltage 0 m b d)) (Set.Icc b 1) := by
    apply antitoneOn_of_sinks fun d inside => answers (le_trans (by linarith) inside.1)
    intro d d' start ordered last
    exact high_over_second least most moderate start ordered last
  apply antitoneOn_join first second
  all_goals linarith

end HighDemand

section FullDemand

/-- From 80 W, MED rises as HIGH falls. -/
theorem full_over_shape (start : 0 ≤ d) (last : d ≤ 1) :
    overVoltage 0 0 1 d = cuts 0 0 d (3 / 4 * (1 - d)) 0 := by
  funext label
  cases label <;> simp only [overVoltage, cuts] <;> grind

/-- While MED is cut off below one half. -/
theorem full_over_first (start : 0 ≤ d) (ordered : d ≤ d') (half : d' ≤ 1 / 2) :
    Sinks 172 280 (overVoltage 0 0 1 d) (overVoltage 0 0 1 d') := by
  rw [full_over_shape start (by linarith), full_over_shape (by linarith) (by linarith)]
  constructor
  · have corner : 0 ≤ torqueAt 172 (cuts 0 0 (1 / 2) (3 / 8) 0) := by
      apply corner_nonneg 1 0 0 60 45 0 (by decide)
      intro label
      cases label <;> norm_num
    apply corner.trans
    apply torque_43
    all_goals grind
  · apply torque_70_nonpos
    all_goals grind
  · apply torque_43
    all_goals grind
  · apply torque_70_falling
    all_goals grind

/-- And above. -/
theorem full_over_second (half : 1 / 2 ≤ d) (ordered : d ≤ d') (last : d' ≤ 1) :
    Sinks 166 280 (overVoltage 0 0 1 d) (overVoltage 0 0 1 d') := by
  rw [full_over_shape (by linarith) (by linarith), full_over_shape (by linarith) last]
  constructor
  · have corner : 0 ≤ torqueAt 166 (cuts 0 0 1 0 0) := by
      apply corner_nonneg 1 0 0 120 0 0 (by decide)
      intro label
      cases label <;> norm_num
    apply corner.trans
    apply torque_83_half
    all_goals grind
  · apply torque_70_nonpos
    all_goals grind
  · apply torque_83_half
    all_goals grind
  · apply torque_70_falling
    all_goals grind

/-- Under a full demand the setpoint does not rise with the voltage. -/
theorem full_over :
    AntitoneOn (fun d => setpointOf (overVoltage 0 0 1 d)) (Set.Icc 0 1) := by
  have first : AntitoneOn (fun d => setpointOf (overVoltage 0 0 1 d)) (Set.Icc 0 (1 / 2)) := by
    apply antitoneOn_of_sinks fun d inside => overVoltage_answers (.inr one_pos) inside.1
    intro d d' start ordered last
    exact full_over_first start ordered last
  have second : AntitoneOn (fun d => setpointOf (overVoltage 0 0 1 d)) (Set.Icc (1 / 2) 1) := by
    apply antitoneOn_of_sinks fun d inside =>
      overVoltage_answers (.inr one_pos) (le_trans (by norm_num) inside.1)
    intro d d' start ordered last
    exact full_over_second start ordered last
  apply antitoneOn_join first second
  all_goals norm_num

end FullDemand

end Microgrid.Ems
