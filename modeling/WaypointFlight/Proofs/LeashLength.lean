import WaypointFlight.Leash.Law
import WaypointFlight.Proofs.Reals

namespace WaypointFlight.Leash

open Scalar

/-- The lag of a proportional controller at a speed: the leash while the speed is at most
`accel / gain`. -/
noncomputable def lag (speed gain : ℝ) : ℝ := speed / gain

noncomputable def stoppingDistance (speed accel : ℝ) : ℝ := speed ^ 2 / (2.0 * accel)

noncomputable def overrun (speed accel gain : ℝ) : ℝ :=
  accel / (2.0 * gain ^ 2) + stoppingDistance speed accel

variable {accel gain stiffer speed faster : ℝ}

theorem shortest_real : (shortest : ℝ) = 100 := by norm_num [shortest]

theorem stoppingDistance_real : stoppingDistance speed accel = speed ^ 2 / (2 * accel) := by
  norm_num [stoppingDistance]

theorem overrun_sub_lag (ha : 0 < accel) (hk : 0 < gain) :
    overrun speed accel gain - lag speed gain = (speed - accel / gain) ^ 2 / (2 * accel) := by
  unfold overrun stoppingDistance lag
  norm_num
  field_simp
  ring

theorem lag_eq_overrun (ha : 0 < accel) (hk : 0 < gain) :
    lag (accel / gain) gain = overrun (accel / gain) accel gain := by
  have hgap : overrun (accel / gain) accel gain - lag (accel / gain) gain = 0 := by
    rw [overrun_sub_lag ha hk, sub_self, zero_pow two_ne_zero, zero_div]
  exact (sub_eq_zero.mp hgap).symm

/-- The mean of two squares is at least the product. -/
theorem lag_le_overrun (ha : 0 < accel) (hk : 0 < gain) :
    lag speed gain ≤ overrun speed accel gain := by
  rw [← sub_nonneg, overrun_sub_lag ha hk]
  positivity

theorem stoppingDistance_le_overrun (ha : 0 < accel) :
    stoppingDistance speed accel ≤ overrun speed accel gain :=
  le_add_of_nonneg_left (by positivity)

theorem stoppingDistance_le_lag (ha : 0 < accel) (hk : 0 < gain) (hv : 0 ≤ speed)
    (hslow : speed ≤ accel / gain) : stoppingDistance speed accel ≤ lag speed gain := by
  rw [le_div_iff₀ hk] at hslow
  rw [stoppingDistance, lag, div_le_div_iff₀ (by positivity) hk]
  nlinarith [mul_nonneg hv ha.le, mul_le_mul_of_nonneg_left hslow hv]

theorem lag_mono (hk : 0 < gain) (h : speed ≤ faster) : lag speed gain ≤ lag faster gain :=
  div_le_div_of_nonneg_right h hk.le

theorem lag_anti (hk : 0 < gain) (hv : 0 ≤ speed) (h : gain ≤ stiffer) :
    lag speed stiffer ≤ lag speed gain :=
  div_le_div_of_nonneg_left hv hk h

theorem overrun_mono (ha : 0 < accel) (hv : 0 ≤ speed) (h : speed ≤ faster) :
    overrun speed accel gain ≤ overrun faster accel gain := by
  unfold overrun stoppingDistance
  gcongr

theorem overrun_anti (ha : 0 < accel) (hk : 0 < gain) (h : gain ≤ stiffer) :
    overrun speed accel stiffer ≤ overrun speed accel gain := by
  unfold overrun
  gcongr

/-- A gain for which a speed overruns asks for no more than one that the speed just meets. -/
theorem overrun_le_lag (ha : 0 < accel) (hk : 0 < gain) (hv : 0 < speed)
    (hslow : speed ≤ accel / gain) (hfast : accel / stiffer ≤ speed) (hs : 0 < stiffer) :
    overrun speed accel stiffer ≤ lag speed gain := by
  have hmeets : 0 < accel / speed := div_pos ha hv
  have hback : accel / (accel / speed) = speed := div_div_cancel₀ ha.ne'
  calc
    overrun speed accel stiffer ≤ overrun speed accel (accel / speed) :=
      overrun_anti ha hmeets ((div_le_comm₀ hs hv).mp hfast)
    _ = lag speed (accel / speed) := by
      have hbranch := lag_eq_overrun ha hmeets
      rw [hback] at hbranch
      exact hbranch.symm
    _ ≤ lag speed gain := lag_anti hk hv.le ((le_div_comm₀ hv hk).mp hslow)

theorem length_eq (ha : 0 < accel) (hk : 0 < gain) :
    length speed accel gain =
      max (if speed ≤ accel / gain then lag speed gain else overrun speed accel gain) 100 := by
  have hexcess : accel / (2.0 * gain * gain) + speed * speed / (2.0 * accel) =
      overrun speed accel gain := by
    rw [overrun, stoppingDistance]
    norm_num [mul_assoc, sq]
  simp only [length, zero_literal, not_le.mpr ha, not_le.mpr hk, if_false, maxNum_real, hexcess,
    shortest_real, lag]
  split_ifs <;> rfl

theorem length_of_slow (ha : 0 < accel) (hk : 0 < gain) (h : speed ≤ accel / gain) :
    length speed accel gain = max (lag speed gain) 100 := by
  rw [length_eq ha hk, if_pos h]

theorem length_of_fast (ha : 0 < accel) (hk : 0 < gain) (h : accel / gain ≤ speed) :
    length speed accel gain = max (overrun speed accel gain) 100 := by
  rcases h.eq_or_lt with rfl | hlt
  · rw [length_of_slow ha hk le_rfl, lag_eq_overrun ha hk]
  · rw [length_eq ha hk, if_neg hlt.not_ge]

theorem length_mono (ha : 0 < accel) (hk : 0 < gain) (hv : 0 ≤ speed) (h : speed ≤ faster) :
    length speed accel gain ≤ length faster accel gain := by
  rcases le_total speed (accel / gain) with hslow | hfast
  · rw [length_of_slow ha hk hslow]
    rcases le_total faster (accel / gain) with hslow' | hfast'
    · rw [length_of_slow ha hk hslow']
      exact max_le_max_right _ (lag_mono hk h)
    · rw [length_of_fast ha hk hfast']
      exact max_le_max_right _ ((lag_mono hk h).trans (lag_le_overrun ha hk))
  · rw [length_of_fast ha hk hfast, length_of_fast ha hk (hfast.trans h)]
    exact max_le_max_right _ (overrun_mono ha hv h)

theorem length_anti (ha : 0 < accel) (hk : 0 < gain) (hv : 0 ≤ speed) (h : gain ≤ stiffer) :
    length speed accel stiffer ≤ length speed accel gain := by
  have hs : 0 < stiffer := hk.trans_le h
  have hbranch : accel / stiffer ≤ accel / gain := div_le_div_of_nonneg_left ha.le hk h
  rcases le_total speed (accel / stiffer) with hslow | hfast
  · rw [length_of_slow ha hs hslow, length_of_slow ha hk (hslow.trans hbranch)]
    exact max_le_max_right _ (lag_anti hk hv h)
  · have hpos : 0 < speed := (div_pos ha hs).trans_le hfast
    rw [length_of_fast ha hs hfast]
    rcases le_total speed (accel / gain) with hslow' | hfast'
    · rw [length_of_slow ha hk hslow']
      exact max_le_max_right _ (overrun_le_lag ha hk hpos hslow' hfast hs)
    · rw [length_of_fast ha hk hfast']
      exact max_le_max_right _ (overrun_anti ha hk h)

/-- The leash law. A leash is never short of a metre, of the lag or of the stopping distance. A
faster vehicle gets no shorter leash, a stiffer controller no longer one, and the two branches of
the law meet. -/
theorem length_covers (ha : 0 < accel) (hk : 0 < gain) (hv : 0 ≤ speed) :
    100 ≤ length speed accel gain ∧ speed / gain ≤ length speed accel gain ∧
      speed ^ 2 / (2 * accel) ≤ length speed accel gain ∧
      (∀ faster, speed ≤ faster → length speed accel gain ≤ length faster accel gain) ∧
      (∀ stiffer, gain ≤ stiffer → length speed accel stiffer ≤ length speed accel gain) ∧
      (speed ≤ accel / gain → length speed accel gain = max (lag speed gain) 100) ∧
      (accel / gain ≤ speed → length speed accel gain = max (overrun speed accel gain) 100) ∧
      lag (accel / gain) gain = overrun (accel / gain) accel gain := by
  have hcover : lag speed gain ≤ length speed accel gain ∧
      speed ^ 2 / (2 * accel) ≤ length speed accel gain := by
    rw [← stoppingDistance_real]
    rcases le_total speed (accel / gain) with hslow | hfast
    · rw [length_of_slow ha hk hslow]
      exact ⟨le_max_left _ _, (stoppingDistance_le_lag ha hk hv hslow).trans (le_max_left _ _)⟩
    · rw [length_of_fast ha hk hfast]
      exact ⟨(lag_le_overrun ha hk).trans (le_max_left _ _),
        (stoppingDistance_le_overrun ha).trans (le_max_left _ _)⟩
  refine ⟨?_, hcover.1, hcover.2, fun _ ↦ length_mono ha hk hv, fun _ ↦ length_anti ha hk hv,
    length_of_slow ha hk, length_of_fast ha hk, lag_eq_overrun ha hk⟩
  rw [length_eq ha hk]
  exact le_max_right _ _

/-- At 250 cm/s the overrun decides. A stiffer controller needs less, but still more than the
stopping distance. -/
theorem length_covers_fast :
    length (250 : ℝ) 100 1 = 362.5 ∧ length (250 : ℝ) 100 2 = 325 ∧
      (250 : ℝ) ^ 2 / (2 * 100) ≤ length 250 100 2 ∧
      length (250 : ℝ) 100 2 ≤ length 250 100 1 ∧ length (250 : ℝ) 100 1 ≤ length 500 100 1 := by
  have ha : (0 : ℝ) < 100 := by norm_num
  have hv : (0 : ℝ) ≤ 250 := by norm_num
  obtain ⟨-, -, -, hmono, hanti, -, hfast, -⟩ := length_covers ha one_pos hv
  obtain ⟨-, -, hstop, -, -, -, hfast', -⟩ := length_covers ha two_pos hv
  refine ⟨?_, ?_, hstop, hanti 2 one_le_two, hmono 500 (by norm_num)⟩
  · rw [hfast (by norm_num)]
    norm_num [overrun, stoppingDistance]
  · rw [hfast' (by norm_num)]
    norm_num [overrun, stoppingDistance]

end WaypointFlight.Leash
