import WaypointFlight.Proofs.RealLimits

namespace WaypointFlight

open Scalar

theorem Scalar.isZero_iff_not_isPositive {x : ℝ} (h : 0 ≤ x) : IsZero x ↔ ¬ IsPositive x :=
  ⟨fun hzero hpositive ↦ not_isZero_of_isPositive hpositive hzero,
    fun hpositive ↦ not_not.mp (mt (isPositive_of_not_isZero h) hpositive)⟩

namespace TrackLimits

variable {part limit partXY partZ limitXY limitZ still x : ℝ}

/-- A value along a direction does not exceed the limit of an axis on which the direction has a
part. -/
def Respects (partXY partZ limitXY limitZ x : ℝ) : Prop :=
  (IsPositive partXY → x * partXY ≤ limitXY) ∧ (IsPositive partZ → x * partZ ≤ limitZ)

/-- The largest value along a direction that respects the limits of both axes. It is at one of
them. -/
structure IsStrictest (partXY partZ limitXY limitZ x : ℝ) : Prop where
  greatest : IsGreatest {y | Respects partXY partZ limitXY limitZ y} x
  attained : IsPositive partXY ∧ x * partXY = limitXY ∨ IsPositive partZ ∧ x * partZ = limitZ

theorem div_mul_part (hpart : IsPositive part) : limit / part * part = limit :=
  div_mul_cancel₀ _ hpart.pos.ne'

theorem le_of_attained {y : ℝ} (hpart : IsPositive part) (hx : x * part = limit)
    (hy : y * part ≤ limit) : y ≤ x :=
  le_of_mul_le_mul_right (hy.trans_eq hx.symm) hpart.pos

theorem Respects.isStrictest (h : Respects partXY partZ limitXY limitZ x)
    (hattained : IsPositive partXY ∧ x * partXY = limitXY ∨ IsPositive partZ ∧ x * partZ = limitZ) :
    IsStrictest partXY partZ limitXY limitZ x where
  greatest := by
    refine ⟨h, fun y hy ↦ ?_⟩
    obtain ⟨hxy, hx⟩ | ⟨hz, hx⟩ := hattained
    · exact le_of_attained hxy hx (hy.1 hxy)
    · exact le_of_attained hz hx (hy.2 hz)
  attained := hattained

theorem isStrictest_min (hxy : IsPositive partXY) (hz : IsPositive partZ) :
    IsStrictest partXY partZ limitXY limitZ (min (limitZ / partZ) (limitXY / partXY)) := by
  refine Respects.isStrictest ⟨fun _ ↦ ?_, fun _ ↦ ?_⟩ ?_
  · calc min (limitZ / partZ) (limitXY / partXY) * partXY
        ≤ limitXY / partXY * partXY := mul_le_mul_of_nonneg_right (min_le_right _ _) hxy.pos.le
      _ = limitXY := div_mul_part hxy
  · calc min (limitZ / partZ) (limitXY / partXY) * partZ
        ≤ limitZ / partZ * partZ := mul_le_mul_of_nonneg_right (min_le_left _ _) hz.pos.le
      _ = limitZ := div_mul_part hz
  · rcases min_choice (limitZ / partZ) (limitXY / partXY) with hmin | hmin
    · exact .inr ⟨hz, by rw [hmin, div_mul_part hz]⟩
    · exact .inl ⟨hxy, by rw [hmin, div_mul_part hxy]⟩

theorem project_of_still (hxy : 0 ≤ partXY) (hz : 0 ≤ partZ) (hxy' : ¬ IsPositive partXY)
    (hz' : ¬ IsPositive partZ) : project partXY partZ still limitXY limitZ = still := by
  rw [project, if_pos ((isZero_iff_not_isPositive hz).mpr hz'),
    if_pos ((isZero_iff_not_isPositive hxy).mpr hxy')]

theorem isStrictest_project (hxy : 0 ≤ partXY) (hz : 0 ≤ partZ)
    (h : IsPositive partXY ∨ IsPositive partZ) :
    IsStrictest partXY partZ limitXY limitZ (project partXY partZ still limitXY limitZ) := by
  simp only [project, isZero_iff_not_isPositive hxy, isZero_iff_not_isPositive hz, ite_not,
    minNum_real]
  split_ifs with hz' hxy' hxy'
  · exact isStrictest_min hxy' hz'
  · exact Respects.isStrictest
      ⟨fun hxy ↦ absurd hxy hxy', fun _ ↦ (div_mul_part hz').le⟩ (.inr ⟨hz', div_mul_part hz'⟩)
  · exact Respects.isStrictest
      ⟨fun _ ↦ (div_mul_part hxy').le, fun hz ↦ absurd hz hz'⟩ (.inl ⟨hxy', div_mul_part hxy'⟩)
  · exact absurd h (not_or_intro hxy' hz')

theorem slowDownDistance_real (speed accel : ℝ) :
    Leash.slowDownDistance speed accel = if accel ≤ 0 then 0 else speed ^ 2 / (4 * accel) := by
  norm_num [Leash.slowDownDistance, sq]

theorem vertical_real (l : AxisLimits ℝ) (up : ℝ) :
    l.vertical up =
      (if 0 ≤ up then l.speedUp else l.speedDown, if 0 ≤ up then l.leashUp else l.leashDown) := by
  rw [AxisLimits.vertical, zero_literal]
  split_ifs <;> rfl

/-- The limits along a direction. One that has a part on an axis gets the largest acceleration and
speed that respect the limits of the axes, those of climbing where it does not go down, and the
largest such leash unless that is shorter than a metre. -/
theorem along_strictest (u : Vec3 ℝ) (l : AxisLimits ℝ) :
    let partXY := Analytic.hypot u.north u.east
    let partZ := |u.up|
    let speedZ := if 0 ≤ u.up then l.speedUp else l.speedDown
    let leashZ := if 0 ≤ u.up then l.leashUp else l.leashDown
    let t := along u l
    100 ≤ t.leash ∧
      t.slowDownDistance = (if t.accel ≤ 0 then 0 else t.speed ^ 2 / (4 * t.accel)) ∧
      (partXY < tolerance → partZ < tolerance → t.accel = 0 ∧ t.speed = 0 ∧ t.leash = 100) ∧
      (tolerance ≤ partXY ∨ tolerance ≤ partZ →
        IsStrictest partXY partZ l.accelXY l.accelZ t.accel ∧
          IsStrictest partXY partZ l.speedXY speedZ t.speed ∧
          ∃ leash, IsStrictest partXY partZ l.leashXY leashZ leash ∧ t.leash = max leash 100 ∧
            (t.leash ≠ 100 → Respects partXY partZ l.leashXY leashZ t.leash)) := by
  intro partXY partZ speedZ leashZ t
  have hxy : 0 ≤ partXY := Real.sqrt_nonneg _
  have hz : 0 ≤ partZ := abs_nonneg _
  have hshortest : (Leash.shortest : ℝ) = 100 := by norm_num [Leash.shortest]
  have haccel : t.accel = project partXY partZ 0 l.accelXY l.accelZ := by
    simp only [t, along, zero_literal]
    rfl
  have hspeed : t.speed = project partXY partZ 0 l.speedXY speedZ := by
    simp only [t, along, zero_literal, vertical_real]
    rfl
  have hleash : t.leash = max (project partXY partZ 100 l.leashXY leashZ) 100 := by
    simp only [t, along, maxNum_real, hshortest, vertical_real]
    rfl
  refine ⟨?_, slowDownDistance_real _ _, fun hxy' hz' ↦ ?_, fun h ↦ ?_⟩
  · rw [hleash]
    exact le_max_right _ _
  · have hxy' : ¬ IsPositive partXY := not_le.mpr hxy'
    have hz' : ¬ IsPositive partZ := not_le.mpr hz'
    rw [haccel, hspeed, hleash, project_of_still hxy hz hxy' hz', project_of_still hxy hz hxy' hz',
      project_of_still hxy hz hxy' hz', max_self]
    exact ⟨rfl, rfl, rfl⟩
  · have hstrictest : IsStrictest partXY partZ l.leashXY leashZ
        (project partXY partZ 100 l.leashXY leashZ) := isStrictest_project hxy hz h
    refine ⟨haccel ▸ isStrictest_project hxy hz h, hspeed ▸ isStrictest_project hxy hz h,
      _, hstrictest, hleash, fun hlong ↦ ?_⟩
    have hlonger : ¬ project partXY partZ 100 l.leashXY leashZ ≤ 100 :=
      fun hle ↦ hlong (hleash.trans (max_eq_right hle))
    rw [hleash, max_eq_left (not_le.mp hlonger).le]
    exact hstrictest.greatest.1

end TrackLimits

end WaypointFlight
