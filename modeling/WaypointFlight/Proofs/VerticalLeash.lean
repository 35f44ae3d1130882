import WaypointFlight.Proofs.LeashLaw
import WaypointFlight.Proofs.SplineRamp

namespace WaypointFlight

open Scalar

theorem PositionController.leashZ_le_abs_iff {c : PositionController ℝ} (hup : 0 < c.leashUp)
    (hdown : 0 < c.leashDown) (height : ℝ) :
    c.leashZ height ≤ |height| ↔ c.leashUp ≤ height ∨ c.leashDown ≤ -height := by
  rw [leashZ, zero_literal]
  split_ifs with h
  · rw [abs_of_nonneg h]
    exact (or_iff_left fun hbelow ↦ by linarith).symm
  · rw [abs_of_neg (not_le.mp h)]
    exact (or_iff_right fun habove ↦ by linarith).symm

namespace Leash

variable {leash error axisLeash : ℝ}

theorem le_taken (hl : 0 ≤ leash) (he : IsPositive error) (h : axisLeash ≤ error) :
    leash ≤ taken leash error axisLeash := by
  unfold taken
  split_ifs with hp hz
  · rw [le_div_iff₀ hp.pos]
    exact mul_le_mul_of_nonneg_left h hl
  · exact absurd hz (not_isZero_of_isPositive he)
  · exact le_rfl

theorem taken_lt (hl : 0 < leash) (he : 0 ≤ error) (h : error < axisLeash) :
    taken leash error axisLeash < leash := by
  unfold taken
  split_ifs with hp hz
  · rw [div_lt_iff₀ hp.pos]
    exact mul_lt_mul_of_pos_left h hl
  · rwa [zero_literal]
  · exact absurd (isPositive_of_not_isZero he hz) fun hpos ↦ hp (hpos.trans h.le)

theorem taken_nonneg (hl : 0 ≤ leash) (he : 0 ≤ error) : 0 ≤ taken leash error axisLeash := by
  unfold taken
  split_ifs with hp hz
  · exact div_nonneg (mul_nonneg hl he) hp.pos.le
  · exact zero_literal.ge
  · exact hl

theorem slack_eq_zero {part : ℝ} (h : leash ≤ part) : slack leash part = 0 := by
  rw [slack, if_neg (not_lt.mpr h), zero_literal]

theorem slack_pos {part : ℝ} (hp : 0 ≤ part) (h : part < leash) : 0 < slack leash part := by
  rw [slack, if_pos h, safeSqrt_real, square_real, square_real, Real.sqrt_pos, sub_pos]
  exact mul_self_lt_mul_self hp h

theorem fractionLeft_pos (hp : IsPositive axisLeash) (h : error < axisLeash) :
    0 < fractionLeft error axisLeash := by
  rw [fractionLeft, if_pos hp]
  exact div_pos (sub_pos.mpr h) hp.pos

end Leash

theorem Sight.taken_nonneg (s : Sight ℝ) (c : PositionController ℝ) {leash : ℝ} (hl : 0 ≤ leash) :
    0 ≤ s.taken c leash := by
  rw [taken, maxNum_real]
  exact le_max_of_le_right (Leash.taken_nonneg hl s.errorXY_nonneg)

namespace Autopilot

variable {a : Autopilot ℝ} {r : Readings ℝ} {x : ℝ}

theorem prepared_leashZ (a : Autopilot ℝ) (error : ℝ) :
    a.prepared.controller.leashZ error = a.controller.leashZ error := by
  obtain ⟨_, _, _, _, _, h⟩ := a.prepared_controller
  rw [h]
  rfl

theorem sightAt_error_up (hlevel : a.navigator.segment.direction.up = 0) :
    (a.sightAt r x).error.up = r.position.up - x - a.navigator.segment.origin.up := by
  simp [sightAt, Segment.sight, hlevel]

theorem furthest_eq_covered (h : Formed a)
    (hz : a.controller.leashZ (a.sightAt r x).error.up ≤ (a.sightAt r x).errorZ)
    (he : IsPositive (a.sightAt r x).errorZ) :
    (a.approachAt r x).furthest = (a.sightAt r x).covered := by
  have hleash : 0 ≤ a.navigator.track.limits.leash :=
    le_trans (by norm_num [Leash.shortest]) h.leash
  have htaken : a.navigator.track.limits.leash ≤
      (a.sightAt r x).taken a.prepared.controller a.navigator.track.limits.leash := by
    rw [Sight.taken, maxNum_real, prepared_leashZ]
    exact le_max_of_le_left (Leash.le_taken hleash he hz)
  rw [approachAt_furthest, Leash.slack_eq_zero htaken, add_zero]

theorem covered_lt_furthest (h : Formed a)
    (hz : (a.sightAt r x).errorZ < a.controller.leashZ (a.sightAt r x).error.up)
    (hxy : (a.sightAt r x).errorXY < a.controller.leashXY) :
    (a.sightAt r x).covered < (a.approachAt r x).furthest := by
  have hleash : 0 < a.navigator.track.limits.leash :=
    lt_of_lt_of_le (by norm_num [Leash.shortest]) h.leash
  have htaken : (a.sightAt r x).taken a.prepared.controller a.navigator.track.limits.leash <
      a.navigator.track.limits.leash := by
    rw [Sight.taken, maxNum_real, prepared_leashZ, prepared_leashXY]
    exact max_lt (Leash.taken_lt hleash (abs_nonneg _) hz)
      (Leash.taken_lt hleash (Sight.errorXY_nonneg _) hxy)
  rw [approachAt_furthest]
  exact lt_add_of_pos_right _ (Leash.slack_pos (Sight.taken_nonneg _ _ hleash.le) htaken)

theorem tickStraight_desired_le (h : Formed a)
    (hx : a.offsetFor r a.navigator.segment.aboveTerrain = .ok x) :
    (a.tickStraight r).state.navigator.track.desired ≤
      max a.navigator.track.desired (a.approachAt r x).furthest := by
  rw [tickStraight_track_ok a hx]
  rcases le_or_gt (a.navigator.movedTrack (a.sightAt r x) (a.approachAt r x)).desired
    a.navigator.track.desired with hstill | hmoved
  · exact le_max_of_le_left hstill
  · exact le_max_of_le_right
      (a.navigator.movedTrack_desired_le_furthest _ _ h.length h.desired hmoved)

theorem slackAt_pos (hz : IsPositive (a.controller.leashZ (a.targetSight r x).error.up))
    (hxy : IsPositive a.controller.leashXY)
    (herror : (a.targetSight r x).errorZ < a.controller.leashZ (a.targetSight r x).error.up)
    (herrorXY : (a.targetSight r x).errorXY < a.controller.leashXY) : 0 < a.slackAt r x := by
  have hleash : 0 < a.turned.navigator.track.limits.leash :=
    lt_of_lt_of_le (by norm_num [Leash.shortest]) a.shortest_le_turned_leash
  rw [slackAt_eq]
  exact lt_max_of_lt_left (lt_min (mul_pos hleash (Leash.fractionLeft_pos hz herror))
    (mul_pos hleash (Leash.fractionLeft_pos hxy herrorXY)))

/-- Without slack the target of a spline waits. A period too short to be told from zero is not one
to divide the slack by. -/
theorem tickSpline_time_of_no_slack (hp : Event.Paced a (.call .tickSpline r))
    (hdt : IsZero a.controller.period → a.controller.period = 0)
    (hx : a.offsetFor r a.navigator.segment.aboveTerrain = .ok x) (h : a.slackAt r x = 0) :
    (a.tickSpline r).state.navigator.spline.time = a.navigator.spline.time := by
  rcases a.tickSpline_spline_cases r with hsame | ⟨y, hy⟩
  · rw [hsame]
  · obtain rfl := Except.ok.inj (hx.symm.trans hy.offset)
    have hstill : a.flownSpeed r x * a.controller.period = 0 := by
      by_cases hzero : IsZero a.controller.period
      · rw [hdt hzero, mul_zero]
      · have hlimit : a.flownLimit r x ≤ 0 := by
          rw [flownLimit, h, splineSpeedLimit, if_neg hzero, zero_div, minNum_real]
          exact min_le_right _ _
        have hspeed : a.flownSpeed r x = 0 :=
          le_antisymm ((flownSpeed_le hp x).trans hlimit) (flownSpeed_nonneg hp x)
        rw [hspeed, zero_mul]
    rw [hy.spline]
    show a.navigator.spline.time + a.flownSpeed r x / a.curveVelocity.norm * a.controller.period = _
    rw [div_mul_eq_mul_div, hstill, zero_div, add_zero]

/-- The vertical leash. A vehicle above the target holds it back at the climb leash, one below it at
the descent leash, on a level straight segment as on a spline. A nearer one leaves it room. -/
theorem vertical_leash (h : Reachable a) (hup : 0 < a.controller.leashUp)
    (hdown : 0 < a.controller.leashDown)
    (hx : a.offsetFor r a.navigator.segment.aboveTerrain = .ok x) :
    let c := a.controller
    (a.navigator.segment.direction.up = 0 →
      let s := a.sightAt r x
      let height := r.position.up - x - a.navigator.segment.origin.up
      (c.leashUp ≤ height ∨ c.leashDown ≤ -height → IsPositive |height| →
        (a.tickStraight r).state.navigator.track.desired ≤
          max a.navigator.track.desired s.covered) ∧
      (-c.leashDown < height → height < c.leashUp → s.errorXY < c.leashXY →
        s.covered < (a.approachAt r x).furthest)) ∧
    (Event.Paced a (.call .tickSpline r) → (IsZero c.period → c.period = 0) →
      let s := a.targetSight r x
      let height := r.position.up - a.curvePosition.up - x
      (c.leashUp ≤ height ∨ c.leashDown ≤ -height →
        (a.tickSpline r).state.navigator.spline.time = a.navigator.spline.time) ∧
      (IsPositive (c.leashZ height) → IsPositive c.leashXY →
        -c.leashDown < height → height < c.leashUp → s.errorXY < c.leashXY →
        0 < a.slackAt r x)) := by
  intro c
  have hf := h.formed
  have hwithin {height : ℝ} (hbelow : -c.leashDown < height) (habove : height < c.leashUp) :
      |height| < c.leashZ height := by
    rw [← not_le, PositionController.leashZ_le_abs_iff hup hdown, not_or, not_le, not_le]
    exact ⟨habove, neg_lt.mp hbelow⟩
  refine ⟨fun hlevel ↦ ?_, fun hp hdt ↦ ?_⟩
  · intro s height
    have hheight : s.error.up = height := sightAt_error_up hlevel
    have herror : s.errorZ = |height| := congrArg _ hheight
    refine ⟨fun hfar hpos ↦ ?_, fun hbelow habove hxy ↦ ?_⟩
    · have hfurthest : (a.approachAt r x).furthest = s.covered := by
        refine furthest_eq_covered hf ?_ (herror ▸ hpos)
        show c.leashZ s.error.up ≤ s.errorZ
        rw [hheight, herror]
        exact (PositionController.leashZ_le_abs_iff hup hdown height).mpr hfar
      rw [← hfurthest]
      exact tickStraight_desired_le hf hx
    · refine covered_lt_furthest hf ?_ hxy
      show s.errorZ < c.leashZ s.error.up
      rw [hheight, herror]
      exact hwithin hbelow habove
  · intro s height
    refine ⟨fun hfar ↦ ?_, fun hz hleash hbelow habove hxy ↦ ?_⟩
    · refine tickSpline_time_of_no_slack hp hdt hx (slackAt_eq_zero (.inr ?_))
      exact (PositionController.leashZ_le_abs_iff hup hdown height).mpr hfar
    · exact slackAt_pos hz hleash (hwithin hbelow habove) hxy

noncomputable def hoverReadings (height : ℝ) : Readings ℝ :=
  { (Simulation.standard : Simulation ℝ).readings with
    position := ⟨0, 0, height⟩
    altitude := height }

theorem northward_leashUp {length : ℝ} : (northward length).controller.leashUp = 362.5 := by
  show Leash.length (250.0 : ℝ) 100.0 1.0 = 362.5
  norm_num [Leash.length, Leash.shortest]

theorem northward_leashDown {length : ℝ} : (northward length).controller.leashDown = 162.5 := by
  show Leash.length (-(-150.0) : ℝ) 100.0 1.0 = 162.5
  norm_num [Leash.length, Leash.shortest]

theorem northward_hover {length : ℝ} (h : IsPositive length) (height : ℝ) :
    (northward length).sightAt (hoverReadings height) 0.0 = ⟨0, ⟨0, 0, height⟩⟩ := by
  have hposition : (hoverReadings height).position - Vec3.vertical 0.0 -
      (northward length).navigator.segment.origin = ⟨0, 0, height⟩ := by
    show (⟨0, 0, height⟩ - Vec3.vertical 0.0 - .zero : Vec3 ℝ) = _
    ext <;> simp
  rw [sightAt, Segment.sight, hposition, northward_direction h]
  ext <;> simp [Vec3.dot_real]

theorem hopped_leashUp : hopped.controller.leashUp = 362.5 := by
  rw [hopped_controller]
  exact @northward_leashUp 0

theorem hopped_leashDown : hopped.controller.leashDown = 162.5 := by
  rw [hopped_controller]
  exact @northward_leashDown 0

theorem hopped_hover (height : ℝ) :
    (hopped.targetSight (hoverReadings height) 0.0).error = ⟨0, 0, height⟩ := by
  show (⟨0 - hopped.curvePosition.north, 0 - hopped.curvePosition.east,
    height - hopped.curvePosition.up - 0.0⟩ : Vec3 ℝ) = _
  rw [hopped_position]
  ext <;> simp

/-- Four metres above either target, which is more than the climb leash. Both wait. -/
theorem vertical_leash_waits :
    let r := hoverReadings 400
    Reachable (northward 5000) ∧ 0 < (northward 5000).controller.leashUp ∧
      0 < (northward 5000).controller.leashDown ∧
      (northward 5000).offsetFor r (northward 5000).navigator.segment.aboveTerrain = .ok 0.0 ∧
      ((northward 5000).tickStraight r).state.navigator.track.desired = 0 ∧
      Reachable hopped ∧ 0 < hopped.controller.leashUp ∧ 0 < hopped.controller.leashDown ∧
      hopped.offsetFor r hopped.navigator.segment.aboveTerrain = .ok 0.0 ∧
      (hopped.tickSpline r).state.navigator.spline.time = hopped.navigator.spline.time := by
  intro r
  have hlength : IsPositive (5000 : ℝ) := by norm_num [isPositive_real]
  have hreach : Reachable (northward 5000) := (Reachable.created _ _ _ _).event (.call _ _)
  have hreach' : Reachable hopped := after_shortHopping ▸ (Reachable.created _ _ _ _).after _
  have hup : 0 < (northward 5000).controller.leashUp := by
    rw [northward_leashUp]
    norm_num
  have hdown : 0 < (northward 5000).controller.leashDown := by
    rw [northward_leashDown]
    norm_num
  have hup' : 0 < hopped.controller.leashUp := by
    rw [hopped_leashUp]
    norm_num
  have hdown' : 0 < hopped.controller.leashDown := by
    rw [hopped_leashDown]
    norm_num
  have hx : (northward 5000).offsetFor r (northward 5000).navigator.segment.aboveTerrain =
      .ok 0.0 := rfl
  have hx' : hopped.offsetFor r hopped.navigator.segment.aboveTerrain = .ok 0.0 := rfl
  refine ⟨hreach, hup, hdown, hx, le_antisymm ?_ ?_, hreach', hup', hdown', hx', ?_⟩
  · have hlevel : (northward 5000).navigator.segment.direction.up = 0 :=
      congrArg Vec3.up (northward_direction hlength)
    have hheight : r.position.up - 0.0 - (northward 5000).navigator.segment.origin.up = 400 := by
      show (400 : ℝ) - 0.0 - 0.0 = 400
      norm_num
    have hwaits := ((vertical_leash hreach hup hdown hx).1 hlevel).1
    rw [hheight, northward_hover hlength, northward_leashUp, northward_desired] at hwaits
    exact (hwaits (.inl (by norm_num)) (by norm_num [isPositive_real])).trans (max_self 0).le
  · exact (hreach.event (.call .tickStraight r)).formed.desired
  · have hperiod : IsZero hopped.controller.period → hopped.controller.period = 0 := by
      rw [hopped_period]
      norm_num [isZero_real]
    have hheight : r.position.up - hopped.curvePosition.up - 0.0 = 400 :=
      congrArg Vec3.up (hopped_hover 400)
    have hwaits := ((vertical_leash hreach' hup' hdown' hx').2 (hopped_paced _) hperiod).1
    rw [hheight, hopped_leashUp] at hwaits
    exact hwaits (.inl (by norm_num))

theorem northward_leaves_hover {length : ℝ} (h : IsPositive length) :
    (northward length).navigator.track.desired <
      ((northward length).tickStraight (hoverReadings 200)).state.navigator.track.desired := by
  have hreach : Reachable (northward length) := (Reachable.created _ _ _ _).event (.call _ _)
  have hsight := northward_hover h 200
  have hcovered : ((northward length).sightAt (hoverReadings 200) 0.0).covered = 0 :=
    congrArg Sight.covered hsight
  refine northward_moves h rfl ?_
  rw [← hcovered]
  refine covered_lt_furthest hreach.formed ?_ ?_
  · rw [hsight, PositionController.leashZ, if_pos (by norm_num), northward_leashUp]
    norm_num [Sight.errorZ]
  · rw [hsight, northward_leashXY]
    norm_num [Sight.errorXY]

theorem hopped_leaves_hover :
    hopped.navigator.spline.time <
      (hopped.tickSpline (hoverReadings 200)).state.navigator.spline.time := by
  set r := hoverReadings 200
  have hflies : hopped.Flies r 0.0 := ⟨rfl, rfl, hopped_flies.moves, rfl⟩
  have hsight : (hopped.targetSight r 0.0).error = ⟨0, 0, 200⟩ := hopped_hover 200
  have hleash : hopped.controller.leashZ (hopped.targetSight r 0.0).error.up = 362.5 := by
    rw [hsight, PositionController.leashZ, if_pos (by norm_num), hopped_leashUp]
  have hslack : 0 < hopped.slackAt r 0.0 := by
    refine slackAt_pos ?_ ?_ ?_ ?_
    · rw [hleash]
      norm_num [isPositive_real]
    · rw [hopped_leashXY]
      norm_num [isPositive_real]
    · rw [hleash, Sight.errorZ, hsight]
      norm_num
    · rw [hopped_leashXY, Sight.errorXY, hsight]
      norm_num
  have hspeed : 0 < hopped.flownSpeed r 0.0 := by
    rw [flownSpeed_of_slows (hopped_paced _) hopped_slows, hopped_stoppingSpeed, flownLimit,
      splineSpeedLimit, hopped_turned_controller, hopped_speed, hopped_period,
      if_neg (by norm_num [isZero_real]), minNum_real]
    exact lt_min (lt_min (by norm_num) (by positivity)) (by norm_num)
  have hmoves : 0 < hopped.curveVelocity.norm :=
    (isPositive_of_not_isZero (Vec3.norm_nonneg _) hflies.moves).pos
  rw [hflies.spline]
  refine lt_add_of_pos_right _ (mul_pos (div_pos hspeed hmoves) ?_)
  rw [hopped_period]
  norm_num

/-- Two metres above either target is more than the descent leash. Both go on. -/
theorem vertical_leash_passed :
    let r := hoverReadings 200
    ((northward 5000).navigator.segment.direction.up = 0 ∧ 0 < (northward 5000).controller.leashXY ∧
      0 < (northward 5000).controller.leashUp ∧ 0 < (northward 5000).controller.leashDown ∧
      (northward 5000).controller.leashDown ≤
        r.position.up - (northward 5000).navigator.segment.origin.up ∧
      ((northward 5000).tickStraight r).fault = none ∧
      ¬ ((northward 5000).tickStraight r).state.navigator.track.desired ≤
        max (northward 5000).navigator.track.desired ((northward 5000).sightAt r 0.0).covered) ∧
    (hopped.navigator.segment.kind = .spline ∧ 0 < hopped.controller.leashXY ∧
      0 < hopped.controller.leashUp ∧ 0 < hopped.controller.leashDown ∧
      hopped.controller.leashDown ≤ r.position.up - hopped.curvePosition.up ∧
      (hopped.tickSpline r).fault = none ∧
      (hopped.tickSpline r).state.navigator.spline.time ≠ hopped.navigator.spline.time) := by
  intro r
  have hlength : IsPositive (5000 : ℝ) := by norm_num [isPositive_real]
  have hflies : hopped.Flies r 0.0 := ⟨rfl, rfl, hopped_flies.moves, rfl⟩
  rw [hopped_leashUp, hopped_leashDown, hopped_position, hopped_leashXY, northward_leashXY,
    northward_leashUp, northward_leashDown, northward_hover hlength]
  refine ⟨⟨congrArg Vec3.up (northward_direction hlength), by norm_num, by norm_num,
    by norm_num, ?_, congrArg Outcome.fault (tickStraight_ok (x := 0.0) _ rfl), ?_⟩,
    rfl, by norm_num, by norm_num, by norm_num, ?_,
    congrArg Outcome.fault hflies.tickSpline, hopped_leaves_hover.ne'⟩
  · show (162.5 : ℝ) ≤ 200 - 0.0
    norm_num
  · rw [not_le]
    have hmoved := northward_leaves_hover hlength
    exact max_lt hmoved (@northward_desired 5000 ▸ hmoved)
  · show (162.5 : ℝ) ≤ 200 - 0.0
    norm_num

end Autopilot

end WaypointFlight
