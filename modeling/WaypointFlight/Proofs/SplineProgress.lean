import WaypointFlight.Proofs.CurveEnds

namespace WaypointFlight

open Scalar

namespace Leash

variable {error axisLeash : ℝ}

theorem fractionLeft_le_one (h : 0 ≤ error) : fractionLeft error axisLeash ≤ 1 := by
  unfold fractionLeft
  split_ifs with hp
  · rw [div_le_one hp.pos]
    exact sub_le_self _ h
  · norm_num

theorem fractionLeft_nonpos (h : axisLeash ≤ error) : fractionLeft error axisLeash ≤ 0 := by
  unfold fractionLeft
  split_ifs with hp
  · exact div_nonpos_of_nonpos_of_nonneg (sub_nonpos.mpr h) hp.pos.le
  · exact zero_literal.le

end Leash

namespace Autopilot

variable {a : Autopilot ℝ} {r : Readings ℝ} {x : ℝ}

section Slack

variable (a : Autopilot ℝ) (s : Sight ℝ)

theorem splineSlack_nonneg : 0 ≤ a.splineSlack s := by
  rw [splineSlack, maxNum_real, zero_literal]
  exact le_max_right _ _

variable {a}

theorem splineSlack_le (hl : 0 ≤ a.navigator.track.limits.leash) :
    a.splineSlack s ≤ a.navigator.track.limits.leash := by
  have hz : 0 ≤ s.errorZ := abs_nonneg _
  have hpart : a.navigator.track.limits.leash *
      Leash.fractionLeft s.errorZ (a.controller.leashZ s.error.up) ≤
        a.navigator.track.limits.leash :=
    mul_le_of_le_one_right hl (Leash.fractionLeft_le_one hz)
  rw [splineSlack, maxNum_real, minNum_real, zero_literal]
  exact max_le ((min_le_left _ _).trans hpart) hl

variable {s}

theorem splineSlack_eq_zero (hl : 0 ≤ a.navigator.track.limits.leash)
    (h : a.controller.leashXY ≤ s.errorXY ∨ a.controller.leashZ s.error.up ≤ s.errorZ) :
    a.splineSlack s = 0 := by
  rw [splineSlack, maxNum_real, minNum_real, zero_literal]
  apply max_eq_right
  rcases h with hxy | hz
  · have hnone := Leash.fractionLeft_nonpos hxy
    exact (min_le_right _ _).trans (mul_nonpos_of_nonneg_of_nonpos hl hnone)
  · have hnone := Leash.fractionLeft_nonpos hz
    exact (min_le_left _ _).trans (mul_nonpos_of_nonneg_of_nonpos hl hnone)

end Slack

section Limit

variable {slack dt : ℝ}

theorem splineSpeedLimit_nonneg (a : Autopilot ℝ) (hc : 0 ≤ a.controller.speedXY)
    (hs : 0 ≤ slack) (hdt : 0 ≤ dt) : 0 ≤ a.splineSpeedLimit slack dt := by
  unfold splineSpeedLimit
  split_ifs
  · exact hc
  · rw [minNum_real]
    exact le_min hc (div_nonneg hs hdt)

theorem splineSpeedLimit_le (a : Autopilot ℝ) (slack dt : ℝ) :
    a.splineSpeedLimit slack dt ≤ a.controller.speedXY := by
  unfold splineSpeedLimit
  split_ifs
  · exact le_rfl
  · rw [minNum_real]
    exact min_le_left _ _

theorem splineSpeedLimit_mul_le (a : Autopilot ℝ) (slack : ℝ) (hdt : IsPositive dt) :
    a.splineSpeedLimit slack dt * dt ≤ slack := by
  rw [splineSpeedLimit, if_neg (not_isZero_of_isPositive hdt), minNum_real, ← le_div_iff₀ hdt.pos]
  exact min_le_right _ _

end Limit

end Autopilot

/-- A tick on a spline runs at a period and under a speed limit that are not negative. -/
def Event.Paced (a : Autopilot ℝ) : Event ℝ → Prop
  | .call .tickSpline _ => 0 ≤ a.controller.period ∧ 0 ≤ a.turned.controller.speedXY
  | _ => True

structure Forward (a : Autopilot ℝ) : Prop where
  time : 0 ≤ a.navigator.spline.time
  speed : 0 ≤ a.navigator.spline.speed

namespace Autopilot

variable {a b : Autopilot ℝ} {r : Readings ℝ} {x : ℝ} {e : Event ℝ} {es : List (Event ℝ)}

theorem flownLimit_nonneg (hp : Event.Paced a (.call .tickSpline r)) (x : ℝ) :
    0 ≤ a.flownLimit r x :=
  a.turned.splineSpeedLimit_nonneg hp.2 (splineSlack_nonneg _ _) hp.1

theorem flownSpeed_nonneg (hp : Event.Paced a (.call .tickSpline r)) (x : ℝ) :
    0 ≤ a.flownSpeed r x := by
  rw [flownSpeed, zero_literal]
  exact le_constrain (flownLimit_nonneg hp x)

theorem flownSpeed_le (hp : Event.Paced a (.call .tickSpline r)) (x : ℝ) :
    a.flownSpeed r x ≤ a.flownLimit r x := by
  rw [flownSpeed, zero_literal]
  exact constrain_le (flownLimit_nonneg hp x)

/-- The governor does not lead from one non-negative speed to another past zero. -/
theorem paced_tickSpline (hdt : 0 ≤ a.controller.period) (hc : 0 ≤ a.controller.speedXY)
    (hr : 0 ≤ a.navigator.requestedSpeed) (ha : 0 ≤ a.navigator.params.accel) (r : Readings ℝ) :
    Event.Paced a (.call .tickSpline r) := by
  refine ⟨hdt, ?_⟩
  show 0 ≤ a.governed.controller.speedXY
  unfold governed
  cases hg : a.governedSpeed a.controller.period with
  | none => exact hc
  | some speed =>
    simp only [govern, PositionController.limitSpeedXY_eq]
    split_ifs
    · exact Governor.step_nonneg hc hr (mul_nonneg ha hdt) hg
    · exact hc

theorem paced_moved (h : Event.Paced a (.call .tickSpline r)) (position velocity : Vec3 ℝ) :
    Event.Paced ((Event.moved position velocity).apply a) (.call .tickSpline r) := by
  obtain ⟨hdt, hc⟩ := h
  refine ⟨hdt, ?_⟩
  show 0 ≤ (govern ((Event.moved position velocity).apply a)
    (a.governedSpeed a.controller.period)).controller.speedXY
  change 0 ≤ (a.govern (a.governedSpeed a.controller.period)).controller.speedXY at hc
  cases hg : a.governedSpeed a.controller.period with
  | none => rwa [hg] at hc
  | some speed =>
    rw [hg] at hc
    simp only [govern, PositionController.limitSpeedXY_eq] at hc ⊢
    exact hc

theorem tickSpline_forward (h : Forward a) (hp : Event.Paced a (.call .tickSpline r)) :
    Forward (a.tickSpline r).state ∧
      a.navigator.spline.time ≤ (a.tickSpline r).state.navigator.spline.time := by
  rcases a.tickSpline_spline_cases r with hs | ⟨x, hx⟩
  · exact ⟨⟨hs ▸ h.time, hs ▸ h.speed⟩, hs ▸ le_rfl⟩
  · have hspeed := flownSpeed_nonneg hp x
    have hstep : 0 ≤ a.flownSpeed r x / a.curveVelocity.norm * a.controller.period :=
      mul_nonneg (div_nonneg hspeed (Vec3.norm_nonneg _)) hp.1
    refine ⟨⟨?_, ?_⟩, ?_⟩ <;> rw [hx.spline]
    · exact add_nonneg h.time hstep
    · exact hspeed
    · exact le_add_of_nonneg_right hstep

theorem carriedTime_eq_zero_or (t overshoot : ℝ) :
    SplineTrack.carriedTime t overshoot = 0 ∨
      0 < SplineTrack.carriedTime t overshoot ∧
        SplineTrack.carriedTime t overshoot < overshoot - 1 := by
  rw [SplineTrack.carriedTime, one_literal, zero_literal]
  split_ifs with h
  · exact .inr ⟨sub_pos.mpr h.1, sub_lt_sub_right h.2 1⟩
  · exact .inl rfl

theorem carriedTime_nonneg (t overshoot : ℝ) : 0 ≤ SplineTrack.carriedTime t overshoot :=
  (carriedTime_eq_zero_or t overshoot).elim (fun h ↦ h.ge) fun h ↦ h.1.le

theorem forward_beginSpline (h : Forward a) (now : Nat) (q : SplineRequest ℝ) (x : ℝ) :
    Forward (a.beginSpline now q x) := by
  have hjoin := a.joins now q
  suffices hsuff : 0 ≤ (a.join now q).time ∧ 0 ≤ (a.join now q).speed by
    rw [← join_repairAccel] at hsuff
    exact ⟨hsuff.1, hsuff.2⟩
  generalize a.join now q = j at hjoin
  cases hjoin with
  | rest => exact ⟨zero_literal.ge, zero_literal.ge⟩
  | straight => exact ⟨zero_literal.ge, Vec3.norm_nonneg _⟩
  | spline => exact ⟨carriedTime_nonneg _ _, h.speed⟩

theorem forward_effect (heff : e.Effect a b) (he : e.Paced a) (h : Forward a) :
    Forward b ∧ (a.Keeps e → a.navigator.spline.time ≤ b.navigator.spline.time) := by
  have hsame (hs : b.navigator.spline = a.navigator.spline) :
      Forward b ∧ (a.Keeps e → a.navigator.spline.time ≤ b.navigator.spline.time) :=
    ⟨⟨hs ▸ h.time, hs ▸ h.speed⟩, fun _ ↦ hs ▸ le_rfl⟩
  cases heff with
  | spline r hc hf q x hx =>
    exact ⟨forward_beginSpline h r.now q x, fun hkeep ↦ absurd hf (hkeep (by simp [hc]))⟩
  | start r => exact hsame a.repairAccel_spline
  | shift r =>
    apply hsame
    unfold shiftToVehicle
    split_ifs <;> rfl
  | tickStraight r => exact hsame (a.tickStraight_spline r)
  | tickSpline r => exact (tickSpline_forward h he).imp id fun ht _ ↦ ht
  | _ => exact hsame rfl

theorem forward_create (p : Params ℝ) (lean : ℝ) (c : PositionController ℝ)
    (saved : List (String × ℝ)) : Forward ⟨.create p lean, c, saved⟩ :=
  ⟨zero_literal.ge, zero_literal.ge⟩

theorem forward_after (h : Forward a) (hes : a.Along (fun a e ↦ e.Paced a) es) :
    Forward (a.after es) :=
  hes.invariant (fun a e he h ↦ (forward_effect (e.effect a) he h).1) h

theorem time_le_after (h : Forward a) (hes : a.Along (fun a e ↦ e.Paced a ∧ a.Keeps e) es) :
    a.navigator.spline.time ≤ (a.after es).navigator.spline.time := by
  have hall := hes.invariant
    (I := fun b ↦ Forward b ∧ a.navigator.spline.time ≤ b.navigator.spline.time)
    (fun b e he hb ↦ ?_) ⟨h, le_rfl⟩
  · exact hall.2
  · have hstep := forward_effect (e.effect b) he.1 hb.1
    exact ⟨hstep.1, hb.2.trans (hstep.2 he.2)⟩

theorem shortest_le_turned_leash (a : Autopilot ℝ) :
    Leash.shortest ≤ a.turned.navigator.track.limits.leash :=
  TrackLimits.shortest_le_along_leash _ _

theorem slackAt_eq (a : Autopilot ℝ) (r : Readings ℝ) (x : ℝ) :
    a.slackAt r x =
      max
        (min
          (a.turned.navigator.track.limits.leash *
            Leash.fractionLeft (a.targetSight r x).errorZ
              (a.controller.leashZ (a.targetSight r x).error.up))
          (a.turned.navigator.track.limits.leash *
            Leash.fractionLeft (a.targetSight r x).errorXY a.controller.leashXY)) 0 := by
  obtain ⟨_, _, hc⟩ := a.turned_controller
  simp only [slackAt, splineSlack, hc, maxNum_real, minNum_real, zero_literal]
  rfl

theorem slackAt_eq_zero
    (h : a.controller.leashXY ≤ (a.targetSight r x).errorXY ∨
      a.controller.leashZ (a.targetSight r x).error.up ≤ (a.targetSight r x).errorZ) :
    a.slackAt r x = 0 := by
  have hleash : 0 ≤ a.turned.navigator.track.limits.leash :=
    le_trans (by norm_num [Leash.shortest]) a.shortest_le_turned_leash
  obtain ⟨_, _, hc⟩ := a.turned_controller
  apply splineSlack_eq_zero hleash
  rw [hc]
  exact h

/-- The progress law of a spline. The run `es` leads to a state on the spline, and `es'` to a later
one, where a tick follows. No tick takes the target back, and one that moves it does so at the speed
it leaves, which the leash has slack for. -/
theorem spline_progress (p : Params ℝ) (lean : ℝ) (c : PositionController ℝ)
    (saved : List (String × ℝ)) (es es' : List (Event ℝ)) (r : Readings ℝ)
    (hpaced : Along (fun a e ↦ e.Paced a) ⟨.create p lean, c, saved⟩
      (es ++ es' ++ [.call .tickSpline r]))
    (hkeeps : Along (fun a e ↦ a.Keeps e) (after ⟨.create p lean, c, saved⟩ es) es') :
    let a := after ⟨.create p lean, c, saved⟩ es
    let b := after ⟨.create p lean, c, saved⟩ (es ++ es')
    let b' := (b.tickSpline r).state
    let dt := b.controller.period
    0 ≤ b.navigator.spline.time ∧ 0 ≤ b.navigator.spline.speed ∧
      a.navigator.spline.time ≤ b.navigator.spline.time ∧
      b.navigator.spline.time ≤ b'.navigator.spline.time ∧
      ((b.tickSpline r).fault = none → b.navigator.flags.reached = false →
        IsPositive b.curveVelocity.norm → IsPositive dt →
        ∃ x, b.offsetFor r b.navigator.segment.aboveTerrain = .ok x ∧
          let s := b.targetSight r x
          let leashXY := b.controller.leashXY
          let leashZ := b.controller.leashZ s.error.up
          let leash := b'.navigator.track.limits.leash
          let slack := max (min (leash * Leash.fractionLeft s.errorZ leashZ)
            (leash * Leash.fractionLeft s.errorXY leashXY)) 0
          0 ≤ b'.navigator.spline.speed ∧
          b'.navigator.spline.speed ≤ b'.controller.speedXY ∧
          b'.navigator.spline.speed * dt ≤ slack ∧ slack ≤ leash ∧
          b'.navigator.spline.time = b.navigator.spline.time +
            b'.navigator.spline.speed * dt / b.curveVelocity.norm ∧
          (leashXY ≤ s.errorXY ∨ leashZ ≤ s.errorZ →
            b'.navigator.spline.time = b.navigator.spline.time)) := by
  intro a b b' dt
  obtain ⟨hrun, hlast, -⟩ := along_append.mp hpaced
  obtain ⟨hfirst, hlater⟩ := along_append.mp hrun
  have ha : Forward a := forward_after (forward_create p lean c saved) hfirst
  have hb : Forward b := forward_after (forward_create p lean c saved) hrun
  have hab : a.navigator.spline.time ≤ b.navigator.spline.time := by
    have h := time_le_after ha (hlater.and hkeeps)
    rwa [← after_append] at h
  refine ⟨hb.time, hb.speed, hab, (tickSpline_forward hb hlast).2, fun hok hopen hmoves hdt ↦ ?_⟩
  obtain ⟨x, hx⟩ := exists_flies hok hopen (not_isZero_of_isPositive hmoves)
  refine ⟨x, hx.offset, ?_⟩
  have hspeed : b'.navigator.spline.speed = b.flownSpeed r x := by rw [hx.spline]
  have htime : b'.navigator.spline.time =
      b.navigator.spline.time + b.flownSpeed r x * dt / b.curveVelocity.norm := by
    rw [hx.spline, div_mul_eq_mul_div]
  have hleash : b'.navigator.track.limits.leash = b.turned.navigator.track.limits.leash := by
    rw [hx.track]
  have hlimit := flownSpeed_le hlast x
  have hslack : b.flownSpeed r x * dt ≤ b.slackAt r x :=
    (mul_le_mul_of_nonneg_right hlimit hlast.1).trans
      (b.turned.splineSpeedLimit_mul_le (b.slackAt r x) hdt)
  have htop : b.slackAt r x ≤ b.turned.navigator.track.limits.leash :=
    splineSlack_le _ (le_trans (by norm_num [Leash.shortest]) b.shortest_le_turned_leash)
  intro s leashXY leashZ leash slack
  have hs : b.slackAt r x = slack := by
    rw [slackAt_eq, ← hleash]
  rw [hspeed, htime, hx.controller_speedXY, ← hs]
  refine ⟨flownSpeed_nonneg hlast x, hlimit.trans (splineSpeedLimit_le _ _ _), hslack,
    htop.trans_eq hleash.symm, rfl, fun herror ↦ ?_⟩
  -- without slack the bound on the step leaves nothing of it
  have hstill : b.flownSpeed r x * dt = 0 :=
    le_antisymm (hslack.trans_eq (slackAt_eq_zero herror))
      (mul_nonneg (flownSpeed_nonneg hlast x) hlast.1)
  rw [hstill, zero_div, add_zero]

noncomputable def shortHop : SplineRequest ℝ := ⟨.zero, ⟨361, 0, 0⟩, false, false, .stop⟩

noncomputable def shortHopping : List (Event ℝ) :=
  [.call .start Simulation.standard.readings,
    .call (.spline shortHop) Simulation.standard.readings]

noncomputable def hopped : Autopilot ℝ :=
  (Simulation.standard : Simulation ℝ).autopilot.beginSpline Simulation.startTime shortHop 0.0

theorem after_shortHopping :
    (Simulation.standard : Simulation ℝ).autopilot.after shortHopping = hopped := by
  show (Simulation.standard : Simulation ℝ).autopilot.start.state.beginSpline _ shortHop 0.0 = _
  rw [start_standard]
  rfl

theorem hopped_controller :
    hopped.controller =
      { (Simulation.standard : Simulation ℝ).autopilot.controller with
        positionTarget := .zero + Vec3.vertical 0.0 } := by
  rw [← repairAccel_standard]
  rfl

theorem hopped_period : hopped.controller.period = 0.01 := by
  rw [hopped_controller]
  rfl

theorem hopped_speed : hopped.controller.speedXY = 500 := by
  rw [hopped_controller]
  show (500.0 : ℝ) = 500
  norm_num

theorem hopped_params : hopped.navigator.params = .standard := by
  show (Simulation.standard : Simulation ℝ).autopilot.repairAccel.navigator.params = _
  rw [repairAccel_standard]
  exact Params.within_standard

theorem hopped_chord : (shortHop.destination - shortHop.origin).norm = 361 := by
  show (⟨361, 0, 0⟩ - .zero : Vec3 ℝ).norm = 361
  rw [Vec3.sub_zero, Vec3.norm_north (by norm_num)]

theorem hopped_flies : hopped.Flies Simulation.standard.readings 0.0 := by
  refine ⟨rfl, rfl, beginSpline_moves rfl rfl ?_ ?_, rfl⟩
  · show (0.001 : ℝ) ≤ 0.01
    norm_num
  · rw [hopped_chord]
    norm_num

theorem hopped_paced (r : Readings ℝ) : Event.Paced hopped (.call .tickSpline r) := by
  refine paced_tickSpline ?_ ?_ ?_ ?_ _
  · rw [hopped_period]
    norm_num
  · rw [hopped_speed]
    norm_num
  · show 0 ≤ (Simulation.standard : Simulation ℝ).autopilot.repairAccel.navigator.requestedSpeed
    rw [repairAccel_standard]
    show (0 : ℝ) ≤ 500.0
    norm_num
  · rw [hopped_params]
    norm_num [Params.standard]

theorem hopped_position : hopped.curvePosition = .zero := by
  rw [curvePosition, hopped, beginSpline_time rfl]
  show (HermiteCurve.solve hopped.boundary.scaled).position 0 = _
  rw [HermiteCurve.position_solve_zero, Boundary.scaled_origin]
  rfl

theorem hopped_leashXY : hopped.controller.leashXY = 1300 := by
  rw [hopped_controller]
  show Leash.length (500.0 : ℝ) 100.0 1.0 = 1300
  norm_num [Leash.length, Leash.shortest]

noncomputable def driftedReadings : Readings ℝ :=
  { (Simulation.standard : Simulation ℝ).readings with position := ⟨0, 2000, 0⟩ }

theorem hopped_error_north : (hopped.targetSight driftedReadings 0.0).error.north = 0 := by
  show 0 - hopped.curvePosition.north = 0
  rw [hopped_position, Vec3.zero_north, sub_zero]

theorem hopped_error_east : (hopped.targetSight driftedReadings 0.0).error.east = 2000 := by
  show 2000 - hopped.curvePosition.east = 2000
  rw [hopped_position, Vec3.zero_east, sub_zero]

theorem hopped_error : (hopped.targetSight driftedReadings 0.0).errorXY = 2000 := by
  rw [Sight.errorXY, hopped_error_north, hopped_error_east, hypot_real, mul_zero, zero_add,
    Real.sqrt_mul_self (by norm_num)]

theorem spline_progress_drifted :
    let a := (Simulation.standard : Simulation ℝ).autopilot
    let es' : List (Event ℝ) := [.moved ⟨0, 2000, 0⟩ .zero]
    let tick : Event ℝ := .call .tickSpline driftedReadings
    let b := a.after (shortHopping ++ es')
    let b' := (b.tickSpline driftedReadings).state
    a.Along (fun a e ↦ e.Paced a) (shortHopping ++ es' ++ [tick]) ∧
      (a.after shortHopping).Along (fun a e ↦ a.Keeps e) es' ∧
      (b.tickSpline driftedReadings).fault = none ∧ b.navigator.flags.reached = false ∧
      IsPositive b.curveVelocity.norm ∧ IsPositive b.controller.period ∧
      0 ≤ b'.navigator.spline.speed ∧ b'.navigator.spline.time = b.navigator.spline.time := by
  intro a es' tick b b'
  have hb : b = (Event.moved ⟨0, 2000, 0⟩ .zero).apply hopped := by
    rw [← after_shortHopping]
    exact after_append
  have hflies : b.Flies driftedReadings 0.0 := by
    rw [hb]
    exact ⟨rfl, rfl, hopped_flies.moves, rfl⟩
  have hpaced : a.Along (fun a e ↦ e.Paced a) (shortHopping ++ es' ++ [tick]) := by
    refine along_append.mpr ⟨⟨trivial, trivial, trivial, trivial⟩, ?_, trivial⟩
    show Event.Paced b tick
    rw [hb]
    exact paced_moved (hopped_paced _) _ _
  have hkeeps : (a.after shortHopping).Along (fun a e ↦ a.Keeps e) es' := ⟨trivial, trivial⟩
  have hok : (b.tickSpline driftedReadings).fault = none :=
    congrArg Outcome.fault hflies.tickSpline
  have hmoves : IsPositive b.curveVelocity.norm :=
    isPositive_of_not_isZero (Vec3.norm_nonneg _) hflies.moves
  have hperiod : IsPositive b.controller.period := by
    rw [hb]
    show IsPositive hopped.controller.period
    rw [hopped_period]
    norm_num [isPositive_real]
  obtain ⟨-, -, -, -, htick⟩ :=
    spline_progress _ _ _ _ shortHopping es' driftedReadings hpaced hkeeps
  obtain ⟨x, hx, hspeed, -, -, -, -, hstill⟩ := htick hok hflies.reached hmoves hperiod
  obtain rfl : 0.0 = x := Except.ok.inj (hflies.offset.symm.trans hx)
  refine ⟨hpaced, hkeeps, hok, hflies.reached, hmoves, hperiod, hspeed, hstill (.inl ?_)⟩
  show b.controller.leashXY ≤ (b.targetSight driftedReadings 0.0).errorXY
  rw [hb]
  show hopped.controller.leashXY ≤ (hopped.targetSight driftedReadings 0.0).errorXY
  rw [hopped_leashXY, hopped_error]
  norm_num

end Autopilot

end WaypointFlight
