import WaypointFlight.Proofs.RealLimits
import WaypointFlight.Proofs.SplineTicks

namespace WaypointFlight

open Scalar

/-- The velocity of a curve depends on its ends by the chord between them. -/
theorem HermiteCurve.velocity_solve (b : Boundary ℝ) (t : ℝ) :
    (solve b).velocity t =
      (b.destination - b.origin) * (6 * t * (1 - t)) + b.originVel * ((1 - t) * (1 - 3 * t)) +
        b.destinationVel * (t * (3 * t - 2)) := by
  ext <;> norm_num [velocity, solve] <;> ring

theorem HermiteCurve.velocity_solve_zero (b : Boundary ℝ) :
    (solve b).velocity 0 = b.originVel := by
  rw [velocity_solve]
  ext <;> simp

theorem HermiteCurve.velocity_solve_one (b : Boundary ℝ) :
    (solve b).velocity 1 = b.destinationVel := by
  rw [velocity_solve]
  ext <;> norm_num

namespace Boundary

variable {b b' : Boundary ℝ}

theorem scaled_chord (b : Boundary ℝ) :
    b.scaled.destination - b.scaled.origin = b.destination - b.origin := by
  unfold scaled
  split_ifs <;> rfl

noncomputable def scale (b : Boundary ℝ) : ℝ :=
  if b.speedLimit < b.speedSum then b.shrinkFactor else 1

theorem speedLimit_nonneg (b : Boundary ℝ) : 0 ≤ b.speedLimit :=
  mul_nonneg (Vec3.norm_nonneg _) (by norm_num)

theorem scale_nonneg (b : Boundary ℝ) : 0 ≤ b.scale := by
  unfold scale shrinkFactor
  split_ifs with _ hsum
  · exact div_nonneg b.speedLimit_nonneg hsum.pos.le
  · exact zero_literal.ge
  · exact zero_le_one

theorem scaled_originVel (b : Boundary ℝ) : b.scaled.originVel = b.originVel * b.scale := by
  unfold scaled scale
  split_ifs
  · rfl
  · ext <;> simp

theorem scaled_destinationVel (b : Boundary ℝ) :
    b.scaled.destinationVel = b.destinationVel * b.scale := by
  unfold scaled scale
  split_ifs
  · rfl
  · ext <;> simp

theorem velocity_scaled_congr (hchord : b.destination - b.origin = b'.destination - b'.origin)
    (horigin : b.originVel = b'.originVel) (hdestination : b.destinationVel = b'.destinationVel)
    (t : ℝ) :
    (HermiteCurve.solve b.scaled).velocity t = (HermiteCurve.solve b'.scaled).velocity t := by
  have hlimit : b.speedLimit = b'.speedLimit := by rw [speedLimit, speedLimit, hchord]
  have hsum : b.speedSum = b'.speedSum := by rw [speedSum, speedSum, horigin, hdestination]
  have hscale : b.scale = b'.scale := by rw [scale, scale, shrinkFactor, shrinkFactor, hlimit, hsum]
  simp only [HermiteCurve.velocity_solve, scaled_chord, scaled_originVel, scaled_destinationVel,
    hchord, horigin, hdestination, hscale]

theorem velocity_scaled_shifted (b : Boundary ℝ) (u : Vec3 ℝ) (t : ℝ) :
    (HermiteCurve.solve
        { b with origin := b.origin + u, destination := b.destination + u }.scaled).velocity t =
      (HermiteCurve.solve b.scaled).velocity t := by
  apply velocity_scaled_congr
  · ext <;> simp
  · rfl
  · rfl

/-- Both velocities are the chord over a time, as from rest to a stop. -/
structure IsRest (b : Boundary ℝ) (dt : ℝ) : Prop where
  origin : b.originVel = (b.destination - b.origin) * dt
  destination : b.destinationVel = (b.destination - b.origin) * dt

variable {dt : ℝ}

theorem IsRest.mul_scale (h : b.IsRest dt) (hdt : 0 < dt)
    (hlong : 1 ≤ (b.destination - b.origin).norm) : dt * b.scale = min dt 2 := by
  set n := (b.destination - b.origin).norm with hn
  have hsum : b.speedSum = n * dt + n * dt := by
    rw [speedSum, h.origin, h.destination, Vec3.norm_mul, abs_of_pos hdt]
  have hlimit : b.speedLimit = n * 4 := by norm_num [speedLimit, hn]
  rcases le_or_gt dt 2 with hle | hgt
  · have hkeep : ¬ b.speedLimit < b.speedSum := by
      rw [hsum, hlimit]
      nlinarith
    rw [scale, if_neg hkeep, mul_one, min_eq_left hle]
  · have hcut : b.speedLimit < b.speedSum := by
      rw [hsum, hlimit]
      nlinarith
    have hpos : IsPositive b.speedSum := by
      rw [isPositive_real, hsum]
      nlinarith
    have hn0 : n ≠ 0 := by linarith
    rw [scale, if_pos hcut, shrinkFactor, if_pos hpos, hsum, hlimit, min_eq_right hgt.le]
    field_simp
    norm_num

theorem IsRest.scaled (h : b.IsRest dt) (hdt : 0 < dt)
    (hlong : 1 ≤ (b.destination - b.origin).norm) : b.scaled.IsRest (min dt 2) := by
  have hmul (u : Vec3 ℝ) (hu : u = (b.destination - b.origin) * dt) :
      u * b.scale = (b.destination - b.origin) * min dt 2 := by
    rw [hu, ← h.mul_scale hdt hlong]
    ext <;> simp [mul_assoc]
  refine ⟨?_, ?_⟩
  · rw [scaled_originVel, scaled_chord]
    exact hmul _ h.origin
  · rw [scaled_destinationVel, scaled_chord]
    exact hmul _ h.destination

theorem IsRest.not_isZero_velocity (h : b.IsRest dt) (hdt : 0.001 ≤ dt)
    (hlong : 1 ≤ (b.destination - b.origin).norm) {t : ℝ} (ht : 0 ≤ t) (ht' : t < 1) :
    ¬ IsZero ((HermiteCurve.solve b.scaled).velocity t).norm := by
  have hs := h.scaled (by linarith) hlong
  set s := min dt 2 with hmin
  have hlow : 0.001 ≤ s := le_min hdt (by norm_num)
  have hhigh : s ≤ 2 := min_le_right _ _
  have hvelocity : (HermiteCurve.solve b.scaled).velocity t =
      (b.destination - b.origin) * (s + 6 * t * (1 - t) * (1 - s)) := by
    rw [HermiteCurve.velocity_solve, hs.origin, hs.destination, scaled_chord]
    ext <;> simp <;> ring
  -- the factor is `s` at both ends and lies between `s` and `(3 - s) / 2` in the middle
  have hbump : 0 ≤ 6 * t * (1 - t) := by
    have := sub_pos.mpr ht'
    positivity
  have hbump' : 6 * t * (1 - t) ≤ 3 / 2 := by nlinarith [sq_nonneg (2 * t - 1)]
  have hfactor : 0.001 ≤ s + 6 * t * (1 - t) * (1 - s) := by
    rcases le_or_gt s 1 with h1 | h1
    · have := mul_nonneg hbump (sub_nonneg.mpr h1)
      linarith
    · have := mul_le_mul_of_nonneg_right hbump' (sub_nonneg.mpr h1.le)
      norm_num
      linarith
  have hnorm : 0 ≤ (b.destination - b.origin).norm * |s + 6 * t * (1 - t) * (1 - s)| :=
    mul_nonneg (Vec3.norm_nonneg _) (abs_nonneg _)
  rw [hvelocity, Vec3.norm_mul, isZero_real, abs_of_nonneg hnorm, not_lt]
  calc
    (1.1920928955078125e-7 : ℝ) ≤ 1 * 0.001 := by norm_num
    _ ≤ (b.destination - b.origin).norm * |s + 6 * t * (1 - t) * (1 - s)| :=
      mul_le_mul hlong (hfactor.trans (le_abs_self _)) (by norm_num) (Vec3.norm_nonneg _)

end Boundary

namespace Autopilot

def boundary {α : Type} (a : Autopilot α) : Boundary α :=
  ⟨a.navigator.segment.origin, a.navigator.segment.destination, a.navigator.spline.originVel,
    a.navigator.spline.destinationVel⟩

/-- The curve of a spline has the velocity that its segment and the velocities asked for give. A
segment that is shifted leaves its curve behind, but not the velocity. -/
structure Laid (a : Autopilot ℝ) : Prop where
  velocity (t : ℝ) : a.navigator.spline.curve.velocity t =
    (HermiteCurve.solve a.boundary.scaled).velocity t
  length : a.navigator.segment.length = (a.boundary.destination - a.boundary.origin).norm

variable {a : Autopilot ℝ} {r : Readings ℝ}

theorem laid_beginSpline (a : Autopilot ℝ) (now : Nat) (q : SplineRequest ℝ) (x : ℝ) :
    Laid (a.beginSpline now q x) :=
  ⟨fun _ ↦ rfl, rfl⟩

theorem laid_shift (h : Laid a) (r : Readings ℝ) : Laid (a.shiftToVehicle r) := by
  unfold shiftToVehicle
  split_ifs
  · exact h
  · refine ⟨fun t ↦ (h.velocity t).trans (a.boundary.velocity_scaled_shifted _ t).symm, ?_⟩
    refine h.length.trans (congrArg Vec3.norm ?_)
    ext <;> simp [boundary]

theorem Laid.of_eq {b : Autopilot ℝ} (h : Laid a) (hboundary : b.boundary = a.boundary)
    (hcurve : b.navigator.spline.curve = a.navigator.spline.curve)
    (hlength : b.navigator.segment.length = a.navigator.segment.length) : Laid b := by
  refine ⟨?_, ?_⟩
  · rw [hboundary, hcurve]
    exact h.velocity
  · rw [hboundary, hlength]
    exact h.length

theorem laid_start (h : Laid a) : Laid a.start.state := by
  have hsegment : a.start.state.navigator.segment = a.navigator.segment := a.repairAccel_segment
  have hspline : a.start.state.navigator.spline = a.navigator.spline := a.repairAccel_spline
  refine h.of_eq ?_ (congrArg _ hspline) (congrArg _ hsegment)
  rw [boundary, hsegment, hspline, boundary]

theorem laid_tickStraight (h : Laid a) (r : Readings ℝ) : Laid (a.tickStraight r).state := by
  refine h.of_eq ?_ (congrArg _ (a.tickStraight_spline r)) ?_
  · simp only [boundary, tickStraight_segment, tickStraight_spline]
  · rw [tickStraight_segment]

theorem laid_tickSpline (h : Laid a) (r : Readings ℝ) : Laid (a.tickSpline r).state := by
  obtain ⟨_, _, _, _, _, _, _, _, _, _, hn, -⟩ := (a.splineTick r).navigator_eq
  refine h.of_eq ?_ ?_ ?_
  · simp only [boundary, hn]
  · rw [hn]
  · rw [hn]

theorem laid_effect {b : Autopilot ℝ} {e : Event ℝ} (heff : e.Effect a b)
    (h : a.navigator.segment.kind = .spline → Laid a)
    (hk : b.navigator.segment.kind = .spline) : Laid b := by
  have hlaid (hkeep : a.Keeps e) : Laid a := h ((heff.kind hkeep).symm.trans hk)
  cases heff with
  | straight => cases hk
  | spline r hc hf q x => exact laid_beginSpline a r.now q x
  | start r => exact laid_start (hlaid fun hc ↦ absurd rfl hc)
  | shift r => exact laid_shift (hlaid fun hc ↦ absurd rfl hc) r
  | tickStraight r => exact laid_tickStraight (hlaid fun hc ↦ absurd rfl hc) r
  | tickSpline r => exact laid_tickSpline (hlaid fun hc ↦ absurd rfl hc) r
  | _ => exact (h hk).of_eq rfl rfl rfl

structure Flown (period : ℝ) (a : Autopilot ℝ) : Prop where
  period : a.controller.period = period
  laid : a.navigator.segment.kind = .spline → Laid a

theorem flown_effect {period : ℝ} {b : Autopilot ℝ} {e : Event ℝ} (heff : e.Effect a b)
    (he : e.InFlight) (h : Flown period a) : Flown period b := by
  refine ⟨?_, laid_effect heff h.laid⟩
  cases heff with
  | replaced c => cases he
  | start r => cases he
  | spline r hc hf q x hx =>
    show a.repairAccel.controller.period = period
    rw [repairAccel_controller]
    exact h.period
  | shift r =>
    unfold shiftToVehicle
    split_ifs <;> exact h.period
  | tickStraight r => exact (a.tickStraight_period r).trans h.period
  | tickSpline r => exact (a.splineTick r).period.trans h.period
  | setSpeedUp v r =>
    rw [setSpeedUp, PositionController.limitSpeedZ_eq]
    exact h.period
  | setSpeedDown v r =>
    rw [setSpeedDown, PositionController.limitSpeedZ_eq]
    exact h.period
  | _ => exact h.period

theorem flown_start (p : Params ℝ) (lean : ℝ) (c : PositionController ℝ)
    (saved : List (String × ℝ)) :
    Flown c.period (start ⟨.create p lean, c, saved⟩).state := by
  have hc := repairAccel_controller (⟨.create p lean, c, saved⟩ : Autopilot ℝ)
  have hs := repairAccel_segment (⟨.create p lean, c, saved⟩ : Autopilot ℝ)
  refine ⟨(startedController_period _ _).trans (congrArg _ hc), fun hk ↦ ?_⟩
  cases (congrArg Segment.kind hs).symm.trans hk

/-- When a spline of at least one centimetre counts as reached. Either its target has come to the
end of the curve, or it stays where the curve stands still. At the start of the curve that means
that the velocity there is next to nothing, and from rest to a stop it does not happen. -/
theorem spline_arrival (p : Params ℝ) (lean : ℝ) (c : PositionController ℝ)
    (saved : List (String × ℝ)) (hdt : 0.001 ≤ c.period) (es : List (Event ℝ))
    (hes : ∀ e ∈ es, e.InFlight) (r : Readings ℝ) :
    let a := (start ⟨.create p lean, c, saved⟩).state.after es
    let b := (a.tickSpline r).state
    a.navigator.flags.reached = false → b.navigator.flags.reached = true →
    1 ≤ a.navigator.segment.length →
      1 ≤ b.navigator.spline.time ∨
      (b.navigator.spline.time = a.navigator.spline.time ∧ b.navigator.spline.time < 1 ∧
        IsZero ((HermiteCurve.solve a.boundary.scaled).velocity a.navigator.spline.time).norm ∧
        (a.navigator.spline.time = 0 → IsZero a.boundary.scaled.originVel.norm) ∧
        (0 ≤ a.navigator.spline.time → ¬ a.boundary.IsRest a.controller.period)) := by
  intro a b hbefore hafter hlong
  have hflown : Flown c.period a := (along_of_forall hes).invariant
    (fun a e he h ↦ flown_effect (e.effect a) he h) (flown_start p lean c saved)
  have hkind : a.navigator.segment.kind = .spline := by
    cases hk : a.navigator.segment.kind with
    | spline => rfl
    | straight =>
      have ht : b = a := by simp only [b, tickSpline, hk]
      rw [ht, hbefore] at hafter
      cases hafter
  have hlaid := hflown.laid hkind
  rcases (a.splineTick r).arrives hbefore hafter with hend | ⟨hstill, htime⟩
  · exact .inl (one_literal ▸ hend)
  · rcases le_or_gt 1 b.navigator.spline.time with hend | hopen
    · exact .inl hend
    · rw [curveVelocity, hlaid.velocity] at hstill
      refine .inr ⟨htime, hopen, hstill, fun hzero ↦ ?_, fun hnonneg hrest ↦ ?_⟩
      · rwa [hzero, HermiteCurve.velocity_solve_zero] at hstill
      · have hperiod : 0.001 ≤ a.controller.period := hflown.period ▸ hdt
        have hchord : 1 ≤ (a.boundary.destination - a.boundary.origin).norm :=
          hlaid.length ▸ hlong
        exact hrest.not_isZero_velocity hperiod hchord hnonneg (htime ▸ hopen) hstill

/-- A spline of one centimetre, with ten kilometres to follow. -/
noncomputable def hop : SplineRequest ℝ :=
  ⟨.zero, ⟨1, 0, 0⟩, false, false, .straight ⟨1000000, 0, 0⟩⟩

noncomputable def hopping : List (Event ℝ) := [.call (.spline hop) Simulation.standard.readings]

theorem hopping_inFlight : ∀ e ∈ hopping, e.InFlight := by simp [hopping, Event.InFlight]

theorem hop_still :
    IsZero (Boundary.scaled
      ⟨.zero, ⟨1, 0, 0⟩, ⟨1 / 100, 0, 0⟩, ⟨999999, 0, 0⟩⟩ : Boundary ℝ).originVel.norm := by
  set b : Boundary ℝ := ⟨.zero, ⟨1, 0, 0⟩, ⟨1 / 100, 0, 0⟩, ⟨999999, 0, 0⟩⟩
  have hsum : b.speedSum = 1 / 100 + 999999 := by
    rw [Boundary.speedSum, Vec3.norm_north (by norm_num), Vec3.norm_north (by norm_num)]
  have hlimit : b.speedLimit = 4 := by
    rw [Boundary.speedLimit, Vec3.sub_zero, Vec3.norm_north (by norm_num)]
    norm_num
  have hshrink : b.shrinkFactor = 4 / (1 / 100 + 999999) := by
    rw [Boundary.shrinkFactor, hsum, hlimit, if_pos (by norm_num [isPositive_real])]
  rw [Boundary.scaled_originVel, Boundary.scale, if_pos (by rw [hsum, hlimit]; norm_num),
    Vec3.norm_mul, Vec3.norm_north (by norm_num), hshrink]
  norm_num [isZero_real, abs_of_pos]

theorem join_of_not_reached (a : Autopilot ℝ) (now : Nat) (q : SplineRequest ℝ)
    (h : a.navigator.flags.reached = false) :
    a.join now q = ⟨(q.destination - q.origin) * a.controller.period, 0.0, 0.0⟩ := by
  unfold join
  exact if_pos (.inr fun hjoin ↦ absurd (h.symm.trans hjoin.1) (by decide))

section Rest

variable {a : Autopilot ℝ} {now : Nat} {q : SplineRequest ℝ} {x : ℝ}

theorem beginSpline_join (h : a.navigator.flags.reached = false) :
    a.repairAccel.join now q = ⟨(q.destination - q.origin) * a.controller.period, 0.0, 0.0⟩ := by
  rw [join_repairAccel, join_of_not_reached _ _ _ h]

theorem beginSpline_time (h : a.navigator.flags.reached = false) :
    (a.beginSpline now q x).navigator.spline.time = 0 :=
  (congrArg Join.time (beginSpline_join h)).trans zero_literal

theorem beginSpline_speed (h : a.navigator.flags.reached = false) :
    (a.beginSpline now q x).navigator.spline.speed = 0 :=
  (congrArg Join.speed (beginSpline_join h)).trans zero_literal

theorem beginSpline_boundary (h : a.navigator.flags.reached = false) :
    (a.beginSpline now q x).boundary =
      ⟨q.origin, q.destination, (q.destination - q.origin) * a.controller.period,
        q.following.velocity q.origin q.destination a.controller.period⟩ := by
  show (⟨_, _, (a.repairAccel.join now q).originVel, q.following.velocity q.origin q.destination
    a.repairAccel.controller.period⟩ : Boundary ℝ) = _
  rw [beginSpline_join h, repairAccel_controller]
  rfl

theorem isRest_beginSpline (h : a.navigator.flags.reached = false) (hq : q.following = .stop) :
    (a.beginSpline now q x).boundary.IsRest a.controller.period := by
  rw [beginSpline_boundary h, hq]
  exact ⟨rfl, rfl⟩

theorem beginSpline_moves (h : a.navigator.flags.reached = false) (hq : q.following = .stop)
    (hdt : 0.001 ≤ a.controller.period) (hlong : 1 ≤ (q.destination - q.origin).norm) :
    ¬ IsZero (a.beginSpline now q x).curveVelocity.norm := by
  rw [curveVelocity, (laid_beginSpline a now q x).velocity, beginSpline_time h]
  exact (isRest_beginSpline h hq).not_isZero_velocity hdt hlong le_rfl one_pos

end Rest

theorem hop_arrives :
    let a := (Simulation.standard : Simulation ℝ).autopilot.start.state.after hopping
    let b := (a.tickSpline Simulation.standard.readings).state
    a.navigator.flags.reached = false ∧ b.navigator.flags.reached = true ∧
      a.navigator.segment.length = 1 ∧ b.navigator.spline.time = 0 := by
  rw [start_standard]
  intro a b
  have hreached : a.navigator.flags.reached = false := rfl
  have hlength : a.navigator.segment.length = 1 := by
    show (⟨1, 0, 0⟩ - .zero : Vec3 ℝ).norm = 1
    rw [Vec3.sub_zero, Vec3.norm_north zero_le_one]
  have htime : a.navigator.spline.time = 0 := beginSpline_time rfl
  have hboundary : a.boundary =
      ⟨.zero, ⟨1, 0, 0⟩, ⟨1 / 100, 0, 0⟩, ⟨999999, 0, 0⟩⟩ := by
    have hfrom : (⟨1, 0, 0⟩ - .zero : Vec3 ℝ) * (0.01 : ℝ) = ⟨1 / 100, 0, 0⟩ := by
      ext <;> norm_num
    have hinto : (⟨1000000, 0, 0⟩ - ⟨1, 0, 0⟩ : Vec3 ℝ) = ⟨999999, 0, 0⟩ := by
      ext <;> norm_num
    rw [← hfrom, ← hinto]
    exact beginSpline_boundary rfl
  have hlaid : Laid a := laid_beginSpline _ _ hop 0.0
  have hstill : IsZero a.curveVelocity.norm := by
    rw [curveVelocity, hlaid.velocity, htime, hboundary, HermiteCurve.velocity_solve_zero]
    exact hop_still
  obtain ⟨hafter, hkeep⟩ :=
    (a.splineTick Simulation.standard.readings).arrives_of_still rfl hreached hstill
  exact ⟨hreached, hafter, hlength, hkeep.trans htime⟩

theorem arrival_before_end :
    let a := (Simulation.standard : Simulation ℝ).autopilot.start.state.after hopping
    let b := (a.tickSpline Simulation.standard.readings).state
    0.001 ≤ (Simulation.standard : Simulation ℝ).autopilot.controller.period ∧
      (∀ e ∈ hopping, e.InFlight) ∧ a.navigator.flags.reached = false ∧
      b.navigator.flags.reached = true ∧ 1 ≤ a.navigator.segment.length ∧
      ¬ 1 ≤ b.navigator.spline.time := by
  intro a b
  obtain ⟨hbefore, hafter, hlength, htime⟩ := hop_arrives
  refine ⟨?_, hopping_inFlight, hbefore, hafter, hlength.ge, ?_⟩
  · show (0.001 : ℝ) ≤ 0.01
    norm_num
  · rw [htime]
    norm_num

theorem spline_arrival_hop :
    let a := (Simulation.standard : Simulation ℝ).autopilot.start.state.after hopping
    let b := (a.tickSpline Simulation.standard.readings).state
    0.001 ≤ (Simulation.standard : Simulation ℝ).autopilot.controller.period ∧
      (∀ e ∈ hopping, e.InFlight) ∧ a.navigator.flags.reached = false ∧
      b.navigator.flags.reached = true ∧ 1 ≤ a.navigator.segment.length ∧
      (1 ≤ b.navigator.spline.time ∨
        b.navigator.spline.time = a.navigator.spline.time ∧
          IsZero ((HermiteCurve.solve a.boundary.scaled).velocity
            a.navigator.spline.time).norm) := by
  intro a b
  obtain ⟨hbefore, hafter, hlength, -⟩ := hop_arrives
  have hdt : (0.001 : ℝ) ≤ (Simulation.standard : Simulation ℝ).autopilot.controller.period := by
    show (0.001 : ℝ) ≤ 0.01
    norm_num
  have h := spline_arrival _ _ _ _ hdt hopping hopping_inFlight Simulation.standard.readings
    hbefore hafter hlength.ge
  exact ⟨hdt, hopping_inFlight, hbefore, hafter, hlength.ge, h.imp id fun h ↦ ⟨h.1, h.2.2.1⟩⟩

end Autopilot

end WaypointFlight
