import WaypointFlight.Proofs.LeashLaw
import WaypointFlight.Proofs.StrictestAxis

namespace WaypointFlight

open Scalar

namespace Leash

variable {accel speed distance : ℝ}

theorem slowestApproach_real : (slowestApproach : ℝ) = 50 := by norm_num [slowestApproach]

theorem slowDownDistance_of_pos (ha : 0 < accel) :
    slowDownDistance speed accel = speed ^ 2 / (4 * accel) := by
  rw [TrackLimits.slowDownDistance_real, if_neg ha.not_ge]

/-- Past the destination the square root is zero, so that the floor needs no case of its own. -/
theorem slowDownSpeed_real (distance accel : ℝ) :
    slowDownSpeed distance accel = max 50 (√(4 * accel * max 0 distance)) := by
  unfold slowDownSpeed
  rw [zero_literal, slowestApproach_real]
  split_ifs with hd
  · rw [max_eq_left hd, mul_zero, Real.sqrt_zero]
    norm_num
  · have hfactor : distance * 4.0 * accel = 4 * accel * distance := by
      norm_num
      ring
    rw [max_eq_right (not_le.mp hd).le, maxNum_real, safeSqrt_real, hfactor, max_comm]

theorem slowDownSpeed_mono (ha : 0 ≤ accel) :
    Monotone (fun distance ↦ slowDownSpeed distance accel) := by
  intro near far h
  simp only [slowDownSpeed_real]
  gcongr

theorem slowDownDistance_strictMonoOn (ha : 0 < accel) :
    StrictMonoOn (fun speed ↦ slowDownDistance speed accel) (Set.Ici 0) := by
  intro slow hslow fast _ h
  simp only [slowDownDistance_of_pos ha]
  have hslow : 0 ≤ slow := hslow
  gcongr

theorem le_slowDownSpeed_iff (ha : 0 < accel) (hv : 50 < speed) :
    speed ≤ slowDownSpeed distance accel ↔ slowDownDistance speed accel ≤ distance := by
  have hpos : 0 < speed := by linarith
  have hneeds : 0 < speed ^ 2 / (4 * accel) := by positivity
  calc
    speed ≤ slowDownSpeed distance accel ↔ speed ≤ √(4 * accel * max 0 distance) := by
      rw [slowDownSpeed_real, le_max_iff, or_iff_right (not_le.mpr hv)]
    _ ↔ speed ^ 2 / (4 * accel) ≤ max 0 distance := by
      rw [Real.le_sqrt' hpos, div_le_iff₀' (by positivity)]
    _ ↔ slowDownDistance speed accel ≤ distance := by
      rw [slowDownDistance_of_pos ha, le_max_iff, or_iff_right (not_le.mpr hneeds)]

theorem le_slowDownSpeed (ha : 0 < accel) (h : slowDownDistance speed accel ≤ distance) :
    speed ≤ slowDownSpeed distance accel := by
  rcases le_or_gt speed 50 with hslow | hfast
  · exact hslow.trans (slowestApproach_real ▸ slowestApproach_le distance accel)
  · exact (le_slowDownSpeed_iff ha hfast).mpr h

theorem slowDownSpeed_slowDownDistance (ha : 0 < accel) (hv : 50 ≤ speed) :
    slowDownSpeed (slowDownDistance speed accel) accel = speed := by
  have hpos : 0 ≤ speed := by linarith
  have hneeds : 0 ≤ speed ^ 2 / (4 * accel) := by positivity
  rw [slowDownSpeed_real, slowDownDistance_of_pos ha, max_eq_right hneeds,
    mul_div_cancel₀ _ (by positivity), Real.sqrt_sq hpos, max_eq_right hv]

end Leash

namespace Autopilot

def Matched (a : Autopilot ℝ) : Prop :=
  a.navigator.segment.kind = .straight →
    a.navigator.track.limits.slowDownDistance =
      Leash.slowDownDistance a.navigator.track.limits.speed a.navigator.track.limits.accel

variable {a b : Autopilot ℝ} {e : Event ℝ}

theorem matched_create (p : Params ℝ) (lean : ℝ) (c : PositionController ℝ)
    (saved : List (String × ℝ)) : Matched ⟨.create p lean, c, saved⟩ := by
  intro _
  simp [Navigator.create, TrackLimits.initial, Leash.slowDownDistance]

theorem matched_tickStraight (h : Matched a) (r : Readings ℝ) :
    Matched (a.tickStraight r).state := by
  intro hk
  rw [tickStraight_segment] at hk
  rw [tickStraight_limits]
  split_ifs
  · rfl
  · exact h hk

theorem matched_effect (he : e.Effect a b) (h : Matched a) : Matched b := by
  cases he with
  | straight r hc hf o d t x hx => exact fun _ ↦ rfl
  | spline r hc hf q x hx => exact fun hk ↦ by cases hk
  | start r =>
    intro hk
    have hsegment : a.start.state.navigator.segment = a.navigator.segment := a.repairAccel_segment
    have htrack : a.start.state.navigator.track = a.navigator.track := a.repairAccel_track
    rw [hsegment] at hk
    rw [htrack]
    exact h hk
  | shift r =>
    unfold shiftToVehicle
    split_ifs
    · exact h
    · exact h
  | tickStraight r => exact matched_tickStraight h r
  | tickSpline r =>
    cases hk : a.navigator.segment.kind with
    | straight =>
      simp only [tickSpline, hk]
      exact h
    | spline =>
      have hkind : (a.tickSpline r).state.navigator.segment.kind = _ :=
        (Event.Effect.tickSpline r).kind fun hset ↦ absurd rfl hset
      exact fun hk' ↦ by cases hk.symm.trans (hkind.symm.trans hk')
  | _ => exact h

theorem Reachable.matched (h : Reachable a) : Matched a := by
  induction h with
  | created p lean c saved => exact matched_create p lean c saved
  | event _ e ih => exact matched_effect (e.effect _) ih

end Autopilot

/-- A target at the speed limit is left alone while as much of the track is left as it needs. -/
theorem Navigator.approachSpeed_of_far (n : Navigator ℝ) (v : Approach ℝ)
    (ha : 0 < n.track.limits.accel)
    (hfar : Leash.slowDownDistance n.track.limits.speed n.track.limits.accel ≤ n.distanceLeft) :
    n.approachSpeed v n.track.limits.speed = n.track.limits.speed := by
  unfold approachSpeed
  split_ifs
  · rw [minNum_real, min_eq_left (Leash.le_slowDownSpeed ha hfar)]
  · rfl

open Leash in
/-- The slow-down law. Above the floor the speed that a distance leaves and the distance that a
speed needs are inverse to each other. A target at the speed limit of its track is slowed only from
the slow-down distance of the track on, whether or not it has been slowed before. -/
theorem Leash.slowDown_inverse {accel : ℝ} (ha : 0 < accel) :
    (∀ speed distance, 50 < speed →
      (speed ≤ slowDownSpeed distance accel ↔ slowDownDistance speed accel ≤ distance)) ∧
    Monotone (fun distance ↦ slowDownSpeed distance accel) ∧
    StrictMonoOn (fun speed ↦ slowDownDistance speed accel) (Set.Ici 0) ∧
    (∀ speed, 50 < speed → slowDownSpeed (slowDownDistance speed accel) accel = speed) ∧
    ∀ a : Autopilot ℝ, a.Reachable → a.navigator.segment.kind = .straight →
      let limits := a.navigator.track.limits
      limits.accel = accel → limits.slowDownDistance ≤ a.navigator.distanceLeft →
      ∀ v, a.navigator.approachSpeed v limits.speed = limits.speed := by
  refine ⟨fun _ _ ↦ le_slowDownSpeed_iff ha, slowDownSpeed_mono ha.le,
    slowDownDistance_strictMonoOn ha, fun _ hv ↦ slowDownSpeed_slowDownDistance ha hv.le, ?_⟩
  intro a hreach hk limits haccel hfar v
  have hneeds : limits.slowDownDistance = slowDownDistance limits.speed limits.accel :=
    hreach.matched hk
  exact a.navigator.approachSpeed_of_far v (haccel ▸ ha) (hneeds ▸ hfar)

/-- A target that begins exactly at its slow-down distance slows down, from the speed limit. -/
theorem Leash.slowDown_inverse_northward :
    let n := (Autopilot.northward 625).navigator
    let v := (Autopilot.northward 625).approachAt Simulation.standard.readings 0.0
    n.slowsDown v = true ∧ n.approachSpeed v n.track.limits.speed = 500 ∧
      slowDownSpeed (slowDownDistance 400 100) 100 = (400 : ℝ) ∧
      ¬ (500 : ℝ) ≤ slowDownSpeed 624 100 := by
  intro n v
  have hpos : IsPositive (625 : ℝ) := by norm_num [isPositive_real]
  have hlimits : n.track.limits = ⟨100, 500, 1300, 625⟩ := Autopilot.northward_limits hpos
  have hleft : n.distanceLeft = 625 := by
    rw [Navigator.distanceLeft, Autopilot.northward_length hpos.pos.le,
      Autopilot.northward_desired, sub_zero]
  have hreach : (Autopilot.northward 625).Reachable :=
    (Autopilot.Reachable.created _ _ _ _).event (.call _ _)
  have ha : (0 : ℝ) < 100 := by norm_num
  obtain ⟨hiff, -, -, hinverse, hfar⟩ := slowDown_inverse ha
  have hkept := hfar _ hreach rfl (congrArg TrackLimits.accel hlimits)
    (by rw [hleft, hlimits]) v
  have hneeds : slowDownDistance (500 : ℝ) 100 = 625 := by
    rw [slowDownDistance_of_pos (by norm_num)]
    norm_num
  have hslows : n.slowsDown v = true := by
    have hopposed : ¬ v.Opposed := Autopilot.northward_not_opposed hpos rfl 0.0
    have hordinary : n.flags.fast = false := rfl
    simp [Navigator.slowsDown, hopposed, hleft, hlimits, hordinary]
  refine ⟨hslows, by rw [hkept, hlimits], hinverse 400 (by norm_num), ?_⟩
  rw [hiff 500 624 (by norm_num), hneeds]
  norm_num

end WaypointFlight
