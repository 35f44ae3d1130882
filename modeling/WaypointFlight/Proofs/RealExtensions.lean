import WaypointFlight.Curve.Boundary
import WaypointFlight.Governor
import WaypointFlight.Heading
import WaypointFlight.Proofs.Images
import WaypointFlight.Proofs.RealVectors

namespace WaypointFlight

open Scalar

/-- The reals inside a number system. A quotient or a remainder by zero is left open. It may be a
number of its own, which operations keep and comparisons treat as they like. -/
structure RealExtension (β : Type) [Analytic β] where
  embed : ℝ → β
  literal (m : ℕ) (s : Bool) (k : ℕ) :
    (OfScientific.ofScientific m s k : β) = embed (OfScientific.ofScientific m s k)
  add (x y : ℝ) : embed x + embed y = embed (x + y)
  sub (x y : ℝ) : embed x - embed y = embed (x - y)
  mul (x y : ℝ) : embed x * embed y = embed (x * y)
  neg (x : ℝ) : -embed x = embed (-x)
  div (x : ℝ) {y : ℝ} (h : y ≠ 0) : embed x / embed y = embed (x / y)
  rem (x : ℝ) {y : ℝ} (h : y ≠ 0) : Scalar.rem (embed x) (embed y) = embed (Scalar.rem x y)
  lt (x y : ℝ) : embed x < embed y ↔ x < y
  le (x y : ℝ) : embed x ≤ embed y ↔ x ≤ y
  isNaN (x : ℝ) : Scalar.isNaN (embed x) = false
  abs (x : ℝ) : Scalar.abs (embed x) = embed (Scalar.abs x)
  sqrt (x : ℝ) : Scalar.sqrt (embed x) = embed (Scalar.sqrt x)
  degreesPerRadian : Scalar.degreesPerRadian = embed Scalar.degreesPerRadian
  hypot (x y : ℝ) : Analytic.hypot (embed x) (embed y) = embed (Analytic.hypot x y)
  atan2 (y x : ℝ) : Analytic.atan2 (embed y) (embed x) = embed (Analytic.atan2 y x)
  cos (x : ℝ) : Analytic.cos (embed x) = embed (Analytic.cos x)
  tan (x : ℝ) : Analytic.tan (embed x) = embed (Analytic.tan x)
  radiansPerDegree : Analytic.radiansPerDegree = embed Analytic.radiansPerDegree
  round (x : ℝ) : Analytic.round (embed x) = embed (Analytic.round x)
  ceil (x : ℝ) : Analytic.ceil (embed x) = embed (Analytic.ceil x)
  ofInt (n : ℤ) : Analytic.ofInt n = embed (Analytic.ofInt n)
  toWord (r : WordRange) (x : ℝ) : Analytic.toWord r (embed x) = Analytic.toWord r x

instance {β : Type} [Analytic β] : CoeFun (RealExtension β) fun _ ↦ ℝ → β := ⟨RealExtension.embed⟩

variable {β : Type} [Analytic β] (e : RealExtension β)

namespace Scalar

variable (x y lo hi : ℝ)

theorem maxNum_embed : maxNum (e x) (e y) = e (maxNum x y) := by
  simp only [maxNum, e.isNaN, e.lt, apply_ite e.embed]
  rfl

theorem minNum_embed : minNum (e x) (e y) = e (minNum x y) := by
  simp only [minNum, e.isNaN, e.lt, apply_ite e.embed]
  rfl

theorem square_embed : square (e x) = e (square x) := e.mul x x

theorem isZero_embed : IsZero (e x) ↔ IsZero x := by
  simp only [IsZero, tolerance, e.abs, e.literal, e.lt]

theorem isPositive_embed : IsPositive (e x) ↔ IsPositive x := by
  simp only [IsPositive, tolerance, e.literal, e.le]

theorem isEqual_embed : IsEqual (e x) (e y) ↔ IsEqual x y := by
  simp only [IsEqual, e.sub, isZero_embed]

theorem constrain_embed : constrain (e x) (e lo) (e hi) = e (constrain x lo hi) := by
  simp only [constrain, e.isNaN, e.lt, apply_ite e.embed]
  rfl

theorem safeSqrt_embed : safeSqrt (e x) = e (safeSqrt x) := by
  simp only [safeSqrt, e.sqrt, e.isNaN]
  rfl

theorem turn_embed : turn = e turn := e.literal _ _ _

theorem turn_ne_zero : (turn : ℝ) ≠ 0 := by norm_num [turn]

theorem residue_embed (h : y ≠ 0) : residue (e x) (e y) = e (residue x y) := by
  simp only [residue, e.rem x h, e.abs, e.literal, e.lt, e.add, apply_ite e.embed]

theorem wrapTurn_embed : wrapTurn (e x) = e (wrapTurn x) := by
  simp only [wrapTurn, turn_embed e, residue_embed e x _ turn_ne_zero, e.le, e.literal,
    apply_ite e.embed]

theorem centidegrees_embed : centidegrees (e x) = e (centidegrees x) := by
  simp only [centidegrees, e.degreesPerRadian, e.literal, e.mul]

theorem ne_zero_of_not_isZero {x : ℝ} (h : ¬ IsZero x) : x ≠ 0 := by
  rintro rfl
  exact h isZero_zero

theorem ne_zero_of_not_le_zero {x : ℝ} (h : ¬ x ≤ 0.0) : x ≠ 0 := by
  rintro rfl
  exact h zero_literal.ge

end Scalar

namespace Vec2

variable (u v : Vec2 ℝ) (s : ℝ)

theorem add_image : u.image e + v.image e = (u + v).image e := by
  ext <;> exact e.add _ _

theorem mul_image : v.image e * e s = (v * s).image e := by
  ext <;> exact e.mul _ _

theorem zero_image : zero = (zero : Vec2 ℝ).image e := by
  ext <;> exact e.literal _ _ _

theorem norm_image : (v.image e).norm = e v.norm := by
  simp only [norm, image, e.mul, e.add, e.sqrt]

end Vec2

namespace Vec3

variable (u v : Vec3 ℝ) (s : ℝ)

theorem add_image : u.image e + v.image e = (u + v).image e := by
  ext <;> exact e.add _ _

theorem sub_image : u.image e - v.image e = (u - v).image e := by
  ext <;> exact e.sub _ _

theorem mul_image : v.image e * e s = (v * s).image e := by
  ext <;> exact e.mul _ _

theorem div_image (h : s ≠ 0) : v.image e / e s = (v / s).image e := by
  ext <;> exact e.div _ h

theorem zero_image : zero = (zero : Vec3 ℝ).image e := by
  ext <;> exact e.literal _ _ _

theorem vertical_image : vertical (e s) = (vertical s).image e := by
  ext
  · exact e.literal _ _ _
  · exact e.literal _ _ _
  · rfl

theorem dot_image : (u.image e).dot (v.image e) = e (u.dot v) := by
  simp only [dot, image, e.mul, e.add]

theorem norm_image : (v.image e).norm = e v.norm := by
  rw [norm, dot_image, e.sqrt]
  rfl

end Vec3

namespace HermiteCurve

variable (c : HermiteCurve ℝ) (t : ℝ)

theorem zero_image : zero = (zero : HermiteCurve ℝ).image e := by
  ext1 <;> exact Vec3.zero_image e

theorem solve_image (b : Boundary ℝ) : solve (b.image e) = (solve b).image e := by
  simp only [solve, Boundary.image, image, e.literal, e.neg, Vec3.mul_image, Vec3.add_image,
    Vec3.sub_image]

theorem position_image : (c.image e).position (e t) = (c.position t).image e := by
  simp only [position, image, e.mul, Vec3.mul_image, Vec3.add_image]

theorem velocity_image : (c.image e).velocity (e t) = (c.velocity t).image e := by
  simp only [velocity, image, e.literal, e.mul, Vec3.mul_image, Vec3.add_image]

end HermiteCurve

namespace Boundary

variable (b : Boundary ℝ)

theorem speedSum_image : (b.image e).speedSum = e b.speedSum := by
  simp only [speedSum, image, Vec3.norm_image, e.add]

theorem speedLimit_image : (b.image e).speedLimit = e b.speedLimit := by
  simp only [speedLimit, image, Vec3.sub_image, Vec3.norm_image, e.literal, e.mul]

theorem shrinkFactor_image : (b.image e).shrinkFactor = e b.shrinkFactor := by
  simp only [shrinkFactor, speedSum_image, speedLimit_image, isPositive_embed, e.literal]
  split_ifs with h
  · exact e.div _ h.pos.ne'
  · rfl

theorem scaled_image : (b.image e).scaled = b.scaled.image e := by
  simp only [scaled, speedSum_image, speedLimit_image, shrinkFactor_image, e.lt]
  split_ifs
  · simp only [image, Vec3.mul_image]
  · rfl

end Boundary

namespace Leash

variable (speed distance accel gain trackLeash error axisLeash leash used : ℝ)

theorem shortest_embed : shortest = e shortest := e.literal _ _ _

theorem slowestApproach_embed : slowestApproach = e slowestApproach := e.literal _ _ _

/-- Gain and acceleration are divisors only where both are positive. -/
theorem length_embed : length (e speed) (e accel) (e gain) = e (length speed accel gain) := by
  unfold length
  simp only [shortest_embed e, e.literal, e.le]
  by_cases ha : accel ≤ 0.0
  · simp only [if_pos ha]
  by_cases hg : gain ≤ 0.0
  · simp only [if_neg ha, if_pos hg]
  have hgain : gain ≠ 0 := ne_zero_of_not_le_zero hg
  have hlag : 2.0 * gain * gain ≠ 0 := mul_ne_zero (mul_ne_zero (by norm_num) hgain) hgain
  have hbrake : 2.0 * accel ≠ 0 := mul_ne_zero (by norm_num) (ne_zero_of_not_le_zero ha)
  simp only [if_neg ha, if_neg hg, e.div _ hgain, e.le, e.mul, e.div _ hlag, e.div _ hbrake, e.add,
    maxNum_embed, apply_ite e.embed]

theorem slowDownDistance_embed :
    slowDownDistance (e speed) (e accel) = e (slowDownDistance speed accel) := by
  unfold slowDownDistance
  simp only [e.literal, e.le]
  split_ifs with h
  · rfl
  · have hdivisor : 4.0 * accel ≠ 0 := mul_ne_zero (by norm_num) (ne_zero_of_not_le_zero h)
    simp only [e.mul, e.div _ hdivisor]

theorem slowDownSpeed_embed :
    slowDownSpeed (e distance) (e accel) = e (slowDownSpeed distance accel) := by
  simp only [slowDownSpeed, slowestApproach_embed e, e.literal, e.le, e.mul, safeSqrt_embed,
    maxNum_embed, apply_ite e.embed]

theorem taken_embed : taken (e trackLeash) (e error) (e axisLeash) =
    e (taken trackLeash error axisLeash) := by
  unfold taken
  simp only [isPositive_embed, isZero_embed, e.literal, e.mul]
  split_ifs with h
  · exact e.div _ h.pos.ne'
  · rfl
  · rfl

theorem fractionLeft_embed : fractionLeft (e error) (e axisLeash) =
    e (fractionLeft error axisLeash) := by
  unfold fractionLeft
  simp only [isPositive_embed, e.literal, e.sub]
  split_ifs with h
  · exact e.div _ h.pos.ne'
  · rfl

theorem slack_embed : slack (e leash) (e used) = e (slack leash used) := by
  simp only [slack, square_embed, e.sub, safeSqrt_embed, e.literal, e.lt, apply_ite e.embed]

end Leash

namespace TrackLimits

/-- The parts of a direction are divisors only where they are not zero. -/
theorem project_embed (partXY partZ still limitXY limitZ : ℝ) :
    project (e partXY) (e partZ) (e still) (e limitXY) (e limitZ) =
      e (project partXY partZ still limitXY limitZ) := by
  unfold project
  simp only [isZero_embed]
  split_ifs with hz hxy hxy
  · rfl
  · exact e.div _ (ne_zero_of_not_isZero hxy)
  · exact e.div _ (ne_zero_of_not_isZero hz)
  · rw [e.div _ (ne_zero_of_not_isZero hz), e.div _ (ne_zero_of_not_isZero hxy), minNum_embed]

theorem initial_image : initial = (initial : TrackLimits ℝ).image e := by
  ext <;> exact e.literal _ _ _

end TrackLimits

theorem AxisLimits.vertical_image (l : AxisLimits ℝ) (up : ℝ) :
    (l.image e).vertical (e up) = ((e (l.vertical up).1), (e (l.vertical up).2)) := by
  simp only [vertical, e.literal, e.le]
  split_ifs <;> rfl

theorem TrackLimits.along_image (u : Vec3 ℝ) (l : AxisLimits ℝ) :
    along (u.image e) (l.image e) = (along u l).image e := by
  simp only [along, AxisLimits.vertical_image, AxisLimits.image_speedXY, AxisLimits.image_accelXY,
    AxisLimits.image_accelZ, AxisLimits.image_leashXY, Vec3.image_north, Vec3.image_east,
    Vec3.image_up, e.hypot, e.abs, e.literal, Leash.shortest_embed e, project_embed,
    Leash.slowDownDistance_embed, maxNum_embed]
  rfl

theorem Governor.step_embed (current requested accel dt : ℝ) :
    step (e current) (e requested) (e accel) (e dt) =
      (step current requested accel dt).map e := by
  simp only [step, isEqual_embed, e.lt, e.mul, e.add, e.sub, minNum_embed, maxNum_embed]
  split_ifs <;> rfl

namespace Heading

variable (north east lengthXY leashXY : ℝ)

theorem shortestTrack_embed : shortestTrack = e shortestTrack := e.literal _ _ _

theorem direction_embed : direction (e north) (e east) = e (direction north east) := by
  simp only [direction, e.atan2, centidegrees_embed]

theorem bearing_embed (start finish : Vec3 ℝ) :
    bearing (start.image e) (finish.image e) = e (bearing start finish) := by
  simp only [bearing, Vec3.image, e.sub, direction_embed, wrapTurn_embed]

theorem deadZone_embed : deadZone (e leashXY) = e (deadZone leashXY) := by
  simp only [deadZone, shortestTrack_embed e, leashPart, e.literal, e.mul, minNum_embed]

theorem onStraight_embed (origin destination target position : Vec3 ℝ) :
    onStraight (e lengthXY) (e leashXY) (origin.image e) (destination.image e) (target.image e)
        (position.image e) =
      (onStraight lengthXY leashXY origin destination target position).map e := by
  simp only [onStraight, shortestTrack_embed e, bearing_embed, deadZone_embed, Vec3.image_north,
    Vec3.image_east, e.sub, e.hypot, direction_embed, e.lt]
  split_ifs <;> rfl

theorem onSpline_embed (targetVel error : Vec3 ℝ) :
    onSpline (e lengthXY) (e leashXY) (targetVel.image e) (error.image e) =
      (onSpline lengthXY leashXY targetVel error).map e := by
  simp only [onSpline, shortestTrack_embed e, deadZone_embed, Vec3.image, isZero_embed, e.neg,
    e.hypot, direction_embed, e.lt]
  split_ifs <;> rfl

end Heading

theorem terrainOffset_embed (altitude : ℝ) (range : Option (RangeReading ℝ))
    (d : TerrainDatabase ℝ) :
    terrainOffset (e altitude) (range.map (·.image e)) (d.image e) =
      (terrainOffset altitude range d).map e := by
  cases range with
  | some r =>
    simp only [terrainOffset, Option.map_some, RangeReading.image_healthy,
      RangeReading.image_distance, e.sub]
    split_ifs <;> rfl
  | none =>
    cases hd : d.height with
    | some height =>
      simp only [terrainOffset, TerrainDatabase.offset, Option.map_none,
        TerrainDatabase.image_height, hd, Option.map_some, e.literal, e.mul, e.sub]
      rfl
    | none =>
      simp only [terrainOffset, TerrainDatabase.offset, Option.map_none,
        TerrainDatabase.image_height, hd]
      rfl

end WaypointFlight
