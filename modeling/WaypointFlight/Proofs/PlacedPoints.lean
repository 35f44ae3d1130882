import WaypointFlight.Proofs.RealVectors
import WaypointFlight.Proofs.Ticks

namespace WaypointFlight

open Scalar

/-- A turn about the vertical axis, by an angle given by its cosine and sine, and then a shift. -/
structure Placement where
  cosine : ℝ
  sine : ℝ
  unit : cosine * cosine + sine * sine = 1
  shift : Vec3 ℝ

theorem Vec2.add_swap (u v w : Vec2 ℝ) : u + v + w = u + w + v := by
  ext
  · exact add_right_comm u.north v.north w.north
  · exact add_right_comm u.east v.east w.east

namespace Placement

variable (m : Placement)

def turnXY (v : Vec2 ℝ) : Vec2 ℝ :=
  ⟨v.north * m.cosine - v.east * m.sine, v.north * m.sine + v.east * m.cosine⟩

def turn (v : Vec3 ℝ) : Vec3 ℝ :=
  ⟨v.north * m.cosine - v.east * m.sine, v.north * m.sine + v.east * m.cosine, v.up⟩

noncomputable def place (v : Vec3 ℝ) : Vec3 ℝ := m.turn v + m.shift

variable (u v : Vec3 ℝ) (s : ℝ)

theorem turn_zero : m.turn .zero = .zero := by
  ext <;> simp [turn]

theorem turn_vertical : m.turn (.vertical s) = .vertical s := by
  ext <;> simp [turn]

theorem turn_add : m.turn (u + v) = m.turn u + m.turn v := by
  ext <;> simp [turn] <;> ring

theorem turn_sub : m.turn (u - v) = m.turn u - m.turn v := by
  ext <;> simp [turn] <;> ring

theorem turn_mul : m.turn (v * s) = m.turn v * s := by
  ext <;> simp [turn] <;> ring

theorem turn_div : m.turn (v / s) = m.turn v / s := by
  ext <;> simp [turn] <;> ring

theorem place_sub_place : m.place u - m.place v = m.turn (u - v) := by
  ext <;> simp [place, turn] <;> ring

theorem place_add_turn : m.place u + m.turn v = m.place (u + v) := by
  ext <;> simp [place, turn] <;> ring

theorem place_add_vertical : m.place u + .vertical s = m.place (u + .vertical s) := by
  rw [← place_add_turn, turn_vertical]

theorem place_sub_vertical_sub_place :
    m.place u - .vertical s - m.place v = m.turn (u - .vertical s - v) := by
  ext <;> simp [place, turn] <;> ring

theorem turn_product :
    (u.north * m.cosine - u.east * m.sine) * (v.north * m.cosine - v.east * m.sine) +
        (u.north * m.sine + u.east * m.cosine) * (v.north * m.sine + v.east * m.cosine) =
      u.north * v.north + u.east * v.east := by
  have h : (u.north * v.north + u.east * v.east) * (m.cosine * m.cosine + m.sine * m.sine) =
      u.north * v.north + u.east * v.east := by rw [m.unit, mul_one]
  rw [← h]
  ring

theorem dot_turn : (m.turn u).dot (m.turn v) = u.dot v := by
  rw [Vec3.dot_real, Vec3.dot_real]
  exact congrArg (· + u.up * v.up) (m.turn_product u v)

theorem norm_turn : (m.turn v).norm = v.norm := by
  rw [Vec3.norm_real, Vec3.norm_real, dot_turn]

theorem hypot_turn :
    Analytic.hypot (m.turn v).north (m.turn v).east = Analytic.hypot v.north v.east := by
  rw [hypot_real, hypot_real]
  exact congrArg Real.sqrt (m.turn_product v v)

theorem norm_turnXY (w : Vec2 ℝ) : (m.turnXY w).norm = w.norm :=
  congrArg Real.sqrt (m.turn_product ⟨w.north, w.east, 0⟩ ⟨w.north, w.east, 0⟩)

theorem turnXY_add (w x : Vec2 ℝ) : m.turnXY (w + x) = m.turnXY w + m.turnXY x := by
  ext
  · show (w.north + x.north) * m.cosine - (w.east + x.east) * m.sine =
      w.north * m.cosine - w.east * m.sine + (x.north * m.cosine - x.east * m.sine)
    ring
  · show (w.north + x.north) * m.sine + (w.east + x.east) * m.cosine =
      w.north * m.sine + w.east * m.cosine + (x.north * m.sine + x.east * m.cosine)
    ring

theorem turnXY_mul (w : Vec2 ℝ) : m.turnXY (w * s) = m.turnXY w * s := by
  ext
  · show w.north * s * m.cosine - w.east * s * m.sine = (w.north * m.cosine - w.east * m.sine) * s
    ring
  · show w.north * s * m.sine + w.east * s * m.cosine = (w.north * m.sine + w.east * m.cosine) * s
    ring

end Placement

namespace TrackLimits

theorem along_turn (m : Placement) (u : Vec3 ℝ) (l : AxisLimits ℝ) :
    along (m.turn u) l = along u l := by
  simp only [along, m.hypot_turn]
  rfl

end TrackLimits

namespace HermiteCurve

noncomputable def placed (c : HermiteCurve ℝ) (m : Placement) : HermiteCurve ℝ :=
  ⟨m.place c.c0, m.turn c.c1, m.turn c.c2, m.turn c.c3⟩

variable (c : HermiteCurve ℝ) (m : Placement) (t : ℝ)

theorem position_placed : (c.placed m).position t = m.place (c.position t) := by
  simp only [position, placed, ← m.turn_mul, m.place_add_turn]

theorem velocity_placed : (c.placed m).velocity t = m.turn (c.velocity t) := by
  simp only [velocity, placed, m.turn_mul, m.turn_add]

end HermiteCurve

namespace Boundary

noncomputable def placed (b : Boundary ℝ) (m : Placement) : Boundary ℝ where
  origin := m.place b.origin
  destination := m.place b.destination
  originVel := m.turn b.originVel
  destinationVel := m.turn b.destinationVel

variable (b : Boundary ℝ) (m : Placement)

theorem scaled_placed : (b.placed m).scaled = b.scaled.placed m := by
  have hsum : (b.placed m).speedSum = b.speedSum := by
    simp only [speedSum, placed, m.norm_turn]
  have hlimit : (b.placed m).speedLimit = b.speedLimit := by
    simp only [speedLimit, placed, m.place_sub_place, m.norm_turn]
  have hshrink : (b.placed m).shrinkFactor = b.shrinkFactor := by
    rw [shrinkFactor, hsum, hlimit, shrinkFactor]
  rw [scaled, hsum, hlimit, hshrink, scaled, apply_ite (placed · m)]
  simp only [placed, m.turn_mul]

/-- The shift is in the constant coefficient alone: in the others it comes to nothing. -/
theorem solve_placed : HermiteCurve.solve (b.placed m) = (HermiteCurve.solve b).placed m := by
  ext <;> norm_num [HermiteCurve.solve, HermiteCurve.placed, placed, Placement.place,
    Placement.turn] <;> ring

end Boundary

namespace SegmentEnd

noncomputable def placed (following : SegmentEnd (Vec3 ℝ)) (m : Placement) : SegmentEnd (Vec3 ℝ) :=
  match following with
  | .stop => .stop
  | .straight next => .straight (m.place next)
  | .spline next => .spline (m.place next)

variable (following : SegmentEnd (Vec3 ℝ)) (m : Placement)

theorem velocity_placed (origin destination : Vec3 ℝ) (dt : ℝ) :
    (following.placed m).velocity (m.place origin) (m.place destination) dt =
      m.turn (following.velocity origin destination dt) := by
  cases following <;> simp only [placed, velocity, m.place_sub_place, m.turn_mul]

theorem isFast_placed : (following.placed m).isFast = following.isFast := by
  cases following <;> rfl

end SegmentEnd

namespace Sight

def turned (s : Sight ℝ) (m : Placement) : Sight ℝ := { s with error := m.turn s.error }

variable (s : Sight ℝ) (m : Placement)

theorem errorXY_turned : (s.turned m).errorXY = s.errorXY := m.hypot_turn s.error

theorem taken_turned (c : PositionController ℝ) (leash : ℝ) :
    (s.turned m).taken c leash = s.taken c leash := by
  rw [taken, errorXY_turned]
  rfl

end Sight

namespace Segment

noncomputable def placed (s : Segment ℝ) (m : Placement) : Segment ℝ :=
  { s with
    origin := m.place s.origin
    destination := m.place s.destination
    direction := m.turn s.direction }

variable (s : Segment ℝ) (m : Placement)

theorem placed_direction : (s.placed m).direction = m.turn s.direction := rfl

theorem directionOf_turn (v : Vec3 ℝ) : directionOf (m.turn v) = m.turn (directionOf v) := by
  unfold directionOf
  rw [m.norm_turn]
  split_ifs
  · exact m.turn_zero.symm
  · exact (m.turn_div v _).symm

theorem between_placed (kind : SegmentKind) (t : Bool) (origin destination : Vec3 ℝ) :
    between kind t (m.place origin) (m.place destination) =
      (between kind t origin destination).placed m := by
  simp only [between, placed, m.place_sub_place, directionOf_turn, m.norm_turn, m.hypot_turn]

theorem sight_placed (position : Vec3 ℝ) (x : ℝ) :
    (s.placed m).sight (m.place position) x = (s.sight position x).turned m := by
  simp only [sight, placed, m.place_sub_vertical_sub_place, m.dot_turn, ← m.turn_mul, ← m.turn_sub]
  rfl

theorem pointAt_placed (distance x : ℝ) :
    (s.placed m).pointAt distance x = m.place (s.pointAt distance x) := by
  simp only [pointAt, placed, ← m.turn_mul, m.place_add_turn, m.place_add_vertical]

end Segment

namespace PositionController

noncomputable def placed (c : PositionController ℝ) (m : Placement) : PositionController ℝ :=
  { c with
    positionTarget := m.place c.positionTarget
    velocityTarget := m.turn c.velocityTarget
    vehiclePosition := m.place c.vehiclePosition
    vehicleVelocity := m.turn c.vehicleVelocity }

variable (c : PositionController ℝ) (m : Placement)

theorem placed_ite (p : Prop) [Decidable p] (d : PositionController ℝ) :
    (if p then c else d).placed m = if p then c.placed m else d.placed m :=
  apply_ite (·.placed m) p c d

theorem create_placed (period gainXY gainZ : ℝ) (position : Vec3 ℝ) :
    create period gainXY gainZ (m.place position) =
      (create period gainXY gainZ position).placed m := by
  unfold placed
  simp only [create, refreshLeashXY, refreshLeashZ, m.turn_zero]

theorem limitSpeedXY_placed (speed : ℝ) :
    (c.placed m).limitSpeedXY speed = (c.limitSpeedXY speed).placed m := by
  unfold limitSpeedXY
  rw [placed_ite]
  rfl

theorem limitAccelXY_placed (accel : ℝ) :
    (c.placed m).limitAccelXY accel = (c.limitAccelXY accel).placed m := by
  unfold limitAccelXY
  rw [placed_ite]
  rfl

theorem limitSpeedZ_placed (down up : ℝ) :
    (c.placed m).limitSpeedZ down up = (c.limitSpeedZ down up).placed m := by
  unfold limitSpeedZ
  rw [placed_ite]
  rfl

theorem limitAccelZ_placed (accel : ℝ) :
    (c.placed m).limitAccelZ accel = (c.limitAccelZ accel).placed m := by
  unfold limitAccelZ
  rw [placed_ite]
  rfl

theorem refreshStale_placed : (c.placed m).refreshStale = c.refreshStale.placed m := by
  rw [refreshStale_eq, refreshStale_eq]
  rfl

theorem stoppingPointXY_placed :
    (c.placed m).stoppingPointXY = m.turnXY c.stoppingPointXY + m.shift.horizontal := by
  have hspeed : (m.turnXY c.vehicleVelocity.horizontal).norm = c.vehicleVelocity.horizontal.norm :=
    m.norm_turnXY _
  show (if c.accelXY ≤ 0.0 then m.turnXY c.vehiclePosition.horizontal + m.shift.horizontal
    else m.turnXY c.vehiclePosition.horizontal + m.shift.horizontal +
      m.turnXY c.vehicleVelocity.horizontal *
        ((m.turnXY c.vehicleVelocity.horizontal).norm / (2.0 * c.accelXY))) = _
  rw [hspeed, ← m.turnXY_mul, stoppingPointXY]
  split_ifs
  · rfl
  · rw [m.turnXY_add, Vec2.add_swap]

theorem stoppingAltitude_placed :
    (c.placed m).stoppingAltitude = c.stoppingAltitude + m.shift.up := by
  show (if c.accelZ ≤ 0.0 then c.vehiclePosition.up + m.shift.up
    else c.vehiclePosition.up + m.shift.up +
      c.vehicleVelocity.up * Scalar.abs c.vehicleVelocity.up / (2.0 * c.accelZ)) = _
  rw [stoppingAltitude]
  split_ifs
  · rfl
  · exact add_right_comm _ _ _

theorem stoppingPoint_placed : (c.placed m).stoppingPoint = m.place c.stoppingPoint := by
  rw [stoppingPoint, stoppingPointXY_placed, stoppingAltitude_placed]
  rfl

theorem saturated_placed (v : Vec2 ℝ) :
    (c.placed m).saturated (m.turnXY v) = m.turnXY (c.saturated v) := by
  unfold saturated
  rw [m.norm_turnXY, apply_ite m.turnXY, m.turnXY_mul]
  rfl

theorem demand_placed (error : Vec3 ℝ) :
    (c.placed m).demand (m.turn error) = m.turn (c.demand error) := by
  have hsaturated : (c.placed m).saturated (m.turnXY error.horizontal * c.gainXY) =
      m.turnXY (c.saturated (error.horizontal * c.gainXY)) := by
    rw [← m.turnXY_mul, saturated_placed]
  show (⟨((c.placed m).saturated (m.turnXY error.horizontal * c.gainXY)).north,
    ((c.placed m).saturated (m.turnXY error.horizontal * c.gainXY)).east, _⟩ : Vec3 ℝ) = _
  rw [hsaturated]
  rfl

theorem update_placed : (c.placed m).update = c.update.placed m := by
  have herror : (c.refreshStale.placed m).positionTarget -
      (c.refreshStale.placed m).vehiclePosition =
      m.turn (c.refreshStale.positionTarget - c.refreshStale.vehiclePosition) :=
    m.place_sub_place _ _
  simp only [update, refreshStale_placed, herror, demand_placed]
  rfl

end PositionController

end WaypointFlight
