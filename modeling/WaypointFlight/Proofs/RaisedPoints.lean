import WaypointFlight.Autopilot.Command
import WaypointFlight.Proofs.RealVectors

namespace WaypointFlight

open Scalar

def Vec3.raised (v : Vec3 ℝ) (d : ℝ) : Vec3 ℝ := { v with up := v.up + d }

/-- The height by which a point rises to stand as high above the world origin as before above
ground of height `h`. -/
def rise (h : ℝ) (aboveTerrain : Bool) : ℝ := if aboveTerrain then h else 0

def SegmentEnd.raised (following : SegmentEnd (Vec3 ℝ)) (d : ℝ) : SegmentEnd (Vec3 ℝ) :=
  match following with
  | .stop => .stop
  | .straight next => .straight (next.raised d)
  | .spline next => .spline (next.raised d)

def SplineRequest.aboveOrigin (q : SplineRequest ℝ) (h : ℝ) : SplineRequest ℝ where
  origin := q.origin.raised (rise h q.aboveTerrain)
  destination := q.destination.raised (rise h q.aboveTerrain)
  aboveTerrain := false
  stoppedAtStart := q.stoppedAtStart
  following := q.following.raised (rise h q.aboveTerrain)

def Command.aboveOrigin (h : ℝ) : Command ℝ → Command ℝ
  | .straightTo destination t => .straightTo (destination.raised (rise h t)) false
  | .straight origin destination t =>
    .straight (origin.raised (rise h t)) (destination.raised (rise h t)) false
  | .splineTo destination t stopped following =>
    .splineTo (destination.raised (rise h t)) false stopped (following.raised (rise h t))
  | .spline q => .spline (q.aboveOrigin h)
  | c => c

namespace Vec3

variable (u v : Vec3 ℝ) (d : ℝ)

theorem raised_rise_false (h : ℝ) : v.raised (rise h false) = v := by
  ext <;> simp [raised, rise]

theorem raised_sub_raised : u.raised d - v.raised d = u - v := by
  ext <;> simp [raised]

theorem raised_add : u.raised d + v = (u + v).raised d := by
  ext <;> simp [raised]
  ring

theorem raised_add_vertical : u.raised d + vertical 0.0 = u + vertical d := by
  ext <;> simp [raised]

theorem sub_vertical_sub_raised :
    u - vertical 0.0 - v.raised d = u - vertical d - v := by
  ext <;> simp [raised]
  ring

end Vec3

namespace SegmentEnd

variable (following : SegmentEnd (Vec3 ℝ)) (d : ℝ)

theorem velocity_raised (origin destination : Vec3 ℝ) (dt : ℝ) :
    (following.raised d).velocity (origin.raised d) (destination.raised d) dt =
      following.velocity origin destination dt := by
  cases following <;> simp only [raised, velocity, Vec3.raised_sub_raised]

theorem isFast_raised :
    (following.raised d).isFast = following.isFast := by
  cases following <;> rfl

end SegmentEnd

namespace HermiteCurve

def raised (c : HermiteCurve ℝ) (d : ℝ) : HermiteCurve ℝ := { c with c0 := c.c0.raised d }

theorem position_raised (c : HermiteCurve ℝ) (d t : ℝ) :
    (c.raised d).position t = (c.position t).raised d := by
  ext <;> simp [position, raised, Vec3.raised]
  ring

end HermiteCurve

namespace Boundary

def raised (b : Boundary ℝ) (d : ℝ) : Boundary ℝ :=
  { b with origin := b.origin.raised d, destination := b.destination.raised d }

variable (b : Boundary ℝ) (d : ℝ)

theorem scaled_raised : (b.raised d).scaled = b.scaled.raised d := by
  have hlimit : (b.raised d).speedLimit = b.speedLimit := by
    simp only [speedLimit, raised, Vec3.raised_sub_raised]
  have hshrink : (b.raised d).shrinkFactor = b.shrinkFactor := by
    rw [shrinkFactor, hlimit]
    rfl
  unfold scaled
  rw [hlimit, hshrink]
  show (if b.speedLimit < b.speedSum then _ else _) = raised (if _ then _ else _) d
  split_ifs <;> rfl

theorem solve_raised : HermiteCurve.solve (b.raised d) = (HermiteCurve.solve b).raised d := by
  ext <;> norm_num [HermiteCurve.solve, HermiteCurve.raised, raised, Vec3.raised] <;> ring

end Boundary

namespace Segment

def raised (s : Segment ℝ) (d : ℝ) : Segment ℝ :=
  { s with
    origin := s.origin.raised d
    destination := s.destination.raised d
    aboveTerrain := false }

variable (s : Segment ℝ) (d : ℝ)

theorem between_raised (kind : SegmentKind) (t : Bool) (origin destination : Vec3 ℝ) :
    between kind false (origin.raised d) (destination.raised d) =
      (between kind t origin destination).raised d := by
  simp only [between, raised, Vec3.raised_sub_raised]

theorem sight_raised (position : Vec3 ℝ) :
    (s.raised d).sight position 0.0 = s.sight position d := by
  simp only [sight, raised, Vec3.sub_vertical_sub_raised]

theorem pointAt_raised (distance : ℝ) :
    (s.raised d).pointAt distance 0.0 = s.pointAt distance d := by
  show s.origin.raised d + s.direction * distance + Vec3.vertical 0.0 = _
  rw [Vec3.raised_add, Vec3.raised_add_vertical]
  rfl

end Segment

end WaypointFlight
