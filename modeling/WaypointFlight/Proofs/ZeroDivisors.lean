import WaypointFlight.Proofs.ExtendedCalls

namespace WaypointFlight

open Scalar

variable {β : Type} [Analytic β] (e : RealExtension β)

namespace Autopilot

variable (a : Autopilot ℝ) (position : Vec3 ℝ)

theorem stoppingPointXY_image : (a.image e).stoppingPointXY = a.stoppingPointXY.image e := by
  simp only [stoppingPointXY, image_controller, PositionController.stoppingPointXY_image]
  rfl

theorem distance_image : (a.image e).distance (position.image e) = e (a.distance position) := by
  simp only [distance, image_navigator, Navigator.image_segment, Segment.image_destination,
    Vec3.image_north, Vec3.image_east, e.sub, e.hypot]

theorem bearing_image : (a.image e).bearing (position.image e) = e (a.bearing position) :=
  Heading.bearing_embed e _ _

theorem destinationLocation_image (origin : Option Location) :
    (a.image e).destinationLocation origin = a.destinationLocation origin := by
  simp only [destinationLocation, image_navigator, Navigator.image_segment,
    Segment.image_destination, Segment.image_aboveTerrain, Vec3.image_north, Vec3.image_east,
    Vec3.image_up, e.literal, e.mul, Location.offset?_embed, Location.nearestWord_embed]

end Autopilot

namespace Ground

variable (g : Ground ℝ)

theorem database_image : (g.image e).database = g.database.image e := by
  have hheight : (g.image e).height = g.height.map e := by
    simp only [height, image_databaseAvailable, image_vehicleAltitude, image_altitude,
      image_databaseBias, e.literal, e.sub, e.mul, apply_ite (Option.map e.embed)]
    rfl
  have helevation : (g.image e).elevation = g.elevation.image e := by
    funext l
    simp only [elevation, Elevation.image, image_databaseAvailable, image_originAltitude,
      image_altitude, image_databaseBias, e.add, apply_ite (Option.map e.embed)]
    rfl
  rw [database, hheight, helevation]
  rfl

theorem rangeReading_image : (g.image e).rangeReading = g.rangeReading.map (·.image e) := by
  simp only [rangeReading, distance, image_rangeFinderAvailable, image_rangeFinderHealthy,
    image_vehicleAltitude, image_altitude, e.sub]
  split_ifs <;> rfl

end Ground

namespace Simulation

variable (s : Simulation ℝ)

theorem create_image (p : SimParams ℝ) (q : Params ℝ) (position : Vec3 ℝ) :
    create (p.image e) (q.image e) (position.image e) = (create p q position).image e := by
  simp only [create, SimParams.image_period, SimParams.image_gainXY, SimParams.image_gainZ,
    SimParams.image_leanLimit, SimParams.image_origin, Navigator.create_image,
    PositionController.create_image, Vec3.zero_image e, e.literal, e.ofInt]
  rfl

theorem readings_image : (s.image e).readings = s.readings.image e := by
  simp only [readings, image_ground, Ground.database_image, Ground.rangeReading_image]
  rfl

theorem command_image (c : Command ℝ) :
    (s.image e).command (c.image e) = ((s.command c).1.image e, (s.command c).2.image e) := by
  simp only [command, commandWith, readings_image, image_autopilot, Command.run_image]
  rfl

theorem move_image : (s.image e).move = s.move.image e := by
  simp only [move, image_autopilot, image_position, Autopilot.image_controller,
    PositionController.image_velocityTarget, PositionController.image_period, Vec3.mul_image,
    Vec3.add_image]
  rfl

theorem milliseconds_embed (period : ℝ) : milliseconds (e period) = milliseconds period := by
  simp only [milliseconds, e.literal, e.mul, e.round, e.toWord]

theorem step_image : (s.image e).step = s.step.map (·.image e) := by
  simp only [step, move_image, image_autopilot, Autopilot.image_controller,
    PositionController.image_period, milliseconds_embed, wait, image_now]
  split_ifs <;> rfl

end Simulation

/-- Every operation at real numbers gives in the extension what it gives among the reals: runs of an
autopilot, its calls and its answers, the calls of its controller, the steps of a simulation, and
the laws they are made of. -/
structure RealExtension.Conservative (e : RealExtension β) : Prop where
  create (s : SimParams ℝ) (p : Params ℝ) (position : Vec3 ℝ) :
    Simulation.create (s.image e) (p.image e) (position.image e) =
      (Simulation.create s p position).image e
  step (s : Simulation ℝ) : (s.image e).step = s.step.map (·.image e)
  flight (s : Simulation ℝ) (c : Command ℝ) :
    (s.image e).command (c.image e) = ((s.command c).1.image e, (s.command c).2.image e)
  run (a : Autopilot ℝ) (es : List (Event ℝ)) :
    (a.image e).after (es.map (·.image e)) = (a.after es).image e
  command (c : Command ℝ) (r : Readings ℝ) (a : Autopilot ℝ) :
    (c.image e).run (r.image e) (a.image e) = (c.run r a).image e
  stoppingPointXY (a : Autopilot ℝ) :
    (a.image e).stoppingPointXY = a.stoppingPointXY.image e
  distance (a : Autopilot ℝ) (position : Vec3 ℝ) :
    (a.image e).distance (position.image e) = e (a.distance position)
  bearing (a : Autopilot ℝ) (position : Vec3 ℝ) :
    (a.image e).bearing (position.image e) = e (a.bearing position)
  destinationLocation (a : Autopilot ℝ) (origin : Option Location) :
    (a.image e).destinationLocation origin = a.destinationLocation origin
  controllerCall (c : PositionController ℝ) (k : ControllerCall ℝ) :
    (c.image e).receive (k.image e) = (c.receive k).image e
  stoppingPoint (c : PositionController ℝ) : (c.image e).stoppingPoint = c.stoppingPoint.image e
  leashLength (speed accel gain : ℝ) :
    Leash.length (e speed) (e accel) (e gain) = e (Leash.length speed accel gain)
  slowDownDistance (speed accel : ℝ) :
    Leash.slowDownDistance (e speed) (e accel) = e (Leash.slowDownDistance speed accel)
  slowDownSpeed (distance accel : ℝ) :
    Leash.slowDownSpeed (e distance) (e accel) = e (Leash.slowDownSpeed distance accel)
  taken (leash error axisLeash : ℝ) :
    Leash.taken (e leash) (e error) (e axisLeash) = e (Leash.taken leash error axisLeash)
  fractionLeft (error axisLeash : ℝ) :
    Leash.fractionLeft (e error) (e axisLeash) = e (Leash.fractionLeft error axisLeash)
  trackLimits (u : Vec3 ℝ) (l : AxisLimits ℝ) :
    TrackLimits.along (u.image e) (l.image e) = (TrackLimits.along u l).image e
  governor (current requested accel dt : ℝ) :
    Governor.step (e current) (e requested) (e accel) (e dt) =
      (Governor.step current requested accel dt).map e
  boundary (b : Boundary ℝ) : (b.image e).scaled = b.scaled.image e
  headingOnStraight (lengthXY leashXY : ℝ) (origin destination target position : Vec3 ℝ) :
    Heading.onStraight (e lengthXY) (e leashXY) (origin.image e) (destination.image e)
        (target.image e) (position.image e) =
      (Heading.onStraight lengthXY leashXY origin destination target position).map e
  headingOnSpline (lengthXY leashXY : ℝ) (targetVel error : Vec3 ℝ) :
    Heading.onSpline (e lengthXY) (e leashXY) (targetVel.image e) (error.image e) =
      (Heading.onSpline lengthXY leashXY targetVel error).map e
  wrapTurn (x : ℝ) : wrapTurn (e x) = e (wrapTurn x)
  offset (l : Location) (north east : ℝ) : l.offset (e north) (e east) = l.offset north east
  vectorFrom (l origin : Location) :
    (l.vectorFrom origin : Except Overflow (Vec2 β)) =
      (l.vectorFrom origin : Except Overflow (Vec2 ℝ)).map (·.image e)
  vectorNEU (l : Location) (origin : Option Location) :
    (l.vectorNEU origin : Except (Fault LocationError) (Vec3 β × Bool)) =
      (l.vectorNEU origin : Except (Fault LocationError) (Vec3 ℝ × Bool)).map
        fun v ↦ (v.1.image e, v.2)
  changeFrame (l origin : Location) (target : AltitudeFrame) (terrain : Elevation ℝ) :
    l.changeFrame target origin (terrain.image e) = l.changeFrame target origin terrain

/-- No operation divides by zero. Let a number system extend the reals, with anything for the
quotients and remainders by zero, such as an error that all operations pass on. Whatever the state,
the parameters and the surroundings, no operation at real numbers notices the difference. Results
are all that is compared: a quotient by zero on which no result depends would leave no trace. -/
theorem RealExtension.never_divides_by_zero (e : RealExtension β) : e.Conservative where
  create := Simulation.create_image e
  step := Simulation.step_image e
  flight := Simulation.command_image e
  run := Autopilot.after_image e
  command := Command.run_image e
  stoppingPointXY := Autopilot.stoppingPointXY_image e
  distance := Autopilot.distance_image e
  bearing := Autopilot.bearing_image e
  destinationLocation := Autopilot.destinationLocation_image e
  controllerCall := PositionController.receive_image e
  stoppingPoint := PositionController.stoppingPoint_image e
  leashLength := Leash.length_embed e
  slowDownDistance := Leash.slowDownDistance_embed e
  slowDownSpeed := Leash.slowDownSpeed_embed e
  taken := Leash.taken_embed e
  fractionLeft := Leash.fractionLeft_embed e
  trackLimits := TrackLimits.along_image e
  governor := Governor.step_embed e
  boundary := Boundary.scaled_image e
  headingOnStraight := Heading.onStraight_embed e
  headingOnSpline := Heading.onSpline_embed e
  wrapTurn := wrapTurn_embed e
  offset := Location.offset_embed e
  vectorFrom := Location.vectorFrom_embed e
  vectorNEU := Location.vectorNEU_embed e
  changeFrame := Location.changeFrame_image e

/-- A real number, or what a division by zero gives. -/
inductive StrictReal where
  | real (x : ℝ)
  | undefined

namespace StrictReal

def lift (f : ℝ → ℝ) : StrictReal → StrictReal
  | real x => real (f x)
  | undefined => undefined

def lift₂ (f : ℝ → ℝ → ℝ) : StrictReal → StrictReal → StrictReal
  | real x, real y => real (f x y)
  | _, _ => undefined

noncomputable def divide (f : ℝ → ℝ → ℝ) : StrictReal → StrictReal → StrictReal
  | real x, real y => if y = 0 then undefined else real (f x y)
  | _, _ => undefined

def Holds (p : ℝ → ℝ → Prop) : StrictReal → StrictReal → Prop
  | real x, real y => p x y
  | _, _ => False

noncomputable instance : Scalar StrictReal where
  add := lift₂ (· + ·)
  sub := lift₂ (· - ·)
  mul := lift₂ (· * ·)
  div := divide (· / ·)
  neg := lift (- ·)
  lt := Holds (· < ·)
  le := Holds (· ≤ ·)
  ofScientific m s k := real (OfScientific.ofScientific m s k)
  decideLT _ _ := Classical.propDecidable _
  decideLE _ _ := Classical.propDecidable _
  isNaN
    | real _ => false
    | undefined => true
  abs := lift Scalar.abs
  sqrt := lift Scalar.sqrt
  rem := divide Scalar.rem
  degreesPerRadian := real Scalar.degreesPerRadian

noncomputable instance : Analytic StrictReal where
  hypot := lift₂ Analytic.hypot
  atan2 := lift₂ Analytic.atan2
  cos := lift Analytic.cos
  tan := lift Analytic.tan
  radiansPerDegree := real Analytic.radiansPerDegree
  round := lift Analytic.round
  ceil := lift Analytic.ceil
  ofInt n := real (Analytic.ofInt n)
  toWord r
    | real x => Analytic.toWord r x
    | undefined => 0

noncomputable def extension : RealExtension StrictReal where
  embed := real
  literal _ _ _ := rfl
  add _ _ := rfl
  sub _ _ := rfl
  mul _ _ := rfl
  neg _ := rfl
  div _ _ h := if_neg h
  rem _ _ h := if_neg h
  lt _ _ := Iff.rfl
  le _ _ := Iff.rfl
  isNaN _ := rfl
  abs _ := rfl
  sqrt _ := rfl
  degreesPerRadian := rfl
  hypot _ _ := rfl
  atan2 _ _ := rfl
  cos _ := rfl
  tan _ := rfl
  radiansPerDegree := rfl
  round _ := rfl
  ceil _ := rfl
  ofInt _ := rfl
  toWord _ _ := rfl

end StrictReal

noncomputable def overdriven : PositionController ℝ :=
  { PositionController.create 0.0 0.0 0.0 .zero with speedXY := -1.0 }

/-- Where the velocity has no length, the speed limit is not divided by it: the quotient would be
undefined, and so would the velocity. -/
theorem never_divides_by_zero_overdriven :
    StrictReal.real (-1) / .real 0 = .undefined ∧ StrictReal.real 0 * .undefined = .undefined ∧
      StrictReal.extension.Conservative ∧
      (overdriven.image StrictReal.extension).update =
        overdriven.update.image StrictReal.extension :=
  ⟨if_pos rfl, rfl, StrictReal.extension.never_divides_by_zero,
    StrictReal.extension.never_divides_by_zero.controllerCall overdriven .update⟩

end WaypointFlight
