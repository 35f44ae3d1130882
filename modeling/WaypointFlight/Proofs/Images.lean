import Mathlib.Tactic.Simps.Basic
import WaypointFlight.Proofs.ControllerCalls
import WaypointFlight.Simulation.Basic

namespace WaypointFlight

variable {α β : Type} (f : α → β)

@[simps]
def Vec2.image (v : Vec2 α) : Vec2 β := ⟨f v.north, f v.east⟩

@[simps]
def Vec3.image (v : Vec3 α) : Vec3 β := ⟨f v.north, f v.east, f v.up⟩

theorem Vec3.image_horizontal (v : Vec3 α) : (v.image f).horizontal = v.horizontal.image f := rfl

@[simps]
def HermiteCurve.image (c : HermiteCurve α) : HermiteCurve β :=
  ⟨c.c0.image f, c.c1.image f, c.c2.image f, c.c3.image f⟩

@[simps]
def Boundary.image (b : Boundary α) : Boundary β where
  origin := b.origin.image f
  destination := b.destination.image f
  originVel := b.originVel.image f
  destinationVel := b.destinationVel.image f

@[simps]
def AxisLimits.image (l : AxisLimits α) : AxisLimits β where
  speedXY := f l.speedXY
  speedUp := f l.speedUp
  speedDown := f l.speedDown
  accelXY := f l.accelXY
  accelZ := f l.accelZ
  leashXY := f l.leashXY
  leashUp := f l.leashUp
  leashDown := f l.leashDown

@[simps]
def TrackLimits.image (l : TrackLimits α) : TrackLimits β :=
  ⟨f l.accel, f l.speed, f l.leash, f l.slowDownDistance⟩

@[simps]
def Sight.image (s : Sight α) : Sight β := ⟨f s.covered, s.error.image f⟩

@[simps]
def Approach.image (v : Approach α) : Approach β :=
  ⟨f v.furthest, f v.along, f v.linear, f v.dt⟩

@[simps]
def Params.image (p : Params α) : Params β where
  speed := f p.speed
  radius := f p.radius
  speedUp := f p.speedUp
  speedDown := f p.speedDown
  accel := f p.accel
  accelZ := f p.accelZ
  useRangeFinder := p.useRangeFinder
  splineOvershoot := f p.splineOvershoot

@[simps]
def Segment.image (s : Segment α) : Segment β where
  origin := s.origin.image f
  destination := s.destination.image f
  direction := s.direction.image f
  length := f s.length
  lengthXY := f s.lengthXY
  kind := s.kind
  aboveTerrain := s.aboveTerrain

@[simps]
def Track.image (t : Track α) : Track β where
  desired := f t.desired
  limitedSpeed := f t.limitedSpeed
  limits := t.limits.image f
  errorXY := f t.errorXY
  errorZ := f t.errorZ

@[simps]
def SplineTrack.image (s : SplineTrack α) : SplineTrack β where
  originVel := s.originVel.image f
  destinationVel := s.destinationVel.image f
  curve := s.curve.image f
  time := f s.time
  speed := f s.speed
  timeScale := f s.timeScale

@[simps]
def Navigator.image (n : Navigator α) : Navigator β where
  params := n.params.image f
  requestedSpeed := f n.requestedSpeed
  segment := n.segment.image f
  track := n.track.image f
  spline := n.spline.image f
  heading := n.heading.map f
  flags := n.flags
  lastTick := n.lastTick

@[simps]
def PositionController.image (c : PositionController α) : PositionController β where
  period := f c.period
  gainXY := f c.gainXY
  gainZ := f c.gainZ
  positionTarget := c.positionTarget.image f
  velocityTarget := c.velocityTarget.image f
  speedXY := f c.speedXY
  accelXY := f c.accelXY
  speedUp := f c.speedUp
  speedDown := f c.speedDown
  accelZ := f c.accelZ
  leashXY := f c.leashXY
  leashUp := f c.leashUp
  leashDown := f c.leashDown
  staleXY := c.staleXY
  staleZ := c.staleZ
  updates := c.updates
  freezes := c.freezes
  vehiclePosition := c.vehiclePosition.image f
  vehicleVelocity := c.vehicleVelocity.image f

@[simps]
def Attitude.image (a : Attitude α) : Attitude β := ⟨a.origin, f a.heading, f a.leanLimit⟩

@[simps]
def RangeReading.image (r : RangeReading α) : RangeReading β := ⟨r.healthy, f r.distance⟩

def Elevation.image (t : Elevation α) : Elevation β := fun l ↦ (t l).map f

@[simps]
def TerrainDatabase.image (d : TerrainDatabase α) : TerrainDatabase β :=
  ⟨d.height.map f, d.elevation.image f⟩

@[simps]
def Readings.image (r : Readings α) : Readings β where
  now := r.now
  position := r.position.image f
  velocity := r.velocity.image f
  altitude := f r.altitude
  attitude := r.attitude.image f
  database := r.database.image f
  rangeFinder := r.rangeFinder.map (·.image f)

def Warning.image : Warning α → Warning β
  | .accelCapped configured cap => .accelCapped (f configured) (f cap)
  | .accelInvalid configured => .accelInvalid (f configured)
  | .terrain fault => .terrain fault

@[simps]
def Autopilot.image (a : Autopilot α) : Autopilot β where
  navigator := a.navigator.image f
  controller := a.controller.image f
  saved := a.saved.map fun s ↦ (s.1, f s.2)

@[simps]
def Outcome.image (o : Outcome α) : Outcome β :=
  ⟨o.fault, o.state.image f, o.warnings.map (·.image f)⟩

def SegmentEnd.image {π ρ : Type} (g : π → ρ) : SegmentEnd π → SegmentEnd ρ
  | .stop => .stop
  | .straight next => .straight (g next)
  | .spline next => .spline (g next)

@[simps]
def SplineRequest.image (q : SplineRequest α) : SplineRequest β where
  origin := q.origin.image f
  destination := q.destination.image f
  aboveTerrain := q.aboveTerrain
  stoppedAtStart := q.stoppedAtStart
  following := q.following.image (·.image f)

@[simps]
def Join.image (j : Join α) : Join β := ⟨j.originVel.image f, f j.time, f j.speed⟩

def Command.image : Command α → Command β
  | .start => .start
  | .straightTo destination t => .straightTo (destination.image f) t
  | .straightToLocation destination => .straightToLocation destination
  | .straightToNED destination => .straightToNED (destination.image f)
  | .straight origin destination t => .straight (origin.image f) (destination.image f) t
  | .splineTo destination t stopped following =>
    .splineTo (destination.image f) t stopped (following.image (·.image f))
  | .splineToLocation destination stopped following =>
    .splineToLocation destination stopped following
  | .spline q => .spline (q.image f)
  | .shift => .shift
  | .tickStraight => .tickStraight
  | .tickSpline => .tickSpline
  | .requestSpeed speed => .requestSpeed (f speed)
  | .setSpeedUp speed => .setSpeedUp (f speed)
  | .setSpeedDown speed => .setSpeedDown (f speed)
  | .setFast fast => .setFast fast

def ControllerCall.image : ControllerCall α → ControllerCall β
  | .reset => .reset
  | .setVelocityXY v => .setVelocityXY (v.image f)
  | .limitSpeedXY speed => .limitSpeedXY (f speed)
  | .limitAccelXY accel => .limitAccelXY (f accel)
  | .limitSpeedZ down up => .limitSpeedZ (f down) (f up)
  | .limitAccelZ accel => .limitAccelZ (f accel)
  | .refreshLeashXY => .refreshLeashXY
  | .refreshLeashZ => .refreshLeashZ
  | .setTarget target => .setTarget (target.image f)
  | .freeze => .freeze
  | .update => .update

def Event.image : Event α → Event β
  | .call c r => .call (c.image f) (r.image f)
  | .moved position velocity => .moved (position.image f) (velocity.image f)
  | .replaced c => .replaced (c.image f)

@[simps]
def SimParams.image (s : SimParams α) : SimParams β where
  period := f s.period
  gainXY := f s.gainXY
  gainZ := f s.gainZ
  leanLimit := f s.leanLimit
  origin := s.origin
  groundAltitude := f s.groundAltitude
  rangeFinderAvailable := s.rangeFinderAvailable

@[simps]
def Ground.image (g : Ground α) : Ground β where
  altitude := f g.altitude
  databaseAvailable := g.databaseAvailable
  databaseBias := f g.databaseBias
  rangeFinderAvailable := g.rangeFinderAvailable
  rangeFinderHealthy := g.rangeFinderHealthy
  originAltitude := f g.originAltitude
  vehicleAltitude := f g.vehicleAltitude

@[simps]
def Simulation.image (s : Simulation α) : Simulation β where
  position := s.position.image f
  velocity := s.velocity.image f
  attitude := s.attitude.image f
  ground := s.ground.image f
  now := s.now
  autopilot := s.autopilot.image f

end WaypointFlight
