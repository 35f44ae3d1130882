import WaypointFlight.Proofs.DestinationLocation
import WaypointFlight.Proofs.RealExtensions

namespace WaypointFlight

open Scalar

variable {β : Type} [Analytic β] (e : RealExtension β)

namespace Location

theorem metresPerUnit_embed : metresPerUnit = e metresPerUnit := e.literal _ _ _

theorem unitsPerMetre_embed : unitsPerMetre = e unitsPerMetre := e.literal _ _ _

theorem longitudeScale_embed (latitude : Int32) :
    longitudeScale latitude = e (longitudeScale latitude) := by
  simp only [longitudeScale, e.ofInt, e.literal, e.radiansPerDegree, e.mul, e.cos, maxNum_embed]

theorem nearestWord_embed (x : ℝ) : nearestWord (e x) = nearestWord x := by
  simp only [nearestWord, e.round, e.toWord]

variable (l origin : Location) (north east : ℝ)

theorem vectorFrom_embed :
    (l.vectorFrom origin : Except Overflow (Vec2 β)) =
      (l.vectorFrom origin : Except Overflow (Vec2 ℝ)).map (·.image e) := by
  unfold vectorFrom
  cases checkedSub l.latitude origin.latitude with
  | error o => rfl
  | ok d =>
    simp only [metresPerUnit_embed e, longitudeScale_embed e, e.ofInt, e.literal, e.mul]
    rfl

theorem latitudeAt_embed : l.latitudeAt (e north) = l.latitudeAt north := by
  simp only [latitudeAt, e.ofInt, unitsPerMetre_embed e, e.mul, e.add, nearestWord_embed]

theorem longitudeStep_embed : l.longitudeStep (e east) = l.longitudeStep east := by
  simp only [longitudeStep, unitsPerMetre_embed e, longitudeScale_embed e, e.mul,
    e.div _ (longitudeScale_pos _).ne', e.round, e.toWord]

theorem longitudeAt_embed : l.longitudeAt (e east) = l.longitudeAt east := by
  simp only [longitudeAt, longitudeStep_embed]

theorem offset_embed : l.offset (e north) (e east) = l.offset north east := by
  simp only [offset, latitudeAt_embed, longitudeAt_embed]

theorem offset?_embed : l.offset? (e north) (e east) = l.offset? north east := by
  simp only [offset?, offset_embed]

variable (target : AltitudeFrame) (terrain : Elevation ℝ)

theorem groundFor_image : l.groundFor target (terrain.image e) = l.groundFor target terrain := by
  unfold groundFor Elevation.image
  cases terrain l with
  | none => rfl
  | some ground =>
    simp only [Option.map_some, nearestWord_embed]

theorem altitudeIn_image :
    l.altitudeIn target origin (terrain.image e) = l.altitudeIn target origin terrain := by
  simp only [altitudeIn, groundFor_image]

theorem inFrame_image :
    l.inFrame target origin (terrain.image e) = l.inFrame target origin terrain := by
  simp only [inFrame, altitudeIn_image]

theorem changeFrame_image :
    l.changeFrame target origin (terrain.image e) = l.changeFrame target origin terrain := by
  simp only [changeFrame, inFrame_image]

theorem vectorNEU_embed (origin : Option Location) :
    (l.vectorNEU origin : Except (Fault LocationError) (Vec3 β × Bool)) =
      (l.vectorNEU origin : Except (Fault LocationError) (Vec3 ℝ × Bool)).map
        fun v ↦ (v.1.image e, v.2) := by
  cases origin with
  | none => rfl
  | some origin =>
    have haltitude : l.altitudeIn .aboveOrigin origin (Elevation.unknown : Elevation β) =
        l.altitudeIn .aboveOrigin origin (Elevation.unknown : Elevation ℝ) :=
      altitudeIn_image e l origin .aboveOrigin .unknown
    simp only [vectorNEU, vectorFrom_embed e, haltitude]
    cases (l.vectorFrom origin : Except Overflow (Vec2 ℝ)) with
    | error o => rfl
    | ok ground =>
      cases hframe : l.frame with
      | aboveTerrain =>
        simp only [e.ofInt]
        rfl
      | absolute | aboveOrigin =>
        cases l.altitudeIn .aboveOrigin origin (Elevation.unknown : Elevation ℝ) with
        | error f => rfl
        | ok altitude =>
          simp only [e.ofInt]
          rfl

end Location

end WaypointFlight
