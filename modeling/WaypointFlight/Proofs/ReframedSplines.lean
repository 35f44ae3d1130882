import WaypointFlight.Proofs.OffTerrain

namespace WaypointFlight

variable {α : Type}

/-- The frame in which the vector of a location has its height. -/
def AltitudeFrame.ofHeight : AltitudeFrame → AltitudeFrame
  | .aboveTerrain => .aboveTerrain
  | _ => .aboveOrigin

theorem AltitudeFrame.ofHeight_congr {f g : AltitudeFrame}
    (h : f = .aboveTerrain ↔ g = .aboveTerrain) : f.ofHeight = g.ofHeight := by
  cases f <;> cases g <;> simp_all [ofHeight]

theorem AltitudeFrame.ofHeight_eq_aboveTerrain {f : AltitudeFrame} :
    f.ofHeight = .aboveTerrain ↔ f = .aboveTerrain := by
  cases f <;> simp [ofHeight]

namespace SegmentEnd

variable {π ρ σ ε : Type}

def next? : SegmentEnd π → Option π
  | .stop => none
  | .straight next | .spline next => some next

def map (f : π → ρ) : SegmentEnd π → SegmentEnd ρ
  | .stop => .stop
  | .straight next => .straight (f next)
  | .spline next => .spline (f next)

theorem tryMap_map (f : π → ρ) (g : ρ → Except ε σ) (following : SegmentEnd π) :
    (following.map f).tryMap g = following.tryMap fun next ↦ g (f next) := by
  cases following <;> rfl

theorem tryMap_congr {f g : π → Except ε ρ} {following : SegmentEnd π}
    (h : ∀ next ∈ following.next?, f next = g next) : following.tryMap f = following.tryMap g := by
  cases following with
  | stop => rfl
  | straight next | spline next => rw [tryMap, tryMap, h next rfl]

end SegmentEnd

variable [Analytic α]

namespace Location

/-- The vector from the world origin in centimetres, with its height in a given frame. -/
def vectorIn (l : Location) (frame : AltitudeFrame) (origin : Location) (terrain : Elevation α) :
    Except (Fault LocationError) (Vec3 α) := do
  let ground ← checked (l.vectorFrom origin)
  let altitude ← l.altitudeIn frame origin terrain
  return ⟨ground.north, ground.east, Analytic.ofInt altitude.toInt⟩

/-- The location with its altitude written in another frame, as far as it can be converted. -/
def reframed (l : Location) (frame : AltitudeFrame) (origin : Location) (terrain : Elevation α) :
    Location :=
  (l.changeFrame frame origin terrain).1

variable {l m origin : Location} {b c : AltitudeFrame} {terrain : Elevation α}

theorem vectorNEU_eq_vectorIn (l origin : Location) (terrain : Elevation α) :
    l.vectorNEU (some origin) =
      (l.vectorIn l.frame.ofHeight origin terrain).map (·, decide (l.frame = .aboveTerrain)) := by
  unfold vectorNEU vectorIn
  dsimp only
  cases checked (ε := LocationError) (l.vectorFrom (α := α) origin) with
  | error f => rfl
  | ok ground =>
    by_cases hl : l.frame = .aboveTerrain
    · have haltitude : l.altitudeIn .aboveTerrain origin terrain = .ok l.altitude := if_pos hl.symm
      simp only [hl, AltitudeFrame.ofHeight, haltitude]
      rfl
    · have hlevel := altitudeIn_level hl (by decide : AltitudeFrame.aboveOrigin ≠ .aboveTerrain)
        origin terrain Elevation.unknown
      have hheight : l.frame.ofHeight = .aboveOrigin := by
        cases hframe : l.frame <;> simp_all [AltitudeFrame.ofHeight]
      rw [hheight, hlevel]
      cases hframe : l.frame with
      | aboveTerrain => exact absurd hframe hl
      | _ => cases l.altitudeIn .aboveOrigin origin (Elevation.unknown (α := α)) <;> rfl

theorem vectorIn_inFrame (hterrain : terrain.OfPlace) (h : l.inFrame b origin terrain = .ok m)
    {w : Int32} (hw : l.altitudeIn c origin terrain = .ok w) :
    m.vectorIn c origin terrain = l.vectorIn c origin terrain := by
  have hw' := (altitudeIn_inFrame hterrain h).mpr hw
  obtain ⟨v, -, rfl⟩ := inFrame_ok_iff.mp h
  rw [vectorIn, vectorIn, hw, hw']
  rfl

theorem altitudeIn_of_known (hknown : terrain l ≠ none)
    (h : ∀ o, l.altitudeIn b origin terrain ≠ .error (.overflow o)) :
    ∃ w, l.altitudeIn b origin terrain = .ok w := by
  cases hw : l.altitudeIn b origin terrain with
  | ok w => exact ⟨w, rfl⟩
  | error f =>
    obtain ⟨o, rfl⟩ | ⟨-, hnone, -⟩ := altitudeIn_error hw
    · exact absurd hw (h o)
    · exact absurd hnone hknown

theorem inFrame_reframed (hknown : terrain l ≠ none)
    (h : ∀ o, l.altitudeIn b origin terrain ≠ .error (.overflow o)) :
    l.inFrame b origin terrain = .ok (l.reframed b origin terrain) := by
  obtain ⟨w, hw⟩ := altitudeIn_of_known hknown h
  have hm := inFrame_ok_iff.mpr ⟨w, hw, rfl⟩
  rw [reframed, changeFrame_eq_iff.mpr hm]
  exact hm

end Location

namespace Autopilot

/-- None of the sums overflows that take the altitude of a destination, and that of the next one
through the frame of the destination, to the heights of their vectors. -/
structure HeightsFit (origin : Location) (terrain : Elevation α) (destination : Location)
    (following : SegmentEnd Location) : Prop where
  ofDestination (o : Overflow) :
    destination.altitudeIn destination.frame.ofHeight origin terrain ≠ .error (.overflow o)
  ofNext : ∀ next ∈ following.next?, ∀ o,
    (next.inFrame destination.frame origin terrain >>= fun next ↦
      next.altitudeIn destination.frame.ofHeight origin terrain) ≠ .error (.overflow o)

/-- A spline to a location, where all vectors have their heights in the same frame. -/
def setSplineInFrame (a : Autopilot α) (r : Readings α) (frame : AltitudeFrame)
    (origin destination : Location) (stoppedAtStart : Bool) (following : SegmentEnd Location) :
    Outcome α :=
  match destination.vectorIn frame origin r.database.elevation with
  | .error f => .badLocation a f
  | .ok point =>
    match following.tryMap fun next ↦ next.vectorIn frame origin r.database.elevation with
    | .error f => .badLocation a f
    | .ok following =>
      a.setSplineTo r point (decide (frame = .aboveTerrain)) stoppedAtStart following

variable {r : Readings α} {origin destination : Location} {following : SegmentEnd Location}
  {terrain : Elevation α}

theorem HeightsFit.exists_destination (h : HeightsFit origin terrain destination following)
    (hknown : ∀ l, terrain l ≠ none) :
    ∃ w, destination.altitudeIn destination.frame.ofHeight origin terrain = .ok w :=
  Location.altitudeIn_of_known (hknown destination) h.ofDestination

theorem HeightsFit.of_ok {w : Int32}
    (hw : destination.altitudeIn destination.frame.ofHeight origin terrain = .ok w)
    (h : ∀ next ∈ following.next?, ∃ m v, next.inFrame destination.frame origin terrain = .ok m ∧
      m.altitudeIn destination.frame.ofHeight origin terrain = .ok v) :
    HeightsFit origin terrain destination following where
  ofDestination o := by simp [hw]
  ofNext next hnext o := by
    obtain ⟨m, v, hm, hv⟩ := h next hnext
    rw [hm]
    show m.altitudeIn destination.frame.ofHeight origin terrain ≠ _
    simp [hv]

theorem HeightsFit.exists_next (h : HeightsFit origin terrain destination following)
    (hterrain : terrain.OfPlace) (hknown : ∀ l, terrain l ≠ none) {next : Location}
    (hnext : next ∈ following.next?) :
    ∃ m w, next.inFrame destination.frame origin terrain = .ok m ∧
      next.altitudeIn destination.frame.ofHeight origin terrain = .ok w := by
  have hsums := h.ofNext next hnext
  cases hm : next.inFrame destination.frame origin terrain with
  | error f =>
    obtain ⟨o, rfl⟩ | ⟨-, hnone, -⟩ := Location.altitudeIn_error (Location.inFrame_error hm)
    · exact absurd (by rw [hm]; rfl) (hsums o)
    · exact absurd hnone (hknown next)
  | ok m =>
    rw [hm] at hsums
    obtain ⟨w, hw⟩ := Location.altitudeIn_of_known (hknown m) hsums
    exact ⟨m, w, rfl, (Location.altitudeIn_inFrame hterrain hm).mp hw⟩

theorem followingVector_eq (horigin : r.attitude.origin = some origin)
    (hterrain : r.database.elevation.OfPlace) (hknown : ∀ l, r.database.elevation l ≠ none)
    (h : HeightsFit origin r.database.elevation destination following) :
    followingVector r destination.frame following =
      following.tryMap fun next ↦
        next.vectorIn destination.frame.ofHeight origin r.database.elevation := by
  unfold followingVector
  rw [horigin]
  refine SegmentEnd.tryMap_congr fun next hnext ↦ ?_
  obtain ⟨m, w, hm, hw⟩ := h.exists_next hterrain hknown hnext
  have hframe : m.frame = destination.frame := by
    obtain ⟨v, -, rfl⟩ := Location.inFrame_ok_iff.mp hm
    rfl
  rw [hm, ← Location.vectorIn_inFrame hterrain hm hw, ← hframe]
  show (m.vectorNEU (some origin) >>= fun v ↦ pure v.1) = _
  rw [m.vectorNEU_eq_vectorIn origin r.database.elevation]
  cases m.vectorIn m.frame.ofHeight origin r.database.elevation <;> rfl

/-- All heights that the setter takes are in the frame that belongs to the frame of the
destination. -/
theorem setSplineToLocation_eq (a : Autopilot α) (horigin : r.attitude.origin = some origin)
    (hterrain : r.database.elevation.OfPlace) (hknown : ∀ l, r.database.elevation l ≠ none)
    (h : HeightsFit origin r.database.elevation destination following) (stopped : Bool) :
    a.setSplineToLocation r destination stopped following =
      a.setSplineInFrame r destination.frame.ofHeight origin destination stopped following := by
  unfold setSplineToLocation setSplineInFrame
  rw [followingVector_eq horigin hterrain hknown h, horigin,
    destination.vectorNEU_eq_vectorIn origin r.database.elevation]
  cases destination.vectorIn destination.frame.ofHeight origin r.database.elevation with
  | error f => rfl
  | ok point =>
    cases following.tryMap fun next ↦
      next.vectorIn destination.frame.ofHeight origin r.database.elevation with
    | error f => rfl
    | ok vectors =>
      show a.setSplineTo r point (decide (destination.frame = .aboveTerrain)) stopped vectors =
        a.setSplineTo r point (decide (destination.frame.ofHeight = .aboveTerrain)) stopped vectors
      simp only [AltitudeFrame.ofHeight_eq_aboveTerrain]

/-- The frames in which a destination and the next one are written make no difference to what the
call does, and the heights of both vectors are in one frame: above the ground if the destination is,
and otherwise above the origin. -/
theorem spline_location_reframed (a : Autopilot α) (horigin : r.attitude.origin = some origin)
    (hterrain : r.database.elevation.OfPlace) (hknown : ∀ l, r.database.elevation l ≠ none)
    {f g : AltitudeFrame} (hf : f = .aboveTerrain ↔ destination.frame = .aboveTerrain)
    (hdestination : ∀ o,
      destination.altitudeIn f origin r.database.elevation ≠ .error (.overflow o))
    (hnext : ∀ next ∈ following.next?, ∀ o,
      next.altitudeIn g origin r.database.elevation ≠ .error (.overflow o))
    (hfits : HeightsFit origin r.database.elevation destination following)
    (hfits' : HeightsFit origin r.database.elevation
      (destination.reframed f origin r.database.elevation)
      (following.map (·.reframed g origin r.database.elevation)))
    (stopped : Bool) :
    a.setSplineToLocation r (destination.reframed f origin r.database.elevation) stopped
        (following.map (·.reframed g origin r.database.elevation)) =
      a.setSplineToLocation r destination stopped following ∧
    a.setSplineToLocation r destination stopped following =
      a.setSplineInFrame r destination.frame.ofHeight origin destination stopped following := by
  have hcall := setSplineToLocation_eq a horigin hterrain hknown hfits stopped
  refine ⟨?_, hcall⟩
  -- both calls come down to the same one with all heights in one frame
  have hmoved := Location.inFrame_reframed (hknown destination) hdestination
  have hframe : (destination.reframed f origin r.database.elevation).frame.ofHeight =
      destination.frame.ofHeight := by
    obtain ⟨v, -, hv⟩ := Location.inFrame_ok_iff.mp hmoved
    rw [hv]
    exact AltitudeFrame.ofHeight_congr hf
  obtain ⟨w, hw⟩ := hfits.exists_destination hknown
  have hpoint := Location.vectorIn_inFrame hterrain hmoved hw
  have hvectors : (following.map (·.reframed g origin r.database.elevation)).tryMap
      (·.vectorIn destination.frame.ofHeight origin r.database.elevation) =
      following.tryMap (·.vectorIn destination.frame.ofHeight origin r.database.elevation) := by
    rw [SegmentEnd.tryMap_map]
    refine SegmentEnd.tryMap_congr fun next hmem ↦ ?_
    obtain ⟨m, w, -, hw⟩ := hfits.exists_next hterrain hknown hmem
    exact Location.vectorIn_inFrame hterrain
      (Location.inFrame_reframed (hknown next) (hnext next hmem)) hw
  rw [hcall, setSplineToLocation_eq a horigin hterrain hknown hfits' stopped, hframe,
    setSplineInFrame, setSplineInFrame, hpoint, hvectors]

def standardDatum (f : AltitudeFrame) : ℤ := if f = .absolute then 0 else 58400

theorem datum_standard (f : AltitudeFrame) (l : Location) :
    f.datum l (SimParams.standard : SimParams ℝ).origin
        (Simulation.standard : Simulation ℝ).readings.database.elevation =
      some (standardDatum f) := by
  have hground : Location.nearestWord (((58400 : ℤ) : ℝ) + 0.0 + 0.0) = 58400 :=
    Location.nearestWord_eq (by norm_num [show (58400 : Int32).toInt = 58400 from rfl])
  cases f with
  | aboveTerrain => exact congrArg (fun w : Int32 ↦ some w.toInt) hground
  | _ => rfl

theorem altitudeIn_standard {l : Location} {f : AltitudeFrame} {w : Int32} (sea : Int32)
    (hl : l.altitude.toInt + standardDatum l.frame = sea.toInt)
    (hw : w.toInt + standardDatum f = sea.toInt) :
    l.altitudeIn f (SimParams.standard : SimParams ℝ).origin
      (Simulation.standard : Simulation ℝ).readings.database.elevation = .ok w := by
  have hsea : l.aboveSea (SimParams.standard : SimParams ℝ).origin
      (Simulation.standard : Simulation ℝ).readings.database.elevation = some sea.toInt := by
    rw [Location.aboveSea, datum_standard, Option.map_some, hl]
  rw [Location.altitudeIn_ok_iff_of_aboveSea hsea, datum_standard, ← hw, add_sub_cancel_left]

def nearby (altitude : Int32) (frame : AltitudeFrame) : Location :=
  ⟨-353631722, 1491652370, altitude, frame⟩

/-- Ten metres above the origin are 594 above the sea, and five above the ground are 589. -/
theorem spline_location_reframed_nearby :
    let a : Autopilot ℝ := Simulation.standard.autopilot
    let r : Readings ℝ := (Simulation.standard : Simulation ℝ).readings
    let origin : Location := (SimParams.standard : SimParams ℝ).origin
    let terrain : Elevation ℝ := r.database.elevation
    r.attitude.origin = some origin ∧ terrain.OfPlace ∧ (∀ l, terrain l ≠ none) ∧
      (nearby 1000 .aboveOrigin).reframed .absolute origin terrain = nearby 59400 .absolute ∧
      (nearby 500 .aboveTerrain).reframed .absolute origin terrain = nearby 58900 .absolute ∧
      HeightsFit origin terrain (nearby 1000 .aboveOrigin) (.straight (nearby 500 .aboveTerrain)) ∧
      HeightsFit origin terrain (nearby 59400 .absolute) (.straight (nearby 58900 .absolute)) ∧
      a.setSplineToLocation r (nearby 59400 .absolute) true (.straight (nearby 58900 .absolute)) =
        a.setSplineToLocation r (nearby 1000 .aboveOrigin) true
          (.straight (nearby 500 .aboveTerrain)) := by
  intro a r origin terrain
  have hterrain : terrain.OfPlace := fun _ _ _ _ ↦ rfl
  have hknown (l : Location) : terrain l ≠ none := Option.some_ne_none _
  have hdestination : (nearby 1000 .aboveOrigin).altitudeIn .absolute origin terrain = .ok 59400 :=
    altitudeIn_standard 59400 (by decide) (by decide)
  have hnext : (nearby 500 .aboveTerrain).altitudeIn .absolute origin terrain = .ok 58900 :=
    altitudeIn_standard 58900 (by decide) (by decide)
  have hmoved : (nearby 1000 .aboveOrigin).reframed .absolute origin terrain =
      nearby 59400 .absolute :=
    congrArg Prod.fst (Location.changeFrame_eq_iff.mpr
      (Location.inFrame_ok_iff.mpr ⟨59400, hdestination, rfl⟩))
  have hmoved' : (nearby 500 .aboveTerrain).reframed .absolute origin terrain =
      nearby 58900 .absolute :=
    congrArg Prod.fst (Location.changeFrame_eq_iff.mpr
      (Location.inFrame_ok_iff.mpr ⟨58900, hnext, rfl⟩))
  have hfits : HeightsFit origin terrain (nearby 1000 .aboveOrigin)
      (.straight (nearby 500 .aboveTerrain)) := by
    have hword : (nearby 500 .aboveTerrain).altitudeIn .aboveOrigin origin terrain = .ok 500 :=
      altitudeIn_standard 58900 (by decide) (by decide)
    refine .of_ok (w := 1000) rfl ?_
    rintro _ ⟨⟩
    exact ⟨_, 500, Location.inFrame_ok_iff.mpr ⟨500, hword, rfl⟩, rfl⟩
  have hfits' : HeightsFit origin terrain (nearby 59400 .absolute)
      (.straight (nearby 58900 .absolute)) := by
    refine .of_ok (w := 1000) (altitudeIn_standard 59400 (by decide) (by decide)) ?_
    rintro _ ⟨⟩
    exact ⟨_, 500, Location.inFrame_frame,
      altitudeIn_standard 58900 (by decide) (by decide)⟩
  have hsame : a.setSplineToLocation r
      ((nearby 1000 .aboveOrigin).reframed .absolute origin terrain) true
      ((SegmentEnd.straight (nearby 500 .aboveTerrain)).map
        (·.reframed .absolute origin terrain)) =
      a.setSplineToLocation r (nearby 1000 .aboveOrigin) true
        (.straight (nearby 500 .aboveTerrain)) := by
    refine (spline_location_reframed a rfl hterrain hknown (by decide) ?_ ?_ hfits ?_ true).1
    · intro o ho
      cases hdestination.symm.trans ho
    · rintro _ ⟨⟩ o ho
      cases hnext.symm.trans ho
    · show HeightsFit origin terrain ((nearby 1000 .aboveOrigin).reframed .absolute origin terrain)
        (.straight ((nearby 500 .aboveTerrain).reframed .absolute origin terrain))
      rw [hmoved, hmoved']
      exact hfits'
  rw [SegmentEnd.map, hmoved, hmoved'] at hsame
  exact ⟨rfl, hterrain, hknown, hmoved, hmoved', hfits, hfits', hsame⟩

end Autopilot

end WaypointFlight
