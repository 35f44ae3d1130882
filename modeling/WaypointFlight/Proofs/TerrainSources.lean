import WaypointFlight.Proofs.FailedCalls

namespace WaypointFlight

variable {α : Type}

structure Readings.Surveyed (r : Readings α) : Prop where
  height : r.database.height ≠ none
  elevation : ∀ l, r.database.elevation l ≠ none
  healthy : ∀ x ∈ r.rangeFinder, x.healthy = true

variable [Analytic α]

section Surveyed

variable {r : Readings α} {a : Autopilot α}

theorem Autopilot.offsetFor_of_surveyed (hr : r.Surveyed) (a : Autopilot α) (t : Bool) :
    ∃ x, a.offsetFor r t = .ok x := by
  cases t with
  | false => exact ⟨0.0, rfl⟩
  | true =>
    obtain ⟨height, hheight⟩ := Option.ne_none_iff_exists'.mp hr.height
    have hdatabase : r.database.offset r.altitude = .ok (r.altitude - height * 100.0) := by
      rw [TerrainDatabase.offset, hheight]
    unfold offsetFor terrainOffset
    cases hrange : r.rangeFinder with
    | none => cases a.navigator.params.useRangeFinder <;> exact ⟨_, hdatabase⟩
    | some x =>
      have hx : x.healthy = true := hr.healthy x hrange
      cases a.navigator.params.useRangeFinder with
      | true => exact ⟨_, if_pos hx⟩
      | false => exact ⟨_, hdatabase⟩

theorem Autopilot.originFor_of_surveyed (hr : r.Surveyed) (a : Autopilot α) (t : Bool) :
    ∃ origin, a.originFor r t = .ok origin := by
  cases t with
  | false => exact ⟨_, rfl⟩
  | true =>
    obtain ⟨x, hx⟩ := offsetFor_of_surveyed hr a true
    refine ⟨{ a.defaultOrigin r.now with up := (a.defaultOrigin r.now).up - x }, ?_⟩
    rw [originFor, hx]
    rfl

inductive SurveyedFault (r : Readings α) (a : Autopilot α) (c : Command α) :
    Fault NavigationError → Prop where
  | overflow (o : Overflow) : SurveyedFault r a c (.overflow o)
  | noOrigin (h : r.attitude.origin = none) : SurveyedFault r a c (.error (.location .noOrigin))
  | notSpline (hc : c = .tickSpline) (hk : a.navigator.segment.kind = .straight) :
      SurveyedFault r a c (.error .notSpline)

namespace Autopilot

theorem setStraight_surveyed (hr : r.Surveyed) (a : Autopilot α) (origin destination : Vec3 α)
    (t : Bool) : (a.setStraight r origin destination t).fault = none := by
  obtain ⟨x, hx⟩ := offsetFor_of_surveyed hr a t
  rw [setStraight, hx]
  rfl

theorem setSpline_surveyed (hr : r.Surveyed) (a : Autopilot α) (q : SplineRequest α) :
    (a.setSpline r q).fault = none := by
  obtain ⟨x, hx⟩ := offsetFor_of_surveyed hr a q.aboveTerrain
  rw [setSpline, hx]
  rfl

theorem setStraightTo_surveyed (hr : r.Surveyed) (a : Autopilot α) (destination : Vec3 α)
    (t : Bool) : (a.setStraightTo r destination t).fault = none := by
  obtain ⟨origin, ho⟩ := originFor_of_surveyed hr a t
  rw [setStraightTo, ho]
  exact setStraight_surveyed hr a origin destination t

theorem setSplineTo_surveyed (hr : r.Surveyed) (a : Autopilot α) (destination : Vec3 α)
    (t stopped : Bool) (following : SegmentEnd (Vec3 α)) :
    (a.setSplineTo r destination t stopped following).fault = none := by
  obtain ⟨origin, ho⟩ := originFor_of_surveyed hr a t
  rw [setSplineTo, ho]
  exact setSpline_surveyed hr a _

theorem tickStraight_surveyed (hr : r.Surveyed) (a : Autopilot α) :
    (a.tickStraight r).fault = none := by
  obtain ⟨x, hx⟩ := offsetFor_of_surveyed hr a a.navigator.segment.aboveTerrain
  exact congrArg Outcome.fault (tickStraight_ok a hx)

end Autopilot

variable {c : Command α} {f : Fault NavigationError}

omit [Analytic α] in
theorem ConversionFault.surveyedFault (hr : r.Surveyed) {g : Fault LocationError}
    (hg : ConversionFault r g) (hf : (Outcome.badLocation a g).fault = some f) :
    SurveyedFault r a c f := by
  obtain rfl := Option.some.inj hf
  cases hg with
  | noOrigin h => exact .noOrigin h
  | noElevation l target h => exact absurd h (hr.elevation l)
  | overflow o => exact .overflow o

theorem Command.surveyedFault (hr : r.Surveyed) (hf : (c.run r a).fault = some f) :
    SurveyedFault r a c f := by
  have hnone {o : Outcome α} (ho : o.fault = none) (hf : o.fault = some f) :
      SurveyedFault r a c f := by
    cases ho.symm.trans hf
  cases c with
  | straightTo d t => exact hnone (Autopilot.setStraightTo_surveyed hr a d t) hf
  | straightToNED d => exact hnone (Autopilot.setStraightTo_surveyed hr a _ false) hf
  | straight o d t => exact hnone (Autopilot.setStraight_surveyed hr a o d t) hf
  | splineTo d t stopped following =>
    exact hnone (Autopilot.setSplineTo_surveyed hr a d t stopped following) hf
  | spline q => exact hnone (Autopilot.setSpline_surveyed hr a q) hf
  | straightToLocation l =>
    rw [run, Autopilot.setStraightToLocation] at hf
    cases hv : l.vectorNEU (α := α) r.attitude.origin with
    | ok v =>
      rw [hv] at hf
      exact hnone (Autopilot.setStraightTo_surveyed hr a v.1 v.2) hf
    | error g =>
      rw [hv] at hf
      exact (ConversionFault.of_vectorNEU hv).surveyedFault hr hf
  | splineToLocation l stopped following =>
    rw [run, Autopilot.setSplineToLocation] at hf
    cases hv : l.vectorNEU (α := α) r.attitude.origin with
    | error g =>
      rw [hv] at hf
      exact (ConversionFault.of_vectorNEU hv).surveyedFault hr hf
    | ok v =>
      cases hn : Autopilot.followingVector r l.frame following with
      | error g =>
        simp only [hv, hn] at hf
        exact (ConversionFault.of_followingVector hn).surveyedFault hr hf
      | ok next =>
        simp only [hv, hn] at hf
        exact hnone (Autopilot.setSplineTo_surveyed hr a v.1 v.2 stopped next) hf
  | tickStraight => exact hnone (Autopilot.tickStraight_surveyed hr a) hf
  | tickSpline =>
    have ht := a.splineTick r
    generalize hrun : a.tickSpline r = o at ht
    rw [run, hrun] at hf
    cases ht with
    | refused hk =>
      obtain rfl := Option.some.inj hf
      exact .notSpline rfl hk
    | held _ _ _ g hg =>
      obtain ⟨x, hx⟩ := Autopilot.offsetFor_of_surveyed hr a a.navigator.segment.aboveTerrain
      cases hx.symm.trans hg
    | _ => cases hf
  | _ => cases hf

end Surveyed

end WaypointFlight
