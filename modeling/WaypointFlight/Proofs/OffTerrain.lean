import WaypointFlight.Proofs.ControllerCalls
import WaypointFlight.Proofs.DestinationLocation
import WaypointFlight.Proofs.TerrainSources

namespace WaypointFlight

variable {α : Type}

/-- Where terrain data come from, and whether the range finder is to be used. -/
structure TerrainSources (α : Type) where
  database : TerrainDatabase α
  rangeFinder : Option (RangeReading α)
  useRangeFinder : Bool

def Readings.seeing (r : Readings α) (t : TerrainSources α) : Readings α :=
  { r with
    database := t.database
    rangeFinder := t.rangeFinder }

def Autopilot.withRangeFinder (a : Autopilot α) (use : Bool) : Autopilot α :=
  { a with navigator.params.useRangeFinder := use }

def NavigationError.OfTerrain : NavigationError → Prop
  | .terrainUnavailable | .location (.noTerrainData ..) => True
  | _ => False

/-- The next destination, where there is one, is not above terrain. -/
def SegmentEnd.OffTerrain : SegmentEnd Location → Prop
  | .stop => True
  | .straight next | .spline next => next.frame ≠ .aboveTerrain

/-- The call neither asks for a segment above terrain nor brings a location that is. -/
def Command.OffTerrain : Command α → Prop
  | .straightTo _ t | .straight _ _ t | .splineTo _ t _ _ => t = false
  | .spline q => q.aboveTerrain = false
  | .straightToLocation l => l.frame ≠ .aboveTerrain
  | .splineToLocation l _ following => l.frame ≠ .aboveTerrain ∧ following.OffTerrain
  | _ => True

variable [Analytic α]

namespace Location

variable {l : Location}

theorem vectorNEU_level (hl : l.frame ≠ .aboveTerrain) {origin : Option Location} {v : Vec3 α}
    {above : Bool} (h : l.vectorNEU origin = .ok (v, above)) : above = false := by
  cases origin with
  | none => cases h
  | some origin =>
    obtain ⟨ground, -, hrest⟩ := bind_ok h
    cases hframe : l.frame with
    | aboveTerrain => exact absurd hframe hl
    | _ =>
      simp only [hframe] at hrest
      obtain ⟨altitude, -, hv⟩ := bind_ok hrest
      exact (Prod.mk.inj (Except.ok.inj hv)).2.symm

theorem altitudeIn_level (hl : l.frame ≠ .aboveTerrain) {target : AltitudeFrame}
    (ht : target ≠ .aboveTerrain) (origin : Location) (terrain terrain' : Elevation α) :
    l.altitudeIn target origin terrain = l.altitudeIn target origin terrain' := by
  unfold altitudeIn
  cases hf : l.frame <;> cases target <;> first | rfl | contradiction

end Location

namespace Autopilot

variable (a : Autopilot α) (r : Readings α) (t : TerrainSources α) (use : Bool)

omit [Analytic α] in
theorem withRangeFinder_navigator :
    (a.withRangeFinder use).navigator =
      { a.navigator with params.useRangeFinder := use } := rfl

omit [Analytic α] in
theorem withRangeFinder_ite (p : Prop) [Decidable p] (b : Autopilot α) :
    (if p then a else b).withRangeFinder use =
      if p then a.withRangeFinder use else b.withRangeFinder use :=
  apply_ite (·.withRangeFinder use) p a b

theorem repairAccel_withRangeFinder :
    (a.withRangeFinder use).repairAccel = a.repairAccel.withRangeFinder use := by
  unfold repairAccel
  rw [withRangeFinder_ite]
  rfl

theorem start_withRangeFinder :
    (a.withRangeFinder use).start = a.start.map (·.withRangeFinder use) := by
  simp only [start, repairAccel_withRangeFinder]
  rfl

theorem requestSpeed_withRangeFinder (v : α) :
    (a.withRangeFinder use).requestSpeed v = (a.requestSpeed v).withRangeFinder use := by
  unfold requestSpeed
  rw [withRangeFinder_ite]
  rfl

theorem govern_withRangeFinder (speed : Option α) :
    (a.withRangeFinder use).govern speed = (a.govern speed).withRangeFinder use := by
  cases speed <;> rfl

theorem prepared_withRangeFinder :
    (a.withRangeFinder use).prepared = a.prepared.withRangeFinder use :=
  a.pushAccels.govern_withRangeFinder use _

theorem governed_withRangeFinder :
    (a.withRangeFinder use).governed = a.governed.withRangeFinder use :=
  a.govern_withRangeFinder use _

omit [Analytic α] in
theorem freezeIfNew_withRangeFinder :
    (a.withRangeFinder use).freezeIfNew = a.freezeIfNew.withRangeFinder use := by
  unfold freezeIfNew
  rw [withRangeFinder_ite]
  rfl

theorem finishTick_withRangeFinder (now : Nat) :
    (a.withRangeFinder use).finishTick now = (a.finishTick now).withRangeFinder use := by
  simp only [finishTick, freezeIfNew_withRangeFinder]
  rfl

theorem refreshStaleLimits_withRangeFinder :
    (a.withRangeFinder use).refreshStaleLimits = a.refreshStaleLimits.withRangeFinder use := by
  unfold refreshStaleLimits
  rw [withRangeFinder_ite]
  rfl

theorem settleTick_withRangeFinder (now : Nat) :
    (a.withRangeFinder use).settleTick now = (a.settleTick now).withRangeFinder use := by
  rw [settleTick, finishTick_withRangeFinder, refreshStaleLimits_withRangeFinder]
  rfl

theorem shiftToVehicle_withRangeFinder :
    (a.withRangeFinder use).shiftToVehicle (r.seeing t) =
      (a.shiftToVehicle r).withRangeFinder use := by
  unfold shiftToVehicle
  rw [withRangeFinder_ite]
  rfl

theorem beginSpline_withRangeFinder (now : Nat) (q : SplineRequest α) (x : α) :
    (a.withRangeFinder use).beginSpline now q x = (a.beginSpline now q x).withRangeFinder use := by
  simp only [beginSpline, repairAccel_withRangeFinder]
  rfl

theorem advanceStraight_withRangeFinder (dt x : α) :
    (a.withRangeFinder use).advanceStraight (r.seeing t) dt x =
      (a.advanceStraight r dt x).withRangeFinder use := by
  simp only [advanceStraight, Navigator.choose_eq]
  rfl

theorem advanceSplineFrom_withRangeFinder (dt x : α) (target velocity : Vec3 α) :
    (a.withRangeFinder use).advanceSplineFrom (r.seeing t) dt x target velocity =
      (a.advanceSplineFrom r dt x target velocity).withRangeFinder use := by
  simp only [advanceSplineFrom, Navigator.choose_eq]
  rfl

theorem tickStraight_level {a : Autopilot α} (h : a.navigator.segment.aboveTerrain = false) :
    a.tickStraight r =
      .done ((a.prepared.advanceStraight r a.controller.period 0.0).settleTick r.now) [] :=
  tickStraight_ok a (by rw [h]; rfl)

theorem tickStraight_withRangeFinder (h : a.navigator.segment.aboveTerrain = false) :
    (a.withRangeFinder use).tickStraight (r.seeing t) =
      (a.tickStraight r).map (·.withRangeFinder use) := by
  have h' : (a.withRangeFinder use).navigator.segment.aboveTerrain = false := h
  rw [tickStraight_level _ h, tickStraight_level _ h', prepared_withRangeFinder,
    advanceStraight_withRangeFinder, settleTick_withRangeFinder]
  rfl

theorem tryAdvanceSpline_withRangeFinder (h : a.navigator.segment.aboveTerrain = false) (dt : α) :
    (a.withRangeFinder use).tryAdvanceSpline (r.seeing t) dt =
      (a.tryAdvanceSpline r dt).map (·.withRangeFinder use) := by
  have hoffset (b : Autopilot α) (r : Readings α) : b.offsetFor r false = .ok 0.0 := rfl
  have hturn (v : Vec3 α) :
      (a.withRangeFinder use).turnTo v = (a.turnTo v).withRangeFinder use := rfl
  unfold tryAdvanceSpline
  simp only [hturn, withRangeFinder_navigator, h, hoffset, advanceSplineFrom_withRangeFinder]
  split_ifs <;> rfl

theorem tickSpline_withRangeFinder (h : a.navigator.segment.aboveTerrain = false) :
    (a.withRangeFinder use).tickSpline (r.seeing t) =
      (a.tickSpline r).map (·.withRangeFinder use) := by
  have hgoverned : a.governed.navigator.segment.aboveTerrain = false := by
    rw [governed_navigator]
    exact h
  have htick (b : Autopilot α) (r : Readings α) (hk : b.navigator.segment.kind = .spline) :
      b.tickSpline r =
        (b.governed.tryAdvanceSpline r b.controller.period).map (·.finishTick r.now) := by
    simp only [tickSpline, hk]
    rfl
  cases hk : a.navigator.segment.kind with
  | straight =>
    simp only [tickSpline, withRangeFinder_navigator, hk]
    rfl
  | spline =>
    rw [htick a r hk, htick (a.withRangeFinder use) (r.seeing t) hk, governed_withRangeFinder]
    show ((a.governed.withRangeFinder use).tryAdvanceSpline (r.seeing t) a.controller.period).map
      (·.finishTick r.now) = _
    rw [tryAdvanceSpline_withRangeFinder _ _ _ _ hgoverned]
    simp only [Outcome.map, finishTick_withRangeFinder]

theorem setSpline_level {q : SplineRequest α} (hq : q.aboveTerrain = false) :
    a.setSpline r q = .done (a.beginSpline r.now q 0.0) a.repairWarnings := by
  rw [setSpline, hq]
  rfl

theorem setSpline_withRangeFinder {q : SplineRequest α} (hq : q.aboveTerrain = false) :
    (a.withRangeFinder use).setSpline (r.seeing t) q =
      (a.setSpline r q).map (·.withRangeFinder use) := by
  rw [setSpline_level _ _ hq, setSpline_level _ _ hq, beginSpline_withRangeFinder]
  rfl

theorem setSplineTo_withRangeFinder (destination : Vec3 α) (stopped : Bool)
    (following : SegmentEnd (Vec3 α)) :
    (a.withRangeFinder use).setSplineTo (r.seeing t) destination false stopped following =
      (a.setSplineTo r destination false stopped following).map (·.withRangeFinder use) :=
  a.setSpline_withRangeFinder r t use
    (q := ⟨a.defaultOrigin r.now, destination, false, stopped, following⟩) rfl

theorem setStraightToLocation_withRangeFinder {l : Location} (hl : l.frame ≠ .aboveTerrain) :
    (a.withRangeFinder use).setStraightToLocation (r.seeing t) l =
      (a.setStraightToLocation r l).map (·.withRangeFinder use) := by
  have hattitude : (r.seeing t).attitude = r.attitude := rfl
  rw [setStraightToLocation, setStraightToLocation, hattitude]
  cases hv : l.vectorNEU (α := α) r.attitude.origin with
  | error f => rfl
  | ok v =>
    obtain ⟨point, above⟩ := v
    obtain rfl := Location.vectorNEU_level hl hv
    rfl

theorem followingVector_seeing {frame : AltitudeFrame} (hframe : frame ≠ .aboveTerrain)
    {following : SegmentEnd Location} (hfollowing : following.OffTerrain) :
    followingVector (r.seeing t) frame following = followingVector r frame following := by
  have hnext {next : Location} (hl : next.frame ≠ .aboveTerrain) (origin : Location) :
      next.inFrame frame origin t.database.elevation =
        next.inFrame frame origin r.database.elevation := by
    rw [Location.inFrame, Location.altitudeIn_level hl hframe origin _ r.database.elevation,
      ← Location.inFrame]
  have hattitude : (r.seeing t).attitude = r.attitude := rfl
  have hdatabase : (r.seeing t).database = t.database := rfl
  rw [followingVector, followingVector, hattitude, hdatabase]
  cases r.attitude.origin with
  | none => rfl
  | some origin =>
    cases following with
    | stop => rfl
    | straight next => simp only [SegmentEnd.tryMap, hnext hfollowing origin]
    | spline next => simp only [SegmentEnd.tryMap, hnext hfollowing origin]

theorem setSplineToLocation_withRangeFinder {l : Location} (hl : l.frame ≠ .aboveTerrain)
    (stopped : Bool) {following : SegmentEnd Location} (hfollowing : following.OffTerrain) :
    (a.withRangeFinder use).setSplineToLocation (r.seeing t) l stopped following =
      (a.setSplineToLocation r l stopped following).map (·.withRangeFinder use) := by
  have hattitude : (r.seeing t).attitude = r.attitude := rfl
  rw [setSplineToLocation, setSplineToLocation, hattitude,
    followingVector_seeing r t hl hfollowing]
  cases hv : l.vectorNEU (α := α) r.attitude.origin with
  | error f => rfl
  | ok v =>
    obtain ⟨point, above⟩ := v
    obtain rfl := Location.vectorNEU_level hl hv
    cases followingVector r l.frame following with
    | error f => rfl
    | ok next => exact a.setSplineTo_withRangeFinder r t use point stopped next

end Autopilot

variable {c : Command α} (r : Readings α) (a : Autopilot α) (t : TerrainSources α) (use : Bool)

theorem Command.run_withRangeFinder (hc : c.OffTerrain)
    (h : a.navigator.segment.aboveTerrain = false) :
    c.run (r.seeing t) (a.withRangeFinder use) = (c.run r a).map (·.withRangeFinder use) := by
  cases c with
  | start => exact a.start_withRangeFinder use
  | straightTo d above =>
    obtain rfl : above = false := hc
    rfl
  | straightToLocation l => exact a.setStraightToLocation_withRangeFinder r t use hc
  | straightToNED d => rfl
  | straight o d above =>
    obtain rfl : above = false := hc
    rfl
  | splineTo d above stopped following =>
    obtain rfl : above = false := hc
    exact a.setSplineTo_withRangeFinder r t use d stopped following
  | splineToLocation l stopped following =>
    exact a.setSplineToLocation_withRangeFinder r t use hc.1 stopped hc.2
  | spline q => exact a.setSpline_withRangeFinder r t use hc
  | shift =>
    simp only [run, Autopilot.shiftToVehicle_withRangeFinder]
    rfl
  | tickStraight => exact a.tickStraight_withRangeFinder r t use h
  | tickSpline => exact a.tickSpline_withRangeFinder r t use h
  | requestSpeed v =>
    simp only [run, Autopilot.requestSpeed_withRangeFinder]
    rfl
  | setSpeedUp v => rfl
  | setSpeedDown v => rfl
  | setFast fast => rfl

theorem Command.controllerCalls_withRangeFinder (hc : c.OffTerrain)
    (h : a.navigator.segment.aboveTerrain = false) :
    c.controllerCalls (r.seeing t) (a.withRangeFinder use) = c.controllerCalls r a := by
  have hpoint : Autopilot.targetCalls (c.run (r.seeing t) (a.withRangeFinder use)) =
      Autopilot.targetCalls (c.run r a) := by
    rw [run_withRangeFinder r a t use hc h]
    rfl
  cases c with
  | start =>
    simp only [controllerCalls, Autopilot.start_withRangeFinder]
    rfl
  | shift => rfl
  | tickStraight =>
    simp only [run] at hpoint
    simp only [controllerCalls, Autopilot.straightTickCalls, hpoint]
    rfl
  | tickSpline =>
    simp only [run] at hpoint
    simp only [controllerCalls, Autopilot.splineTickCalls, hpoint]
    rfl
  | requestSpeed v => rfl
  | setSpeedUp v => rfl
  | setSpeedDown v => rfl
  | setFast fast => rfl
  | _ => exact hpoint

theorem Command.run_aboveTerrain (hc : c.OffTerrain)
    (h : a.navigator.segment.aboveTerrain = false) :
    (c.run r a).state.navigator.segment.aboveTerrain = false := by
  by_cases hsets : c.sets = none
  · by_cases hshift : c = .shift
    · subst hshift
      simp only [run, Outcome.done, Autopilot.shiftToVehicle]
      split_ifs <;> exact h
    · obtain ⟨direction, hsegment, -⟩ := c.run_path r a hsets hshift
      rw [hsegment]
      exact h
  · cases c with
    | straightTo d above =>
      obtain rfl : above = false := hc
      rfl
    | straightToNED d => rfl
    | straight o d above =>
      obtain rfl : above = false := hc
      rfl
    | splineTo d above stopped following =>
      obtain rfl : above = false := hc
      rfl
    | spline q =>
      rw [run, Autopilot.setSpline_level a r hc]
      exact hc
    | straightToLocation l =>
      rw [run, Autopilot.setStraightToLocation]
      cases hv : l.vectorNEU (α := α) r.attitude.origin with
      | error f => exact h
      | ok v =>
        obtain ⟨point, above⟩ := v
        obtain rfl := Location.vectorNEU_level hc hv
        rfl
    | splineToLocation l stopped following =>
      rw [run, Autopilot.setSplineToLocation]
      cases hv : l.vectorNEU (α := α) r.attitude.origin with
      | error f => exact h
      | ok v =>
        obtain ⟨point, above⟩ := v
        obtain rfl := Location.vectorNEU_level hc.1 hv
        cases Autopilot.followingVector r l.frame following with
        | error f => exact h
        | ok next => rfl
    | _ => exact absurd rfl hsets

def TerrainSources.complete : TerrainSources α := ⟨⟨some 0.0, fun _ ↦ some 0.0⟩, none, false⟩

theorem Readings.seeing_complete_surveyed : (r.seeing .complete).Surveyed :=
  ⟨Option.some_ne_none _, fun _ ↦ Option.some_ne_none _, fun _ h ↦ nomatch h⟩

/-- The call does what it would do with complete sources. -/
theorem Command.run_fault (hc : c.OffTerrain) (h : a.navigator.segment.aboveTerrain = false)
    {e : NavigationError} (he : (c.run r a).fault = some (.error e)) : ¬ e.OfTerrain := by
  have hf : (c.run (r.seeing .complete) (a.withRangeFinder false)).fault = some (.error e) := by
    rw [run_withRangeFinder r a _ _ hc h]
    exact he
  cases c.surveyedFault r.seeing_complete_surveyed hf with
  | noOrigin => exact id
  | notSpline => exact id

/-- What a call leaves behind: its result, what it asked of the controller, and the state without
the choice of the range finder. -/
@[ext]
structure CallRecord (α : Type) where
  fault : Option (Fault NavigationError)
  warnings : List (Warning α)
  calls : List (ControllerCall α)
  state : Autopilot α

namespace Event

def seeing (t : TerrainSources α) : Event α → Event α
  | .call c r => .call c (r.seeing t)
  | e => e

def OffTerrain : Event α → Prop
  | .call c _ => c.OffTerrain
  | _ => True

def record (a : Autopilot α) (e : Event α) : CallRecord α :=
  match e with
  | .call c r =>
    { fault := (c.run r a).fault
      warnings := (c.run r a).warnings
      calls := c.controllerCalls r a
      state := (e.apply a).withRangeFinder false }
  | e => ⟨none, [], [], (e.apply a).withRangeFinder false⟩

end Event

namespace Autopilot

def records : Autopilot α → List (Event α) → List (CallRecord α)
  | _, [] => []
  | a, e :: es => e.record a :: (e.apply a).records es

def disturbedRecords : Autopilot α → List (Event α × TerrainSources α) → List (CallRecord α)
  | _, [] => []
  | a, (e, t) :: es =>
    let b := a.withRangeFinder t.useRangeFinder
    (e.seeing t).record b :: ((e.seeing t).apply b).disturbedRecords es

variable {e : Event α} {a}

theorem apply_withRangeFinder (he : e.OffTerrain) (h : a.navigator.segment.aboveTerrain = false) :
    (e.seeing t).apply (a.withRangeFinder use) = (e.apply a).withRangeFinder use := by
  cases e with
  | call c r => exact congrArg Outcome.state (c.run_withRangeFinder r a t use he h)
  | moved p v => rfl
  | replaced c => rfl

theorem record_withRangeFinder (he : e.OffTerrain) (h : a.navigator.segment.aboveTerrain = false) :
    (e.seeing t).record (a.withRangeFinder use) = e.record a := by
  have hstate := apply_withRangeFinder t use he h
  cases e with
  | call c r =>
    have hrun := c.run_withRangeFinder r a t use he h
    have hfault : (c.run (r.seeing t) (a.withRangeFinder use)).fault = (c.run r a).fault := by
      rw [hrun]
      rfl
    have hwarnings : (c.run (r.seeing t) (a.withRangeFinder use)).warnings =
        (c.run r a).warnings := by
      rw [hrun]
      rfl
    exact CallRecord.ext hfault hwarnings (c.controllerCalls_withRangeFinder r a t use he h)
      (congrArg (·.withRangeFinder false) hstate)
  | moved p v => rfl
  | replaced c => rfl

theorem apply_aboveTerrain (he : e.OffTerrain) (h : a.navigator.segment.aboveTerrain = false) :
    (e.apply a).navigator.segment.aboveTerrain = false := by
  cases e with
  | call c r => exact c.run_aboveTerrain r a he h
  | moved p v => exact h
  | replaced c => exact h

theorem disturbedRecords_eq {ds : List (Event α × TerrainSources α)}
    (hds : ∀ d ∈ ds, d.1.OffTerrain) (h : a.navigator.segment.aboveTerrain = false) :
    (a.withRangeFinder use).disturbedRecords ds = a.records (ds.map Prod.fst) := by
  induction ds generalizing a use with
  | nil => rfl
  | cons d ds ih =>
    obtain ⟨e, t⟩ := d
    have he : e.OffTerrain := hds (e, t) List.mem_cons_self
    have hrest : ∀ d ∈ ds, d.1.OffTerrain := fun d hd ↦ hds d (List.mem_cons_of_mem _ hd)
    rw [List.map_cons, records, ← record_withRangeFinder t t.useRangeFinder he h,
      ← ih t.useRangeFinder hrest (apply_aboveTerrain he h), ← apply_withRangeFinder t _ he h]
    rfl

theorem records_fault {es : List (Event α)} (hes : ∀ e ∈ es, e.OffTerrain)
    (h : a.navigator.segment.aboveTerrain = false) {x : CallRecord α} (hx : x ∈ a.records es)
    {f : NavigationError} (hf : x.fault = some (.error f)) : ¬ f.OfTerrain := by
  induction es generalizing a with
  | nil => cases hx
  | cons e es ih =>
    have he : e.OffTerrain := hes e List.mem_cons_self
    rcases List.mem_cons.mp hx with rfl | hx
    · cases e with
      | call c r => exact c.run_fault r a he h hf
      | moved p v => cases hf
      | replaced c => cases hf
    · exact ih (fun e he ↦ hes e (List.mem_cons_of_mem _ he)) (apply_aboveTerrain he h) hx

/-- A run off terrain leaves the same records behind whatever sources of terrain data each of its
calls meets and whether or not it is to use the range finder. None of its calls fails for want of
terrain. -/
theorem terrain_sources_unused (a : Autopilot α) (h : a.navigator.segment.aboveTerrain = false)
    (ds : List (Event α × TerrainSources α)) (hds : ∀ d ∈ ds, d.1.OffTerrain) :
    a.disturbedRecords ds = a.records (ds.map Prod.fst) ∧
      ∀ x ∈ a.disturbedRecords ds, ∀ f, x.fault = some (.error f) → ¬ f.OfTerrain := by
  have hsame : a.disturbedRecords ds = a.records (ds.map Prod.fst) :=
    disturbedRecords_eq a.navigator.params.useRangeFinder hds h
  refine ⟨hsame, fun x hx f hf ↦ ?_⟩
  have hes : ∀ e ∈ ds.map Prod.fst, e.OffTerrain := by
    intro e he
    obtain ⟨d, hd, rfl⟩ := List.mem_map.mp he
    exact hds d hd
  exact records_fault hes h (hsame ▸ hx) hf

def blind : TerrainSources Float := ⟨.absent, some ⟨false, 0.0⟩, true⟩

/-- A straight segment out and a spline back to the world origin, ticked with and without any
sources. -/
def outAndBack : List (Event Float × TerrainSources Float) :=
  let r := (Simulation.standard : Simulation Float).readings
  let home := (SimParams.standard : SimParams Float).origin
  [(.call (.straightTo ⟨1000.0, 0.0, 0.0⟩ false) r, blind), (.call .tickStraight r, .complete),
    (.call .tickStraight r, blind),
    (.call (.splineToLocation home false (.straight home)) r, blind),
    (.call .tickSpline r, blind), (.call .tickSpline r, .complete)]

theorem outAndBack_offTerrain : ∀ d ∈ outAndBack, d.1.OffTerrain := by
  simp [outAndBack, Event.OffTerrain, Command.OffTerrain, SegmentEnd.OffTerrain, SimParams.standard]

theorem terrain_sources_unused_outAndBack :
    let a := (Simulation.standard : Simulation Float).autopilot
    a.navigator.segment.aboveTerrain = false ∧ (∀ d ∈ outAndBack, d.1.OffTerrain) ∧
      a.disturbedRecords outAndBack = a.records (outAndBack.map Prod.fst) ∧
      ∀ x ∈ a.disturbedRecords outAndBack, ∀ f, x.fault = some (.error f) → ¬ f.OfTerrain :=
  ⟨rfl, outAndBack_offTerrain, terrain_sources_unused _ rfl outAndBack outAndBack_offTerrain⟩

end Autopilot

end WaypointFlight
