import WaypointFlight.Autopilot.Query
import WaypointFlight.Proofs.AltitudeFrames
import WaypointFlight.Proofs.RealLimits
import WaypointFlight.Proofs.Runs

namespace WaypointFlight

open Scalar

theorem shortWay_modEq (d : ℤ) : shortWay d ≡ d [ZMOD fullTurn] := by
  unfold shortWay
  split_ifs
  · exact Int.modEq_iff_dvd.mpr ⟨1, by ring⟩
  · exact Int.modEq_iff_dvd.mpr ⟨-1, by ring⟩
  · exact Int.ModEq.rfl

theorem abs_shortWay_le {d : ℤ} (h : |d| ≤ halfTurn + fullTurn) : |shortWay d| ≤ halfTurn := by
  rw [abs_le] at h ⊢
  unfold shortWay halfTurn fullTurn at *
  split_ifs <;> omega

namespace Location

variable {l origin : Location}

theorem longitudeScale_real (latitude : Int32) :
    longitudeScale latitude =
      max (Real.cos ((latitude.toInt : ℝ) * 1.0e-7 * (Real.pi / 180))) 0.01 := by
  rw [longitudeScale, maxNum_real]
  rfl

theorem longitudeScale_pos (latitude : Int32) : 0 < (longitudeScale latitude : ℝ) := by
  rw [longitudeScale_real]
  exact lt_max_of_lt_right (by norm_num)

/-- The scales from and to ten-millionths of a degree are not quite inverse to each other. -/
theorem abs_scales_sub_one_le : |(metresPerUnit * unitsPerMetre - 1 : ℝ)| ≤ 1e-16 := by
  norm_num [metresPerUnit, unitsPerMetre, abs_le]

theorem abs_scales_sub_lt {n : ℤ} (h : |n| ≤ 4294967296) :
    |(n : ℝ) * (metresPerUnit * unitsPerMetre) - n| < 1 / 2 := by
  have hn : |(n : ℝ)| ≤ 4294967296 := by exact_mod_cast h
  have hfactor : (n : ℝ) * (metresPerUnit * unitsPerMetre) - n =
      n * (metresPerUnit * unitsPerMetre - 1) := by ring
  calc |(n : ℝ) * (metresPerUnit * unitsPerMetre) - n|
      = |(n : ℝ)| * |metresPerUnit * unitsPerMetre - 1| := by rw [hfactor, abs_mul]
    _ ≤ 4294967296 * 1e-16 :=
      mul_le_mul hn abs_scales_sub_one_le (abs_nonneg _) (by norm_num)
    _ < 1 / 2 := by norm_num

theorem vectorFrom_ok {v : Vec2 ℝ} (h : l.vectorFrom origin = .ok v) :
    v.north * 0.01 = ((l.latitude.toInt - origin.latitude.toInt : ℤ) : ℝ) * metresPerUnit ∧
      v.east * 0.01 =
        ((shortWay (l.longitude.toInt - origin.longitude.toInt) : ℤ) : ℝ) * metresPerUnit *
          longitudeScale origin.latitude := by
  obtain ⟨north, hnorth, hv⟩ := bind_ok h
  rw [checkedSub, word?_ok_iff] at hnorth
  have hmetres (x : ℝ) : x * 100.0 * 0.01 = x := by
    rw [mul_assoc]
    norm_num
  rw [← Except.ok.inj hv, ← hnorth]
  exact ⟨hmetres _, hmetres _⟩

theorem latitudeAt_vectorFrom {v : Vec2 ℝ} (h : l.vectorFrom origin = .ok v) :
    origin.latitudeAt (v.north * 0.01) = l.latitude := by
  refine nearestWord_eq ?_
  have hclose := abs_scales_sub_lt (WordRange.abs_toInt_sub_le l.latitude origin.latitude)
  rw [(vectorFrom_ok h).1]
  show |((origin.latitude.toInt : ℤ) : ℝ) +
    ((l.latitude.toInt - origin.latitude.toInt : ℤ) : ℝ) * metresPerUnit * unitsPerMetre -
      l.latitude.toInt| < 1 / 2
  push_cast at hclose ⊢
  convert hclose using 2
  ring

variable (l origin) in
theorem abs_longitude_step_le :
    |shortWay (l.longitude.toInt - origin.longitude.toInt)| ≤ halfTurn :=
  abs_shortWay_le ((WordRange.abs_toInt_sub_le l.longitude origin.longitude).trans (by decide))

theorem longitudeStep_eq {east : ℝ} {n : ℤ}
    (h : |east * unitsPerMetre / longitudeScale l.latitude - n| < 1 / 2)
    (hn : |n| ≤ 9223372036854775807) : l.longitudeStep east = n :=
  toWord_round h (WordRange.contains_of_abs_le hn (by decide))

theorem longitudeStep_vectorFrom {v : Vec2 ℝ} (h : l.vectorFrom origin = .ok v) :
    origin.longitudeStep (v.east * 0.01) =
      shortWay (l.longitude.toInt - origin.longitude.toInt) := by
  have hshort := abs_longitude_step_le l origin
  set d := shortWay (l.longitude.toInt - origin.longitude.toInt) with hd
  refine longitudeStep_eq ?_ (hshort.trans (by decide))
  have hclose := abs_scales_sub_lt (hshort.trans (by decide))
  have hscale := (longitudeScale_pos origin.latitude).ne'
  rw [(vectorFrom_ok h).2, ← hd]
  convert hclose using 3
  rw [div_eq_iff hscale]
  ring

/-- Up to one and a half turns from the prime meridian, one turn brings a longitude back. -/
theorem longitudeAt_ok {α : Type} [Analytic α] {east : α}
    (h : |l.longitude.toInt + l.longitudeStep east| ≤ halfTurn + fullTurn) :
    ∃ longitude, l.longitudeAt east = .ok longitude ∧
      longitude.toInt = shortWay (l.longitude.toInt + l.longitudeStep east) := by
  have hback := abs_shortWay_le h
  set sum := l.longitude.toInt + l.longitudeStep east
  have hsum : WordRange.signed64.Contains sum :=
    WordRange.contains_of_abs_le (h.trans (by decide)) (by decide)
  have hword : WordRange.signed32.Contains (shortWay sum) :=
    WordRange.contains_of_abs_le (hback.trans (by decide)) (by decide)
  exact ⟨Int32.ofInt (shortWay sum), if_pos hsum, WordRange.toInt_ofInt hword⟩

theorem longitudeAt_vectorFrom {v : Vec2 ℝ} (h : l.vectorFrom origin = .ok v) :
    ∃ longitude, origin.longitudeAt (v.east * 0.01) = .ok longitude ∧
      longitude.toInt ≡ l.longitude.toInt [ZMOD fullTurn] := by
  have hnear : |origin.longitude.toInt + origin.longitudeStep (v.east * 0.01)| ≤
      halfTurn + fullTurn := by
    have horigin := WordRange.contains_toInt origin.longitude
    have hshort := abs_longitude_step_le l origin
    rw [longitudeStep_vectorFrom h, abs_le, halfTurn, fullTurn]
    simp only [WordRange.Contains, WordRange.signed32] at horigin
    rw [abs_le, halfTurn] at hshort
    omega
  obtain ⟨longitude, hlongitude, hback⟩ := longitudeAt_ok hnear
  refine ⟨longitude, hlongitude, ?_⟩
  calc longitude.toInt
      ≡ origin.longitude.toInt + shortWay (l.longitude.toInt - origin.longitude.toInt)
        [ZMOD fullTurn] := by
        rw [hback, longitudeStep_vectorFrom h]
        exact shortWay_modEq _
    _ ≡ origin.longitude.toInt + (l.longitude.toInt - origin.longitude.toInt) [ZMOD fullTurn] :=
        (shortWay_modEq _).add_left _
    _ = l.longitude.toInt := add_sub_cancel _ _

theorem offset_vectorFrom {v : Vec2 ℝ} (h : l.vectorFrom origin = .ok v) :
    ∃ longitude, origin.offset? (v.north * 0.01) (v.east * 0.01) =
        .ok { origin with latitude := l.latitude, longitude } ∧
      longitude.toInt ≡ l.longitude.toInt [ZMOD fullTurn] := by
  obtain ⟨longitude, hlongitude, hmod⟩ := longitudeAt_vectorFrom h
  refine ⟨longitude, ?_, hmod⟩
  rw [offset?, offset, hlongitude, latitudeAt_vectorFrom h]

variable (l origin) in
/-- The altitude that a vector has for its height, above the ground or above the world origin. -/
inductive Height : Bool → Int32 → Prop where
  | ground (hl : l.frame = .aboveTerrain) : Height true l.altitude
  | origin (hl : l.frame ≠ .aboveTerrain) {altitude : Int32}
      (h : l.altitudeIn .aboveOrigin origin (Elevation.unknown (α := ℝ)) = .ok altitude) :
      Height false altitude

theorem vectorNEU_ok {v : Vec3 ℝ} {t : Bool} (h : l.vectorNEU (some origin) = .ok (v, t)) :
    l.vectorFrom origin = .ok v.horizontal ∧
      ∃ altitude : Int32, v.up = altitude.toInt ∧ l.Height origin t altitude := by
  obtain ⟨ground, hground, hrest⟩ := bind_ok h
  rw [checked_ok] at hground
  have habove (hl : l.frame ≠ .aboveTerrain)
      (hn : (do
        let altitude ← l.altitudeIn .aboveOrigin origin (Elevation.unknown (α := ℝ))
        return ((⟨ground.north, ground.east, Analytic.ofInt altitude.toInt⟩ : Vec3 ℝ), false)) =
          Except.ok (v, t)) :
      l.vectorFrom origin = .ok v.horizontal ∧
        ∃ altitude : Int32, v.up = altitude.toInt ∧ l.Height origin t altitude := by
    obtain ⟨altitude, haltitude, hv⟩ := bind_ok hn
    obtain ⟨rfl, rfl⟩ := Prod.mk.inj (Except.ok.inj hv)
    exact ⟨hground, altitude, rfl, .origin hl haltitude⟩
  cases hl : l.frame with
  | aboveTerrain =>
    simp only [hl] at hrest
    obtain ⟨rfl, rfl⟩ := Prod.mk.inj (Except.ok.inj hrest)
    exact ⟨hground, l.altitude, rfl, .ground hl⟩
  | _ =>
    simp only [hl] at hrest
    exact habove (by simp [hl]) hrest

theorem checkedAdd_altitudeIn {altitude : Int32} (hl : l.frame ≠ .aboveTerrain)
    (hsum : l.frame = .aboveOrigin →
      WordRange.signed32.Contains (l.altitude.toInt + origin.altitude.toInt))
    (h : l.altitudeIn .aboveOrigin origin (Elevation.unknown (α := ℝ)) = .ok altitude) :
    ∃ sum, checkedAdd origin.altitude altitude = .ok sum ∧
      l.altitudeIn .absolute origin (Elevation.unknown (α := ℝ)) = .ok sum := by
  obtain ⟨sum, hsea⟩ : ∃ sum : Int32,
      l.aboveSea origin (Elevation.unknown (α := ℝ)) = some sum.toInt := by
    cases hframe : l.frame with
    | aboveTerrain => exact absurd hframe hl
    | absolute => exact ⟨l.altitude, by simp [aboveSea, hframe, AltitudeFrame.datum]⟩
    | aboveOrigin =>
      refine ⟨Int32.ofInt (l.altitude.toInt + origin.altitude.toInt), ?_⟩
      rw [WordRange.toInt_ofInt (hsum hframe)]
      simp [aboveSea, hframe, AltitudeFrame.datum]
  have hdatum : origin.altitude.toInt = sum.toInt - altitude.toInt :=
    Option.some.inj ((altitudeIn_ok_iff_of_aboveSea hsea).mp h)
  refine ⟨sum, ?_, (altitudeIn_ok_iff_of_aboveSea hsea).mpr ?_⟩
  · rw [checkedAdd, word?_ok_iff, hdatum]
    exact (sub_add_cancel _ _).symm
  · exact congrArg some (Int.sub_self _).symm

end Location

def Command.location {α : Type} : Command α → Option Location
  | .straightToLocation l | .splineToLocation l .. => some l
  | _ => none

namespace Autopilot

section Destinations

variable {α : Type} [Analytic α] (a : Autopilot α) (r : Readings α)

def EndsAt (a : Autopilot α) (destination : Vec3 α) (t : Bool) : Prop :=
  a.navigator.segment.destination = destination ∧ a.navigator.segment.aboveTerrain = t

theorem setStraightTo_endsAt {destination : Vec3 α} {t : Bool}
    (hok : (a.setStraightTo r destination t).fault = none) :
    (a.setStraightTo r destination t).state.EndsAt destination t := by
  obtain hrefused | ⟨origin, -, hto⟩ := a.setStraightTo_cases r destination t
  · exact absurd hok hrefused.1
  · rw [hto] at hok ⊢
    obtain hrefused | ⟨x, -, hset⟩ := a.setStraight_cases r origin destination t
    · exact absurd hok hrefused.1
    · rw [hset]
      exact ⟨rfl, rfl⟩

theorem setSplineTo_endsAt {destination : Vec3 α} {t stopped : Bool}
    {following : SegmentEnd (Vec3 α)}
    (hok : (a.setSplineTo r destination t stopped following).fault = none) :
    (a.setSplineTo r destination t stopped following).state.EndsAt destination t := by
  obtain hrefused | ⟨origin, -, hto⟩ := a.setSplineTo_cases r destination t stopped following
  · exact absurd hok hrefused.1
  · rw [hto] at hok ⊢
    obtain hrefused | ⟨x, -, hset⟩ :=
      a.setSpline_cases r ⟨origin, destination, t, stopped, following⟩
    · exact absurd hok hrefused.1
    · rw [hset]
      exact ⟨rfl, rfl⟩

theorem run_location_endsAt {c : Command α} {l : Location} (hc : c.location = some l)
    (hok : (c.run r a).fault = none) :
    ∃ v t, l.vectorNEU r.attitude.origin = .ok (v, t) ∧ (c.run r a).state.EndsAt v t := by
  cases c with
  | straightToLocation destination =>
    obtain rfl := Option.some.inj hc
    simp only [Command.run, setStraightToLocation] at hok ⊢
    split at hok
    next v t hv => exact ⟨v, t, hv, a.setStraightTo_endsAt r hok⟩
    next => exact absurd hok (Outcome.badLocation_refused a _).1
  | splineToLocation destination stopped following =>
    obtain rfl := Option.some.inj hc
    simp only [Command.run, setSplineToLocation] at hok ⊢
    split at hok
    next => exact absurd hok (Outcome.badLocation_refused a _).1
    next v t hv =>
      split at hok
      next => exact absurd hok (Outcome.badLocation_refused a _).1
      next following hfollowing => exact ⟨v, t, hv, a.setSplineTo_endsAt r hok⟩
  | _ => cases hc

end Destinations

/-- The destination of a segment set to a location is that location again. The longitude may be
whole turns away, and an altitude above the world origin comes back as an absolute one. -/
theorem destination_location {c : Command ℝ} {l origin : Location} (hc : c.location = some l)
    (a : Autopilot ℝ) (r : Readings ℝ) (horigin : r.attitude.origin = some origin)
    (hframe : origin.frame = .absolute)
    (hsum : l.frame = .aboveOrigin →
      WordRange.signed32.Contains (l.altitude.toInt + origin.altitude.toInt))
    (hok : (c.run r a).fault = none) :
    ∃ m, (c.run r a).state.destinationLocation r.attitude.origin = .ok m ∧
      m.latitude = l.latitude ∧ m.longitude.toInt ≡ l.longitude.toInt [ZMOD 3600000000] ∧
      (l.frame = .aboveTerrain → m.frame = .aboveTerrain ∧ m.altitude = l.altitude) ∧
      (l.frame ≠ .aboveTerrain → m.frame = .absolute ∧
        l.altitudeIn .absolute origin (Elevation.unknown (α := ℝ)) = .ok m.altitude) := by
  obtain ⟨v, t, hv, hdestination, hterrain⟩ := run_location_endsAt a r hc hok
  rw [horigin] at hv
  obtain ⟨hground, altitude, hup, hheight⟩ := Location.vectorNEU_ok hv
  obtain ⟨longitude, hoffset, hmod⟩ := Location.offset_vectorFrom hground
  have hword : Location.nearestWord v.up = altitude := by
    refine Location.nearestWord_eq ?_
    rw [hup, sub_self, abs_zero]
    norm_num
  change origin.offset? (v.north * 0.01) (v.east * 0.01) = _ at hoffset
  simp only [destinationLocation, hdestination, hterrain, horigin, hword, hoffset]
  cases hheight with
  | ground hl => exact ⟨_, rfl, rfl, hmod, fun _ ↦ ⟨rfl, rfl⟩, fun hn ↦ absurd hl hn⟩
  | origin hl haltitude =>
    obtain ⟨sum, hadd, habsolute⟩ := Location.checkedAdd_altitudeIn hl hsum haltitude
    refine ⟨{ origin with latitude := l.latitude, longitude, altitude := sum }, ?_, rfl, hmod,
      fun hn ↦ absurd hn hl, fun _ ↦ ⟨hframe, habsolute⟩⟩
    show Location.checked (checkedAdd origin.altitude altitude >>= _) = _
    rw [hadd]
    rfl

/-- A world origin a little west of the antimeridian, and a place a little east of it. -/
def westOrigin : Location := ⟨-353632620, 1799999000, 58400, .absolute⟩

def eastPlace : Location := ⟨-350000000, -1799999000, 1000, .aboveOrigin⟩

theorem destination_location_antimeridian :
    let c : Command ℝ := .straightToLocation eastPlace
    let a : Autopilot ℝ := Simulation.standard.autopilot
    let r : Readings ℝ :=
      { (Simulation.standard : Simulation ℝ).readings with attitude := ⟨some westOrigin, 0, 3000⟩ }
    c.location = some eastPlace ∧ westOrigin.frame = .absolute ∧
      WordRange.signed32.Contains (eastPlace.altitude.toInt + westOrigin.altitude.toInt) ∧
      (c.run r a).fault = none ∧
      ∃ m, (c.run r a).state.destinationLocation r.attitude.origin = .ok m ∧
        m.latitude = -350000000 ∧ m.longitude.toInt ≡ -1799999000 [ZMOD 3600000000] ∧
        m.frame = .absolute ∧ m.altitude = 59400 := by
  intro c a r
  have hsum : WordRange.signed32.Contains
      (eastPlace.altitude.toInt + westOrigin.altitude.toInt) := by decide
  obtain ⟨v, hv⟩ : ∃ v, eastPlace.vectorNEU (α := ℝ) (some westOrigin) = .ok (v, false) :=
    ⟨_, rfl⟩
  have hok : (c.run r a).fault = none := by
    simp only [c, r, Command.run, setStraightToLocation, hv]
    rfl
  obtain ⟨m, hm, hlatitude, hlongitude, -, haltitude⟩ :=
    destination_location (c := c) rfl a r rfl rfl (fun _ ↦ hsum) hok
  obtain ⟨hframe, habsolute⟩ := haltitude (by decide)
  have hmetres : eastPlace.altitudeIn .absolute westOrigin (Elevation.unknown (α := ℝ)) =
      .ok 59400 := rfl
  exact ⟨rfl, rfl, hsum, hok, m, hm, hlatitude, hlongitude, hframe,
    (Except.ok.inj (hmetres.symm.trans habsolute)).symm⟩

end Autopilot

end WaypointFlight
