import WaypointFlight.Mission.Basic
import WaypointFlight.Proofs.LongitudeOffsets

namespace WaypointFlight

/-- A longitude difference of exactly half a turn that leads across the antimeridian. -/
def Antipodal (longitude d : ℤ) : Prop :=
  d = halfTurn ∧ 0 < longitude ∨ d = -halfTurn ∧ longitude < 0

instance (longitude d : ℤ) : Decidable (Antipodal longitude d) :=
  inferInstanceAs (Decidable (_ ∨ _))

/-- A longitude difference up to half a turn is found again from the longitude, unless it crosses
the antimeridian to the opposite meridian: the short way there is the other way around. -/
theorem shortWay_shortWay_sub {longitude d : ℤ} (hlongitude : |longitude| ≤ halfTurn)
    (hd : |d| ≤ halfTurn) :
    shortWay (shortWay (longitude + d) - longitude) = if Antipodal longitude d then -d else d := by
  rw [abs_le] at hlongitude hd
  unfold Antipodal shortWay halfTurn fullTurn at *
  split_ifs <;> omega

namespace Location

theorem abs_centimetres_sub_lt {x : ℝ} {n : ℤ} (h : |(n : ℝ) - x * unitsPerMetre| ≤ 1 / 2)
    (hx : |x| ≤ 10 ^ 8) : |(n : ℝ) * metresPerUnit * 100 - 100 * x| < 0.56 := by
  have hsplit : (n : ℝ) * metresPerUnit * 100 - 100 * x =
      (n - x * unitsPerMetre) * (metresPerUnit * 100) +
        100 * x * (metresPerUnit * unitsPerMetre - 1) := by ring
  have hunit : |(metresPerUnit : ℝ) * 100| ≤ 1.1132 := by norm_num [metresPerUnit]
  have hlength : |100 * x| ≤ 10 ^ 10 := by
    rw [abs_mul, abs_of_pos (by norm_num)]
    linarith
  calc |(n : ℝ) * metresPerUnit * 100 - 100 * x|
      ≤ |(n - x * unitsPerMetre) * (metresPerUnit * 100)| +
          |100 * x * (metresPerUnit * unitsPerMetre - 1)| := by
        rw [hsplit]
        exact abs_add_le _ _
    _ ≤ 1 / 2 * 1.1132 + 10 ^ 10 * 1e-16 := by
        rw [abs_mul (_ - _), abs_mul (100 * x)]
        exact add_le_add (mul_le_mul h hunit (abs_nonneg _) (by norm_num))
          (mul_le_mul hlength abs_scales_sub_one_le (abs_nonneg _) (by norm_num))
    _ < 0.56 := by norm_num

theorem longitudeScale_le_one (latitude : Int32) : (longitudeScale latitude : ℝ) ≤ 1 := by
  rw [longitudeScale_real]
  exact max_le (Real.cos_le_one _) (by norm_num)

noncomputable def halfTurnMetres (latitude : Int32) : ℝ :=
  1800000000 * metresPerUnit * longitudeScale latitude

variable {l origin : Location} {north east : ℝ}

theorem abs_east_div_lt (h : |east| < halfTurnMetres origin.latitude) :
    |east / longitudeScale origin.latitude| < 1800000000 * metresPerUnit := by
  have hscale := longitudeScale_pos origin.latitude
  rw [abs_div, abs_of_pos hscale, div_lt_iff₀ hscale]
  exact h

theorem longitudeStep_near (h : |east| < halfTurnMetres origin.latitude) :
    origin.longitudeStep east =
        Reals.nearest (east / longitudeScale origin.latitude * unitsPerMetre) ∧
      |origin.longitudeStep east| ≤ halfTurn := by
  set x := east / longitudeScale origin.latitude * unitsPerMetre with hx
  have hsmall : |x| < ((1800000000 : ℤ) : ℝ) + 1 / 2 := by
    have hunits : (0 : ℝ) < unitsPerMetre := by norm_num [unitsPerMetre]
    rw [hx, abs_mul, abs_of_pos hunits]
    calc |east / longitudeScale origin.latitude| * unitsPerMetre
        ≤ 1800000000 * metresPerUnit * unitsPerMetre :=
          mul_le_mul_of_nonneg_right (abs_east_div_lt h).le hunits.le
      _ < ((1800000000 : ℤ) : ℝ) + 1 / 2 := by norm_num [metresPerUnit, unitsPerMetre]
  have hnearest : |Reals.nearest x| ≤ halfTurn := Reals.abs_nearest_le hsmall
  have hstep : origin.longitudeStep east = Reals.nearest x := by
    rw [longitudeStep_real, mul_div_right_comm, ← hx]
    exact WordRange.clamp_eq (WordRange.contains_of_abs_le (hnearest.trans (by decide)) (by decide))
  exact ⟨hstep, hstep ▸ hnearest⟩

theorem latitude_near (hlatitude : |origin.latitude.toInt| ≤ 900000000)
    (hnorth : |north| ≤ 10000000) :
    |((origin.latitudeAt north).toInt - origin.latitude.toInt : ℤ) - north * unitsPerMetre| ≤
        1 / 2 ∧
      WordRange.signed32.Contains
        ((origin.latitudeAt north).toInt - origin.latitude.toInt) := by
  set x := (origin.latitude.toInt : ℝ) + north * unitsPerMetre with hx
  have hmove : |north * unitsPerMetre| ≤ 898320500 := by
    rw [abs_mul]
    have hunits : |(unitsPerMetre : ℝ)| ≤ 89.83205 := by norm_num [unitsPerMetre]
    exact (mul_le_mul hnorth hunits (abs_nonneg _) (by norm_num)).trans (by norm_num)
  have hlatitude' : |(origin.latitude.toInt : ℝ)| ≤ 900000000 := by exact_mod_cast hlatitude
  have hsmall : |x| < ((1800000000 : ℤ) : ℝ) + 1 / 2 := by
    push_cast
    exact (abs_add_le _ _).trans_lt (by linarith)
  have hnearest := Reals.abs_nearest_le hsmall
  have hword : (origin.latitudeAt north).toInt = Reals.nearest x :=
    toInt_nearestWord (WordRange.contains_of_abs_le (hnearest.trans (by decide)) (by decide))
  have hclose : |((Reals.nearest x - origin.latitude.toInt : ℤ) : ℝ) - north * unitsPerMetre| ≤
      1 / 2 := by
    have h := Reals.abs_nearest_sub_le x
    rw [hx] at h ⊢
    push_cast
    rwa [sub_sub]
  rw [hword]
  refine ⟨hclose, ?_⟩
  have hdifference : |((Reals.nearest x - origin.latitude.toInt : ℤ) : ℝ)| ≤ 2147483647 := by
    have h := abs_add_le (((Reals.nearest x - origin.latitude.toInt : ℤ) : ℝ) -
      north * unitsPerMetre) (north * unitsPerMetre)
    rw [sub_add_cancel] at h
    linarith
  exact WordRange.contains_of_abs_le (by exact_mod_cast hdifference) (by decide)

theorem vectorFrom_eq
    (h : WordRange.signed32.Contains (l.latitude.toInt - origin.latitude.toInt)) :
    l.vectorFrom origin = .ok
      { north := ((l.latitude.toInt - origin.latitude.toInt : ℤ) : ℝ) * metresPerUnit * 100
        east := ((shortWay (l.longitude.toInt - origin.longitude.toInt) : ℤ) : ℝ) *
          metresPerUnit * longitudeScale origin.latitude * 100 } := by
  have hdifference : checkedSub l.latitude origin.latitude =
      .ok (Int32.ofInt (l.latitude.toInt - origin.latitude.toInt)) :=
    word?_ok_iff.mpr (WordRange.toInt_ofInt h)
  have hhundred : (100.0 : ℝ) = 100 := by norm_num
  rw [vectorFrom, hdifference, ← hhundred]
  show Except.ok _ = _
  rw [WordRange.toInt_ofInt h]
  rfl

theorem vectorNEU_eq {t : Bool} (hframe : l.frame = if t then .aboveTerrain else .aboveOrigin)
    {ground : Vec2 ℝ} (h : l.vectorFrom origin = .ok ground) :
    l.vectorNEU (some origin) = .ok (⟨ground.north, ground.east, l.altitude.toInt⟩, t) := by
  cases t with
  | true =>
    simp only [↓reduceIte] at hframe
    simp only [vectorNEU, h, hframe]
    rfl
  | false =>
    simp only [Bool.false_eq_true, ↓reduceIte] at hframe
    simp only [vectorNEU, h, hframe, altitudeIn, ↓reduceIte]
    rfl

theorem offset?_near (hlongitude : |l.longitude.toInt| ≤ 1800000000)
    (heast : |east| < halfTurnMetres l.latitude) (north : ℝ) :
    ∃ m, l.offset? north east = .ok m ∧ m.latitude = l.latitudeAt north ∧
      m.longitude.toInt = shortWay (l.longitude.toInt + l.longitudeStep east) ∧
      m.altitude = l.altitude ∧ m.frame = l.frame := by
  have hsum : |l.longitude.toInt + l.longitudeStep east| ≤ halfTurn + fullTurn := by
    have hstep := (longitudeStep_near heast).2
    rw [abs_le] at hlongitude hstep ⊢
    unfold halfTurn fullTurn at *
    omega
  obtain ⟨longitude, hok, hlongitude⟩ := longitudeAt_ok hsum
  exact ⟨_, offset?_ok hok north, rfl, hlongitude, rfl, rfl⟩

theorem abs_east_sub_lt (heast : |east| < halfTurnMetres origin.latitude) :
    |(origin.longitudeStep east : ℝ) * metresPerUnit * longitudeScale origin.latitude * 100 -
      100 * east| < 0.56 := by
  have hscale := longitudeScale_pos origin.latitude
  obtain ⟨hstep, -⟩ := longitudeStep_near heast
  set x := east / longitudeScale origin.latitude with hx
  have hback : east = x * longitudeScale origin.latitude := by
    rw [hx, div_mul_cancel₀ _ hscale.ne']
  have hx' : |x| ≤ 10 ^ 8 :=
    (abs_east_div_lt heast).le.trans (by norm_num [metresPerUnit])
  have hclose := abs_centimetres_sub_lt (hstep ▸ Reals.abs_nearest_sub_le (x * unitsPerMetre)) hx'
  calc |(origin.longitudeStep east : ℝ) * metresPerUnit * longitudeScale origin.latitude * 100 -
        100 * east|
      = |(origin.longitudeStep east : ℝ) * metresPerUnit * 100 - 100 * x| *
          longitudeScale origin.latitude := by
        rw [← abs_of_pos hscale, ← abs_mul, abs_of_pos hscale]
        nth_rewrite 2 [hback]
        ring_nf
    _ ≤ |(origin.longitudeStep east : ℝ) * metresPerUnit * 100 - 100 * x| * 1 :=
        mul_le_mul_of_nonneg_left (longitudeScale_le_one _) (abs_nonneg _)
    _ < 0.56 := by rwa [mul_one]

end Location

namespace MissionItem

open Location

variable {i : MissionItem ℝ} {origin : Location}

theorem location_vectorNEU (hlatitude : |origin.latitude.toInt| ≤ 900000000)
    (hlongitude : |origin.longitude.toInt| ≤ 1800000000) (hnorth : |i.north| ≤ 10000000)
    (heast : |i.east| < halfTurnMetres origin.latitude)
    (haltitude : WordRange.signed32.Contains (Reals.nearest (i.altitude * 100))) :
    ∃ (l : Location) (v : Vec3 ℝ), i.location origin = .ok l ∧
      l.vectorNEU (some origin) = .ok (v, i.aboveTerrain) ∧
      v.north = ((origin.latitudeAt i.north).toInt - origin.latitude.toInt : ℤ) *
        metresPerUnit * 100 ∧
      v.east = ((if Antipodal origin.longitude.toInt (origin.longitudeStep i.east)
          then -origin.longitudeStep i.east else origin.longitudeStep i.east : ℤ) : ℝ) *
        metresPerUnit * longitudeScale origin.latitude * 100 ∧
      v.up = Reals.nearest (i.altitude * 100) := by
  obtain ⟨l, hl, hlat, hlng, halt, hframe⟩ := offset?_near
    (l := ⟨origin.latitude, origin.longitude, nearestWord (i.altitude * 100.0),
      if i.aboveTerrain then .aboveTerrain else .aboveOrigin⟩) hlongitude heast i.north
  have hlat' : l.latitude = origin.latitudeAt i.north := hlat
  have hway : shortWay (l.longitude.toInt - origin.longitude.toInt) =
      if Antipodal origin.longitude.toInt (origin.longitudeStep i.east)
        then -origin.longitudeStep i.east else origin.longitudeStep i.east := by
    rw [hlng]
    exact shortWay_shortWay_sub hlongitude (longitudeStep_near heast).2
  have hground := vectorFrom_eq (hlat' ▸ (latitude_near hlatitude hnorth).2)
  refine ⟨l, _, hl, vectorNEU_eq hframe hground, ?_, ?_, ?_⟩
  · rw [hlat']
  · rw [hway]
  · have hhundred : (100.0 : ℝ) = 100 := by norm_num
    rw [halt, hhundred, toInt_nearestWord haltitude]

/-- An item is found where it says, to half a unit on the ground and half a centimetre in height.
Exactly half a turn away, across the antimeridian, it is found around the earth the other way. -/
theorem location_lands (hlatitude : |origin.latitude.toInt| ≤ 900000000)
    (hlongitude : |origin.longitude.toInt| ≤ 1800000000) (hnorth : |i.north| ≤ 10000000)
    (heast : |i.east| < halfTurnMetres origin.latitude)
    (haltitude : WordRange.signed32.Contains (Reals.nearest (i.altitude * 100))) :
    ∃ (l : Location) (v : Vec3 ℝ), i.location origin = .ok l ∧
      l.vectorNEU (some origin) = .ok (v, i.aboveTerrain) ∧
      |v.north - 100 * i.north| < 0.56 ∧
      |v.east - (if Antipodal origin.longitude.toInt (origin.longitudeStep i.east)
          then -(100 * i.east) else 100 * i.east)| < 0.56 ∧
      |v.up - 100 * i.altitude| ≤ 0.5 := by
  obtain ⟨l, v, hl, hvector, hnorth', heast', hup⟩ :=
    location_vectorNEU hlatitude hlongitude hnorth heast haltitude
  refine ⟨l, v, hl, hvector, ?_, ?_, ?_⟩
  · rw [hnorth']
    exact abs_centimetres_sub_lt (latitude_near hlatitude hnorth).1 (hnorth.trans (by norm_num))
  · have hclose := abs_east_sub_lt heast
    rw [heast']
    split_ifs
    · rw [← abs_neg]
      push_cast
      convert hclose using 2
      ring
    · exact hclose
  · rw [hup, mul_comm 100]
    exact (Reals.abs_nearest_sub_le _).trans (by norm_num)

theorem longitudeScale_equator : (longitudeScale 0 : ℝ) = 1 := by
  have hangle : ((0 : ℤ) : ℝ) * 1.0e-7 * (Real.pi / 180) = 0 := by norm_num
  have hlatitude : (0 : Int32).toInt = 0 := rfl
  rw [longitudeScale_real, hlatitude, hangle, Real.cos_zero]
  norm_num

theorem longitudeStep_equator (hequator : origin.latitude = 0) {east : ℝ} {d : ℤ}
    (h : |east * unitsPerMetre - d| < 1 / 2) (hd : |d| ≤ halfTurn) :
    origin.longitudeStep east = d := by
  refine longitudeStep_eq ?_ (hd.trans (by decide))
  rwa [hequator, longitudeScale_equator, div_one]

noncomputable def acrossAntimeridian : MissionItem ℝ :=
  { kind := .straight, north := -350.25, east := 250, altitude := 12.3, aboveTerrain := true
    fast := false, speed := none }

/-- An item on the other side of the antimeridian, two hundred and fifty metres away. -/
theorem location_lands_acrossAntimeridian :
    ∃ (l : Location) (v : Vec3 ℝ),
      acrossAntimeridian.location ⟨0, 1799999000, 58400, .absolute⟩ = .ok l ∧
      l.vectorNEU (some ⟨0, 1799999000, 58400, .absolute⟩) = .ok (v, true) ∧
      |v.north - 100 * (-350.25)| < 0.56 ∧ |v.east - 100 * 250| < 0.56 ∧
      |v.up - 100 * 12.3| ≤ 0.5 := by
  have hstep : longitudeStep ⟨0, 1799999000, 58400, .absolute⟩ acrossAntimeridian.east = 22458 :=
    longitudeStep_equator rfl (by norm_num [acrossAntimeridian, unitsPerMetre, abs_lt]) (by decide)
  have haltitude : Reals.nearest (acrossAntimeridian.altitude * 100) = 1230 :=
    Reals.nearest_eq (by norm_num [acrossAntimeridian])
  have hnear : |acrossAntimeridian.east| < halfTurnMetres 0 := by
    norm_num [acrossAntimeridian, halfTurnMetres, longitudeScale_equator, metresPerUnit]
  have hcontains :
      WordRange.signed32.Contains (Reals.nearest (acrossAntimeridian.altitude * 100)) := by
    rw [haltitude]
    decide
  obtain ⟨l, v, hl, hvector, hnorth, heast, hup⟩ :=
    @location_lands acrossAntimeridian ⟨0, 1799999000, 58400, .absolute⟩ (by decide) (by decide)
      (by norm_num [acrossAntimeridian, abs_le]) hnear hcontains
  rw [hstep, if_neg (by decide)] at heast
  exact ⟨l, v, hl, hvector, hnorth, heast, hup⟩

noncomputable def oppositeMeridian : MissionItem ℝ :=
  { kind := .straight, north := 0, east := 20037392.1, altitude := 0, aboveTerrain := false
    fast := false, speed := none }

/-- An item half a turn to the east of a place just east of the prime meridian is found half a turn
to the west of it. -/
theorem location_lands_opposite :
    oppositeMeridian.east < halfTurnMetres 0 ∧
    ∃ (l : Location) (v : Vec3 ℝ),
      oppositeMeridian.location ⟨0, 1, 58400, .absolute⟩ = .ok l ∧
      l.vectorNEU (some ⟨0, 1, 58400, .absolute⟩) = .ok (v, false) ∧
      v.east < -2003739210 ∧ ¬ |v.east - 100 * oppositeMeridian.east| < 0.56 := by
  have hless : oppositeMeridian.east < halfTurnMetres 0 := by
    norm_num [oppositeMeridian, halfTurnMetres, longitudeScale_equator, metresPerUnit]
  have hstep : longitudeStep ⟨0, 1, 58400, .absolute⟩ oppositeMeridian.east = 1800000000 :=
    longitudeStep_equator rfl (by norm_num [oppositeMeridian, unitsPerMetre, abs_lt]) (by decide)
  have haltitude : Reals.nearest (oppositeMeridian.altitude * 100) = 0 :=
    Reals.nearest_eq (by norm_num [oppositeMeridian])
  have hnear : |oppositeMeridian.east| < halfTurnMetres 0 := by
    rwa [abs_of_pos (by norm_num [oppositeMeridian])]
  have hcontains :
      WordRange.signed32.Contains (Reals.nearest (oppositeMeridian.altitude * 100)) := by
    rw [haltitude]
    decide
  obtain ⟨l, v, hl, hvector, -, heast, -⟩ :=
    @location_vectorNEU oppositeMeridian ⟨0, 1, 58400, .absolute⟩ (by decide) (by decide)
      (by norm_num [oppositeMeridian]) hnear hcontains
  rw [hstep, if_pos (by decide)] at heast
  have hwest : v.east < -2003739210 := by
    rw [heast]
    norm_num [longitudeScale_equator, metresPerUnit]
  refine ⟨hless, l, v, hl, hvector, hwest, fun hnear ↦ ?_⟩
  have heast' : (oppositeMeridian.east : ℝ) = 20037392.1 := rfl
  rw [heast', abs_lt] at hnear
  norm_num at hnear
  linarith

end MissionItem

end WaypointFlight
