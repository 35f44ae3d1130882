import WaypointFlight.Proofs.LocationFaults
import WaypointFlight.Proofs.Rounding

namespace WaypointFlight

variable {α : Type}

/-- The elevation of the ground depends on the place alone. -/
def Elevation.OfPlace (terrain : Elevation α) : Prop :=
  ∀ l m : Location, l.latitude = m.latitude → l.longitude = m.longitude → terrain l = terrain m

theorem word?_error_iff {o o' : Overflow} {n : ℤ} :
    word? o n = .error o' ↔ ¬ WordRange.signed32.Contains n ∧ o = o' := by
  unfold word?
  split_ifs with h <;> simp [h]

variable [Analytic α]

/-- The altitude of the datum of a frame above mean sea level. The ground is taken to the nearest
centimetre. -/
def AltitudeFrame.datum (f : AltitudeFrame) (l origin : Location) (terrain : Elevation α) :
    Option ℤ :=
  match f with
  | .absolute => some 0
  | .aboveOrigin => some origin.altitude.toInt
  | .aboveTerrain => (terrain l).map fun ground ↦ (Location.nearestWord ground).toInt

namespace Location

def aboveSea (l origin : Location) (terrain : Elevation α) : Option ℤ :=
  (l.frame.datum l origin terrain).map (l.altitude.toInt + ·)

/-- The altitude in another frame, in unbounded integers. -/
def exactAltitude (l : Location) (target : AltitudeFrame) (origin : Location)
    (terrain : Elevation α) : Option ℤ :=
  if target = l.frame then some l.altitude.toInt
  else (l.aboveSea origin terrain).bind fun sea ↦
    (target.datum l origin terrain).map (sea - ·)

/-- The conversion passes through an altitude above mean sea level that is no word. -/
def Stops (l : Location) (target : AltitudeFrame) (origin : Location) (terrain : Elevation α) :
    Prop :=
  target ≠ l.frame ∧
    ∃ n, l.aboveSea origin terrain = some n ∧ ¬ WordRange.signed32.Contains n

variable {l m origin : Location} {target b c : AltitudeFrame} {terrain : Elevation α} {d : ℤ}

theorem datum_eq_none_iff :
    target.datum l origin terrain = none ↔ target = .aboveTerrain ∧ terrain l = none := by
  cases target <;> simp [AltitudeFrame.datum]

theorem aboveSea_eq_some {n : ℤ} (h : l.aboveSea origin terrain = some n) :
    l.frame.datum l origin terrain = some (n - l.altitude.toInt) := by
  obtain ⟨d, hd, rfl⟩ := Option.map_eq_some_iff.mp h
  rw [hd, add_sub_cancel_left]

theorem absoluteAltitude_some (h : l.frame.datum l origin terrain = some d) :
    l.absoluteAltitude target origin terrain =
      checked (word? .addition (l.altitude.toInt + d)) := by
  unfold absoluteAltitude
  cases hl : l.frame with
  | absolute =>
    rw [hl] at h
    obtain rfl := Option.some.inj h
    exact (checked_ok.mpr (word?_ok_iff.mpr (add_zero _).symm)).symm
  | aboveOrigin =>
    rw [hl] at h
    obtain rfl := Option.some.inj h
    rfl
  | aboveTerrain =>
    rw [hl] at h
    obtain ⟨ground, hground, rfl⟩ := Option.map_eq_some_iff.mp h
    dsimp only
    rw [groundFor, hground]
    rfl

theorem absoluteAltitude_none (h : l.frame.datum l origin terrain = none) :
    l.absoluteAltitude target origin terrain = .error (.error (.noTerrainData l.frame target)) := by
  obtain ⟨hl, hground⟩ := datum_eq_none_iff.mp h
  unfold absoluteAltitude
  rw [hl]
  dsimp only
  rw [groundFor, hground, hl]
  rfl

theorem relativeAltitude_some {sea : Int32} (h : target.datum l origin terrain = some d) :
    l.relativeAltitude target origin terrain sea =
      checked (word? .subtraction (sea.toInt - d)) := by
  unfold relativeAltitude
  cases target with
  | absolute =>
    obtain rfl := Option.some.inj h
    exact (checked_ok.mpr (word?_ok_iff.mpr (sub_zero _).symm)).symm
  | aboveOrigin =>
    obtain rfl := Option.some.inj h
    rfl
  | aboveTerrain =>
    obtain ⟨ground, hground, rfl⟩ := Option.map_eq_some_iff.mp h
    dsimp only
    rw [groundFor, hground]
    rfl

theorem relativeAltitude_none {sea : Int32} (h : target.datum l origin terrain = none) :
    l.relativeAltitude target origin terrain sea =
      .error (.error (.noTerrainData l.frame target)) := by
  obtain ⟨rfl, hground⟩ := datum_eq_none_iff.mp h
  dsimp only [relativeAltitude]
  rw [groundFor, hground]
  rfl

inductive Conversion (l : Location) (target : AltitudeFrame) (origin : Location)
    (terrain : Elevation α) : Except (Fault LocationError) Int32 → Prop where
  | same (hframe : target = l.frame) : Conversion l target origin terrain (.ok l.altitude)
  | noSource (hframe : target ≠ l.frame) (hsea : l.aboveSea origin terrain = none) :
      Conversion l target origin terrain (.error (.error (.noTerrainData l.frame target)))
  | stopped (hframe : target ≠ l.frame) {n : ℤ} (hsea : l.aboveSea origin terrain = some n)
      (hn : ¬ WordRange.signed32.Contains n) :
      Conversion l target origin terrain (.error (.overflow .addition))
  | noTarget (hframe : target ≠ l.frame) {sea : Int32}
      (hsea : l.aboveSea origin terrain = some sea.toInt)
      (hdatum : target.datum l origin terrain = none) :
      Conversion l target origin terrain (.error (.error (.noTerrainData l.frame target)))
  | difference (hframe : target ≠ l.frame) {sea : Int32}
      (hsea : l.aboveSea origin terrain = some sea.toInt) {d : ℤ}
      (hdatum : target.datum l origin terrain = some d) :
      Conversion l target origin terrain (checked (word? .subtraction (sea.toInt - d)))

theorem conversion (l : Location) (target : AltitudeFrame) (origin : Location)
    (terrain : Elevation α) :
    l.Conversion target origin terrain (l.altitudeIn target origin terrain) := by
  by_cases hframe : target = l.frame
  · rw [altitudeIn, if_pos hframe]
    exact .same hframe
  rw [altitudeIn_eq hframe]
  cases hsource : l.frame.datum l origin terrain with
  | none =>
    rw [absoluteAltitude_none hsource]
    exact .noSource hframe (by rw [aboveSea, hsource, Option.map_none])
  | some d =>
    have hsea : l.aboveSea origin terrain = some (l.altitude.toInt + d) := by
      rw [aboveSea, hsource, Option.map_some]
    rw [absoluteAltitude_some hsource]
    cases hword : word? .addition (l.altitude.toInt + d) with
    | error o =>
      obtain ⟨hn, rfl⟩ := word?_error_iff.mp hword
      exact .stopped hframe hsea hn
    | ok sea =>
      -- only here is the ground asked for on the side of the target
      rw [← word?_ok_iff.mp hword] at hsea
      show l.Conversion target origin terrain (l.relativeAltitude target origin terrain sea)
      cases htarget : target.datum l origin terrain with
      | none =>
        rw [relativeAltitude_none htarget]
        exact .noTarget hframe hsea htarget
      | some e =>
        rw [relativeAltitude_some htarget]
        exact .difference hframe hsea htarget

theorem exactAltitude_of_aboveSea {n : ℤ} (hsea : l.aboveSea origin terrain = some n) :
    l.exactAltitude target origin terrain = (target.datum l origin terrain).map (n - ·) := by
  by_cases hframe : target = l.frame
  · rw [exactAltitude, if_pos hframe, hframe, aboveSea_eq_some hsea, Option.map_some,
      sub_sub_cancel]
  · rw [exactAltitude, if_neg hframe, hsea, Option.bind_some]

theorem exactAltitude_eq_none_iff :
    l.exactAltitude target origin terrain = none ↔
      l.frame ≠ target ∧ (l.frame = .aboveTerrain ∨ target = .aboveTerrain) ∧ terrain l = none := by
  by_cases hframe : target = l.frame
  · simp [exactAltitude, hframe]
  rw [exactAltitude, if_neg hframe]
  cases hsea : l.aboveSea origin terrain with
  | none =>
    obtain ⟨hl, hground⟩ := datum_eq_none_iff.mp (Option.map_eq_none_iff.mp hsea)
    exact iff_of_true rfl ⟨Ne.symm hframe, .inl hl, hground⟩
  | some n =>
    rw [Option.bind_some, Option.map_eq_none_iff, datum_eq_none_iff]
    constructor
    · exact fun ⟨htarget, hground⟩ ↦ ⟨Ne.symm hframe, .inr htarget, hground⟩
    · rintro ⟨-, hl | htarget, hground⟩
      · have hsource := aboveSea_eq_some hsea
        rw [datum_eq_none_iff.mpr ⟨hl, hground⟩] at hsource
        cases hsource
      · exact ⟨htarget, hground⟩

theorem not_stops_of_aboveSea {sea : Int32} (hsea : l.aboveSea origin terrain = some sea.toInt) :
    ¬ l.Stops target origin terrain := by
  rintro ⟨-, n, hn, hword⟩
  obtain rfl := Option.some.inj (hsea.symm.trans hn)
  exact hword (WordRange.contains_toInt sea)

theorem altitudeIn_of_stops (h : l.Stops target origin terrain) :
    l.altitudeIn target origin terrain = .error (.overflow .addition) := by
  have hway := l.conversion target origin terrain
  generalize l.altitudeIn target origin terrain = x at hway
  cases hway with
  | same hframe => exact absurd hframe h.1
  | noSource _ hsea =>
    obtain ⟨-, n, hn, -⟩ := h
    cases hsea.symm.trans hn
  | stopped => rfl
  | noTarget _ hsea | difference _ hsea => exact absurd h (not_stops_of_aboveSea hsea)

theorem altitudeIn_of_not_stops (h : ¬ l.Stops target origin terrain) :
    l.altitudeIn target origin terrain =
      match l.exactAltitude target origin terrain with
      | some n => checked (word? .subtraction n)
      | none => .error (.error (.noTerrainData l.frame target)) := by
  have hway := l.conversion target origin terrain
  generalize l.altitudeIn target origin terrain = x at hway
  cases hway with
  | same hframe =>
    rw [exactAltitude, if_pos hframe]
    exact (checked_ok.mpr (word?_ok_iff.mpr rfl)).symm
  | noSource hframe hsea => rw [exactAltitude, if_neg hframe, hsea, Option.bind_none]
  | stopped hframe hsea hn => exact absurd ⟨hframe, _, hsea, hn⟩ h
  | noTarget hframe hsea hdatum => rw [exactAltitude_of_aboveSea hsea, hdatum, Option.map_none]
  | difference hframe hsea hdatum =>
    rw [exactAltitude_of_aboveSea hsea, hdatum, Option.map_some]

theorem altitudeIn_ok_iff (h : ¬ l.Stops target origin terrain) {w : Int32} :
    l.altitudeIn target origin terrain = .ok w ↔
      l.exactAltitude target origin terrain = some w.toInt := by
  rw [altitudeIn_of_not_stops h]
  cases l.exactAltitude target origin terrain with
  | none => simp
  | some n => rw [checked_ok, word?_ok_iff, Option.some.injEq, eq_comm]

theorem altitudeIn_noTerrainData_iff (h : ¬ l.Stops target origin terrain) :
    l.altitudeIn target origin terrain = .error (.error (.noTerrainData l.frame target)) ↔
      l.exactAltitude target origin terrain = none := by
  rw [altitudeIn_of_not_stops h]
  cases l.exactAltitude target origin terrain with
  | none => simp
  | some n =>
    refine iff_of_false (fun herror ↦ ?_) (by simp)
    obtain ⟨o, ho⟩ := checked_error herror
    cases ho

/-- Only between the origin and the ground does a conversion stop for an altitude that would have
been a word, or for one that is unknown. -/
theorem frames_of_stops (h : l.Stops target origin terrain)
    (hexact : ∀ n, l.exactAltitude target origin terrain = some n → WordRange.signed32.Contains n) :
    l.frame = .aboveOrigin ∧ target = .aboveTerrain ∨
      l.frame = .aboveTerrain ∧ target = .aboveOrigin := by
  obtain ⟨hframe, n, hsea, hn⟩ := h
  rw [exactAltitude_of_aboveSea hsea] at hexact
  have htarget : target ≠ .absolute := by
    rintro rfl
    exact hn (by simpa [AltitudeFrame.datum] using hexact n)
  have hsource : l.frame ≠ .absolute := by
    intro hl
    rw [aboveSea, hl] at hsea
    obtain rfl := Option.some.inj hsea
    exact hn (by simpa using WordRange.contains_toInt l.altitude)
  cases hl : l.frame <;> cases target <;> simp_all

theorem altitudeIn_ok_iff_of_aboveSea {sea w : Int32}
    (hsea : l.aboveSea origin terrain = some sea.toInt) :
    l.altitudeIn target origin terrain = .ok w ↔
      target.datum l origin terrain = some (sea.toInt - w.toInt) := by
  rw [altitudeIn_ok_iff (not_stops_of_aboveSea hsea), exactAltitude_of_aboveSea hsea]
  cases target.datum l origin terrain with
  | none => simp
  | some d =>
    rw [Option.map_some, Option.some.injEq, Option.some.injEq]
    omega

theorem inFrame_ok_iff : l.inFrame b origin terrain = .ok m ↔
    ∃ w, l.altitudeIn b origin terrain = .ok w ∧ m = { l with altitude := w, frame := b } := by
  rw [inFrame]
  cases l.altitudeIn b origin terrain with
  | error f => simp [bind, Except.bind]
  | ok w => simp [bind, Except.bind, pure, Except.pure, eq_comm]

theorem altitudeIn_frame : l.altitudeIn l.frame origin terrain = .ok l.altitude := if_pos rfl

theorem inFrame_frame : l.inFrame l.frame origin terrain = .ok l :=
  inFrame_ok_iff.mpr ⟨l.altitude, altitudeIn_frame, rfl⟩

theorem datum_inFrame (hterrain : terrain.OfPlace) (h : l.inFrame b origin terrain = .ok m)
    (f : AltitudeFrame) : f.datum m origin terrain = f.datum l origin terrain := by
  obtain ⟨w, -, rfl⟩ := inFrame_ok_iff.mp h
  cases f with
  | aboveTerrain => exact congrArg (Option.map _) (hterrain _ _ rfl rfl)
  | _ => rfl

theorem altitudeIn_ok {w : Int32} (h : l.altitudeIn b origin terrain = .ok w) :
    b = l.frame ∧ w = l.altitude ∨ ∃ sea : Int32, l.aboveSea origin terrain = some sea.toInt ∧
      b.datum l origin terrain = some (sea.toInt - w.toInt) := by
  have hway := l.conversion b origin terrain
  rw [h] at hway
  generalize hx : Except.ok w = x at hway
  cases hway with
  | same hframe => exact .inl ⟨hframe, Except.ok.inj hx⟩
  | difference _ hsea hdatum =>
    exact .inr ⟨_, hsea, (altitudeIn_ok_iff_of_aboveSea hsea).mp h⟩
  | _ => cases hx

theorem aboveSea_inFrame (hterrain : terrain.OfPlace) (h : l.inFrame b origin terrain = .ok m) :
    m.aboveSea origin terrain = l.aboveSea origin terrain := by
  have hdatums := datum_inFrame hterrain h b
  obtain ⟨w, hw, rfl⟩ := inFrame_ok_iff.mp h
  obtain ⟨rfl, rfl⟩ | ⟨sea, hsea, hdatum⟩ := altitudeIn_ok hw
  · rfl
  · rw [hsea, aboveSea, hdatums, hdatum, Option.map_some]
    exact congrArg some (add_sub_cancel _ _)

theorem altitudeIn_inFrame (hterrain : terrain.OfPlace) (h : l.inFrame b origin terrain = .ok m)
    {w : Int32} :
    m.altitudeIn c origin terrain = .ok w ↔ l.altitudeIn c origin terrain = .ok w := by
  have hdatums := datum_inFrame hterrain h c
  have hsea' := aboveSea_inFrame hterrain h
  obtain ⟨v, hv, rfl⟩ := inFrame_ok_iff.mp h
  obtain ⟨rfl, rfl⟩ | ⟨sea, hsea, -⟩ := altitudeIn_ok hv
  · rfl
  · rw [altitudeIn_ok_iff_of_aboveSea (hsea'.trans hsea), altitudeIn_ok_iff_of_aboveSea hsea,
      hdatums]

theorem inFrame_inFrame (hterrain : terrain.OfPlace) (h : l.inFrame b origin terrain = .ok m)
    {n : Location} :
    m.inFrame c origin terrain = .ok n ↔ l.inFrame c origin terrain = .ok n := by
  simp only [inFrame_ok_iff, altitudeIn_inFrame hterrain h]
  obtain ⟨v, hv, rfl⟩ := inFrame_ok_iff.mp h
  rfl

theorem changeFrame_eq_iff {n : Location} :
    l.changeFrame b origin terrain = (n, none) ↔ l.inFrame b origin terrain = .ok n := by
  rw [changeFrame]
  cases l.inFrame b origin terrain <;> simp

theorem changeFrame_fault {f : Fault LocationError} :
    (l.changeFrame b origin terrain).2 = some f ↔ l.altitudeIn b origin terrain = .error f := by
  rw [changeFrame, inFrame]
  cases l.altitudeIn b origin terrain <;> simp [bind, Except.bind, pure, Except.pure]

theorem changeFrame_cases (l : Location) (b : AltitudeFrame) (origin : Location)
    (terrain : Elevation α) :
    (∃ m, l.inFrame b origin terrain = .ok m ∧ l.changeFrame b origin terrain = (m, none)) ∨
      ∃ f, l.altitudeIn b origin terrain = .error f ∧
        l.changeFrame b origin terrain = (l, some f) := by
  cases h : l.inFrame b origin terrain with
  | ok m => exact .inl ⟨m, rfl, by rw [changeFrame, h]⟩
  | error f => exact .inr ⟨f, inFrame_error h, by rw [changeFrame, h]⟩

theorem changeFrame_frame : l.changeFrame l.frame origin terrain = (l, none) :=
  changeFrame_eq_iff.mpr inFrame_frame

/-- Conversions are coherent. What a conversion gives is what it gives after another one, so that
the way back to the first frame is the identity. One fails exactly for want of an elevation where
the ground is on one side, and then changes nothing; none moves the place. -/
theorem changeFrame_coherent (hterrain : terrain.OfPlace) (l origin : Location)
    (b c : AltitudeFrame) :
    let m := (l.changeFrame b origin terrain).1
    let fault := (l.changeFrame b origin terrain).2
    (∀ n, m.changeFrame c origin terrain = (n, none) ↔
        l.changeFrame c origin terrain = (n, none)) ∧
      m.changeFrame l.frame origin terrain = (l, none) ∧
      ((∀ o, fault ≠ some (.overflow o)) →
        fault = if l.frame ≠ b ∧ (l.frame = .aboveTerrain ∨ b = .aboveTerrain) ∧ terrain l = none
          then some (.error (.noTerrainData l.frame b)) else none) ∧
      (fault ≠ none → m = l) ∧ (fault = none → m.frame = b) ∧
      m.latitude = l.latitude ∧ m.longitude = l.longitude := by
  intro m fault
  have hchain (c : AltitudeFrame) (n : Location) : m.changeFrame c origin terrain = (n, none) ↔
      l.changeFrame c origin terrain = (n, none) := by
    obtain ⟨m', hm, hchange⟩ | ⟨f, -, hchange⟩ := l.changeFrame_cases b origin terrain
    · simp only [m, hchange, changeFrame_eq_iff, inFrame_inFrame hterrain hm]
    · simp only [m, hchange]
  refine ⟨hchain c, (hchain l.frame l).mpr changeFrame_frame, fun hsums ↦ ?_, ?_⟩
  · have hsums' (o : Overflow) : l.altitudeIn b origin terrain ≠ .error (.overflow o) :=
      fun herror ↦ hsums o (changeFrame_fault.mpr herror)
    have hfails := (altitudeIn_noTerrainData_iff fun hstops ↦
      hsums' _ (altitudeIn_of_stops hstops)).trans exactAltitude_eq_none_iff
    split_ifs with hground
    · exact changeFrame_fault.mpr (hfails.mpr hground)
    · obtain ⟨m', -, hchange⟩ | ⟨f, herror, -⟩ := l.changeFrame_cases b origin terrain
      · simp only [fault, hchange]
      · obtain ⟨o, rfl⟩ | ⟨rfl, -⟩ := altitudeIn_error herror
        · exact absurd herror (hsums' o)
        · exact absurd (hfails.mp herror) hground
  · obtain ⟨m', hm, hchange⟩ | ⟨f, -, hchange⟩ := l.changeFrame_cases b origin terrain
    · obtain ⟨w, -, rfl⟩ := inFrame_ok_iff.mp hm
      simp [m, fault, hchange]
    · simp [m, fault, hchange]

def steppedGround : Elevation ℝ := fun l ↦ some (if -353632620 < l.latitude then 58700 else 58400)

theorem steppedGround_datum {l : Location} (h : -353632620 < l.latitude) (origin : Location) :
    AltitudeFrame.aboveTerrain.datum l origin steppedGround = some 58700 := by
  have hword : nearestWord (58700 : ℝ) = 58700 :=
    nearestWord_eq (by norm_num [show (58700 : Int32).toInt = 58700 from rfl])
  rw [AltitudeFrame.datum, steppedGround, if_pos h, Option.map_some, hword]
  rfl

/-- Ten metres above the origin are seven above the higher ground, and 594 above the sea either
way. -/
theorem changeFrame_coherent_uphill :
    let origin : Location := ⟨-353632620, 1491652370, 58400, .absolute⟩
    let l : Location := ⟨-353631722, 1491652370, 1000, .aboveOrigin⟩
    let m : Location := ⟨-353631722, 1491652370, 700, .aboveTerrain⟩
    let n : Location := ⟨-353631722, 1491652370, 59400, .absolute⟩
    steppedGround.OfPlace ∧ l.changeFrame .aboveTerrain origin steppedGround = (m, none) ∧
      l.changeFrame .absolute origin steppedGround = (n, none) ∧
      m.changeFrame .absolute origin steppedGround = (n, none) ∧
      m.changeFrame .aboveOrigin origin steppedGround = (l, none) := by
  intro origin l m n
  have hground : steppedGround.OfPlace := by
    intro l m hlatitude _
    simp only [steppedGround, hlatitude]
  have hsum : (1000 : Int32).toInt + (58400 : Int32).toInt = (59400 : Int32).toInt := by decide
  have hsea : l.aboveSea origin steppedGround = some (59400 : Int32).toInt := congrArg some hsum
  have hm : l.changeFrame .aboveTerrain origin steppedGround = (m, none) := by
    refine changeFrame_eq_iff.mpr (inFrame_ok_iff.mpr ⟨700, ?_, rfl⟩)
    exact (altitudeIn_ok_iff_of_aboveSea hsea).mpr (steppedGround_datum (by decide) origin)
  have hn : l.changeFrame .absolute origin steppedGround = (n, none) :=
    changeFrame_eq_iff.mpr (inFrame_ok_iff.mpr ⟨59400,
      (altitudeIn_ok_iff_of_aboveSea hsea).mpr rfl, rfl⟩)
  obtain ⟨hchain, hback, -⟩ := changeFrame_coherent hground l origin .aboveTerrain .absolute
  rw [hm] at hchain hback
  exact ⟨hground, hm, hn, (hchain n).mpr hn, hback⟩

/-- An altitude that is a word is returned, and a missing elevation reported, exactly where the
conversion does not stop at mean sea level. Where it stops, it overflows; for no other reason than
the stop it does so only between the origin and the ground. -/
theorem altitudeIn_exact_iff (l origin : Location) (target : AltitudeFrame)
    (terrain : Elevation α) :
    let x := l.altitudeIn target origin terrain
    let exact := l.exactAltitude target origin terrain
    (∀ w : Int32, exact = some w.toInt → (x = .ok w ↔ ¬ l.Stops target origin terrain)) ∧
      (exact = none →
        (x = .error (.error (.noTerrainData l.frame target)) ↔ ¬ l.Stops target origin terrain)) ∧
      (l.Stops target origin terrain →
        x = .error (.overflow .addition) ∧
          ((∀ n, exact = some n → WordRange.signed32.Contains n) →
            l.frame = .aboveOrigin ∧ target = .aboveTerrain ∨
              l.frame = .aboveTerrain ∧ target = .aboveOrigin)) := by
  intro x exact
  refine ⟨fun w hw ↦ ⟨fun hx hstops ↦ ?_, fun hstops ↦ (altitudeIn_ok_iff hstops).mpr hw⟩,
    fun hnone ↦ ⟨fun hx hstops ↦ ?_, fun hstops ↦ (altitudeIn_noTerrainData_iff hstops).mpr hnone⟩,
    fun hstops ↦ ⟨altitudeIn_of_stops hstops, frames_of_stops hstops⟩⟩
  · cases hx.symm.trans (altitudeIn_of_stops hstops)
  · cases hx.symm.trans (altitudeIn_of_stops hstops)

/-- The highest altitude above the origin is as high above ground at the level of the origin, but
too high above the sea. Without an elevation the same sum overflows. -/
theorem altitudeIn_stops_needlessly :
    let origin : Location := ⟨0, 0, 100, .absolute⟩
    let l : Location := ⟨0, 0, 2147483647, .aboveOrigin⟩
    let terrain : Elevation ℝ := fun _ ↦ some 100
    let unknown : Elevation ℝ := Elevation.unknown
    l.exactAltitude .aboveTerrain origin terrain = some 2147483647 ∧
      l.altitudeIn .aboveTerrain origin terrain = .error (.overflow .addition) ∧
      l.exactAltitude .aboveTerrain origin unknown = none ∧
      l.altitudeIn .aboveTerrain origin unknown = .error (.overflow .addition) := by
  intro origin l terrain unknown
  have hsea (t : Elevation ℝ) : l.aboveSea origin t = some 2147483747 :=
    congrArg some (show (2147483647 : Int32).toInt + (100 : Int32).toInt = 2147483747 by decide)
  have hstops (t : Elevation ℝ) : l.Stops .aboveTerrain origin t :=
    ⟨by decide, 2147483747, hsea t, by decide⟩
  have hword : nearestWord (100 : ℝ) = 100 :=
    nearestWord_eq (by norm_num [show (100 : Int32).toInt = 100 from rfl])
  have hdatum : AltitudeFrame.aboveTerrain.datum l origin terrain = some 100 := by
    rw [AltitudeFrame.datum, Option.map_some, hword]
    rfl
  refine ⟨?_, altitudeIn_of_stops (hstops _), ?_, altitudeIn_of_stops (hstops _)⟩
  · rw [exactAltitude_of_aboveSea (hsea _), hdatum]
    rfl
  · exact exactAltitude_eq_none_iff.mpr ⟨by decide, .inr rfl, rfl⟩

end Location

end WaypointFlight
