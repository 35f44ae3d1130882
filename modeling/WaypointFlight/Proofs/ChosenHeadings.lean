import WaypointFlight.Proofs.Rounding
import WaypointFlight.Proofs.SplineProgress

namespace WaypointFlight

open Scalar

structure IsResidue (x y r : ℝ) : Prop where
  nonneg : 0 ≤ r
  lt : r < |y|
  congruent : r ≡ x [PMOD y]

theorem IsResidue.unique {x y r s : ℝ} (h : IsResidue x y r) (h' : IsResidue x y s) : r = s := by
  obtain ⟨m, hm⟩ := AddCommGroup.modEq_iff_zsmul.mp (h.congruent.trans h'.congruent.symm)
  have hclose : |s - r| < |y| :=
    abs_lt.mpr ⟨by linarith [h.lt, h'.nonneg], by linarith [h'.lt, h.nonneg]⟩
  rw [← hm, zsmul_eq_mul, abs_mul] at hclose
  have hturns : |(m : ℝ)| < 1 := lt_of_mul_lt_mul_right (by rwa [one_mul]) (abs_nonneg y)
  have hzero : m = 0 := Int.abs_lt_one_iff.mp (by exact_mod_cast hturns)
  rw [hzero, zero_smul] at hm
  exact (sub_eq_zero.mp hm.symm).symm

namespace Scalar

variable {x y r : ℝ}

theorem abs_rem_lt (hy : y ≠ 0) : |rem x y| < |y| := by
  have hrem : rem x y = y * (x / y - Reals.truncate (x / y)) := by
    rw [mul_sub, mul_div_cancel₀ x hy]
    rfl
  rw [hrem, abs_mul]
  exact mul_lt_of_lt_one_right (abs_pos.mpr hy) (Reals.abs_sub_truncate_lt _)

theorem rem_modEq (x y : ℝ) : rem x y ≡ x [PMOD y] := by
  refine AddCommGroup.modEq_iff_zsmul.mpr ⟨Reals.truncate (x / y), ?_⟩
  show _ = x - (x - y * Reals.truncate (x / y))
  rw [zsmul_eq_mul]
  ring

theorem abs_modEq_zero (y : ℝ) : |y| ≡ 0 [PMOD y] := by
  rcases abs_choice y with h | h
  · rw [h]
    exact AddCommGroup.self_modEq_zero
  · rw [h]
    exact AddCommGroup.modEq_iff_zsmul.mpr ⟨1, by simp⟩

theorem isResidue_residue (x : ℝ) (hy : y ≠ 0) : IsResidue x y (residue x y) := by
  obtain ⟨hlow, hhigh⟩ := abs_lt.mp (abs_rem_lt (x := x) hy)
  unfold residue
  rw [zero_literal, abs_real]
  split_ifs with hneg
  · refine ⟨by linarith, by linarith, ?_⟩
    simpa using (rem_modEq x y).add (abs_modEq_zero y)
  · exact ⟨not_lt.mp hneg, hhigh, rem_modEq x y⟩

theorem isResidue_iff (hy : y ≠ 0) : IsResidue x y r ↔ r = residue x y := by
  constructor
  · intro h
    exact h.unique (isResidue_residue x hy)
  · rintro rfl
    exact isResidue_residue x hy

/-- Without rounding the residue stays below the turn. -/
theorem wrapTurn_real (x : ℝ) : wrapTurn x = residue x 36000 := by
  have hturn : (turn : ℝ) = 36000 := by norm_num [turn]
  have hlt := (isResidue_residue x (y := 36000) (by norm_num)).lt
  rw [abs_of_pos (by norm_num)] at hlt
  rw [wrapTurn, hturn, if_neg (not_le.mpr hlt)]

theorem isResidue_wrapTurn_iff : IsResidue x 36000 r ↔ r = wrapTurn x := by
  rw [wrapTurn_real, isResidue_iff (by norm_num)]

theorem isResidue_wrapTurn (x : ℝ) : IsResidue x 36000 (wrapTurn x) :=
  isResidue_wrapTurn_iff.mpr rfl

theorem wrapTurn_congr {y : ℝ} (h : x ≡ y [PMOD 36000]) : wrapTurn x = wrapTurn y := by
  obtain ⟨hnonneg, hlt, hcongruent⟩ := isResidue_wrapTurn x
  exact isResidue_wrapTurn_iff.mp ⟨hnonneg, hlt, hcongruent.trans h⟩

theorem wrapTurn_wrapTurn (x : ℝ) : wrapTurn (wrapTurn x) = wrapTurn x :=
  wrapTurn_congr (isResidue_wrapTurn x).congruent

theorem wrapTurn_add_turns (x : ℝ) (k : ℤ) : wrapTurn (x + k * 36000) = wrapTurn x := by
  refine wrapTurn_congr (AddCommGroup.modEq_iff_zsmul.mpr ⟨-k, ?_⟩)
  rw [zsmul_eq_mul]
  push_cast
  ring

end Scalar

section Choices

variable {α : Type} [Analytic α]

namespace Autopilot

variable (a : Autopilot α) (r : Readings α)

/-- The heading that a tick on a straight segment chooses, with its target already moved. A tick
that fails chooses none. -/
def straightChoice : Option α :=
  match a.offsetFor r a.navigator.segment.aboveTerrain with
  | .ok _ =>
    Heading.onStraight a.navigator.segment.lengthXY a.controller.leashXY
      a.navigator.segment.origin a.navigator.segment.destination
      (a.tickStraight r).state.controller.positionTarget r.position
  | .error _ => none

/-- The heading that a tick on a spline chooses, with its target where it was. A tick that leaves
the target chooses none. -/
def splineChoice : Option α :=
  if a.navigator.segment.kind = .spline ∧ a.navigator.flags.reached = false ∧
      ¬ IsZero a.curveVelocity.norm then
    match a.offsetFor r a.navigator.segment.aboveTerrain with
    | .ok x =>
      Heading.onSpline a.navigator.segment.lengthXY a.controller.leashXY a.curveVelocity
        (a.targetSight r x).error
    | .error _ => none
  else none

def choice (a : Autopilot α) : Event α → Option α
  | .call .tickStraight r => a.straightChoice r
  | .call .tickSpline r => a.splineChoice r
  | _ => none

/-- The event takes the heading back: it sets a segment, or is a start. -/
def Clears (a : Autopilot α) (e : Event α) : Prop := ¬ a.Keeps e ∨ ∃ r, e = .call .start r

def Quiet (a : Autopilot α) (e : Event α) : Prop := ¬ a.Clears e ∧ a.choice e = none

theorem tickStraight_heading :
    (a.tickStraight r).state.navigator.heading =
      ((a.straightChoice r).map wrapTurn).or a.navigator.heading := by
  unfold straightChoice
  cases hx : a.offsetFor r a.navigator.segment.aboveTerrain with
  | error f =>
    rw [tickStraight_error a hx]
    simp only [settleTick_navigator, prepared_navigator]
    rfl
  | ok x =>
    dsimp only
    rw [tickStraight_target_ok a hx, tickStraight_track_ok a hx, tickStraight_ok a hx, Outcome.done,
      settleTick_navigator, advanceStraight_navigator, Navigator.choose_eq, prepared_navigator]

theorem tickSpline_heading :
    (a.tickSpline r).state.navigator.heading =
      ((a.splineChoice r).map wrapTurn).or a.navigator.heading := by
  have h := a.splineTick r
  generalize a.tickSpline r = o at h
  unfold splineChoice
  cases h with
  | refused hk => simp [hk]
  | reached hk hr => simp [hr, Outcome.done, finishTick_navigator, governed_navigator]
  | still hk hr hv =>
    simp [hv, Outcome.done, finishTick_navigator, arriveOnSpline, governed_navigator]
  | flown hk hr hv x hx =>
    rw [if_pos ⟨hk, hr, hv⟩, hx, Outcome.done, finishTick_navigator, advanceSplineFrom,
      Navigator.choose_eq]
    have hleash : (a.governed.turnTo a.curveVelocity).controller.leashXY =
        a.controller.leashXY := by
      obtain ⟨_, _, hc⟩ := a.turned_controller
      show a.turned.controller.leashXY = _
      rw [hc]
    rw [hleash]
    simp only [turnTo, refreshLimits, governed_navigator]
    rfl
  | held hk hr hv f hf =>
    simp [hf, finishTick_navigator, turnTo, refreshLimits, governed_navigator]

variable {a} {e : Event α} {x : α}

theorem choice_of_sets {c : Command α} (hc : c.sets ≠ none) : a.choice (.call c r) = none := by
  cases c with
  | tickStraight | tickSpline => exact absurd rfl hc
  | _ => rfl

theorem heading_of_clears (h : a.Clears e) : (e.apply a).navigator.heading = none := by
  rcases h with hset | ⟨r, rfl⟩
  · obtain ⟨r, o, d, t, x, hb⟩ | ⟨now, q, x, hb⟩ := begins_of_not_keeps hset
    · rw [hb]
      rfl
    · rw [hb]
      rfl
  · rfl

theorem heading_of_not_clears (h : ¬ a.Clears e) :
    (e.apply a).navigator.heading = ((a.choice e).map wrapTurn).or a.navigator.heading := by
  have hkeep : a.Keeps e := not_not.mp fun hset ↦ h (.inl hset)
  have heff := e.effect a
  generalize e.apply a = b at heff
  cases heff with
  | refused r hc =>
    rw [choice_of_sets r hc]
    rfl
  | straight r hc hf => exact absurd hf (hkeep (by simp [hc]))
  | spline r hc hf => exact absurd hf (hkeep (by simp [hc]))
  | start r => exact absurd (.inr ⟨r, rfl⟩) h
  | shift r =>
    unfold shiftToVehicle
    split_ifs <;> rfl
  | tickStraight r => exact a.tickStraight_heading r
  | tickSpline r => exact a.tickSpline_heading r
  | _ => rfl

theorem not_clears_of_choice (h : a.choice e = some x) : ¬ a.Clears e := by
  rintro (hset | ⟨r, rfl⟩)
  · cases e with
    | call c r =>
      simp only [Keeps, not_forall] at hset
      rw [choice_of_sets r hset.1] at h
      cases h
    | _ => exact hset trivial
  · cases h

theorem heading_of_choice (h : a.choice e = some x) :
    (e.apply a).navigator.heading = some (wrapTurn x) := by
  rw [heading_of_not_clears (not_clears_of_choice h), h]
  rfl

theorem Quiet.heading (h : a.Quiet e) :
    (e.apply a).navigator.heading = a.navigator.heading := by
  rw [heading_of_not_clears h.1, h.2]
  rfl

theorem choice_short (h : a.navigator.segment.lengthXY < Heading.shortestTrack) (e : Event α) :
    a.choice e = none := by
  cases e with
  | call c r =>
    cases c with
    | tickStraight =>
      show a.straightChoice r = none
      unfold straightChoice
      cases a.offsetFor r a.navigator.segment.aboveTerrain with
      | error f => rfl
      | ok y => exact if_pos h
    | tickSpline =>
      show a.splineChoice r = none
      unfold splineChoice
      split_ifs
      · cases a.offsetFor r a.navigator.segment.aboveTerrain with
        | error f => rfl
        | ok y => exact if_pos h
      · rfl
    | _ => rfl
  | _ => rfl

/-- Nothing has been chosen since the heading was last taken back, if it ever was. -/
def Unchosen (a : Autopilot α) (es : List (Event α)) : Prop :=
  ∃ es₁ es₂, es = es₁ ++ es₂ ∧
    (es₁ = [] ∨ ∃ es₀ e, es₁ = es₀ ++ [e] ∧ (a.after es₀).Clears e) ∧
    (a.after es₁).Along Quiet es₂

/-- The latest choice is `x`, and the heading has not been taken back since. -/
def LastChose (a : Autopilot α) (es : List (Event α)) (x : α) : Prop :=
  ∃ es₁ e es₂, es = es₁ ++ e :: es₂ ∧ (a.after es₁).choice e = some x ∧
    (e.apply (a.after es₁)).Along Quiet es₂

variable {es : List (Event α)}

theorem heading_along_quiet (h : a.Along Quiet es) :
    (a.after es).navigator.heading = a.navigator.heading :=
  h.invariant (I := fun b ↦ b.navigator.heading = a.navigator.heading)
    (fun _ _ hquiet hb ↦ hquiet.heading.trans hb) rfl

theorem Unchosen.heading (h : a.Unchosen es) (hnew : a.navigator.heading = none) :
    (a.after es).navigator.heading = none := by
  obtain ⟨es₁, es₂, rfl, hsince, hquiet⟩ := h
  rw [after_append, heading_along_quiet hquiet]
  rcases hsince with rfl | ⟨es₀, e, rfl, hclears⟩
  · exact hnew
  · rw [after_append]
    exact heading_of_clears hclears

theorem LastChose.heading (h : a.LastChose es x) :
    (a.after es).navigator.heading = some (wrapTurn x) := by
  obtain ⟨es₁, e, es₂, rfl, hchoice, hquiet⟩ := h
  rw [after_append, after_cons, heading_along_quiet hquiet, heading_of_choice hchoice]

theorem Along.concat {P : Autopilot α → Event α → Prop} (h : a.Along P es) (he : P (a.after es) e) :
    a.Along P (es ++ [e]) :=
  along_append.mpr ⟨h, he, trivial⟩

theorem Unchosen.concat (h : a.Unchosen es) (he : (a.after es).Quiet e) :
    a.Unchosen (es ++ [e]) := by
  obtain ⟨es₁, es₂, rfl, hsince, hquiet⟩ := h
  rw [after_append] at he
  exact ⟨es₁, es₂ ++ [e], List.append_assoc _ _ _, hsince, hquiet.concat he⟩

theorem LastChose.concat (h : a.LastChose es x) (he : (a.after es).Quiet e) :
    a.LastChose (es ++ [e]) x := by
  obtain ⟨es₁, e', es₂, rfl, hchoice, hquiet⟩ := h
  rw [after_append] at he
  exact ⟨es₁, e', es₂ ++ [e], List.append_assoc _ _ _, hchoice, hquiet.concat he⟩

theorem unchosen_or_lastChose (a : Autopilot α) (es : List (Event α)) :
    a.Unchosen es ∨ ∃ x, a.LastChose es x := by
  -- from the end of the run: its last event takes the heading back, chooses one, or does neither
  induction es using List.reverseRecOn with
  | nil => exact .inl ⟨[], [], rfl, .inl rfl, trivial⟩
  | append_singleton es e ih =>
    by_cases hclears : (a.after es).Clears e
    · exact .inl ⟨es ++ [e], [], by simp, .inr ⟨es, e, rfl, hclears⟩, trivial⟩
    · cases hchoice : (a.after es).choice e with
      | some x => exact .inr ⟨x, es, e, [], rfl, hchoice, trivial⟩
      | none =>
        have hquiet : (a.after es).Quiet e := ⟨hclears, hchoice⟩
        rcases ih with h | ⟨x, h⟩
        · exact .inl (h.concat hquiet)
        · exact .inr ⟨x, h.concat hquiet⟩

end Autopilot

end Choices

namespace Autopilot

/-- The length of the segment on the ground. -/
noncomputable def groundLength (a : Autopilot ℝ) : ℝ :=
  (a.navigator.segment.destination - a.navigator.segment.origin).horizontal.norm

variable {a b : Autopilot ℝ}

theorem lengthXY_of_turned {direction : Vec3 ℝ}
    (hsegment : b.navigator.segment = { a.navigator.segment with direction })
    (h : a.navigator.segment.lengthXY = a.groundLength) :
    b.navigator.segment.lengthXY = b.groundLength := by
  rw [groundLength, hsegment]
  exact h

theorem Reachable.lengthXY (h : Reachable a) :
    a.navigator.segment.lengthXY = a.groundLength := by
  induction h with
  | created p lean c saved =>
    show (0.0 : ℝ) = (.zero - .zero : Vec3 ℝ).horizontal.norm
    rw [Vec3.sub_zero]
    simp [Vec2.norm, Vec3.horizontal]
  | @event a _ e ih =>
    have heff := e.effect a
    generalize e.apply a = b at heff
    cases heff with
    | straight | spline => rfl
    | start r => exact lengthXY_of_turned a.repairAccel_segment ih
    | shift r =>
      unfold shiftToVehicle
      split_ifs
      · exact ih
      · refine ih.trans (congrArg (fun v : Vec3 ℝ ↦ v.horizontal.norm) ?_)
        ext <;> simp
    | tickStraight r => exact lengthXY_of_turned (a.tickStraight_segment r) ih
    | tickSpline r =>
      obtain ⟨_, _, _, _, _, _, _, _, _, _, hn, -⟩ := (a.splineTick r).navigator_eq
      exact lengthXY_of_turned (by rw [hn]) ih
    | _ => exact ih

/-- In every run of a new autopilot, the heading is that of the attitude controller if nothing has
been chosen since it was last taken back, and else the latest choice, brought into one turn. A
segment of less than two metres on the ground chooses none. Residues are right for all numbers, and
angles that are whole turns apart are one heading. -/
theorem heading_law (p : Params ℝ) (lean : ℝ) (c : PositionController ℝ)
    (saved : List (String × ℝ)) (es : List (Event ℝ)) (t : Attitude ℝ) :
    let new : Autopilot ℝ := ⟨.create p lean, c, saved⟩
    let a := new.after es
    let heading := a.navigator.headingOr t.heading
    (new.Unchosen es → heading = t.heading) ∧
      (∀ x, new.LastChose es x → IsResidue x 36000 heading) ∧
      (new.Unchosen es ∨ ∃ x, new.LastChose es x) ∧
      (a.groundLength < 200 → ∀ e, a.choice e = none) ∧
      (∀ x r : ℝ, IsResidue x 36000 r ↔ r = wrapTurn x) ∧
      (∀ x : ℝ, wrapTurn (wrapTurn x) = wrapTurn x) ∧
      (∀ (x : ℝ) (k : ℤ), wrapTurn (x + k * 36000) = wrapTurn x) ∧
      ∀ x y r : ℝ, y ≠ 0 → (IsResidue x y r ↔ r = residue x y) := by
  intro new a heading
  refine ⟨fun h ↦ ?_, fun x h ↦ ?_, new.unchosen_or_lastChose es, fun h ↦ ?_,
    fun x r ↦ isResidue_wrapTurn_iff, wrapTurn_wrapTurn, wrapTurn_add_turns,
    fun x y r ↦ isResidue_iff⟩
  · show a.navigator.headingOr t.heading = t.heading
    rw [Navigator.headingOr, h.heading rfl, Option.getD_none]
  · show IsResidue x 36000 (a.navigator.headingOr t.heading)
    rw [Navigator.headingOr, h.heading, Option.getD_some]
    exact isResidue_wrapTurn x
  · have hlength : a.navigator.segment.lengthXY = a.groundLength :=
      ((Reachable.created p lean c saved).after es).lengthXY
    apply choice_short
    rw [hlength, Heading.shortestTrack]
    linarith

theorem direction_west {y : ℝ} (hy : 0 < y) : Heading.direction (-0) (-y) = -9000 := by
  have hpoint : (⟨-0, -y⟩ : ℂ) = (y : ℂ) * -Complex.I := by
    apply Complex.ext <;> simp
  have hangle : Complex.arg ⟨-0, -y⟩ = -(Real.pi / 2) := by
    rw [hpoint, Complex.arg_real_mul _ hy, Complex.arg_neg_I]
  show Complex.arg ⟨-0, -y⟩ * (180 / Real.pi) * 100.0 = -9000
  rw [hangle]
  field_simp
  norm_num

theorem hopped_choice : hopped.choice (.call .tickSpline driftedReadings) = some (-9000) := by
  have hoffset : hopped.offsetFor driftedReadings hopped.navigator.segment.aboveTerrain = .ok 0.0 :=
    rfl
  have hlength : hopped.navigator.segment.lengthXY = 361 := by
    show Analytic.hypot ((361 : ℝ) - 0.0) (0 - 0.0) = 361
    rw [zero_literal, sub_zero, sub_zero, hypot_real, mul_zero, add_zero,
      Real.sqrt_mul_self (by norm_num)]
  have hzone : Heading.deadZone (1300 : ℝ) < 2000 := by
    rw [Heading.deadZone, Heading.shortestTrack, minNum_real]
    exact (min_le_left _ _).trans_lt (by norm_num)
  have herror : Analytic.hypot (hopped.targetSight driftedReadings 0.0).error.north
      (hopped.targetSight driftedReadings 0.0).error.east = 2000 := hopped_error
  show hopped.splineChoice driftedReadings = _
  rw [splineChoice, if_pos ⟨rfl, rfl, hopped_flies.moves⟩, hoffset]
  dsimp only
  rw [Heading.onSpline, hlength, hopped_leashXY, herror,
    if_neg (by norm_num [Heading.shortestTrack]), if_neg (by norm_num [Heading.shortestTrack]),
    if_pos hzone, hopped_error_north, hopped_error_east, direction_west (by norm_num)]

theorem heading_law_drifted :
    let new : Autopilot ℝ := Simulation.standard.autopilot
    let tick : Event ℝ := .call .tickSpline driftedReadings
    let t : Attitude ℝ := Simulation.standard.readings.attitude
    new.LastChose (shortHopping ++ [tick]) (-9000) ∧
      (new.after (shortHopping ++ [tick])).navigator.headingOr t.heading = 27000 ∧
      new.Unchosen shortHopping ∧
      (new.after shortHopping).navigator.headingOr t.heading = t.heading ∧
      new.groundLength < 200 ∧ new.choice tick = none ∧
      (-3 : ℝ) ≠ 0 ∧ residue (-7 : ℝ) (-3) = 2 := by
  intro new tick t
  have hchose : new.LastChose (shortHopping ++ [tick]) (-9000) := by
    refine ⟨shortHopping, tick, [], rfl, ?_, trivial⟩
    show (new.after shortHopping).choice tick = _
    rw [after_shortHopping]
    exact hopped_choice
  have hset : (new.after (shortHopping.take 1)).Clears
      (.call (.spline shortHop) Simulation.standard.readings) :=
    .inl fun hkeep ↦ hkeep (by simp [Command.sets]) rfl
  have hunchosen : new.Unchosen shortHopping :=
    ⟨shortHopping, [], rfl, .inr ⟨shortHopping.take 1, _, rfl, hset⟩, trivial⟩
  have hshort : new.groundLength < 200 := by
    show (.zero - .zero : Vec3 ℝ).horizontal.norm < 200
    rw [Vec3.sub_zero]
    simp [Vec2.norm, Vec3.horizontal]
  obtain ⟨-, hlatest, -, -, -, -, -, hresidue⟩ :=
    heading_law .standard 3000.0 new.controller [] (shortHopping ++ [tick]) t
  obtain ⟨hnone, -⟩ := heading_law .standard 3000.0 new.controller [] shortHopping t
  obtain ⟨-, -, -, hnew, -⟩ := heading_law .standard 3000.0 new.controller [] [] t
  have hwest : IsResidue (-9000) 36000 27000 :=
    ⟨by norm_num, by norm_num, AddCommGroup.modEq_iff_zsmul.mpr ⟨-1, by norm_num⟩⟩
  have hseven : IsResidue (-7) (-3) 2 :=
    ⟨by norm_num, by norm_num, AddCommGroup.modEq_iff_zsmul.mpr ⟨3, by norm_num⟩⟩
  exact ⟨hchose, (hlatest _ hchose).unique hwest, hunchosen, hnone hunchosen, hshort,
    hnew hshort tick, by norm_num, ((hresidue _ _ _ (by norm_num)).mp hseven).symm⟩

end Autopilot

end WaypointFlight
