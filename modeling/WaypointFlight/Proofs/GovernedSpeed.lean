import WaypointFlight.Proofs.LeanLimit

namespace WaypointFlight

open Scalar

namespace Governor

/-- Steps by `change` lead from one speed limit to another, on the way to a requested speed. They
take off the whole of `change` each, until the limit has arrived. -/
structure Leads (requested change : ℝ) (steps : ℕ) (v w : ℝ) : Prop where
  toward : w ∈ Set.uIcc v requested
  bounded : |w - v| ≤ steps * change
  settled : IsEqual requested v → w = v
  nears : IsEqual requested w ∨ |requested - w| = |requested - v| - steps * change

variable {requested change v w x : ℝ} {m n : ℕ}

theorem Leads.refl (requested change v : ℝ) : Leads requested change 0 v v where
  toward := Set.left_mem_uIcc
  bounded := by simp
  settled _ := rfl
  nears := by simp

theorem Leads.trans (h : Leads requested change m v w) (h' : Leads requested change n w x) :
    Leads requested change (m + n) v x where
  toward := Set.uIcc_subset_uIcc h.toward Set.right_mem_uIcc h'.toward
  bounded := by
    have habs : |x - v| ≤ |x - w| + |w - v| := by
      have := abs_add_le (x - w) (w - v)
      rwa [sub_add_sub_cancel] at this
    have hm := h.bounded
    have hn := h'.bounded
    push_cast
    linarith
  settled hv := by
    have hw := h.settled hv
    rw [← hw] at hv
    rw [h'.settled hv, hw]
  nears := by
    rcases h'.nears with hx | hx
    · exact .inl hx
    · rcases h.nears with hw | hw
      · rw [h'.settled hw]
        exact .inl hw
      · right
        rw [hx, hw]
        push_cast
        ring

theorem abs_sub_of_mem_uIcc (h : w ∈ Set.uIcc v x) : |x - w| = |x - v| - |w - v| := by
  rcases le_total v x with hvx | hxv
  · rw [Set.uIcc_of_le hvx] at h
    rw [abs_of_nonneg (sub_nonneg.mpr h.2), abs_of_nonneg (sub_nonneg.mpr hvx),
      abs_of_nonneg (sub_nonneg.mpr h.1)]
    ring
  · rw [Set.uIcc_of_ge hxv] at h
    rw [abs_of_nonpos (sub_nonpos.mpr h.1), abs_of_nonpos (sub_nonpos.mpr hxv),
      abs_of_nonpos (sub_nonpos.mpr h.2)]
    ring

theorem step_eq_some (hv : ¬ IsEqual requested v) {accel dt : ℝ} (hchange : 0 < accel * dt) :
    ∃ w, step v requested accel dt = some w ∧ w ∈ Set.uIcc v requested ∧
      |w - v| = min (accel * dt) |requested - v| := by
  rw [step, if_neg hv]
  split_ifs with hlt
  · have hbetween : v ≤ min (v + accel * dt) requested := le_min (by linarith) hlt.le
    refine ⟨_, rfl, ?_, ?_⟩ <;> rw [minNum_real]
    · rw [Set.uIcc_of_le hlt.le]
      exact ⟨hbetween, min_le_right _ _⟩
    · rw [abs_of_nonneg (sub_nonneg.mpr hbetween), abs_of_pos (sub_pos.mpr hlt),
        ← min_sub_sub_right, add_sub_cancel_left]
  · have hge : requested ≤ v := not_lt.mp hlt
    have hbetween : max (v - accel * dt) requested ≤ v := max_le (by linarith) hge
    refine ⟨_, rfl, ?_, ?_⟩ <;> rw [maxNum_real]
    · rw [Set.uIcc_of_ge hge]
      exact ⟨le_max_right _ _, hbetween⟩
    · rw [abs_of_nonpos (sub_nonpos.mpr hbetween), abs_of_nonpos (sub_nonpos.mpr hge), neg_sub,
        neg_sub, ← min_sub_sub_left, sub_sub_cancel]

theorem leads_one (hv : ¬ IsEqual requested v) (htoward : w ∈ Set.uIcc v requested)
    (hlength : |w - v| = min change |requested - v|) : Leads requested change 1 v w where
  toward := htoward
  bounded := by
    rw [hlength, Nat.cast_one, one_mul]
    exact min_le_left _ _
  settled h := absurd h hv
  nears := by
    rw [abs_sub_of_mem_uIcc htoward, hlength, Nat.cast_one, one_mul]
    rcases le_total change |requested - v| with hle | hle
    · rw [min_eq_left hle]
      exact .inr rfl
    · have harrived : |requested - w| = 0 := by
        rw [abs_sub_of_mem_uIcc htoward, hlength, min_eq_right hle, sub_self]
      left
      rw [sub_eq_zero.mp (abs_eq_zero.mp harrived), IsEqual, sub_self]
      exact isZero_zero

theorem differs_of_step (hv : ¬ IsEqual requested v) (hchange : 2 ^ (-52 : ℤ) < change)
    (hlength : |w - v| = min change |requested - v|) : PositionController.Differs v w := by
  have hfar : 1.1920928955078125e-7 ≤ |requested - v| := by
    rwa [IsEqual, isZero_real, not_lt] at hv
  rw [PositionController.Differs, abs_real, abs_sub_comm, hlength]
  refine lt_min ?_ (lt_of_lt_of_le (by norm_num) hfar)
  norm_num at hchange ⊢
  exact hchange

end Governor

open Governor

section Ticks

variable {α : Type}

def Event.KeepsRequest : Event α → Prop
  | .replaced _ | .call .start _ | .call (.requestSpeed _) _ => False
  | _ => True

/-- The event is a tick that moves the speed limit. On a straight segment a tick for splines is
refused. -/
def Event.governs (a : Autopilot α) : Event α → Bool
  | .call .tickStraight _ => true
  | .call .tickSpline _ => a.navigator.segment.kind = .spline
  | _ => false

theorem Event.governs_of_sets {c : Command α} (hc : c.sets ≠ none) (a : Autopilot α)
    (r : Readings α) : Event.governs a (.call c r) = false := by
  cases c with
  | tickStraight => exact absurd rfl hc
  | tickSpline => exact absurd rfl hc
  | _ => rfl

variable [Analytic α]

namespace Autopilot

/-- The number of ticks in a run that move the speed limit. -/
def governedTicks : Autopilot α → List (Event α) → ℕ
  | _, [] => 0
  | a, e :: es => (e.governs a).toNat + (e.apply a).governedTicks es

variable (a : Autopilot α) (r : Readings α)

theorem finishTick_speedXY (now : Nat) :
    (a.finishTick now).controller.speedXY = a.controller.speedXY := by
  obtain ⟨_, h⟩ := a.finishTick_controller now
  rw [h, PositionController.update_speedXY]

variable {a r}

theorem SplineTick.speedXY {o : Outcome α} (h : SplineTick a r o)
    (hk : a.navigator.segment.kind = .spline) :
    o.state.controller.speedXY = a.governed.controller.speedXY := by
  cases h with
  | refused hs => cases hs.symm.trans hk
  | reached => exact a.governed.finishTick_speedXY r.now
  | still => exact a.governed.arriveOnSpline.finishTick_speedXY r.now
  | flown => exact finishTick_speedXY _ r.now
  | held => exact finishTick_speedXY _ r.now

theorem tickStraight_speedXY (a : Autopilot α) (r : Readings α) :
    (a.tickStraight r).state.controller.speedXY = a.prepared.controller.speedXY := by
  obtain ⟨_, _, h⟩ := a.tickStraight_controller r
  rw [h, PositionController.update_speedXY]

end Autopilot

end Ticks

namespace Autopilot

variable {a b : Autopilot ℝ} {e : Event ℝ} {es es' : List (Event ℝ)}

/-- How far one tick may move the speed limit. -/
noncomputable def speedChange (a : Autopilot ℝ) : ℝ :=
  a.navigator.params.accel * a.controller.period

theorem leads_govern (a : Autopilot ℝ) (hchange : 2 ^ (-52 : ℤ) < a.speedChange) :
    Leads a.navigator.requestedSpeed a.speedChange 1 a.controller.speedXY
      (a.govern (a.governedSpeed a.controller.period)).controller.speedXY := by
  by_cases hv : IsEqual a.navigator.requestedSpeed a.controller.speedXY
  · rw [governedSpeed, Governor.step, if_pos hv]
    exact ⟨Set.left_mem_uIcc, by simp [govern, lt_trans (by positivity) hchange |>.le],
      fun _ ↦ rfl, .inl hv⟩
  · have hpos : 0 < a.navigator.params.accel * a.controller.period :=
      lt_trans (by positivity) hchange
    obtain ⟨w, hw, htoward, hlength⟩ := step_eq_some hv hpos
    have hspeed : (a.govern (a.governedSpeed a.controller.period)).controller.speedXY = w := by
      rw [governedSpeed, hw]
      simp only [govern, PositionController.limitSpeedXY_eq,
        if_pos (differs_of_step hv hchange hlength)]
    rw [hspeed]
    exact leads_one hv htoward hlength

theorem leads_prepared (a : Autopilot ℝ) (hchange : 2 ^ (-52 : ℤ) < a.speedChange) :
    Leads a.navigator.requestedSpeed a.speedChange 1 a.controller.speedXY
      a.prepared.controller.speedXY := by
  have hspeed : a.pushAccels.controller.speedXY = a.controller.speedXY := by
    simp only [pushAccels, PositionController.limitAccelXY_eq, PositionController.limitAccelZ_eq]
  have hperiod : a.pushAccels.controller.period = a.controller.period := by
    simp only [pushAccels, PositionController.limitAccelXY_eq, PositionController.limitAccelZ_eq]
  have hsame : a.pushAccels.speedChange = a.speedChange := by
    rw [Autopilot.speedChange, hperiod]
    rfl
  rw [← hsame] at hchange ⊢
  rw [← hspeed, prepared, ← hperiod]
  exact a.pushAccels.leads_govern hchange

structure SameGoal (a b : Autopilot ℝ) : Prop where
  requested : b.navigator.requestedSpeed = a.navigator.requestedSpeed
  params : b.navigator.params = a.navigator.params
  period : b.controller.period = a.controller.period

theorem SameGoal.speedChange (h : SameGoal a b) : b.speedChange = a.speedChange := by
  rw [Autopilot.speedChange, h.params, h.period, ← Autopilot.speedChange]

theorem leads_effect (heff : e.Effect a b) (he : e.KeepsRequest)
    (haccel : 0 < a.navigator.params.accel) (hchange : 2 ^ (-52 : ℤ) < a.speedChange) :
    SameGoal a b ∧ Leads a.navigator.requestedSpeed a.speedChange (e.governs a).toNat
      a.controller.speedXY b.controller.speedXY := by
  have hkept := Leads.refl a.navigator.requestedSpeed a.speedChange a.controller.speedXY
  have hparams : b.navigator.params = a.navigator.params := params_effect heff haccel
  cases heff with
  | start => exact he.elim
  | tooSlow => exact he.elim
  | requestSpeed => exact he.elim
  | replaced => exact he.elim
  | refused r hc =>
    rw [Event.governs_of_sets hc]
    exact ⟨⟨rfl, rfl, rfl⟩, hkept⟩
  | straight r hc =>
    rw [Event.governs_of_sets (by simp [hc])]
    exact ⟨⟨rfl, rfl, rfl⟩, hkept⟩
  | spline r hc _ q x =>
    have hrepair := repairAccel_of_pos haccel
    have hspeed : (a.beginSpline r.now q x).controller.speedXY = a.controller.speedXY :=
      congrArg (·.controller.speedXY) hrepair
    rw [Event.governs_of_sets (by simp [hc]), hspeed]
    exact ⟨⟨congrArg (·.navigator.requestedSpeed) hrepair, hparams,
      congrArg (·.controller.period) hrepair⟩, hkept⟩
  | shift r =>
    unfold shiftToVehicle
    split_ifs <;> exact ⟨⟨rfl, rfl, rfl⟩, hkept⟩
  | tickStraight r =>
    obtain ⟨_, _, _, _, _, _, _, hn⟩ := a.tickStraight_navigator r
    refine ⟨⟨congrArg (·.requestedSpeed) hn, hparams, a.tickStraight_period r⟩, ?_⟩
    rw [tickStraight_speedXY]
    exact a.leads_prepared hchange
  | tickSpline r =>
    cases hk : a.navigator.segment.kind with
    | straight =>
      simp only [tickSpline, Event.governs, hk]
      exact ⟨⟨rfl, rfl, rfl⟩, hkept⟩
    | spline =>
      obtain ⟨_, _, _, _, _, _, _, _, _, _, hn, -⟩ := (a.splineTick r).navigator_eq
      refine ⟨⟨congrArg (·.requestedSpeed) hn, hparams, (a.splineTick r).period⟩, ?_⟩
      rw [(a.splineTick r).speedXY hk, Event.governs, hk]
      exact a.leads_govern hchange
  | setSpeedUp v r =>
    unfold setSpeedUp
    rw [PositionController.limitSpeedZ_eq]
    exact ⟨⟨rfl, rfl, rfl⟩, hkept⟩
  | setSpeedDown v r =>
    unfold setSpeedDown
    rw [PositionController.limitSpeedZ_eq]
    exact ⟨⟨rfl, rfl, rfl⟩, hkept⟩
  | setFast fast r => exact ⟨⟨rfl, rfl, rfl⟩, hkept⟩
  | moved position velocity => exact ⟨⟨rfl, rfl, rfl⟩, hkept⟩

theorem leads_after (hes : ∀ e ∈ es, e.KeepsRequest) (haccel : 0 < a.navigator.params.accel)
    (hchange : 2 ^ (-52 : ℤ) < a.speedChange) :
    SameGoal a (a.after es) ∧ Leads a.navigator.requestedSpeed a.speedChange (a.governedTicks es)
      a.controller.speedXY (a.after es).controller.speedXY := by
  induction es generalizing a with
  | nil => exact ⟨⟨rfl, rfl, rfl⟩, Leads.refl _ _ _⟩
  | cons e es ih =>
    have he : e.KeepsRequest := hes e List.mem_cons_self
    obtain ⟨hsame, hfirst⟩ := leads_effect (e.effect a) he haccel hchange
    have haccel' : 0 < (e.apply a).navigator.params.accel := hsame.params ▸ haccel
    have hchange' : 2 ^ (-52 : ℤ) < (e.apply a).speedChange := hsame.speedChange ▸ hchange
    obtain ⟨hsame', hrest⟩ := ih (fun e' h ↦ hes e' (List.mem_cons_of_mem _ h)) haccel' hchange'
    rw [hsame.requested, hsame.speedChange] at hrest
    exact ⟨⟨hsame'.requested.trans hsame.requested, hsame'.params.trans hsame.params,
      hsame'.period.trans hsame.period⟩, hfirst.trans hrest⟩

/-- The speed limit of a run with a fixed request moves toward the request and never past it, in
each tick by no more than the acceleration allows. It has arrived after as many ticks as this takes,
and then stays. -/
theorem governor_converges {a : Autopilot ℝ} (haccel : 0 < a.navigator.params.accel)
    (hchange : 2 ^ (-52 : ℤ) < a.navigator.params.accel * a.controller.period)
    {es es' : List (Event ℝ)} (hes : ∀ e ∈ es ++ es', e.KeepsRequest) :
    let requested := a.navigator.requestedSpeed
    let change := a.navigator.params.accel * a.controller.period
    let first := a.controller.speedXY
    let v := (a.after es).controller.speedXY
    let w := (a.after (es ++ es')).controller.speedXY
    w ∈ Set.uIcc v requested ∧
      |w - v| ≤ (a.after es).governedTicks es' * change ∧
      (|requested - first| / change ≤ a.governedTicks es → |requested - v| < tolerance) ∧
      (|requested - v| < tolerance → w = v) := by
  intro requested change first v w
  obtain ⟨hsame, hfirst⟩ := leads_after (fun e h ↦ hes e (List.mem_append_left _ h)) haccel hchange
  obtain ⟨-, hrest⟩ := leads_after (a := a.after es)
    (fun e h ↦ hes e (List.mem_append_right _ h)) (hsame.params ▸ haccel)
    (hsame.speedChange ▸ hchange)
  rw [hsame.requested, hsame.speedChange, ← after_append] at hrest
  have hpos : 0 < change := lt_trans (by positivity) hchange
  refine ⟨hrest.toward, hrest.bounded, fun hn ↦ ?_, hrest.settled⟩
  rw [div_le_iff₀ hpos] at hn
  rcases hfirst.nears with harrived | hleft
  · exact harrived
  · have hnone : |requested - v| ≤ 0 := by
      rw [hleft]
      exact sub_nonpos.mpr hn
    exact lt_of_le_of_lt hnone (by norm_num [tolerance])

noncomputable def hastened : Autopilot ℝ :=
  (Simulation.standard : Simulation ℝ).autopilot.requestSpeed 501.5

theorem hastened_requestedSpeed : hastened.navigator.requestedSpeed = 501.5 := by
  have hfast : (slowestRequest : ℝ) ≤ 501.5 := by norm_num [slowestRequest]
  rw [hastened, requestSpeed, if_pos hfast]

theorem hastened_accel : hastened.navigator.params.accel = 100 := by
  have hparams : hastened.navigator.params = (Params.standard : Params ℝ).within 3000.0 := by
    unfold hastened requestSpeed
    split_ifs <;> rfl
  rw [hparams, Params.within_standard]
  norm_num [Params.standard]

theorem hastened_controller :
    hastened.controller = (Simulation.standard : Simulation ℝ).autopilot.controller := by
  unfold hastened requestSpeed
  split_ifs <;> rfl

/-- One and a half centimetres a second, at most one in each tick: two ticks are enough, and
the third changes nothing. -/
theorem governor_converges_hastened :
    let tick : Event ℝ := .call .tickStraight Simulation.standard.readings
    let v := (hastened.after [tick, tick]).controller.speedXY
    0 < hastened.navigator.params.accel ∧
      2 ^ (-52 : ℤ) < hastened.navigator.params.accel * hastened.controller.period ∧
      (∀ e ∈ [tick, tick] ++ [tick], e.KeepsRequest) ∧
      |hastened.navigator.requestedSpeed - hastened.controller.speedXY| /
          (hastened.navigator.params.accel * hastened.controller.period) ≤
        hastened.governedTicks [tick, tick] ∧
      |501.5 - v| < tolerance ∧
      (hastened.after ([tick, tick] ++ [tick])).controller.speedXY = v := by
  intro tick v
  have hperiod : hastened.controller.period = 0.01 := by
    rw [hastened_controller]
    rfl
  have hspeed : hastened.controller.speedXY = 500 := by
    rw [hastened_controller]
    show (500.0 : ℝ) = 500
    norm_num
  have haccel : 0 < hastened.navigator.params.accel := by norm_num [hastened_accel]
  have hchange :
      2 ^ (-52 : ℤ) < hastened.navigator.params.accel * hastened.controller.period := by
    rw [hastened_accel, hperiod]
    norm_num
  have hes : ∀ e ∈ [tick, tick] ++ [tick], e.KeepsRequest := by
    simp [tick, Event.KeepsRequest]
  have henough : |hastened.navigator.requestedSpeed - hastened.controller.speedXY| /
      (hastened.navigator.params.accel * hastened.controller.period) ≤
      hastened.governedTicks [tick, tick] := by
    have hticks : hastened.governedTicks [tick, tick] = 2 := rfl
    rw [hticks, hastened_requestedSpeed, hspeed, hastened_accel, hperiod]
    norm_num [abs_of_pos]
  obtain ⟨-, -, harrives, hstays⟩ := governor_converges haccel hchange hes
  have harrived := harrives henough
  have hstayed := hstays harrived
  rw [hastened_requestedSpeed] at harrived
  exact ⟨haccel, hchange, hes, henough, harrived, hstayed⟩

end Autopilot

end WaypointFlight
