import WaypointFlight.Proofs.ControllerCalls
import WaypointFlight.Proofs.GovernedSpeed

namespace WaypointFlight

open ControllerCall

variable {α : Type} [Analytic α]

namespace Autopilot

/-- A segment has been set, and no tick has run since. -/
def AwaitsTick (a : Autopilot α) (es : List (Event α)) : Prop :=
  ∃ es₁ e es₂, es = es₁ ++ e :: es₂ ∧ ¬ (a.after es₁).Keeps e ∧
    (e.apply (a.after es₁)).Along (fun a e ↦ ¬ e.governs a = true) es₂

variable {a b : Autopilot α} {e : Event α} {es : List (Event α)}

theorem awaitsTick_append_singleton :
    a.AwaitsTick (es ++ [e]) ↔
      ¬ (a.after es).Keeps e ∨ a.AwaitsTick es ∧ ¬ e.governs (a.after es) = true := by
  constructor
  · rintro ⟨es₁, e', es₂, hes, hset, hticks⟩
    rcases es₂.eq_nil_or_concat with rfl | ⟨es₂, e'', rfl⟩
    · obtain ⟨rfl, hlast⟩ := List.append_inj' hes rfl
      obtain rfl := List.singleton_inj.mp hlast
      exact .inl hset
    · rw [List.concat_eq_append, ← List.cons_append, ← List.append_assoc] at hes
      obtain ⟨rfl, hlast⟩ := List.append_inj' hes rfl
      obtain rfl := List.singleton_inj.mp hlast
      rw [List.concat_eq_append, along_append] at hticks
      refine .inr ⟨⟨es₁, e', es₂, rfl, hset, hticks.1⟩, ?_⟩
      rw [after_append, after_cons]
      exact hticks.2.1
  · rintro (hset | ⟨⟨es₁, e', es₂, rfl, hset, hticks⟩, he⟩)
    · exact ⟨es, e, [], rfl, hset, trivial⟩
    · rw [after_append, after_cons] at he
      refine ⟨es₁, e', es₂ ++ [e], by rw [List.append_assoc, List.cons_append], hset, ?_⟩
      exact along_append.mpr ⟨hticks, he, trivial⟩

theorem SplineTick.newDestination {r : Readings α} {o : Outcome α} (h : SplineTick a r o) :
    o.state.navigator.flags.newDestination = true ↔
      a.navigator.flags.newDestination = true ∧ a.navigator.segment.kind ≠ .spline := by
  cases h with
  | refused hk => simp [hk]
  | reached hk => simp [hk, Outcome.done, finishTick_navigator]
  | still hk => simp [hk, Outcome.done, finishTick_navigator]
  | flown hk => simp [hk, Outcome.done, finishTick_navigator]
  | held hk => simp [hk, finishTick_navigator]

theorem newDestination_effect_iff (h : e.Effect a b) (hkeep : a.Keeps e) :
    b.navigator.flags.newDestination = true ↔
      a.navigator.flags.newDestination = true ∧ ¬ e.governs a = true := by
  have hother {e : Event α} (he : e.governs a = false) : a.navigator.flags.newDestination = true ↔
      a.navigator.flags.newDestination = true ∧ ¬ e.governs a = true := by simp [he]
  cases h with
  | straight r hc hf => exact absurd hf (hkeep (by simp [hc]))
  | spline r hc hf => exact absurd hf (hkeep (by simp [hc]))
  | refused r hc => exact hother (Event.governs_of_sets hc a r)
  | start r =>
    rw [start_flags]
    exact hother rfl
  | shift r =>
    rw [shiftToVehicle_flags]
    exact hother rfl
  | tickStraight r =>
    obtain ⟨_, _, _, _, _, _, _, hn⟩ := a.tickStraight_navigator r
    simp [hn, Event.governs]
  | tickSpline r =>
    rw [(a.splineTick r).newDestination]
    simp [Event.governs]
  | _ => exact hother rfl

theorem newDestination_apply_iff (a : Autopilot α) (e : Event α) :
    (e.apply a).navigator.flags.newDestination = true ↔
      ¬ a.Keeps e ∨ a.navigator.flags.newDestination = true ∧ ¬ e.governs a = true := by
  by_cases hkeep : a.Keeps e
  · rw [newDestination_effect_iff (e.effect a) hkeep, or_iff_right (not_not.mpr hkeep)]
  · refine iff_of_true ?_ (.inl hkeep)
    obtain ⟨_, _, _, _, _, h⟩ | ⟨_, _, _, h⟩ := begins_of_not_keeps hkeep
    · rw [h]
      rfl
    · rw [h]
      rfl

theorem newDestination_after_iff (hnew : a.navigator.flags.newDestination = false) :
    (a.after es).navigator.flags.newDestination = true ↔ a.AwaitsTick es := by
  -- from the end of the run: only its last event can set a segment or tick on one
  induction es using List.reverseRecOn with
  | nil => simp [AwaitsTick, hnew]
  | append_singleton es e ih =>
    rw [awaitsTick_append_singleton, after_append, after_cons, after_nil,
      newDestination_apply_iff, ih]

end Autopilot

section Counts

variable {α : Type}

theorem governCalls_counts (speed : Option α) :
    freezeCount (Autopilot.governCalls speed) = 0 ∧
      updateCount (Autopilot.governCalls speed) = 0 := by
  cases speed <;> exact ⟨rfl, rfl⟩

theorem targetCalls_counts (o : Outcome α) :
    freezeCount (Autopilot.targetCalls o) = 0 ∧ updateCount (Autopilot.targetCalls o) = 0 := by
  unfold Autopilot.targetCalls
  cases o.fault <;> exact ⟨rfl, rfl⟩

theorem finishCalls_counts (new : Bool) :
    freezeCount (Autopilot.finishCalls (α := α) new) = new.toNat ∧
      updateCount (Autopilot.finishCalls (α := α) new) = 1 := by
  cases new <;> exact ⟨rfl, rfl⟩

variable [Analytic α] (a : Autopilot α) (r : Readings α)

theorem straightTickCalls_counts :
    freezeCount (a.straightTickCalls r) = a.navigator.flags.newDestination.toNat ∧
      updateCount (a.straightTickCalls r) = 1 := by
  have hpush : freezeCount (Autopilot.pushCalls a.navigator.params) = 0 ∧
      updateCount (Autopilot.pushCalls a.navigator.params) = 0 := ⟨rfl, rfl⟩
  simp [Autopilot.straightTickCalls, freezeCount_append, updateCount_append, hpush,
    governCalls_counts, targetCalls_counts, finishCalls_counts]

theorem splineTickCalls_counts :
    freezeCount (a.splineTickCalls r) =
        (Event.governs a (.call .tickSpline r) && a.navigator.flags.newDestination).toNat ∧
      updateCount (a.splineTickCalls r) = (Event.governs a (.call .tickSpline r)).toNat := by
  unfold Autopilot.splineTickCalls Event.governs
  cases a.navigator.segment.kind with
  | straight => exact ⟨rfl, rfl⟩
  | spline =>
    split_ifs <;>
      simp [freezeCount_append, updateCount_append, governCalls_counts, targetCalls_counts,
        finishCalls_counts]

end Counts

namespace Command

/-- A shift freezes the feed-forward itself, where it does anything. -/
def Shifts (c : Command α) (a : Autopilot α) : Prop :=
  c = .shift ∧ ¬ 0.0 < a.navigator.track.desired

open Classical in
theorem controllerCalls_counts (c : Command α) (r : Readings α) (a : Autopilot α) :
    freezeCount (c.controllerCalls r a) =
        (if Event.governs a (.call c r) = true ∧ a.navigator.flags.newDestination = true ∨
          c.Shifts a then 1 else 0) ∧
      updateCount (c.controllerCalls r a) = (Event.governs a (.call c r)).toNat := by
  have hquiet {c : Command α} (hc : c ≠ .shift) (hg : Event.governs a (.call c r) = false)
      (hcounts : freezeCount (c.controllerCalls r a) = 0 ∧
        updateCount (c.controllerCalls r a) = 0) :
      freezeCount (c.controllerCalls r a) =
          (if Event.governs a (.call c r) = true ∧ a.navigator.flags.newDestination = true ∨
            c.Shifts a then 1 else 0) ∧
        updateCount (c.controllerCalls r a) = (Event.governs a (.call c r)).toNat := by
    rw [hcounts.1, hcounts.2, hg, if_neg (by simp [Shifts, hc])]
    exact ⟨rfl, rfl⟩
  cases c with
  | shift =>
    by_cases h : 0.0 < a.navigator.track.desired <;>
      simp [controllerCalls, Autopilot.shiftCalls, Shifts, Event.governs, freezeCount, updateCount,
        freezes, updates, h]
  | tickStraight =>
    have hg : Event.governs a (.call .tickStraight r) = true := rfl
    obtain ⟨hf, hu⟩ := straightTickCalls_counts a r
    rw [controllerCalls, hf, hu, hg]
    cases a.navigator.flags.newDestination <;> simp [Shifts]
  | tickSpline =>
    obtain ⟨hf, hu⟩ := splineTickCalls_counts a r
    rw [controllerCalls, hf, hu]
    cases Event.governs a (.call .tickSpline r) <;> cases a.navigator.flags.newDestination <;>
      simp [Shifts]
  | start => exact hquiet (by simp) rfl ⟨rfl, rfl⟩
  | requestSpeed v => exact hquiet (by simp) rfl ⟨rfl, rfl⟩
  | setSpeedUp v => exact hquiet (by simp) rfl ⟨rfl, rfl⟩
  | setSpeedDown v => exact hquiet (by simp) rfl ⟨rfl, rfl⟩
  | setFast fast => exact hquiet (by simp) rfl ⟨rfl, rfl⟩
  | _ => exact hquiet (by simp) rfl (by simp only [controllerCalls, targetCalls_counts, and_self])

end Command

open Classical in
/-- In every run of a new autopilot, each call freezes the vertical feed-forward once if it is the
first tick to run since a segment was set, or a shift of a segment whose target has not moved, and
not otherwise. It updates the controller once if it is a tick that runs. -/
theorem Autopilot.feedForward_frozen_once (p : Params α) (lean : α) (c₀ : PositionController α)
    (saved : List (String × α)) (es : List (Event α)) (c : Command α) (r : Readings α) :
    let new : Autopilot α := ⟨.create p lean, c₀, saved⟩
    let a := new.after es
    let b := (c.run r a).state
    b.controller.freezes = a.controller.freezes +
        (if Event.governs a (.call c r) = true ∧ new.AwaitsTick es ∨ c.Shifts a then 1 else 0) ∧
      b.controller.updates = a.controller.updates + (Event.governs a (.call c r)).toNat := by
  intro new a b
  have hcontroller : b.controller = _ := c.run_receiveAll r a
  obtain ⟨hfreezes, hupdates, -⟩ := a.controller.receiveAll_frame (c.controllerCalls r a)
  obtain ⟨hfrozen, hupdated⟩ := c.controllerCalls_counts r a
  have hawaits : a.navigator.flags.newDestination = true ↔ new.AwaitsTick es :=
    newDestination_after_iff rfl
  rw [hcontroller, hfreezes, hupdates, hfrozen, hupdated]
  simp only [hawaits, and_self]

end WaypointFlight
