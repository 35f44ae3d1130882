import WaypointFlight.Proofs.StraightArrival

namespace WaypointFlight

open Scalar

theorem TrackLimits.along_zero (l : AxisLimits ℝ) : along .zero l = .initial := by
  norm_num [along, project, initial, Leash.slowDownDistance]

namespace Navigator

variable (n : Navigator ℝ) (v : Approach ℝ)

theorem pulled_zero : (n.pulled v 0).1 = n.track.desired := by
  unfold pulled
  split_ifs with h
  · rfl
  · rw [zero_mul, add_zero]
    exact congrArg Prod.fst (if_neg h)

theorem movedTrack_desired_of_still (s : Sight ℝ) (hlimits : n.track.limits = .initial)
    (hdesired : n.track.desired = 0) (hlen : 0 ≤ n.segment.length) :
    (n.movedTrack s v).desired = 0 := by
  have hspeed : n.track.limits.speed = 0 := by
    rw [hlimits]
    exact zero_literal
  have hstill : n.targetSpeed v = 0 :=
    le_antisymm ((n.targetSpeed_le v hspeed.ge).trans_eq hspeed) (n.targetSpeed_nonneg v hspeed.ge)
  rw [n.movedTrack_desired v s hlen, hstill, pulled_zero, hdesired]
  exact max_eq_left (min_le_right _ _)

end Navigator

structure Directionless (a : Autopilot ℝ) : Prop where
  kind : a.navigator.segment.kind = .straight
  direction : a.navigator.segment.direction = .zero
  limits : a.navigator.track.limits = .initial
  desired : a.navigator.track.desired = 0
  length : a.navigator.segment.length =
    (a.navigator.segment.destination - a.navigator.segment.origin).norm

theorem Directionless.length_nonneg {a : Autopilot ℝ} (h : Directionless a) :
    0 ≤ a.navigator.segment.length := by
  rw [h.length]
  exact Vec3.norm_nonneg _

theorem Directionless.length_le_zero_iff {a : Autopilot ℝ} (h : Directionless a) :
    a.navigator.segment.length ≤ 0 ↔
      a.navigator.segment.destination = a.navigator.segment.origin := by
  rw [h.length, Vec3.norm_sub_le_zero_iff]

/-- The event is no update that succeeds. -/
def Event.Idle {α : Type} [Analytic α] (a : Autopilot α) : Event α → Prop
  | .call .tickStraight r => (a.tickStraight r).fault ≠ none
  | _ => True

theorem Event.Idle.not_arrives {α : Type} [Analytic α] {a : Autopilot α} {e : Event α}
    (h : e.Idle a) : ¬ e.Arrives a := by
  cases e with
  | call c r =>
    cases c with
    | tickStraight => exact fun harrives ↦ h harrives.1
    | _ => exact id
  | _ => exact id

namespace Autopilot

variable {a b : Autopilot ℝ} {r : Readings ℝ} {e : Event ℝ} {es : List (Event ℝ)}

theorem directionless_beginStraight (a : Autopilot ℝ) (r : Readings ℝ) {origin destination : Vec3 ℝ}
    (h : IsZero (destination - origin).norm) (t : Bool) (x : ℝ) :
    Directionless (a.beginStraight r origin destination t x) := by
  have hdirection : Segment.directionOf (destination - origin) = .zero := if_pos h
  refine ⟨rfl, hdirection, ?_, zero_literal, rfl⟩
  show TrackLimits.along (Segment.directionOf (destination - origin)) _ = _
  rw [hdirection, TrackLimits.along_zero]

theorem directionless_shift (h : Directionless a) (r : Readings ℝ) :
    Directionless (a.shiftToVehicle r) := by
  unfold shiftToVehicle
  split_ifs
  · exact h
  · refine ⟨h.kind, h.direction, h.limits, zero_literal, h.length.trans ?_⟩
    -- both ends move by one vector, which the chord does not see
    congr 1
    ext
    · exact (add_sub_add_right_eq_sub _ _ _).symm
    · exact (add_sub_add_right_eq_sub _ _ _).symm
    · exact (add_sub_add_right_eq_sub _ _ _).symm

theorem directionless_tickStraight (h : Directionless a) (r : Readings ℝ) :
    Directionless (a.tickStraight r).state := by
  have hsegment := a.tickStraight_segment r
  refine ⟨?_, ?_, ?_, ?_, ?_⟩
  · rw [hsegment, h.kind]
  · rw [hsegment, h.direction]
  · rw [tickStraight_limits]
    split_ifs
    · rw [trackLimits, hsegment, h.direction, TrackLimits.along_zero]
    · exact h.limits
  · cases ho : a.offsetFor r a.navigator.segment.aboveTerrain with
    | error f =>
      rw [tickStraight_track_error a ho]
      exact h.desired
    | ok x =>
      rw [tickStraight_track_ok a ho]
      exact Navigator.movedTrack_desired_of_still _ _ (a.sightAt r x) h.limits h.desired
        h.length_nonneg
  · rw [hsegment, h.length]

theorem directionless_effect (heff : e.Effect a b) (hkeep : a.Keeps e) (h : Directionless a) :
    Directionless b := by
  cases heff with
  | straight r hc hf => exact absurd hf (hkeep (by simp [hc]))
  | spline r hc hf => exact absurd hf (hkeep (by simp [hc]))
  | start r =>
    have hs := a.repairAccel_segment
    have ht := a.repairAccel_track
    exact ⟨hs ▸ h.kind, hs ▸ h.direction, ht ▸ h.limits, ht ▸ h.desired, hs ▸ h.length⟩
  | shift r => exact directionless_shift h r
  | tickStraight r => exact directionless_tickStraight h r
  | tickSpline r =>
    have hs : a.tickSpline r = ⟨some (.error .notSpline), a, []⟩ := by
      simp only [tickSpline, h.kind]
    rw [hs]
    exact h
  | _ => exact ⟨h.kind, h.direction, h.limits, h.desired, h.length⟩

theorem length_effect (heff : e.Effect a b) (hkeep : a.Keeps e) :
    b.navigator.segment.length = a.navigator.segment.length := by
  cases heff with
  | straight r hc hf => exact absurd hf (hkeep (by simp [hc]))
  | spline r hc hf => exact absurd hf (hkeep (by simp [hc]))
  | start r => exact congrArg Segment.length a.repairAccel_segment
  | shift r =>
    unfold shiftToVehicle
    split_ifs <;> rfl
  | tickStraight r => exact congrArg Segment.length (a.tickStraight_segment r)
  | tickSpline r =>
    obtain ⟨_, _, _, _, _, _, _, _, _, _, hn, -⟩ := (a.splineTick r).navigator_eq
    exact congrArg (·.segment.length) hn
  | _ => rfl

theorem directionless_after (h : Directionless a) (hes : a.Along (fun a e ↦ a.Keeps e) es) :
    Directionless (a.after es) ∧
      (a.after es).navigator.segment.length = a.navigator.segment.length := by
  refine hes.invariant (I := fun b ↦
    Directionless b ∧ b.navigator.segment.length = a.navigator.segment.length) ?_ ⟨h, rfl⟩
  intro b e hkeep hb
  exact ⟨directionless_effect (e.effect b) hkeep hb.1,
    (length_effect (e.effect b) hkeep).trans hb.2⟩

/-- A straight segment too short to have a direction holds its target at the origin. The first
update that succeeds on it arrives exactly if the destination is the origin itself, and the vehicle
is near enough or the waypoint a fast one. -/
theorem short_track_arrival_iff {c : Command ℝ} (hset : c.sets = some .straight)
    (a₀ : Autopilot ℝ) (r₀ : Readings ℝ) (hok : (c.run r₀ a₀).fault = none)
    (hshort : IsZero ((c.run r₀ a₀).state.navigator.segment.destination -
      (c.run r₀ a₀).state.navigator.segment.origin).norm)
    (es : List (Event ℝ))
    (hes : (c.run r₀ a₀).state.Along (fun a e ↦ a.Keeps e ∧ e.Idle a) es) (r : Readings ℝ)
    (htick : (((c.run r₀ a₀).state.after es).tickStraight r).fault = none) :
    let a := (c.run r₀ a₀).state
    let b := a.after es
    let b' := (b.tickStraight r).state
    a.navigator.segment.direction = .zero ∧ b'.navigator.track.desired = 0 ∧
      ∃ x, b.offsetFor r b.navigator.segment.aboveTerrain = .ok x ∧
        (b'.navigator.flags.reached = true ↔
          a.navigator.segment.destination = a.navigator.segment.origin ∧
            (b.navigator.flags.fast = true ∨
              (r.position - Vec3.vertical x - b.navigator.segment.destination).norm ≤
                b.navigator.params.radius)) := by
  intro a b b'
  obtain ⟨o, d, t, y, -, hrun⟩ := (c.run_straight r₀ a₀ hset).resolve_left fun h ↦ h.1 hok
  have ha₀ : a = a₀.beginStraight r₀ o d t y := congrArg Outcome.state hrun
  have ha : Directionless a := by
    rw [ha₀]
    rw [hrun] at hshort
    exact directionless_beginStraight a₀ r₀ hshort t y
  have hkeeps : a.Along (fun a e ↦ a.Keeps e) es := hes.mono fun _ _ h ↦ h.1
  obtain ⟨hb, hlength⟩ := directionless_after ha hkeeps
  have hb' : Directionless b' := directionless_tickStraight hb r
  -- before the tick nothing arrives
  have hopen : ¬ b.navigator.flags.reached = true := by
    have hfresh : a.navigator.flags.reached ≠ true := by
      rw [ha₀]
      exact Bool.false_ne_true
    rw [reached_after_iff ha.kind hkeeps, not_or, not_not]
    exact ⟨hfresh, hes.mono fun _ _ h ↦ h.2.not_arrives⟩
  obtain ⟨x, hx⟩ := exists_offset_of_tickStraight b htick
  refine ⟨ha.direction, hb'.desired, x, hx, ?_⟩
  have hend : b'.navigator.segment.length ≤ b'.navigator.track.desired ↔
      a.navigator.segment.destination = a.navigator.segment.origin := by
    rw [hb'.desired, tickStraight_segment, hlength, ha.length_le_zero_iff]
  rw [reached_tickStraight_iff, or_iff_right hopen, ← hend]
  constructor
  · rintro ⟨-, x', hx', hlen, hnear⟩
    obtain rfl := Except.ok.inj (hx.symm.trans hx')
    exact ⟨hlen, hnear⟩
  · rintro ⟨hlen, hnear⟩
    exact ⟨htick, x, hx, hlen, hnear⟩

/-- A fast waypoint on the spot is reached from far away, once the ground is known. -/
theorem short_track_arrival_iff_fast :
    let r := (Simulation.standard : Simulation ℝ).readings
    let c : Command ℝ := .straight .zero .zero true
    let o := c.run r Simulation.standard.autopilot
    let es : List (Event ℝ) :=
      [.call .tickStraight { r with database := .absent }, .call (.setFast true) r,
        .moved ⟨0, 1000, 0⟩ .zero]
    let far : Readings ℝ := { r with position := ⟨0, 1000, 0⟩ }
    c.sets = some .straight ∧ o.fault = none ∧
      IsZero (o.state.navigator.segment.destination - o.state.navigator.segment.origin).norm ∧
      o.state.Along (fun a e ↦ a.Keeps e ∧ e.Idle a) es ∧
      ((o.state.after es).tickStraight far).fault = none ∧
      ((o.state.after es).tickStraight far).state.navigator.flags.reached = true := by
  intro r c o es far
  have hshort :
      IsZero (o.state.navigator.segment.destination - o.state.navigator.segment.origin).norm := by
    show IsZero (.zero - .zero : Vec3 ℝ).norm
    have hzero : (Vec3.zero : Vec3 ℝ).norm = 0 := by simp [Vec3.norm_real, Vec3.dot_real]
    rw [Vec3.sub_zero, hzero]
    exact isZero_zero
  have hfails : (o.state.tickStraight { r with database := .absent }).fault ≠ none := by
    rw [tickStraight_error (f := .noData) _ rfl]
    exact Option.some_ne_none _
  have hes : o.state.Along (fun a e ↦ a.Keeps e ∧ e.Idle a) es :=
    ⟨⟨fun h ↦ absurd rfl h, hfails⟩, ⟨fun h ↦ absurd rfl h, trivial⟩, ⟨trivial, trivial⟩, trivial⟩
  have hsegment : (o.state.after es).navigator.segment = o.state.navigator.segment :=
    o.state.tickStraight_segment _
  have hparams : (o.state.after es).navigator.params = o.state.navigator.params :=
    o.state.tickStraight_params _
  have hground :
      (o.state.after es).offsetFor far (o.state.after es).navigator.segment.aboveTerrain =
        o.state.offsetFor r true := by
    simp only [offsetFor, hsegment, hparams]
    rfl
  have htick : ((o.state.after es).tickStraight far).fault = none := by
    rw [tickStraight_ok _ (hground.trans rfl)]
    rfl
  obtain ⟨-, -, x, -, hiff⟩ := short_track_arrival_iff (c := c) rfl _ r rfl hshort es hes far htick
  exact ⟨rfl, rfl, hshort, hes, htick, hiff.mpr ⟨rfl, .inl rfl⟩⟩

/-- The vehicle is at the destination, half a nanometre from the origin, and does not arrive. -/
theorem short_track_not_reached :
    let r := (Simulation.standard : Simulation ℝ).readings
    let o := (Command.straight .zero ⟨5e-8, 0, 0⟩ false).run r Simulation.standard.autopilot
    o.fault = none ∧
      IsZero (o.state.navigator.segment.destination - o.state.navigator.segment.origin).norm ∧
      (∃ x, o.state.offsetFor r o.state.navigator.segment.aboveTerrain = .ok x ∧
        (r.position - Vec3.vertical x - o.state.navigator.segment.destination).norm ≤
          o.state.navigator.params.radius) ∧
      (o.state.tickStraight r).fault = none ∧
      (o.state.tickStraight r).state.navigator.flags.reached = false := by
  intro r o
  have hnorm : ((⟨5e-8, 0, 0⟩ : Vec3 ℝ) - .zero).norm = 5e-8 := by
    rw [Vec3.sub_zero, Vec3.norm_north (by norm_num)]
  have hshort : IsZero ((⟨5e-8, 0, 0⟩ : Vec3 ℝ) - .zero).norm := by
    rw [hnorm]
    norm_num [isZero_real]
  have hbegin : Directionless o.state :=
    directionless_beginStraight Simulation.standard.autopilot r hshort false 0.0
  have htick := (directionless_tickStraight hbegin r).desired
  have hx : o.state.offsetFor r o.state.navigator.segment.aboveTerrain = .ok 0.0 := rfl
  refine ⟨rfl, hshort, ⟨0.0, hx, ?_⟩, congrArg Outcome.fault (tickStraight_ok _ hx), ?_⟩
  · have hradius : o.state.navigator.params.radius = 200 := by
      show ((Params.standard : Params ℝ).within 3000.0).radius = 200
      rw [Params.within_standard]
      norm_num [Params.standard]
    have hplace : r.position - Vec3.vertical 0.0 - o.state.navigator.segment.destination =
        (⟨-5e-8, 0, 0⟩ : Vec3 ℝ) := by
      show (.zero - Vec3.vertical 0.0 - ⟨5e-8, 0, 0⟩ : Vec3 ℝ) = _
      ext <;> simp
    rw [hplace, hradius, Vec3.norm_real, Vec3.dot_real]
    norm_num
  · have hopen : ¬ o.state.navigator.flags.reached = true := Bool.false_ne_true
    rw [← Bool.not_eq_true, reached_tickStraight_iff, or_iff_right hopen]
    rintro ⟨-, x, -, hlen, -⟩
    have hlength : o.state.navigator.segment.length = 5e-8 := hnorm
    rw [tickStraight_segment, htick, hlength] at hlen
    norm_num at hlen

end Autopilot

end WaypointFlight
