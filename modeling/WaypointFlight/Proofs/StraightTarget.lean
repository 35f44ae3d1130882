import WaypointFlight.Autopilot.Straight
import WaypointFlight.Proofs.RealVectors

namespace WaypointFlight

open Scalar

theorem Leash.slowestApproach_le (distance accel : ℝ) :
    slowestApproach ≤ slowDownSpeed distance accel := by
  unfold slowDownSpeed
  split_ifs
  · exact le_rfl
  · rw [maxNum_real]
    exact le_max_right _ _

theorem Leash.slowDownSpeed_pos (distance accel : ℝ) : 0 < slowDownSpeed distance accel := by
  have h : (0 : ℝ) < slowestApproach := by norm_num [slowestApproach]
  exact h.trans_le (slowestApproach_le distance accel)

theorem Leash.slack_sq_le {leash taken : ℝ} (ht : 0 ≤ taken) (h : 0 < slack leash taken) :
    slack leash taken * slack leash taken + taken * taken = leash * leash := by
  unfold slack at h ⊢
  split_ifs at h ⊢ with hlt
  · have hsq : taken * taken ≤ leash * leash := mul_self_le_mul_self ht hlt.le
    simp only [safeSqrt_real, square_real]
    rw [Real.mul_self_sqrt (sub_nonneg.mpr hsq)]
    ring
  · norm_num at h

theorem Leash.slack_le {leash taken : ℝ} (hl : 0 ≤ leash) (ht : 0 ≤ taken) :
    slack leash taken ≤ leash := by
  rcases le_or_gt (slack leash taken) 0 with h | h
  · exact h.trans hl
  · have hsq := slack_sq_le ht h
    have htt := mul_self_nonneg taken
    exact abs_le_of_sq_le_sq' (by nlinarith) hl |>.2

namespace Approach

variable (v : Approach ℝ) {speed top : ℝ}

theorem nearVehicle_nonneg (h : 0 ≤ speed) : 0 ≤ v.nearVehicle speed := by
  unfold nearVehicle
  split_ifs with hv
  · rw [abs_real, abs_lt] at hv
    rw [constrain_eq (by linarith)]
    exact le_max_of_le_right (le_min (by linarith) h)
  · exact h

theorem nearVehicle_pos (h : 0 < speed) : 0 < v.nearVehicle speed := by
  unfold nearVehicle
  split_ifs with hv
  · rw [abs_real, abs_lt] at hv
    rw [constrain_eq (by linarith)]
    exact lt_max_of_lt_right (lt_min (by linarith) h)
  · exact h

theorem nearVehicle_le (h : 0 ≤ speed) : v.nearVehicle speed ≤ speed := by
  unfold nearVehicle
  split_ifs with hv
  · rw [abs_real, abs_lt] at hv
    rw [constrain_eq (by linarith)]
    exact max_le (by linarith) (min_le_right _ _)
  · exact le_rfl

end Approach

namespace Navigator

variable (n : Navigator ℝ) (v : Approach ℝ) {speed : ℝ}

theorem approachSpeed_nonneg (h : 0 ≤ speed) : 0 ≤ n.approachSpeed v speed := by
  unfold approachSpeed
  split_ifs
  · rw [minNum_real]
    exact le_min h (Leash.slowDownSpeed_pos _ _).le
  · exact h

theorem approachSpeed_pos (h : 0 < speed) : 0 < n.approachSpeed v speed := by
  unfold approachSpeed
  split_ifs
  · rw [minNum_real]
    exact lt_min h (Leash.slowDownSpeed_pos _ _)
  · exact h

theorem approachSpeed_le : n.approachSpeed v speed ≤ speed := by
  unfold approachSpeed
  split_ifs
  · rw [minNum_real]
    exact min_le_left _ _
  · exact le_rfl

variable (hs : 0 ≤ n.track.limits.speed)

include hs

theorem targetSpeed_nonneg : 0 ≤ n.targetSpeed v := by
  unfold targetSpeed
  split_ifs
  · norm_num
  · exact v.nearVehicle_nonneg (n.approachSpeed_nonneg v (by simpa using le_constrain hs))

theorem targetSpeed_le_approachSpeed :
    n.targetSpeed v ≤
      n.approachSpeed v (constrain (n.rampedSpeed v) 0 n.track.limits.speed) := by
  have hramped : 0 ≤ constrain (n.rampedSpeed v) 0 n.track.limits.speed := le_constrain hs
  have hc := n.approachSpeed_nonneg v hramped
  unfold targetSpeed
  rw [zero_literal]
  split_ifs
  · exact hc
  · exact v.nearVehicle_le hc

theorem targetSpeed_le : n.targetSpeed v ≤ n.track.limits.speed :=
  (n.targetSpeed_le_approachSpeed v hs).trans
    ((n.approachSpeed_le v).trans (constrain_le hs))

omit hs

theorem pulled_le_furthest (h : n.track.desired < (n.pulled v speed).1) :
    (n.pulled v speed).1 ≤ v.furthest := by
  unfold pulled at h ⊢
  split_ifs at h ⊢ with h₁
  · exact absurd h (lt_irrefl _)
  · dsimp only
    split_ifs with h₂
    · exact le_rfl
    · exact not_lt.mp h₂

theorem le_pulled (h : 0 ≤ speed) (ht : 0 ≤ v.dt) : n.track.desired ≤ (n.pulled v speed).1 := by
  unfold pulled
  split_ifs with h₁
  · exact le_rfl
  · rw [Approach.AtLimit, not_lt] at h₁
    dsimp only
    split_ifs
    · exact h₁
    · exact le_add_of_nonneg_right (mul_nonneg h ht)

theorem pulled_le (h : 0 ≤ speed) (ht : 0 ≤ v.dt) :
    (n.pulled v speed).1 ≤ n.track.desired + speed * v.dt := by
  have hm : 0 ≤ speed * v.dt := mul_nonneg h ht
  unfold pulled
  split_ifs
  · exact le_add_of_nonneg_right hm
  · dsimp only
    split_ifs with h₂
    · exact h₂.le
    · exact le_rfl

theorem length_le_trackEnd : n.segment.length ≤ n.trackEnd := by
  unfold trackEnd
  split_ifs
  · norm_num [fastOvershoot]
  · exact le_rfl

theorem trackEnd_le : n.trackEnd ≤ n.segment.length + fastOvershoot := by
  unfold trackEnd
  split_ifs
  · exact le_rfl
  · norm_num [fastOvershoot]

variable (s : Sight ℝ) (hlen : 0 ≤ n.segment.length)

include hlen

theorem trackEnd_nonneg : 0 ≤ n.trackEnd := hlen.trans n.length_le_trackEnd

theorem movedTrack_desired :
    (n.movedTrack s v).desired =
      max 0 (min n.trackEnd (n.pulled v (n.targetSpeed v)).1) := by
  have h := constrain_eq (x := (n.pulled v (n.targetSpeed v)).1) (n.trackEnd_nonneg hlen)
  simpa only [movedTrack, zero_literal] using h

theorem movedTrack_desired_le_furthest (h₀ : 0 ≤ n.track.desired)
    (h : n.track.desired < (n.movedTrack s v).desired) :
    (n.movedTrack s v).desired ≤ v.furthest := by
  rw [n.movedTrack_desired v s hlen] at h ⊢
  have hpos : 0 < min n.trackEnd (n.pulled v (n.targetSpeed v)).1 := by
    by_contra hc
    rw [max_eq_left (not_lt.mp hc)] at h
    exact absurd h (not_lt.mpr h₀)
  rw [max_eq_right hpos.le] at h ⊢
  exact (min_le_right _ _).trans (n.pulled_le_furthest v (h.trans_le (min_le_right _ _)))

omit hlen

variable (hdt : 0 < v.dt) (hreach : n.track.desired < v.furthest)

include hdt hreach

theorem targetSpeed_pos (ho : ¬ v.Opposed) (hs : 0 < n.track.limits.speed)
    (ha : 0 < n.track.limits.accel) (hl : 0 ≤ n.track.limitedSpeed) : 0 < n.targetSpeed v := by
  have hramp : 0 < n.rampedSpeed v := by
    have hup : 0 < 2.0 * n.track.limits.accel * v.dt := by positivity
    rw [rampedSpeed, if_pos ⟨by simpa using hdt, not_lt.mpr hreach.le⟩]
    linarith
  have hc : 0 < constrain (n.rampedSpeed v) 0.0 n.track.limits.speed := by
    rw [zero_literal, constrain_eq hs.le]
    exact lt_max_of_lt_right (lt_min hs hramp)
  rw [targetSpeed, if_neg ho]
  exact v.nearVehicle_pos (n.approachSpeed_pos v hc)

theorem lt_movedTrack (hlen : 0 ≤ n.segment.length) (hs : 0 < n.targetSpeed v)
    (hend : n.track.desired < n.trackEnd) : n.track.desired < (n.movedTrack s v).desired := by
  have hlimit : ¬ v.AtLimit n.track.desired := not_lt.mpr hreach.le
  have hpulled : n.track.desired < (n.pulled v (n.targetSpeed v)).1 := by
    rw [pulled, if_neg hlimit]
    dsimp only
    split_ifs
    · exact hreach
    · exact lt_add_of_pos_right _ (mul_pos hs hdt)
  rw [n.movedTrack_desired v s hlen]
  exact lt_max_of_lt_right (lt_min hend hpulled)

end Navigator

end WaypointFlight
