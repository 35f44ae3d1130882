import WaypointFlight.Proofs.ControllerCalls
import WaypointFlight.Proofs.RealLimits

namespace WaypointFlight

variable {α : Type} [Analytic α]

namespace PositionController

/-- Leashes that are not stale are the ones that the limits need. The descent speed has lost its
sign before it got one. -/
structure LeashesKept (c : PositionController α) : Prop where
  xy : c.staleXY = false → c.leashXY = Leash.length c.speedXY c.accelXY c.gainXY
  up : c.staleZ = false → c.leashUp = Leash.length c.speedUp c.accelZ c.gainZ
  down : c.staleZ = false → c.leashDown = Leash.length (-c.speedDown) c.accelZ c.gainZ
  descends : ∃ speed, c.speedDown = -Scalar.abs speed

variable {c : PositionController α}

namespace LeashesKept

theorem refreshLeashXY (h : c.LeashesKept) : c.refreshLeashXY.LeashesKept :=
  ⟨fun _ ↦ rfl, h.up, h.down, h.descends⟩

theorem refreshLeashZ (h : c.LeashesKept) : c.refreshLeashZ.LeashesKept :=
  ⟨h.xy, fun _ ↦ rfl, fun _ ↦ rfl, h.descends⟩

theorem limitSpeedXY (h : c.LeashesKept) (speed : α) : (c.limitSpeedXY speed).LeashesKept := by
  unfold PositionController.limitSpeedXY
  split_ifs with hd
  · exact ⟨nofun, h.up, h.down, h.descends⟩
  · exact h

theorem limitAccelXY (h : c.LeashesKept) (accel : α) : (c.limitAccelXY accel).LeashesKept := by
  unfold PositionController.limitAccelXY
  split_ifs with hd
  · exact ⟨nofun, h.up, h.down, h.descends⟩
  · exact h

theorem limitSpeedZ (h : c.LeashesKept) (down up : α) : (c.limitSpeedZ down up).LeashesKept := by
  unfold PositionController.limitSpeedZ
  split_ifs with hd
  · exact ⟨h.xy, nofun, nofun, down, rfl⟩
  · exact h

theorem limitAccelZ (h : c.LeashesKept) (accel : α) : (c.limitAccelZ accel).LeashesKept := by
  unfold PositionController.limitAccelZ
  split_ifs with hd
  · exact ⟨h.xy, nofun, nofun, h.descends⟩
  · exact h

theorem refreshStale (h : c.LeashesKept) : c.refreshStale.LeashesKept := by
  have hxy : (if c.staleXY then c.refreshLeashXY else c).LeashesKept := by
    split_ifs
    · exact h.refreshLeashXY
    · exact h
  have hz {d : PositionController α} (hd : d.LeashesKept) :
      (if d.staleZ then d.refreshLeashZ else d).LeashesKept := by
    split_ifs
    · exact hd.refreshLeashZ
    · exact hd
  exact hz hxy

theorem update (h : c.LeashesKept) : c.update.LeashesKept :=
  ⟨h.refreshStale.xy, h.refreshStale.up, h.refreshStale.down, h.refreshStale.descends⟩

theorem receive (h : c.LeashesKept) (k : ControllerCall α) : (c.receive k).LeashesKept := by
  cases k with
  | limitSpeedXY speed => exact h.limitSpeedXY speed
  | limitAccelXY accel => exact h.limitAccelXY accel
  | limitSpeedZ down up => exact h.limitSpeedZ down up
  | limitAccelZ accel => exact h.limitAccelZ accel
  | refreshLeashXY => exact h.refreshLeashXY
  | refreshLeashZ => exact h.refreshLeashZ
  | update => exact h.update
  | reset | setVelocityXY v | setTarget target | freeze =>
    exact ⟨h.xy, h.up, h.down, h.descends⟩

theorem receiveAll (h : c.LeashesKept) (ks : List (ControllerCall α)) :
    (c.receiveAll ks).LeashesKept := by
  induction ks generalizing c with
  | nil => exact h
  | cons k ks ih => exact ih (h.receive k)

end LeashesKept

theorem leashesKept_create (habs : Scalar.abs (150.0 : α) = 150.0) (period gainXY gainZ : α)
    (position : Vec3 α) : (create period gainXY gainZ position).LeashesKept :=
  ⟨fun _ ↦ rfl, fun _ ↦ rfl, fun _ ↦ rfl, 150.0, (congrArg Neg.neg habs).symm⟩

theorem update_staleXY (c : PositionController α) : c.update.staleXY = false := by
  simp [PositionController.update, refreshStale_eq]

theorem update_staleZ (c : PositionController α) : c.update.staleZ = false := by
  simp [PositionController.update, refreshStale_eq]

theorem receiveAll_gainZ (c : PositionController α) (ks : List (ControllerCall α)) :
    (c.receiveAll ks).gainZ = c.gainZ := by
  induction ks generalizing c with
  | nil => rfl
  | cons k ks ih =>
    have hk : (c.receive k).gainZ = c.gainZ := by
      cases k <;>
        simp [receive, reset, setVelocityXY, limitSpeedXY_eq, limitAccelXY_eq, limitSpeedZ_eq,
          limitAccelZ_eq, PositionController.refreshLeashXY, PositionController.refreshLeashZ,
          freeze, PositionController.update, refreshStale_eq]
    exact (ih (c.receive k)).trans hk

end PositionController

namespace Simulation

/-- The upkeep of the leashes, in any number system where minus an absolute value is not positive
and 150 is its own absolute value. After any calls on the controller of a new simulation, the
leashes that are not stale are those of its limits and of the gains it was built with, its descent
speed is not positive, and a controller update leaves no leash stale. -/
theorem leashes_follow_limits (hsign : ∀ x : α, ¬ 0.0 < -Scalar.abs x)
    (habs : Scalar.abs (150.0 : α) = 150.0) (s : SimParams α) (p : Params α) (position : Vec3 α)
    (ks : List (ControllerCall α)) :
    let c := (create s p position).autopilot.controller.receiveAll ks
    (c.staleXY = false → c.leashXY = Leash.length c.speedXY c.accelXY s.gainXY) ∧
      (c.staleZ = false → c.leashUp = Leash.length c.speedUp c.accelZ s.gainZ ∧
        c.leashDown = Leash.length (-c.speedDown) c.accelZ s.gainZ) ∧
      ¬ 0.0 < c.speedDown ∧
      (c.receive .update).staleXY = false ∧ (c.receive .update).staleZ = false := by
  intro c
  have hkept : c.LeashesKept :=
    (PositionController.leashesKept_create habs s.period s.gainXY s.gainZ position).receiveAll ks
  have hgainXY : c.gainXY = s.gainXY :=
    ((create s p position).autopilot.controller.receiveAll_frame ks).2.2.2.1
  have hgainZ : c.gainZ = s.gainZ := PositionController.receiveAll_gainZ _ ks
  obtain ⟨speed, hspeed⟩ := hkept.descends
  refine ⟨fun h ↦ hgainXY ▸ hkept.xy h, fun h ↦ ⟨hgainZ ▸ hkept.up h, hgainZ ▸ hkept.down h⟩,
    hspeed ▸ hsign speed, c.update_staleXY, c.update_staleZ⟩

/-- A descent speed given as positive, and a climb speed, make the vertical leashes stale. The next
update finds them: the faster climb needs the longer leash. -/
theorem leashes_follow_limits_steeper :
    (∀ x : ℝ, ¬ 0.0 < -Scalar.abs x) ∧ Scalar.abs (150.0 : ℝ) = 150.0 ∧
      ((standard : Simulation ℝ).autopilot.controller.receiveAll
        [.limitSpeedZ 200 300]).staleZ = true ∧
      ((standard : Simulation ℝ).autopilot.controller.receiveAll
        [.limitSpeedZ 200 300, .update]).leashUp = 500 ∧
      ((standard : Simulation ℝ).autopilot.controller.receiveAll
        [.limitSpeedZ 200 300, .update]).leashDown = 250 := by
  have hsign (x : ℝ) : ¬ 0.0 < -Scalar.abs x := by norm_num
  have habs : Scalar.abs (150.0 : ℝ) = 150.0 := by norm_num
  set c := (standard : Simulation ℝ).autopilot.controller with hc
  have hup : c.speedUp = 250 := by
    have hliteral : c.speedUp = 250.0 := rfl
    rw [hliteral]
    norm_num
  have hchanged : PositionController.Differs c.speedUp 300 := by
    norm_num [PositionController.Differs, hup]
  have hlimited : c.limitSpeedZ 200 300 =
      { c with speedUp := 300, speedDown := -Scalar.abs 200, staleZ := true } :=
    if_pos (.inl hchanged)
  obtain ⟨-, -, -, -, hfresh⟩ := leashes_follow_limits hsign habs .standard .standard .zero
    [.limitSpeedZ 200 300]
  obtain ⟨hclimb, hdescent⟩ := (leashes_follow_limits hsign habs .standard .standard .zero
    [.limitSpeedZ 200 300, .update]).2.1 hfresh
  have hspeedUp : (c.limitSpeedZ 200 300).update.speedUp = 300 := by
    rw [PositionController.update_speedUp, hlimited]
  have hspeedDown : (c.limitSpeedZ 200 300).update.speedDown = -200 := by
    simp [PositionController.update, PositionController.refreshStale_eq, hlimited]
  have haccel : (c.limitSpeedZ 200 300).update.accelZ = 100.0 := by
    simp only [PositionController.update, PositionController.refreshStale_eq, hlimited]
    rfl
  refine ⟨hsign, habs, ?_, hclimb.trans ?_, hdescent.trans ?_⟩
  · show (c.limitSpeedZ 200 300).staleZ = true
    rw [hlimited]
  · show Leash.length (c.limitSpeedZ 200 300).update.speedUp
      (c.limitSpeedZ 200 300).update.accelZ 1.0 = 500
    rw [hspeedUp, haccel]
    norm_num [Leash.length, Leash.shortest]
  · show Leash.length (-(c.limitSpeedZ 200 300).update.speedDown)
      (c.limitSpeedZ 200 300).update.accelZ 1.0 = 250
    rw [hspeedDown, haccel]
    norm_num [Leash.length, Leash.shortest]

end Simulation

end WaypointFlight
