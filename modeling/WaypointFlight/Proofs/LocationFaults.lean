import WaypointFlight.Autopilot.Destination

namespace WaypointFlight

variable {α : Type} [Analytic α]

theorem bind_error {ε β γ : Type} {x : Except ε β} {f : β → Except ε γ} {e : ε}
    (h : x >>= f = .error e) : x = .error e ∨ ∃ y, x = .ok y ∧ f y = .error e := by
  cases x with
  | error e' => exact .inl (congrArg Except.error (Except.error.inj h))
  | ok y => exact .inr ⟨y, rfl, h⟩

theorem bind_ok {ε β γ : Type} {x : Except ε β} {f : β → Except ε γ} {z : γ}
    (h : x >>= f = .ok z) : ∃ y, x = .ok y ∧ f y = .ok z := by
  cases x with
  | error e => cases h
  | ok y => exact ⟨y, rfl, h⟩

namespace Location

variable {l origin : Location} {target : AltitudeFrame} {terrain : Elevation α}
  {f : Fault LocationError}

theorem checked_error {ε β : Type} {x : Except Overflow β} {f : Fault ε}
    (h : checked x = .error f) : ∃ o, f = .overflow o := by
  cases x with
  | error o => exact ⟨o, (Except.error.inj h).symm⟩
  | ok y => cases h

theorem checked_ok {ε β : Type} {x : Except Overflow β} {y : β} :
    checked (ε := ε) x = .ok y ↔ x = .ok y := by
  constructor
  · intro h
    cases x with
    | error o => cases h
    | ok z => exact congrArg Except.ok (Except.ok.inj h)
  · rintro rfl
    rfl

theorem groundFor_error (h : l.groundFor target terrain = .error f) :
    f = .error (.noTerrainData l.frame target) ∧ terrain l = none := by
  unfold groundFor at h
  cases ht : terrain l with
  | none =>
    rw [ht] at h
    exact ⟨(Except.error.inj h).symm, rfl⟩
  | some ground =>
    rw [ht] at h
    cases h

def absoluteAltitude (l : Location) (target : AltitudeFrame) (origin : Location)
    (terrain : Elevation α) : Except (Fault LocationError) Int32 :=
  match l.frame with
  | .absolute => .ok l.altitude
  | .aboveOrigin => checked (checkedAdd l.altitude origin.altitude)
  | .aboveTerrain => l.groundFor target terrain >>= fun g ↦ checked (checkedAdd l.altitude g)

def relativeAltitude (l : Location) (target : AltitudeFrame) (origin : Location)
    (terrain : Elevation α) (absolute : Int32) : Except (Fault LocationError) Int32 :=
  match target with
  | .absolute => .ok absolute
  | .aboveOrigin => checked (checkedSub absolute origin.altitude)
  | .aboveTerrain => l.groundFor target terrain >>= fun g ↦ checked (checkedSub absolute g)

theorem altitudeIn_eq (h : target ≠ l.frame) :
    l.altitudeIn target origin terrain =
      l.absoluteAltitude target origin terrain >>= l.relativeAltitude target origin terrain := by
  unfold altitudeIn
  rw [if_neg h, absoluteAltitude]
  cases l.frame with
  | absolute => rfl
  | aboveOrigin => rfl
  | aboveTerrain => exact (bind_assoc _ _ _).symm

theorem groundFor_bind_error {g : Int32 → Except Overflow Int32}
    (h : (l.groundFor target terrain >>= fun ground ↦ checked (g ground)) = .error f) :
    (∃ o, f = .overflow o) ∨ f = .error (.noTerrainData l.frame target) ∧ terrain l = none := by
  rcases bind_error h with hnone | ⟨ground, -, hsum⟩
  · exact .inr (groundFor_error hnone)
  · exact .inl (checked_error hsum)

/-- An altitude is converted unless a sum overflows, or the ground is on one side only and its
elevation is unknown. -/
theorem altitudeIn_error (h : l.altitudeIn target origin terrain = .error f) :
    (∃ o, f = .overflow o) ∨
      f = .error (.noTerrainData l.frame target) ∧ terrain l = none ∧
        (l.frame = .aboveTerrain ∨ target = .aboveTerrain) := by
  by_cases heq : target = l.frame
  · rw [altitudeIn, if_pos heq] at h
    cases h
  · rw [altitudeIn_eq heq] at h
    rcases bind_error h with habs | ⟨absolute, -, hrel⟩
    · unfold absoluteAltitude at habs
      split at habs
      · cases habs
      · exact .inl (checked_error habs)
      next hl =>
        exact (groundFor_bind_error habs).imp id fun ⟨hf, hnone⟩ ↦ ⟨hf, hnone, .inl hl⟩
    · cases target with
      | absolute => cases hrel
      | aboveOrigin => exact .inl (checked_error hrel)
      | aboveTerrain =>
        exact (groundFor_bind_error hrel).imp id fun ⟨hf, hnone⟩ ↦ ⟨hf, hnone, .inr rfl⟩

theorem inFrame_error (h : l.inFrame target origin terrain = .error f) :
    l.altitudeIn target origin terrain = .error f := by
  rcases bind_error h with haltitude | ⟨altitude, -, hok⟩
  · exact haltitude
  · cases hok

theorem vectorNEU_error {origin : Option Location}
    (h : l.vectorNEU (α := α) origin = .error f) :
    (∃ o, f = .overflow o) ∨ f = .error .noOrigin ∧ origin = none := by
  cases origin with
  | none => exact .inr ⟨(Except.error.inj h).symm, rfl⟩
  | some origin =>
    left
    rcases bind_error h with hground | ⟨ground, -, hrest⟩
    · exact checked_error hground
    · -- neither altitude is above the ground, so its elevation is not asked for
      have habove (hl : l.frame ≠ .aboveTerrain)
          (hn : l.altitudeIn .aboveOrigin origin (Elevation.unknown (α := α)) = .error f) :
          ∃ o, f = .overflow o := by
        rcases altitudeIn_error hn with ho | ⟨-, -, hground | htarget⟩
        · exact ho
        · exact absurd hground hl
        · cases htarget
      cases hl : l.frame with
      | aboveTerrain =>
        simp only [hl] at hrest
        cases hrest
      | _ =>
        simp only [hl] at hrest
        rcases bind_error hrest with hn | ⟨altitude, -, hok⟩
        · exact habove (by simp [hl]) hn
        · cases hok

end Location

inductive ConversionFault (r : Readings α) : Fault LocationError → Prop where
  | noOrigin (h : r.attitude.origin = none) : ConversionFault r (.error .noOrigin)
  | noElevation (l : Location) (target : AltitudeFrame) (h : r.database.elevation l = none) :
      ConversionFault r (.error (.noTerrainData l.frame target))
  | overflow (o : Overflow) : ConversionFault r (.overflow o)

namespace ConversionFault

variable {r : Readings α} {f : Fault LocationError}

theorem of_vectorNEU {l : Location} (h : l.vectorNEU (α := α) r.attitude.origin = .error f) :
    ConversionFault r f := by
  rcases Location.vectorNEU_error h with ⟨o, rfl⟩ | ⟨rfl, hnone⟩
  · exact .overflow o
  · exact .noOrigin hnone

theorem of_followingVector {frame : AltitudeFrame} {following : SegmentEnd Location}
    (h : Autopilot.followingVector r frame following = .error f) : ConversionFault r f := by
  unfold Autopilot.followingVector at h
  cases horigin : r.attitude.origin with
  | none =>
    simp only [horigin] at h
    obtain rfl := Except.error.inj h
    exact .noOrigin horigin
  | some origin =>
    simp only [horigin] at h
    have hnext (next : Location)
        (hn : (do
          let next ← next.inFrame frame origin r.database.elevation
          return (← next.vectorNEU (α := α) (some origin)).1) = .error f) :
        ConversionFault r f := by
      rcases bind_error hn with hframe | ⟨moved, -, hvector⟩
      · rcases Location.altitudeIn_error (Location.inFrame_error hframe) with
          ⟨o, rfl⟩ | ⟨rfl, hl, -⟩
        · exact .overflow o
        · exact .noElevation next frame hl
      · rcases bind_error hvector with hv | ⟨v, -, hok⟩
        · exact of_vectorNEU (horigin ▸ hv)
        · cases hok
    cases following with
    | stop => cases h
    | _ =>
      rcases bind_error h with hn | ⟨v, -, hok⟩
      · exact hnext _ hn
      · cases hok

end ConversionFault

end WaypointFlight
