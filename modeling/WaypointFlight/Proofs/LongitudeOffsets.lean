import WaypointFlight.Proofs.DestinationLocation

namespace WaypointFlight

theorem abs_shortWay_le_iff {d : ℤ} : |shortWay d| ≤ halfTurn ↔ |d| ≤ halfTurn + fullTurn := by
  refine ⟨fun h ↦ ?_, abs_shortWay_le⟩
  rw [abs_le] at h ⊢
  unfold shortWay halfTurn fullTurn at *
  split_ifs at h <;> omega

theorem toInt_ofInt_modEq (n : ℤ) : (Int32.ofInt n).toInt ≡ n [ZMOD 4294967296] := by
  rw [Int32.toInt_ofInt]
  exact Int.bmod_emod

/-- The turns and the words of 32 bits have no common multiple below fifteen times ten to the
fifteenth. -/
theorem eq_of_modEq_turn_of_modEq_word {m n : ℤ} (hturn : m ≡ n [ZMOD fullTurn])
    (hword : m ≡ n [ZMOD 4294967296]) (h : |n - m| ≤ 15000010000000000) : m = n := by
  have hlcm : Int.lcm fullTurn 4294967296 = 15099494400000000 := by norm_num [fullTurn]
  have hcommon : (15099494400000000 : ℤ) ∣ n - m := by
    rw [← Nat.cast_ofNat, ← hlcm]
    exact Int.coe_lcm_dvd hturn.dvd hword.dvd
  have hzero : n - m = 0 := Int.eq_zero_of_abs_lt_dvd hcommon (lt_of_le_of_lt h (by norm_num))
  exact (sub_eq_zero.mp hzero).symm

namespace Location

variable {α : Type} [Analytic α] {l m : Location} {east : α}

theorem longitudeAt_eq_ok_iff {longitude : Int32} :
    l.longitudeAt east = .ok longitude ↔
      WordRange.signed64.Contains (l.longitude.toInt + l.longitudeStep east) ∧
        longitude = Int32.ofInt (shortWay (l.longitude.toInt + l.longitudeStep east)) := by
  simp only [longitudeAt]
  split_ifs with h
  · simp [h, eq_comm]
  · simp [h]

theorem longitudeAt_eq_error_iff {o : Overflow} :
    l.longitudeAt east = .error o ↔
      ¬ WordRange.signed64.Contains (l.longitude.toInt + l.longitudeStep east) ∧
        o = .addition := by
  simp only [longitudeAt]
  split_ifs with h
  · simp [h]
  · simp [h, eq_comm]

theorem offset?_ok {longitude : Int32} (h : l.longitudeAt east = .ok longitude) (north : α) :
    l.offset? north east = .ok { l with latitude := l.latitudeAt north, longitude } := by
  rw [offset?, offset, h]

theorem offset?_error {o : Overflow} (h : l.longitudeAt east = .error o) (north : α) :
    l.offset? north east = .error o := by
  rw [offset?, offset, h]

theorem near_of_right {sum : ℤ} (hsum : |sum| ≤ 15000001800000000)
    (hrange : |(Int32.ofInt (shortWay sum)).toInt| ≤ halfTurn)
    (hmod : (Int32.ofInt (shortWay sum)).toInt ≡ sum [ZMOD fullTurn]) :
    |sum| ≤ halfTurn + fullTurn := by
  have hsame : (Int32.ofInt (shortWay sum)).toInt = shortWay sum := by
    refine eq_of_modEq_turn_of_modEq_word (hmod.trans (shortWay_modEq sum).symm)
      (toInt_ofInt_modEq _) ?_
    have hword := WordRange.contains_toInt (Int32.ofInt (shortWay sum))
    simp only [WordRange.Contains, WordRange.signed32] at hword
    rw [abs_le] at hsum ⊢
    unfold shortWay halfTurn fullTurn at *
    split_ifs at * <;> omega
  rw [← abs_shortWay_le_iff, ← hsame]
  exact hrange

/-- An offset overflows exactly if the sum of the longitude and its difference leaves a word of 64
bits. Otherwise it leaves a longitude, which is in range and the right one exactly if that sum is
within one and a half turns. Four million turns out a word may be right by coincidence. -/
theorem offset_wraps_iff {l : Location} (hl : |l.longitude.toInt| ≤ 1800000000) (north east : α) :
    let d := l.longitudeStep east
    (l.offset? north east = .error .addition ↔
      ¬ WordRange.signed64.Contains (l.longitude.toInt + d)) ∧
    (|d| ≤ 15000000000000000 →
      ∃ m, l.offset? north east = .ok m ∧
        (|m.longitude.toInt| ≤ 1800000000 ∧
            m.longitude.toInt ≡ l.longitude.toInt + d [ZMOD 3600000000] ↔
          |l.longitude.toInt + d| ≤ 5400000000)) := by
  intro d
  constructor
  · cases h : l.longitudeAt east with
    | ok longitude =>
      rw [offset?_ok h]
      simpa using (longitudeAt_eq_ok_iff.mp h).1
    | error o =>
      obtain ⟨hsum, rfl⟩ := longitudeAt_eq_error_iff.mp h
      rw [offset?_error h]
      exact iff_of_true rfl hsum
  · intro hd
    set sum := l.longitude.toInt + d with hsum
    have hfar : |sum| ≤ 15000001800000000 := (abs_add_le _ _).trans (by linarith)
    have hword : WordRange.signed64.Contains sum :=
      WordRange.contains_of_abs_le (hfar.trans (by decide)) (by decide)
    have hlongitude : l.longitudeAt east = .ok (Int32.ofInt (shortWay sum)) :=
      longitudeAt_eq_ok_iff.mpr ⟨hword, rfl⟩
    refine ⟨_, offset?_ok hlongitude north, fun ⟨hrange, hmod⟩ ↦ ?_, fun hnear ↦ ?_⟩
    · exact near_of_right hfar hrange hmod
    · obtain ⟨longitude, hok, hback⟩ := longitudeAt_ok hnear
      obtain rfl := Except.ok.inj (hlongitude.symm.trans hok)
      show |(Int32.ofInt (shortWay sum)).toInt| ≤ halfTurn ∧ _
      rw [hback]
      exact ⟨abs_shortWay_le hnear, shortWay_modEq sum⟩

theorem longitudeStep_real (l : Location) (east : ℝ) :
    l.longitudeStep east = WordRange.signed64.clamp
      (Reals.nearest (east * unitsPerMetre / longitudeScale l.latitude)) :=
  toWord_round_real _ _

theorem longitudeScale_pole : (longitudeScale 900000000 : ℝ) = 0.01 := by
  have hangle : ((900000000 : ℤ) : ℝ) * 1.0e-7 * (Real.pi / 180) = Real.pi / 2 := by
    norm_num
    ring
  have hlatitude : (900000000 : Int32).toInt = 900000000 := rfl
  rw [longitudeScale_real, hlatitude, hangle, Real.cos_pi_div_two]
  norm_num

def pole : Location := ⟨900000000, 0, 58400, .absolute⟩

theorem longitudeStep_pole {east : ℝ} {n : ℤ} (h : |east * unitsPerMetre * 100 - n| < 1 / 2)
    (hn : |n| ≤ 15000000000000000) : pole.longitudeStep east = n := by
  refine longitudeStep_eq ?_ (hn.trans (by decide))
  show |east * unitsPerMetre / longitudeScale 900000000 - n| < 1 / 2
  rw [longitudeScale_pole]
  convert h using 3
  rw [div_eq_iff (by norm_num)]
  norm_num
  ring

theorem offset_wraps_iff_pole :
    |pole.longitude.toInt| ≤ 1800000000 ∧ pole.longitudeStep (400000 : ℝ) = 3593281981 ∧
      ∃ m, pole.offset? (0 : ℝ) 400000 = .ok m ∧ |m.longitude.toInt| ≤ 1800000000 ∧
        m.longitude.toInt ≡ 3593281981 [ZMOD 3600000000] := by
  have hrange : |pole.longitude.toInt| ≤ 1800000000 := by decide
  have hstep : pole.longitudeStep (400000 : ℝ) = 3593281981 :=
    longitudeStep_pole (by norm_num [unitsPerMetre, abs_lt]) (by norm_num)
  obtain ⟨-, hreturns⟩ := offset_wraps_iff hrange (0 : ℝ) 400000
  rw [hstep] at hreturns
  obtain ⟨m, hm, hright⟩ := hreturns (by norm_num)
  obtain ⟨hm', hmod⟩ := hright.mpr (by decide)
  exact ⟨hrange, hstep, m, hm, hm', by simpa [pole] using hmod⟩

theorem longitudeStep_saturated (hpole : l.latitude = 900000000) {east : ℝ} (h : 10 ^ 18 ≤ east) :
    l.longitudeStep east = 9223372036854775807 := by
  set x := east * unitsPerMetre / longitudeScale l.latitude with hx
  have hlarge : (10 ^ 19 : ℝ) ≤ x - 1 / 2 := by
    rw [hx, hpole, longitudeScale_pole]
    norm_num [unitsPerMetre]
    linarith
  have hnearest : (10 ^ 19 : ℤ) ≤ Reals.nearest x := by
    have hclose := (abs_le.mp (Reals.abs_nearest_sub_le x)).1
    have hreal : ((10 ^ 19 : ℤ) : ℝ) ≤ Reals.nearest x := by
      push_cast
      linarith
    exact_mod_cast hreal
  rw [longitudeStep_real, ← hx, WordRange.clamp, WordRange.signed64]
  dsimp only
  omega

/-- Seven hundred kilometres to the east of the pole lead to another longitude than they should.
Far enough to the east there is no result. -/
theorem offset_astray :
    (pole.longitudeStep (700000 : ℝ) = 6288243467 ∧
      ∃ m, pole.offset? (0 : ℝ) 700000 = .ok m ∧ m.longitude.toInt = -1606723829 ∧
        ¬ m.longitude.toInt ≡ pole.longitude.toInt + 6288243467 [ZMOD 3600000000]) ∧
      offset? ⟨900000000, 1, 58400, .absolute⟩ (0 : ℝ) (10 ^ 30) = .error .addition := by
  have hstep : pole.longitudeStep (700000 : ℝ) = 6288243467 :=
    longitudeStep_pole (by norm_num [unitsPerMetre, abs_lt]) (by norm_num)
  have hlongitude : pole.longitudeAt (700000 : ℝ) = .ok (-1606723829) := by
    rw [longitudeAt_eq_ok_iff, hstep]
    decide
  have hfar : longitudeStep ⟨900000000, 1, 58400, .absolute⟩ (10 ^ 30 : ℝ) = 9223372036854775807 :=
    longitudeStep_saturated rfl (by norm_num)
  have herror : longitudeAt ⟨900000000, 1, 58400, .absolute⟩ (10 ^ 30 : ℝ) = .error .addition := by
    rw [longitudeAt_eq_error_iff, hfar]
    decide
  exact ⟨⟨hstep, _, offset?_ok hlongitude 0, by decide, by decide⟩, offset?_error herror 0⟩

end Location

end WaypointFlight
