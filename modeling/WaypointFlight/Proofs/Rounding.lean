import WaypointFlight.Location.Plane
import WaypointFlight.Proofs.Reals

namespace WaypointFlight

namespace Reals

theorem truncate_intCast (n : ℤ) : truncate n = n := by
  unfold truncate
  split_ifs
  · exact Int.floor_intCast n
  · exact Int.ceil_intCast n

theorem abs_sub_truncate_lt (x : ℝ) : |x - truncate x| < 1 := by
  rw [abs_lt]
  unfold truncate
  split_ifs
  · have hlow := Int.floor_le x
    have hhigh := Int.lt_floor_add_one x
    constructor <;> linarith
  · have hlow := Int.le_ceil x
    have hhigh := Int.ceil_lt_add_one x
    constructor <;> linarith

theorem nearest_eq {x : ℝ} {n : ℤ} (h : |x - n| < 1 / 2) : nearest x = n := by
  obtain ⟨hlow, hhigh⟩ := abs_lt.mp h
  unfold nearest
  split_ifs
  · refine Int.floor_eq_iff.mpr ⟨?_, ?_⟩ <;> linarith
  · refine Int.ceil_eq_iff.mpr ⟨?_, ?_⟩ <;> linarith

theorem abs_nearest_sub_le (x : ℝ) : |(nearest x : ℝ) - x| ≤ 1 / 2 := by
  rw [abs_le]
  unfold nearest
  split_ifs
  · have hlow := Int.lt_floor_add_one (x + 1 / 2)
    have hhigh := Int.floor_le (x + 1 / 2)
    constructor <;> linarith
  · have hlow := Int.le_ceil (x - 1 / 2)
    have hhigh := Int.ceil_lt_add_one (x - 1 / 2)
    constructor <;> linarith

theorem abs_nearest_le {x : ℝ} {n : ℤ} (h : |x| < n + 1 / 2) : |nearest x| ≤ n := by
  obtain ⟨hlow, hhigh⟩ := abs_lt.mp h
  obtain ⟨hlow', hhigh'⟩ := abs_le.mp (abs_nearest_sub_le x)
  have hbelow : -((n : ℝ) + 1) < nearest x := by linarith
  have habove : (nearest x : ℝ) < n + 1 := by linarith
  norm_cast at hbelow habove
  rw [abs_le]
  omega

end Reals

namespace WordRange

theorem clamp_eq {r : WordRange} {n : ℤ} (h : r.Contains n) : r.clamp n = n := by
  obtain ⟨hlow, hhigh⟩ := h
  rw [clamp, min_eq_right hhigh, max_eq_right hlow]

theorem contains_of_abs_le {r : WordRange} {n : ℤ} (h : |n| ≤ r.greatest)
    (hr : r.least ≤ -r.greatest) : r.Contains n :=
  ⟨hr.trans (abs_le.mp h).1, (abs_le.mp h).2⟩

theorem contains_toInt (w : Int32) : signed32.Contains w.toInt :=
  ⟨w.le_toInt, Int.le_of_lt_add_one w.toInt_lt⟩

theorem abs_toInt_sub_le (v w : Int32) : |v.toInt - w.toInt| ≤ 4294967296 := by
  have hv := contains_toInt v
  have hw := contains_toInt w
  simp only [Contains, signed32] at hv hw
  rw [abs_le]
  omega

theorem toInt_ofInt {n : ℤ} (h : signed32.Contains n) : (Int32.ofInt n).toInt = n :=
  Int32.toInt_ofInt_of_le h.1 (Int.lt_add_one_of_le h.2)

end WordRange

theorem toWord_round_real (r : WordRange) (x : ℝ) :
    Analytic.toWord r (Analytic.round x) = r.clamp (Reals.nearest x) := by
  show r.clamp (Reals.truncate (Reals.nearest x)) = _
  rw [Reals.truncate_intCast]

theorem toWord_round {r : WordRange} {x : ℝ} {n : ℤ} (h : |x - n| < 1 / 2) (hr : r.Contains n) :
    Analytic.toWord r (Analytic.round x) = n := by
  rw [toWord_round_real, Reals.nearest_eq h, WordRange.clamp_eq hr]

theorem Location.nearestWord_eq {x : ℝ} {w : Int32} (h : |x - w.toInt| < 1 / 2) :
    nearestWord x = w := by
  rw [nearestWord, toWord_round h (WordRange.contains_toInt w), Int32.ofInt_toInt]

theorem Location.toInt_nearestWord {x : ℝ} (h : WordRange.signed32.Contains (Reals.nearest x)) :
    (nearestWord x).toInt = Reals.nearest x := by
  rw [nearestWord, toWord_round_real, WordRange.clamp_eq h, WordRange.toInt_ofInt h]

theorem word?_ok_iff {o : Overflow} {n : ℤ} {w : Int32} : word? o n = .ok w ↔ w.toInt = n := by
  unfold word?
  split_ifs with h
  · constructor
    · intro hw
      rw [← Except.ok.inj hw]
      exact WordRange.toInt_ofInt h
    · rintro rfl
      rw [Int32.ofInt_toInt]
  · refine iff_of_false (by simp) ?_
    rintro rfl
    exact h (WordRange.contains_toInt w)

end WaypointFlight
