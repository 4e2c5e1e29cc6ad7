import WaypointNav.Proofs.Binary64.Overflow

/-! Rounding is monotone. No number of the format is nearer to a real number than the one it is rounded to, so
rounding never passes a number of the format, and it overflows only beyond the greatest one. -/
namespace WaypointNav.Binary64

open Float.Model UnpackedFloat

section Unpacked

variable {f g : UnpackedFloat} {r t v : ℝ}

theorem Proper.exists_units (proper : Proper g) :
    ∃ n d : ℤ, value g = n * 2 ^ d ∧ |n| ≤ 2 ^ 53 - 1 ∧ -1074 ≤ d := by
  cases proper with
  | zero s => exact ⟨0, 0, by simp, by norm_num, by norm_num⟩
  | @finite s m e canonical =>
    refine ⟨s.apply m, e, ?_, ?_, canonical.ge⟩
    · rw [cast_apply, mul_assoc, Int.cast_natCast]
      rfl
    · have lt := canonical.lt
      cases s <;> simp only [Sign.apply, abs_neg, Nat.abs_cast] <;> omega

/-- Other multiples of the last place are at least half of it away. -/
theorem half_le_of_ne {n j e : ℤ} (near : |(n * 2 ^ e : ℝ) - r| ≤ 2 ^ e / 2) (ne : j ≠ n) :
    2 ^ e / 2 ≤ |(j * 2 ^ e : ℝ) - r| := by
  have unit_pos : (0 : ℝ) < 2 ^ e := by positivity
  have apart : (1 : ℝ) ≤ |(j : ℝ) - n| := by exact_mod_cast Int.one_le_abs (sub_ne_zero.mpr ne)
  have wide : (2 : ℝ) ^ e ≤ |(j * 2 ^ e : ℝ) - n * 2 ^ e| := by
    rw [← sub_mul, abs_mul, abs_of_pos unit_pos]
    exact le_mul_of_one_le_left unit_pos.le apart
  have split := abs_sub_le (j * 2 ^ e : ℝ) r (n * 2 ^ e)
  rw [abs_sub_comm r] at split
  linarith

/-- With less than 54 bits and a finer last place, a number stays half a coarser last place below. -/
theorem abs_le_of_finer {n d e : ℤ} (n_le : |n| ≤ 2 ^ 53 - 1) (finer : d < e) :
    |(n * 2 ^ d : ℝ)| ≤ 2 ^ (e + 52) - 2 ^ e / 2 := by
  have unit_pos : (0 : ℝ) < 2 ^ d := by positivity
  have n_le' : |(n : ℝ)| ≤ 2 ^ 53 - 1 := by exact_mod_cast n_le
  rw [abs_mul, abs_of_pos unit_pos, half_zpow]
  calc |(n : ℝ)| * 2 ^ d ≤ (2 ^ 53 - 1) * 2 ^ (e - 1) := by gcongr <;> [norm_num; omega]
    _ = 2 ^ (e + 52) - 2 ^ (e - 1) := by
      rw [sub_mul, one_mul, ← zpow_natCast, ← zpow_add₀ two_ne_zero]
      congr 2
      push_cast
      ring

theorem Nearest.closest (nearest : Nearest r v) (proper : Proper g) : |v - r| ≤ |value g - r| := by
  obtain ⟨n, e, rfl, near, -, fine⟩ := nearest
  obtain ⟨k, d, value_eq, k_le, low⟩ := proper.exists_units
  rw [value_eq]
  rcases le_or_gt e d with coarser | finer
  · obtain ⟨i, rfl⟩ := Int.le.dest coarser
    have whole : (k * 2 ^ (e + i) : ℝ) = ((k * 2 ^ i : ℤ) : ℝ) * 2 ^ e := by
      rw [zpow_add₀ two_ne_zero, zpow_natCast]
      push_cast
      ring
    rw [whole]
    by_cases same : k * 2 ^ i = n
    · rw [same]
    · exact near.trans (half_le_of_ne near same)
  · have wide : (2 : ℝ) ^ (e + 52) ≤ |r| := fine.resolve_left (by omega)
    have small := abs_le_of_finer k_le finer
    have split := abs_sub_abs_le_abs_sub r (k * 2 ^ d)
    rw [abs_sub_comm r] at split
    linarith

theorem Nearest.le_of_le (nearest : Nearest r v) (proper : Proper g) (le : r ≤ value g) :
    v ≤ value g := by
  by_contra! passed
  have closest := nearest.closest proper
  rw [abs_of_nonneg (sub_nonneg.mpr le), abs_of_nonneg (sub_nonneg.mpr (le.trans passed.le))]
    at closest
  linarith

theorem Nearest.le_of_ge (nearest : Nearest r v) (proper : Proper g) (le : value g ≤ r) :
    value g ≤ v := by
  have negated := nearest.neg.le_of_le proper.neg (by rw [value_neg proper]; exact neg_le_neg le)
  rw [value_neg proper] at negated
  exact neg_le_neg_iff.mp negated

theorem Nearest.abs_le_of_abs_le (nearest : Nearest r v) (proper : Proper g) (le : |r| ≤ value g) :
    |v| ≤ value g := by
  have below := nearest.le_of_le proper (le_of_abs_le le)
  have above := nearest.neg.le_of_le proper ((neg_le_abs r).trans le)
  exact abs_le'.mpr ⟨below, above⟩

theorem Rounded.mono (first : Rounded r f) (second : Rounded t g) (lt : r < t) :
    value f ≤ value g := by
  by_contra! passed
  -- Neither result lies between the two numbers, so each would be nearer to the other one.
  have low : value g < r := by
    by_contra! le
    exact passed.not_ge (first.nearest.le_of_le second.proper le)
  have high : t < value f := by
    by_contra! le
    exact passed.not_ge (second.nearest.le_of_ge first.proper le)
  have first_closest := first.nearest.closest second.proper
  have second_closest := second.nearest.closest first.proper
  rw [abs_of_pos (by linarith), abs_of_neg (by linarith)] at first_closest
  rw [abs_of_neg (by linarith), abs_of_pos (by linarith)] at second_closest
  linarith

theorem canonical_greatest : Canonical (2 ^ 53 - 1) 971 :=
  ⟨by norm_num, by norm_num, by norm_num, by norm_num⟩

noncomputable def greatest : ℝ :=
  value (.finite .positive (2 ^ 53 - 1) 971 canonical_greatest.pos)

theorem greatest_eq : greatest = (2 ^ 53 - 1 : Nat) * 2 ^ (971 : ℤ) :=
  value_positive _

theorem greatest_pos : 0 < greatest :=
  value_pos canonical_greatest

/-- Packing overflows exactly beyond the greatest number. -/
theorem Proper.isFinite_pack_iff (proper : Proper f) :
    (Float.Model.pack f).unpack.isFinite = true ↔ |value f| ≤ greatest := by
  cases proper with
  | zero s =>
    rw [unpack_pack_zero, value_zero, abs_zero]
    exact iff_of_true rfl greatest_pos.le
  | @finite s m e canonical =>
    rw [value, abs_mul, abs_unit, one_mul, abs_of_pos canonical.magnitude_pos]
    rcases le_or_gt e 971 with low | high
    · rw [canonical.unpack_pack low s]
      have lt := canonical.lt
      have le : (m * 2 ^ e : ℝ) ≤ greatest := by
        rw [greatest_eq]
        gcongr
        · exact Nat.le_sub_one_of_lt lt
        · exact one_le_two
      exact iff_of_true rfl le
    · rw [unpack_pack_huge s canonical.pos high]
      refine iff_of_false Bool.false_ne_true (not_le.mpr ?_)
      rw [greatest_eq]
      exact canonical_greatest.magnitude_lt canonical high

theorem Rounded.computes_of_le (rounded : Rounded r f) (le : |r| ≤ greatest) :
    Computes r (.ofModel (.pack f)) := by
  have bounded : |value f| ≤ greatest :=
    rounded.nearest.abs_le_of_abs_le (.finite .positive canonical_greatest) le
  have finite := rounded.proper.isFinite_pack_iff.mpr bounded
  refine ⟨finite, ?_⟩
  change Nearest r (value (Float.Model.pack f).unpack)
  rcases rounded.proper.unpack_pack_cases with kept | ⟨s, huge, -⟩
  · rw [kept]
    exact rounded.nearest
  · rw [huge] at finite
    cases finite

end Unpacked

section Floats

variable {r : ℝ} {x y h : Float}

theorem Computes.le_of_le (computes : Computes r x) (finite : y.isFinite = true) (le : r ≤ real y) :
    real x ≤ real y :=
  computes.nearest.le_of_le (proper_of_isFinite finite) le

theorem abs_real_le_greatest (finite : x.isFinite = true) : |real x| ≤ greatest := by
  refine (proper_of_isFinite finite).isFinite_pack_iff.mp ?_
  rw [pack_unpack]
  exact finite

/-- What is at most as large as a float does not overflow. -/
theorem Rounded.computes_of_le_real {f : UnpackedFloat} (rounded : Rounded r f)
    (finite : y.isFinite = true) (le : |r| ≤ real y) : Computes r (.ofModel (.pack f)) :=
  rounded.computes_of_le (le.trans ((le_abs_self _).trans (abs_real_le_greatest finite)))

theorem Rounded.bounded {f : UnpackedFloat} (rounded : Rounded r f) (finite : y.isFinite = true)
    (le : |r| ≤ real y) : Bounded (real y) (.ofModel (.pack f)) := by
  have computes := rounded.computes_of_le_real finite le
  exact ⟨computes.finite, computes.nearest.abs_le_of_abs_le (proper_of_isFinite finite) le⟩

/-- Half of a finite float is at most half of the greatest. -/
theorem bounded_mul_half (finite : x.isFinite = true) (half : Bounded (1 / 2) h) :
    Bounded (greatest / 2) (x * h) := by
  have canonical : Canonical (2 ^ 53 - 1) 970 := ⟨by norm_num, by norm_num, by norm_num, by norm_num⟩
  have half_eq : value (.finite .positive _ 970 canonical.pos) = greatest / 2 := by
    rw [value_positive, greatest_eq, show (971 : ℤ) = 970 + 1 from rfl, zpow_add_one₀ two_ne_zero]
    ring
  have product_le : |real x * real h| ≤ greatest / 2 := by
    rw [abs_mul, div_eq_mul_one_div]
    exact mul_le_mul (abs_real_le_greatest finite) half.le (abs_nonneg _)
      greatest_pos.le
  have rounded := (proper_of_isFinite finite).mul (proper_of_isFinite half.finite)
  have computes := rounded.computes_of_le
    (product_le.trans (half_le_self greatest_pos.le))
  refine ⟨computes.finite, ?_⟩
  rw [← half_eq] at product_le ⊢
  exact computes.nearest.abs_le_of_abs_le (.finite .positive canonical) product_le

theorem isFinite_add_of_halves (x_half : Bounded (greatest / 2) x) (y_half : Bounded (greatest / 2) y) :
    (x + y).isFinite = true := by
  have rounded := (proper_of_isFinite x_half.finite).add (proper_of_isFinite y_half.finite)
  refine (rounded.computes_of_le ?_).finite
  calc |real x + real y| ≤ |real x| + |real y| := abs_add_le _ _
    _ ≤ greatest / 2 + greatest / 2 := add_le_add x_half.le y_half.le
    _ = greatest := add_halves _

end Floats

end WaypointNav.Binary64
