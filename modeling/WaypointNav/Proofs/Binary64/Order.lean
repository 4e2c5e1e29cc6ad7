import WaypointNav.Proofs.Binary64.Arithmetic

/-! Comparing floats. Finite floats are in the order of the numbers they are. -/
namespace WaypointNav.Binary64

open Float.Model UnpackedFloat

section Unpacked

variable {f g : UnpackedFloat} {m n : Nat} {e d : ℤ}

theorem Canonical.magnitude_pos (canonical : Canonical m e) : (0 : ℝ) < m * 2 ^ e :=
  mul_pos (by exact_mod_cast canonical.pos) (by positivity)

/-- Numbers in canonical form are told apart by their exponents first. -/
theorem Canonical.magnitude_lt (first : Canonical m e) (second : Canonical n d) (lt : e < d) :
    (m * 2 ^ e : ℝ) < n * 2 ^ d := by
  have low := first.ge
  have wide : 2 ^ 52 ≤ n := by
    have := second.subnormal
    omega
  calc (m * 2 ^ e : ℝ) < 2 ^ 53 * 2 ^ e := by gcongr; exact_mod_cast first.lt
    _ = 2 ^ 52 * 2 ^ (e + 1) := by rw [zpow_add_one₀ two_ne_zero]; ring
    _ ≤ 2 ^ 52 * 2 ^ d := by gcongr <;> [norm_num; omega]
    _ ≤ n * 2 ^ d := by gcongr; exact_mod_cast wide

theorem Canonical.compare_eq (first : Canonical m e) (second : Canonical n d) :
    (compare e d).then (compare m n) = compare (m * 2 ^ e : ℝ) (n * 2 ^ d) := by
  rcases lt_trichotomy e d with lt | rfl | gt
  · rw [compare_lt_iff_lt.mpr lt, compare_lt_iff_lt.mpr (first.magnitude_lt second lt)]
    rfl
  · rw [compare_eq_iff_eq.mpr rfl]
    have unit_pos : (0 : ℝ) < 2 ^ e := by positivity
    rcases lt_trichotomy m n with lt | rfl | gt
    · rw [compare_lt_iff_lt.mpr lt, compare_lt_iff_lt.mpr (by gcongr)]
      rfl
    · rw [compare_eq_iff_eq.mpr rfl, compare_eq_iff_eq.mpr rfl]
      rfl
    · rw [compare_gt_iff_gt.mpr gt, compare_gt_iff_gt.mpr (by gcongr)]
      rfl
  · rw [compare_gt_iff_gt.mpr gt, compare_gt_iff_gt.mpr (second.magnitude_lt first gt)]
    rfl

theorem compare_neg (a b : ℝ) : compare (-a) (-b) = (compare a b).swap := by
  rcases lt_trichotomy a b with lt | rfl | gt
  · rw [compare_lt_iff_lt.mpr lt, compare_gt_iff_gt.mpr (neg_lt_neg lt)]
    rfl
  · rw [compare_eq_iff_eq.mpr rfl, compare_eq_iff_eq.mpr rfl]
    rfl
  · rw [compare_gt_iff_gt.mpr gt, compare_lt_iff_lt.mpr (neg_lt_neg gt)]
    rfl

theorem value_positive (pos : 0 < m) : value (.finite .positive m e pos) = m * 2 ^ e := one_mul _

theorem value_negative (pos : 0 < m) : value (.finite .negative m e pos) = -(m * 2 ^ e) :=
  neg_one_mul _

theorem value_pos (canonical : Canonical m e) :
    0 < value (.finite .positive m e canonical.pos) := by
  rw [value_positive]
  exact canonical.magnitude_pos

theorem value_neg_of_negative (canonical : Canonical m e) :
    value (.finite .negative m e canonical.pos) < 0 := by
  rw [value_negative]
  exact neg_neg_of_pos canonical.magnitude_pos

theorem Proper.compare_eq (first : Proper f) (second : Proper g) :
    f.compare g = some (compare (value f) (value g)) := by
  cases first with
  | zero s =>
    cases second with
    | zero t => exact congrArg some (compare_eq_iff_eq.mpr rfl).symm
    | finite t second =>
      cases t
      · exact congrArg some (compare_gt_iff_gt.mpr (value_neg_of_negative second)).symm
      · exact congrArg some (compare_lt_iff_lt.mpr (value_pos second)).symm
  | finite s first =>
    cases second with
    | zero t =>
      cases s
      · exact congrArg some (compare_lt_iff_lt.mpr (value_neg_of_negative first)).symm
      · exact congrArg some (compare_gt_iff_gt.mpr (value_pos first)).symm
    | finite t second =>
      cases s <;> cases t
      · rw [value_negative, value_negative, compare_neg, ← first.compare_eq second]
        rfl
      · have lt := (value_neg_of_negative first).trans (value_pos second)
        exact congrArg some (compare_lt_iff_lt.mpr lt).symm
      · have lt := (value_neg_of_negative second).trans (value_pos first)
        exact congrArg some (compare_gt_iff_gt.mpr lt).symm
      · rw [value_positive, value_positive, ← first.compare_eq second]
        rfl

theorem value_abs (proper : Proper f) : value f.abs = |value f| := by
  cases proper with
  | zero s => exact abs_zero.symm
  | finite s canonical =>
    rw [value, abs_mul, abs_unit, one_mul, abs_of_pos canonical.magnitude_pos]
    exact value_positive canonical.pos

end Unpacked

section Floats

variable {x y : Float}

theorem real_of_unpack {m : Nat} {e : ℤ} (pos : 0 < m)
    (read : x.toModel.unpack = .finite .positive m e pos) :
    Bounded (m * 2 ^ e) x ∧ real x = m * 2 ^ e := by
  have value_eq : real x = m * 2 ^ e := by
    unfold real
    rw [read]
    exact value_positive pos
  refine ⟨⟨?_, ?_⟩, value_eq⟩
  · change x.toModel.unpack.isFinite = true
    rw [read]
    rfl
  · rw [value_eq, abs_of_nonneg (by positivity)]

theorem lt_iff (x_finite : x.isFinite = true) (y_finite : y.isFinite = true) :
    x < y ↔ real x < real y := by
  have order := (proper_of_isFinite x_finite).compare_eq (proper_of_isFinite y_finite)
  change decide ((_ == _) = true) = true ↔ _
  rw [order]
  simp [compare_lt_iff_lt, real]

theorem le_iff (x_finite : x.isFinite = true) (y_finite : y.isFinite = true) :
    x ≤ y ↔ real x ≤ real y := by
  have order := (proper_of_isFinite x_finite).compare_eq (proper_of_isFinite y_finite)
  change decide (Option.any _ _ = true) = true ↔ _
  rw [order]
  simp [Ordering.isLE_iff_ne_gt, compare_le_iff_le, real]

theorem unpack_abs (x : Float) : x.abs.toModel.unpack = x.toModel.unpack.abs := by
  change (Float.Model.pack x.toModel.unpack.abs).unpack = _
  cases read : x.toModel.unpack with
  | notANumber => rfl
  | infinity s | zero s => cases s <;> rfl
  | finite s m e pos =>
    exact (canonical_of_unpack read).unpack_pack (exponent_le_of_unpack read) .positive

theorem isFinite_abs (x : Float) : x.abs.isFinite = x.isFinite := by
  change x.abs.toModel.unpack.isFinite = x.toModel.unpack.isFinite
  rw [unpack_abs]
  cases x.toModel.unpack <;> rfl

theorem real_abs (finite : x.isFinite = true) : real x.abs = |real x| := by
  unfold real
  rw [unpack_abs, value_abs (proper_of_isFinite finite)]

/-- Only a finite float has a magnitude below a finite bound. -/
theorem abs_le_iff {bound : Float} (finite : bound.isFinite = true) :
    x.abs ≤ bound ↔ Bounded (real bound) x := by
  by_cases x_finite : x.isFinite = true
  · rw [le_iff ((isFinite_abs x).trans x_finite) finite, real_abs x_finite]
    exact ⟨fun le => ⟨x_finite, le⟩, Bounded.le⟩
  · refine iff_of_false ?_ fun bounded => x_finite bounded.finite
    change ¬decide (Option.any _ (UnpackedFloat.compare x.abs.toModel.unpack _) = true) = true
    change ¬x.toModel.unpack.isFinite = true at x_finite
    have proper := proper_of_isFinite finite
    rw [unpack_abs]
    cases read : x.toModel.unpack with
    | notANumber => simp [UnpackedFloat.abs, UnpackedFloat.compare]
    | infinity s =>
      generalize bound.toModel.unpack = b at proper
      cases proper <;> simp [UnpackedFloat.abs, UnpackedFloat.compare]
    | zero s | finite s m e pos =>
      rw [read] at x_finite
      exact absurd rfl x_finite

end Floats

end WaypointNav.Binary64
