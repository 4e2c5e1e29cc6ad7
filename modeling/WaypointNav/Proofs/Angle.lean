import WaypointNav.Angle
import WaypointNav.Proofs.Binary64.Special

/-! The size of a wrapped angle. The remainder is shorter than the modulus, bringing it to the positive side ends
at the modulus at most, and no rounding on the way passes `pi`. -/
namespace WaypointNav.Angle

open Binary64 Float.Model UnpackedFloat

section Remainder

variable {f g : UnpackedFloat} {x y : Float}

/-- The remainder has the digits that are left over, and the modulus is not among them. -/
theorem truncated_spec (dividend : Proper f) (modulus : Proper g) (nonzero : value g ≠ 0) :
    ∃ r, Rounded r (truncated f g) ∧ |r| < |value g| := by
  cases modulus with
  | zero t => exact absurd rfl nonzero
  | @finite t n d canonical =>
    rw [value, abs_mul, abs_unit, one_mul, abs_of_pos canonical.magnitude_pos]
    cases dividend with
    | zero s => exact ⟨0, rounded_zero s, abs_zero.trans_lt canonical.magnitude_pos⟩
    | @finite s m e _ =>
      let least := min e d
      let whole := n * 2 ^ (d - least).toNat
      let rest := m * 2 ^ (e - least).toNat % whole
      have whole_eq : (whole * 2 ^ least : ℝ) = n * 2 ^ d := by
        have scaled := decreaseExponent_value n (min_le_right e d)
        rwa [decreaseExponent, Nat.shiftLeft_eq] at scaled
      have rest_lt : rest < whole :=
        Nat.mod_lt _ (Nat.mul_pos canonical.pos (Nat.two_pow_pos _))
      change ∃ r, Rounded r (if rest = 0 then .zero s else .round .binary64 s rest least) ∧ _
      by_cases none : rest = 0
      · rw [if_pos none]
        exact ⟨0, rounded_zero s, abs_zero.trans_lt canonical.magnitude_pos⟩
      · rw [if_neg none]
        refine ⟨_, rounded_round (Nat.pos_of_ne_zero none) least s, ?_⟩
        rw [abs_mul, abs_unit, one_mul, abs_of_nonneg (by positivity), ← whole_eq]
        gcongr

theorem bounded_remainder (x_finite : x.isFinite = true) (y_finite : y.isFinite = true)
    (pos : 0 < real y) : Bounded (real y) (remainder x y) := by
  obtain ⟨r, rounded, lt⟩ :=
    truncated_spec (proper_of_isFinite x_finite) (proper_of_isFinite y_finite) pos.ne'
  change |r| < |real y| at lt
  rw [abs_of_pos pos] at lt
  exact rounded.bounded y_finite lt.le

/-- Infinities leave no remainder. -/
theorem isNaN_remainder (infinite : ¬x.isFinite = true) (y : Float) :
    (remainder x y).isNaN = true := by
  apply isNaN_pack
  change ¬x.toModel.unpack.isFinite = true at infinite
  cases read : x.toModel.unpack with
  | notANumber | infinity s => rfl
  | zero s | finite s m e pos =>
    rw [read] at infinite
    exact absurd rfl infinite

theorem isNaN_euclidean (infinite : ¬x.isFinite = true) (y : Float) :
    (euclidean x y).isNaN = true := by
  unfold euclidean
  dsimp only
  split
  · exact isNaN_add_left (isNaN_remainder infinite y) _
  · exact isNaN_remainder infinite y

theorem euclidean_spec (x_finite : x.isFinite = true) (y_finite : y.isFinite = true)
    (pos : 0 < real y) :
    (euclidean x y).isFinite = true ∧ 0 ≤ real (euclidean x y) ∧ real (euclidean x y) ≤ real y := by
  have zero_finite : (0 : Float).isFinite = true := rfl
  have zero_eq : real 0 = 0 := rfl
  obtain ⟨rest_finite, rest_le⟩ := bounded_remainder x_finite y_finite pos
  unfold euclidean
  dsimp only
  split
  · next below =>
    rw [lt_iff rest_finite zero_finite, zero_eq] at below
    have modulus_eq : real y.abs = real y := by rw [real_abs y_finite, abs_of_pos pos]
    have modulus_finite := (isFinite_abs y).trans y_finite
    have rounded := (proper_of_isFinite rest_finite).add (proper_of_isFinite modulus_finite)
    change Rounded (real (remainder x y) + real y.abs) _ at rounded
    rw [modulus_eq] at rounded
    have sum_nonneg : 0 ≤ real (remainder x y) + real y := by linarith [(abs_le.mp rest_le).1]
    have sum_le : real (remainder x y) + real y ≤ real y := by linarith
    have computes :=
      rounded.computes_of_le_real y_finite ((abs_of_nonneg sum_nonneg).trans_le sum_le)
    exact ⟨computes.finite, computes.nearest.nonneg sum_nonneg, computes.le_of_le y_finite sum_le⟩
  · next above =>
    rw [lt_iff rest_finite zero_finite, zero_eq, not_lt] at above
    exact ⟨rest_finite, above, le_of_abs_le rest_le⟩

end Remainder

section Wrap

theorem pi_spec : pi.isFinite = true ∧ 0 < real pi ∧ real (2 * pi) = 2 * real pi := by
  obtain ⟨⟨finite, -⟩, pi_eq⟩ := real_of_unpack (x := pi) (m := 7074237752028440) (e := -51)
    (by decide) rfl
  obtain ⟨-, turn_eq⟩ := real_of_unpack (x := 2 * pi) (m := 7074237752028440) (e := -50)
    (by decide) rfl
  rw [turn_eq, pi_eq]
  exact ⟨finite, by norm_num, by norm_num⟩

/-- Taking half a turn from what is within a turn leaves at most half a turn. -/
theorem bounded_sub_pi {x : Float} (finite : x.isFinite = true) (nonneg : 0 ≤ real x)
    (le : real x ≤ real (2 * pi)) : Bounded (real pi) (x - pi) := by
  obtain ⟨pi_finite, -, turn_eq⟩ := pi_spec
  have rounded := (proper_of_isFinite finite).sub (proper_of_isFinite pi_finite)
  have near : |real x - real pi| ≤ real pi := abs_le.mpr ⟨by linarith, by linarith⟩
  exact rounded.bounded pi_finite near

/-- A turn is added at the lower end only. -/
theorem bounded_add_turn {x : Float} (bounded : Bounded (real pi) x) (low : x ≤ -pi) :
    Bounded (real pi) (x + 2 * pi) := by
  obtain ⟨pi_finite, pi_pos, turn_eq⟩ := pi_spec
  have turn_finite : (2 * pi).isFinite = true := rfl
  have end_eq : real (-pi) = -real pi := value_neg (proper_of_isFinite pi_finite)
  rw [le_iff bounded.finite rfl, end_eq] at low
  have rounded := (proper_of_isFinite bounded.finite).add (proper_of_isFinite turn_finite)
  change Rounded (real x + real (2 * pi)) _ at rounded
  have near : |real x + real (2 * pi)| ≤ real pi := by
    have least := (abs_le.mp bounded.le).1
    exact abs_le.mpr ⟨by linarith, by linarith⟩
  exact rounded.bounded pi_finite near

/-- What is wrapped is no larger than `pi`, and what cannot be wrapped is NaN. -/
theorem wrap_spec (angle : Float) :
    (wrap angle).isNaN = true ∨ Bounded (real pi) (wrap angle) := by
  unfold wrap
  dsimp only
  by_cases finite : (angle + pi).isFinite = true
  · right
    obtain ⟨-, pi_pos, turn_eq⟩ := pi_spec
    obtain ⟨turned_finite, nonneg, le⟩ :=
      euclidean_spec (y := 2 * pi) finite rfl (by linarith)
    have bounded := bounded_sub_pi turned_finite nonneg le
    split
    · next low => exact bounded_add_turn bounded low
    · exact bounded
  · left
    have nan := isNaN_sub_left (isNaN_euclidean finite (2 * pi)) pi
    split
    · exact isNaN_add_left nan _
    · exact nan

end Wrap

end WaypointNav.Angle
