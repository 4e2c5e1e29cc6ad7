import WaypointNav.Proofs.Binary64.Nearest

/-! Float arithmetic over the reals. On finite floats every operation rounds the real result to the nearest,
unless that result is too large for the format. -/
namespace WaypointNav.Binary64

open Float.Model UnpackedFloat

section Signs

theorem unit_mul (s t : Sign) : unit (s * t) = unit s * unit t := by
  cases s <;> cases t
  · exact (neg_one_mul (-1 : ℝ)).symm ▸ (neg_neg (1 : ℝ)).symm
  · exact (MulOneClass.mul_one (-1 : ℝ)).symm
  · exact (one_mul _).symm
  · exact (one_mul _).symm

theorem unit_div (s t : Sign) : unit (s / t) = unit s / unit t := by
  cases s <;> cases t
  · exact (neg_div_neg_eq (1 : ℝ) 1).symm ▸ (div_one (1 : ℝ)).symm
  · exact (div_one _).symm
  · exact (one_div_neg_one_eq_neg_one (R := ℝ)).symm
  · exact (div_one _).symm

theorem unit_neg (s : Sign) : unit (-s) = -unit s := by
  cases s
  · exact (neg_neg (1 : ℝ)).symm
  · rfl

theorem abs_unit (s : Sign) : |unit s| = 1 := by
  cases s <;> simp [unit]

theorem cast_apply (s : Sign) (n : ℤ) : ((s.apply n : ℤ) : ℝ) = unit s * n := by
  cases s <;> simp [unit, Sign.apply]

end Signs

section Unpacked

variable {f g : UnpackedFloat} {m : Nat} {e : ℤ}

theorem rounded_zero (s : Sign) : Rounded 0 (.zero s) := by
  refine ⟨.zero s, 0, -1074, ?_, ?_, le_rfl, .inl rfl⟩
  · simp
  · rw [value_zero, sub_zero, abs_zero]
    positivity

theorem Canonical.nearest (canonical : Canonical m e) (s : Sign) :
    Rounded (unit s * (m * 2 ^ e)) (.finite s m e canonical.pos) := by
  have exact : Marks (.ofMantissaAndAccuracy m .exact) (m * 2 ^ e / 2 ^ e : ℝ) :=
    mul_div_cancel_right₀ _ (zpow_ne_zero e two_ne_zero)
  have fine : 2 ^ 52 ≤ m ∨ e ≤ -1074 := by
    have := canonical.subnormal
    omega
  have rounded := exact.rounded fine s
  have kept := round_exact canonical s 0
  rw [pow_zero, Nat.mul_one, Int.ofNat_zero, sub_zero] at kept
  rwa [kept] at rounded

theorem decreaseExponent_value (m : Nat) {e least : ℤ} (le : least ≤ e) :
    ((decreaseExponent m e least).1 : ℝ) * 2 ^ least = m * 2 ^ e := by
  obtain ⟨k, rfl⟩ := Int.le.dest le
  unfold decreaseExponent
  dsimp only
  rw [add_sub_cancel_left, Int.toNat_natCast, Nat.shiftLeft_eq, zpow_add₀ two_ne_zero, zpow_natCast]
  push_cast
  ring

theorem rounded_round (pos : 0 < m) (e : ℤ) (s : Sign) :
    Rounded (unit s * (m * 2 ^ e)) (round .binary64 s m e) := by
  unfold UnpackedFloat.round decreaseExponent
  dsimp only
  rw [targetExponent_eq, totalExponent, Nat.shiftLeft_eq]
  generalize k_eq : (e - max ((m.log2 : ℤ) + 1 + e - 53) (-1074)).toNat = k
  apply Marks.rounded
  · change (m * 2 ^ e / 2 ^ (e - k) : ℝ) = (m * 2 ^ k : Nat)
    rw [zpow_sub₀ two_ne_zero, zpow_natCast]
    push_cast
    field_simp
  · by_cases least : e - k ≤ -1074
    · exact .inr least
    · left
      have width : 52 ≤ (m * 2 ^ k).log2 := by
        rw [log2_mul_two_pow pos]
        omega
      exact (Nat.le_log2 (by positivity)).mp width

theorem rounded_normalize (n e : ℤ) (s : Sign) :
    Rounded (n * 2 ^ e) (normalize .binary64 n e s) := by
  unfold UnpackedFloat.normalize
  rcases lt_trichotomy n 0 with neg | rfl | pos
  · have cast : ((-n).toNat : ℝ) = -n := by
      exact_mod_cast Int.toNat_of_nonneg (by omega : 0 ≤ -n)
    have rounded := rounded_round (by omega : 0 < (-n).toNat) e .negative
    rw [compare_lt_iff_lt.mpr neg]
    rwa [cast, unit, neg_mul, neg_mul, one_mul, neg_neg] at rounded
  · rw [Int.cast_zero, zero_mul]
    exact rounded_zero s
  · have cast : (n.toNat : ℝ) = n := by exact_mod_cast Int.toNat_of_nonneg pos.le
    have rounded := rounded_round (by omega : 0 < n.toNat) e .positive
    rw [compare_gt_iff_gt.mpr pos]
    rwa [cast, unit, one_mul] at rounded

theorem Proper.add (first : Proper f) (second : Proper g) :
    Rounded (value f + value g) (f.add .binary64 g) := by
  cases first with
  | zero s =>
    rw [value_zero, AddZeroClass.zero_add]
    cases second with
    | zero t => cases s <;> cases t <;> exact rounded_zero _
    | finite t canonical => exact canonical.nearest t
  | @finite s m e first =>
    cases second with
    | zero t =>
      rw [value_zero, add_zero]
      exact first.nearest s
    | @finite t n d second =>
      have rounded := rounded_normalize (s.apply (decreaseExponent m e (min e d)).1 +
        t.apply (decreaseExponent n d (min e d)).1) (min e d) .positive
      rw [Int.cast_add, cast_apply, cast_apply, add_mul, mul_assoc, mul_assoc, Int.cast_natCast,
        Int.cast_natCast, decreaseExponent_value _ (min_le_left e d),
        decreaseExponent_value _ (min_le_right e d)] at rounded
      exact rounded

theorem Proper.neg (proper : Proper f) : Proper f.neg := by
  cases proper with
  | zero s => exact .zero (-s)
  | finite s canonical => exact .finite (-s) canonical

theorem value_neg (proper : Proper f) : value f.neg = -value f := by
  cases proper with
  | zero s => exact neg_zero.symm
  | finite s canonical =>
    change unit (-s) * _ = -(unit s * _)
    rw [unit_neg, neg_mul]

theorem sub_eq_add (first : Proper f) (second : Proper g) :
    f.sub .binary64 g = f.add .binary64 g.neg := by
  cases first with
  | zero s => cases second <;> rfl
  | finite s first =>
    cases second with
    | zero t => rfl
    | finite t second => cases t <;> simp [UnpackedFloat.sub, UnpackedFloat.add, UnpackedFloat.neg,
        Sign.apply, sub_eq_add_neg]

theorem Proper.sub (first : Proper f) (second : Proper g) :
    Rounded (value f - value g) (f.sub .binary64 g) := by
  rw [sub_eq_add first second, sub_eq_add_neg, ← value_neg second]
  exact first.add second.neg

theorem Proper.mul (first : Proper f) (second : Proper g) :
    Rounded (value f * value g) (f.mul .binary64 g) := by
  cases first with
  | zero s =>
    rw [value_zero, zero_mul]
    cases second <;> exact rounded_zero _
  | @finite s m e first =>
    cases second with
    | zero t =>
      rw [value_zero, MulZeroClass.mul_zero]
      exact rounded_zero _
    | @finite t n d second =>
      have exact : Marks (.ofMantissaAndAccuracy (m * n) .exact)
          (m * 2 ^ e * (n * 2 ^ d) / 2 ^ (e + d) : ℝ) := by
        change _ = ((m * n : Nat) : ℝ)
        rw [zpow_add₀ two_ne_zero, mul_mul_mul_comm, Nat.cast_mul]
        exact mul_div_cancel_right₀ _ (by positivity)
      -- Two subnormal factors have a product far below the least exponent.
      have fine : 2 ^ 52 ≤ m * n ∨ e + d ≤ -1074 := by
        by_cases wide : 2 ^ 52 ≤ m * n
        · exact .inl wide
        · have left := Nat.le_mul_of_pos_right m second.pos
          have right := Nat.le_mul_of_pos_left n first.pos
          have := first.subnormal (by omega)
          have := second.subnormal (by omega)
          omega
      have rounded := exact.rounded fine (s * t)
      rwa [unit_mul, mul_mul_mul_comm] at rounded

theorem marks_fraction (num : Nat) {den : Nat} (pos : 0 < den) :
    Marks (.ofMantissaAndAccuracy (num / den) (accuracyOfFraction (num % den) den))
      ((num : ℝ) / den) := by
  have den_pos : (0 : ℝ) < den := by exact_mod_cast pos
  have lt : ((num % den : Nat) : ℝ) < den := by exact_mod_cast Nat.mod_lt num pos
  have parts : (num : ℝ) = den * (num / den : Nat) + (num % den : Nat) := by
    exact_mod_cast (Nat.div_add_mod num den).symm
  rw [parts, add_div, mul_div_cancel_left₀ _ den_pos.ne']
  generalize num / den = quotient, num % den = rest at lt ⊢
  unfold accuracyOfFraction
  by_cases whole : rest = 0
  · simp [whole, marks_exact_iff]
  have rest_pos : (0 : ℝ) < rest / den := div_pos (by exact_mod_cast Nat.pos_of_ne_zero whole) den_pos
  rw [if_neg whole]
  rcases order : compare (2 * rest) den with _ | _ | _
  · have below : (2 * rest : ℝ) < den := by exact_mod_cast compare_lt_iff_lt.mp order
    have : (rest / den : ℝ) < 1 / 2 := by rw [div_lt_iff₀ den_pos]; linarith
    rw [marks_lt_iff]
    constructor <;> linarith
  · have tie : (2 * rest : ℝ) = den := by exact_mod_cast compare_eq_iff_eq.mp order
    have : (rest / den : ℝ) = 1 / 2 := by rw [div_eq_iff den_pos.ne']; linarith
    rw [marks_eq_iff, this]
  · have above : (den : ℝ) < 2 * rest := by exact_mod_cast compare_gt_iff_gt.mp order
    have : (1 / 2 : ℝ) < rest / den := by rw [lt_div_iff₀ den_pos]; linarith
    have : (rest / den : ℝ) < 1 := (div_lt_one den_pos).mpr lt
    rw [marks_gt_iff]
    constructor <;> linarith

theorem rounded_divCore {n : Nat} (m_pos : 0 < m) (n_pos : 0 < n) (e d : ℤ) (s : Sign) :
    Rounded (unit s * (m * 2 ^ e / (n * 2 ^ d)))
      (roundWithAccuracy .binary64 s (divCore .binary64 m e n d).1 (divCore .binary64 m e n d).2.1
        (divCore .binary64 m e n d).2.2) := by
  unfold divCore
  dsimp only
  rw [targetExponent_eq, totalExponent, totalExponent]
  generalize c_eq : min (e - d) (max ((m.log2 : ℤ) + 1 + e - (n.log2 + 1 + d) - 53) (-1074)) = c
  obtain ⟨k, rfl⟩ : ∃ k : Nat, e = d + c + k := ⟨(e - d - c).toNat, by omega⟩
  have shift : (d + c + k - d - c).toNat = k := by omega
  rw [shift, Nat.shiftLeft_eq]
  apply Marks.rounded
  · have cancelled : (m * 2 ^ (d + c + k) / (n * 2 ^ d) / 2 ^ c : ℝ) = (m * 2 ^ k : Nat) / n := by
      rw [zpow_add₀ two_ne_zero, zpow_add₀ two_ne_zero, zpow_natCast]
      push_cast
      field_simp
    rw [cancelled]
    exact marks_fraction _ n_pos
  · by_cases least : c ≤ -1074
    · exact .inr least
    · left
      have width : n.log2 + 1 + 52 ≤ m.log2 + k := by omega
      rw [Nat.le_div_iff_mul_le n_pos]
      calc 2 ^ 52 * n ≤ 2 ^ 52 * 2 ^ (n.log2 + 1) := Nat.mul_le_mul_left _ Nat.lt_log2_self.le
        _ = 2 ^ (n.log2 + 1 + 52) := by rw [← pow_add, add_comm]
        _ ≤ 2 ^ (m.log2 + k) := Nat.pow_le_pow_right Nat.two_pos width
        _ = 2 ^ m.log2 * 2 ^ k := pow_add _ _ _
        _ ≤ m * 2 ^ k := Nat.mul_le_mul_right _ (Nat.log2_self_le m_pos.ne')

theorem Proper.div (first : Proper f) (second : Proper g) (nonzero : value g ≠ 0) :
    Rounded (value f / value g) (f.div .binary64 g) := by
  cases second with
  | zero t => exact absurd rfl nonzero
  | @finite t n d second =>
    cases first with
    | zero s =>
      rw [value_zero, zero_div]
      exact rounded_zero _
    | @finite s m e first =>
      have rounded := rounded_divCore first.pos second.pos e d (s / t)
      rwa [unit_div, div_mul_div_comm] at rounded

theorem marks_sqrt (m : Nat) :
    Marks (.ofMantissaAndAccuracy m.sqrt (if m - m.sqrt * m.sqrt = 0 then .exact
      else .inexact (if m - m.sqrt * m.sqrt ≤ m.sqrt then .lt else .gt))) (√m) := by
  have ge := m.sqrt_le
  have lt := m.lt_succ_sqrt
  generalize m.sqrt = root at ge lt ⊢
  obtain ⟨rest, rfl⟩ := Nat.exists_eq_add_of_le ge
  have rest_le : rest ≤ 2 * root := by
    rw [Nat.succ_eq_add_one] at lt
    linarith
  rw [Nat.add_sub_cancel_left]
  push_cast
  by_cases whole : rest = 0
  · simp [whole, marks_exact_iff]
  have rest_pos : (1 : ℝ) ≤ rest := by exact_mod_cast Nat.pos_of_ne_zero whole
  have above : (root : ℝ) < √(root * root + rest) := Real.lt_sqrt_of_sq_lt (by linarith)
  rw [if_neg whole]
  by_cases low : rest ≤ root
  · have low' : (rest : ℝ) ≤ root := by exact_mod_cast low
    rw [if_pos low, marks_lt_iff]
    exact ⟨above, (Real.sqrt_lt' (by positivity)).mpr (by linarith)⟩
  · have high : (root + 1 : ℝ) ≤ rest := by exact_mod_cast Nat.lt_of_not_le low
    have most : (rest : ℝ) ≤ 2 * root := by exact_mod_cast rest_le
    rw [if_neg low, marks_gt_iff]
    exact ⟨Real.lt_sqrt_of_sq_lt (by linarith),
      (Real.sqrt_lt' (by positivity)).mpr (by linarith)⟩

theorem rounded_sqrtCore (pos : 0 < m) (e : ℤ) :
    Rounded (√(m * 2 ^ e)) (roundWithAccuracy .binary64 .positive (sqrtCore .binary64 m e).1
      (sqrtCore .binary64 m e).2.1 (sqrtCore .binary64 m e).2.2) := by
  unfold sqrtCore
  dsimp only
  rw [targetExponent_eq, totalExponent]
  generalize t_eq : min (e.ediv 2) (max (((m.log2 : ℤ) + 1 + e + 1).ediv 2 - 53) (-1074)) = t
  change min (e / 2) (max (((m.log2 : ℤ) + 1 + e + 1) / 2 - 53) (-1074)) = t at t_eq
  obtain ⟨k, rfl⟩ : ∃ k : Nat, e = k + 2 * t := ⟨(e - 2 * t).toNat, by omega⟩
  rw [add_sub_cancel_right, Int.toNat_natCast, Nat.shiftLeft_eq]
  rw [← one_mul (√_)]
  apply Marks.rounded (s := .positive)
  · have halved : √(m * 2 ^ (k + 2 * t) : ℝ) / 2 ^ t = √(m * 2 ^ k : Nat) := by
      rw [zpow_add₀ two_ne_zero, mul_comm 2 t, zpow_mul, zpow_natCast, zpow_ofNat, ← mul_assoc,
        Real.sqrt_mul (by positivity), Real.sqrt_sq (by positivity)]
      push_cast
      exact mul_div_cancel_right₀ _ (by positivity)
    rw [halved]
    exact marks_sqrt _
  · by_cases least : t ≤ -1074
    · exact .inr least
    · left
      rw [Nat.le_sqrt]
      calc 2 ^ 52 * 2 ^ 52 = 2 ^ 104 := rfl
        _ ≤ 2 ^ (m.log2 + k) := Nat.pow_le_pow_right Nat.two_pos (by omega)
        _ = 2 ^ m.log2 * 2 ^ k := pow_add _ _ _
        _ ≤ m * 2 ^ k := Nat.mul_le_mul_right _ (Nat.log2_self_le pos.ne')

theorem Proper.sqrt (proper : Proper f) (nonneg : 0 ≤ value f) :
    Rounded (√(value f)) (f.sqrt .binary64) := by
  cases proper with
  | zero s =>
    rw [value_zero, Real.sqrt_zero]
    exact rounded_zero s
  | @finite s m e canonical =>
    have pos : (0 : ℝ) < m * 2 ^ e := mul_pos (by exact_mod_cast canonical.pos) (by positivity)
    cases s with
    | negative =>
      rw [value, unit, neg_one_mul] at nonneg
      linarith
    | positive =>
      rw [value, unit, one_mul]
      exact rounded_sqrtCore canonical.pos e

end Unpacked

noncomputable def real (x : Float) : ℝ :=
  value x.toModel.unpack

structure Computes (r : ℝ) (x : Float) : Prop where
  finite : x.isFinite = true
  nearest : Nearest r (real x)

section Floats

variable {f : UnpackedFloat} {x y : Float} {r : ℝ}

theorem proper_of_isFinite (finite : x.isFinite = true) : Proper x.toModel.unpack := by
  change x.toModel.unpack.isFinite = true at finite
  cases read : x.toModel.unpack with
  | notANumber | infinity s =>
    rw [read] at finite
    cases finite
  | zero s => exact .zero s
  | finite s m e pos => exact .finite s (canonical_of_unpack read)

theorem Canonical.exponent_le {m : Nat} {e : ℤ} (canonical : Canonical m e) {top : ℤ}
    (low : -1022 ≤ top) (le : (m * 2 ^ e : ℝ) ≤ 2 ^ top) : e + 52 ≤ top := by
  by_cases wide : 2 ^ 52 ≤ m
  · have scaled : (2 : ℝ) ^ (e + 52) ≤ 2 ^ top := by
      rw [add_comm, zpow_add₀ two_ne_zero]
      refine le_trans (mul_le_mul_of_nonneg_right ?_ (by positivity)) le
      exact_mod_cast wide
    exact (zpow_le_zpow_iff_right₀ one_lt_two).mp scaled
  · have := canonical.subnormal (by omega)
    omega

theorem Canonical.unpack_pack {m : Nat} {e : ℤ} (canonical : Canonical m e) (high : e ≤ 971)
    (s : Sign) : (Float.Model.pack (.finite s m e canonical.pos)).unpack =
      .finite s m e canonical.pos := by
  by_cases wide : 2 ^ 52 ≤ m
  · exact unpack_pack_normal s canonical.pos wide canonical.lt canonical.ge high
  · obtain rfl := canonical.subnormal (Nat.lt_of_not_le wide)
    exact unpack_pack_subnormal s canonical.pos (Nat.lt_of_not_le wide)

theorem Proper.unpack_pack (proper : Proper f) (le : |value f| ≤ 2 ^ (1023 : ℤ)) :
    (Float.Model.pack f).unpack = f := by
  cases proper with
  | zero s => exact unpack_pack_zero s
  | @finite s m e canonical =>
    have magnitude : |value (.finite s m e canonical.pos)| = m * 2 ^ e := by
      rw [value, abs_mul, abs_unit, one_mul]
      exact abs_of_nonneg (by positivity)
    have high := canonical.exponent_le (by omega) (magnitude ▸ le)
    exact canonical.unpack_pack (by omega) s

theorem Rounded.computes (rounded : Rounded r f) (le : |r| ≤ 2 ^ (1023 : ℤ)) :
    Computes r (.ofModel (.pack f)) := by
  have kept := rounded.proper.unpack_pack (rounded.nearest.abs_le (by omega) le)
  refine ⟨?_, ?_⟩
  · change (Float.Model.pack f).unpack.isFinite = true
    rw [kept]
    cases rounded.proper <;> rfl
  · change Nearest r (value (Float.Model.pack f).unpack)
    rw [kept]
    exact rounded.nearest

theorem computes_add (x_finite : x.isFinite = true) (y_finite : y.isFinite = true)
    (le : |real x + real y| ≤ 2 ^ (1023 : ℤ)) : Computes (real x + real y) (x + y) :=
  ((proper_of_isFinite x_finite).add (proper_of_isFinite y_finite)).computes le

theorem computes_sub (x_finite : x.isFinite = true) (y_finite : y.isFinite = true)
    (le : |real x - real y| ≤ 2 ^ (1023 : ℤ)) : Computes (real x - real y) (x - y) :=
  ((proper_of_isFinite x_finite).sub (proper_of_isFinite y_finite)).computes le

theorem computes_mul (x_finite : x.isFinite = true) (y_finite : y.isFinite = true)
    (le : |real x * real y| ≤ 2 ^ (1023 : ℤ)) : Computes (real x * real y) (x * y) :=
  ((proper_of_isFinite x_finite).mul (proper_of_isFinite y_finite)).computes le

theorem computes_div (x_finite : x.isFinite = true) (y_finite : y.isFinite = true)
    (nonzero : real y ≠ 0) (le : |real x / real y| ≤ 2 ^ (1023 : ℤ)) :
    Computes (real x / real y) (x / y) :=
  ((proper_of_isFinite x_finite).div (proper_of_isFinite y_finite) nonzero).computes le

theorem computes_sqrt (finite : x.isFinite = true) (nonneg : 0 ≤ real x)
    (le : |√(real x)| ≤ 2 ^ (1023 : ℤ)) : Computes √(real x) x.sqrt :=
  ((proper_of_isFinite finite).sqrt nonneg).computes le

/-- The error is relative, but for a rest that is far below anything a flight can measure. -/
theorem Computes.error (computes : Computes r x) : |real x - r| ≤ |r| / 2 ^ 53 + 1 / 2 ^ 200 := by
  have least : (2 : ℝ) ^ (-1075 : ℤ) ≤ 2 ^ (-200 : ℤ) :=
    zpow_le_zpow_right₀ one_le_two (by omega)
  calc |real x - r| ≤ 2 ^ (-53 : ℤ) * |r| + 2 ^ (-1075 : ℤ) := computes.nearest.error
    _ ≤ 2 ^ (-53 : ℤ) * |r| + 2 ^ (-200 : ℤ) := by gcongr
    _ = |r| / 2 ^ 53 + 1 / 2 ^ 200 := by norm_num; ring

structure Bounded (bound : ℝ) (x : Float) : Prop where
  finite : x.isFinite = true
  le : |real x| ≤ bound

theorem Bounded.mono {small large : ℝ} (bounded : Bounded small x) (le : small ≤ large) :
    Bounded large x :=
  ⟨bounded.finite, bounded.le.trans le⟩

theorem Computes.bounded (computes : Computes r x) {k : Nat} (le : |r| ≤ 2 ^ k) :
    Bounded (2 ^ k) x ∧ |real x - r| ≤ 2 ^ k / 2 ^ 53 + 1 / 2 ^ 200 := by
  refine ⟨⟨computes.finite, ?_⟩, computes.error.trans (by gcongr)⟩
  have bounded := computes.nearest.abs_le (k := k) (by omega)
  rw [zpow_natCast] at bounded
  exact bounded le

theorem pow_le_limit {k : Nat} (le : k ≤ 1023) : (2 : ℝ) ^ k ≤ 2 ^ (1023 : ℤ) := by
  rw [← zpow_natCast]
  exact zpow_le_zpow_right₀ one_le_two (by exact_mod_cast le)

variable {a b : ℝ} {k : Nat}

theorem Bounded.add (x_bounded : Bounded a x) (y_bounded : Bounded b y) (le : a + b ≤ 2 ^ k)
    (small : k ≤ 1023) : Computes (real x + real y) (x + y) ∧ |real x + real y| ≤ 2 ^ k := by
  have sum_le : |real x + real y| ≤ 2 ^ k :=
    (abs_add_le _ _).trans ((add_le_add x_bounded.le y_bounded.le).trans le)
  exact ⟨computes_add x_bounded.finite y_bounded.finite (sum_le.trans (pow_le_limit small)), sum_le⟩

theorem Bounded.sub (x_bounded : Bounded a x) (y_bounded : Bounded b y) (le : a + b ≤ 2 ^ k)
    (small : k ≤ 1023) : Computes (real x - real y) (x - y) ∧ |real x - real y| ≤ 2 ^ k := by
  have difference_le : |real x - real y| ≤ 2 ^ k :=
    (abs_sub _ _).trans ((add_le_add x_bounded.le y_bounded.le).trans le)
  exact ⟨computes_sub x_bounded.finite y_bounded.finite
    (difference_le.trans (pow_le_limit small)), difference_le⟩

theorem Bounded.mul (x_bounded : Bounded a x) (y_bounded : Bounded b y) (le : a * b ≤ 2 ^ k)
    (small : k ≤ 1023) : Computes (real x * real y) (x * y) ∧ |real x * real y| ≤ 2 ^ k := by
  have product_le : |real x * real y| ≤ 2 ^ k := by
    rw [abs_mul]
    exact (mul_le_mul x_bounded.le y_bounded.le (abs_nonneg _)
      ((abs_nonneg _).trans x_bounded.le)).trans le
  exact ⟨computes_mul x_bounded.finite y_bounded.finite
    (product_le.trans (pow_le_limit small)), product_le⟩

end Floats

end WaypointNav.Binary64
