import WaypointNav.Proofs.Binary64.Rounding

/-! Rounding, told over the reals. The result is a multiple of a power of two that is nearest to what was
rounded, and that power is as small as the format allows. -/
namespace WaypointNav.Binary64

open Float.Model UnpackedFloat

/-- A multiple of the last place of `r` that no other is nearer to `r` than. -/
def Nearest (r v : ℝ) : Prop :=
  ∃ n t : ℤ, v = n * 2 ^ t ∧ |v - r| ≤ 2 ^ t / 2 ∧ -1074 ≤ t ∧ (t = -1074 ∨ 2 ^ (t + 52) ≤ |r|)

theorem Nearest.neg {r v : ℝ} (nearest : Nearest r v) : Nearest (-r) (-v) := by
  obtain ⟨n, t, rfl, near, low, fine⟩ := nearest
  refine ⟨-n, t, by push_cast; ring, ?_, low, ?_⟩
  · rwa [neg_sub_neg, abs_sub_comm]
  · rwa [abs_neg]

theorem half_zpow (t : ℤ) : (2 : ℝ) ^ t / 2 = 2 ^ (t - 1) := by
  rw [zpow_sub_one₀ two_ne_zero]
  rfl

theorem Nearest.error {r v : ℝ} (nearest : Nearest r v) :
    |v - r| ≤ 2 ^ (-53 : ℤ) * |r| + 2 ^ (-1075 : ℤ) := by
  obtain ⟨n, t, -, near, -, fine⟩ := nearest
  rw [half_zpow] at near
  rcases fine with rfl | fine
  · exact near.trans (le_add_of_nonneg_left (by positivity))
  · calc |v - r| ≤ 2 ^ (t - 1) := near
      _ = 2 ^ (-53 : ℤ) * 2 ^ (t + 52) := by
        rw [← zpow_add₀ two_ne_zero]
        congr 1
        ring
      _ ≤ 2 ^ (-53 : ℤ) * |r| := by gcongr
      _ ≤ _ := le_add_of_nonneg_right (by positivity)

theorem Nearest.nonneg {r v : ℝ} (nearest : Nearest r v) (nonneg : 0 ≤ r) : 0 ≤ v := by
  obtain ⟨n, t, rfl, near, -, -⟩ := nearest
  have unit_pos : (0 : ℝ) < 2 ^ t := by positivity
  have far : (-1 : ℝ) * 2 ^ t < n * 2 ^ t := by
    have := (abs_le.mp near).1
    linarith
  have count : (-1 : ℝ) < n := lt_of_mul_lt_mul_right far unit_pos.le
  have whole : 0 ≤ n := by
    have : -1 < n := by exact_mod_cast count
    omega
  exact mul_nonneg (by exact_mod_cast whole) unit_pos.le

/-- Rounding never passes a power of two. -/
theorem Nearest.abs_le {r v : ℝ} (nearest : Nearest r v) {k : ℤ} (low : -1074 ≤ k)
    (le : |r| ≤ 2 ^ k) : |v| ≤ 2 ^ k := by
  obtain ⟨n, t, rfl, near, -, fine⟩ := nearest
  have t_le : t ≤ k := by
    rcases fine with rfl | fine
    · exact low
    · have := (zpow_le_zpow_iff_right₀ one_lt_two).mp (fine.trans le)
      omega
  obtain ⟨j, rfl⟩ := Int.le.dest t_le
  have unit_pos : (0 : ℝ) < 2 ^ t := by positivity
  rw [zpow_add₀ two_ne_zero, zpow_natCast] at le ⊢
  rw [abs_mul, abs_of_pos unit_pos, mul_comm]
  apply mul_le_mul_of_nonneg_left _ unit_pos.le
  -- Both sides count units, and the count on the left is off by half a unit at most.
  have far : |(n : ℝ)| * 2 ^ t ≤ 2 ^ t * 2 ^ j + 2 ^ t / 2 := by
    have := abs_sub_abs_le_abs_sub ((n : ℝ) * 2 ^ t) r
    rw [abs_mul, abs_of_pos unit_pos] at this
    linarith
  have count : |(n : ℝ)| < 2 ^ j + 1 := by
    apply lt_of_mul_lt_mul_right _ unit_pos.le
    linarith
  have whole : |n| < 2 ^ j + 1 := by exact_mod_cast count
  exact_mod_cast Int.lt_add_one_iff.mp whole

/-- What a mantissa with its two residual bits says about a number that was cut to it. -/
def Marks (em : ExtendedMantissa) (q : ℝ) : Prop :=
  match em.roundBit, em.stickyBit with
  | false, false => q = em.mantissa
  | false, true => em.mantissa < q ∧ q < em.mantissa + 1 / 2
  | true, false => q = em.mantissa + 1 / 2
  | true, true => em.mantissa + 1 / 2 < q ∧ q < em.mantissa + 1

theorem marks_exact_iff {m : Nat} {q : ℝ} :
    Marks (.ofMantissaAndAccuracy m .exact) q ↔ q = m := Iff.rfl

theorem marks_lt_iff {m : Nat} {q : ℝ} :
    Marks (.ofMantissaAndAccuracy m (.inexact .lt)) q ↔ m < q ∧ q < m + 1 / 2 := Iff.rfl

theorem marks_eq_iff {m : Nat} {q : ℝ} :
    Marks (.ofMantissaAndAccuracy m (.inexact .eq)) q ↔ q = m + 1 / 2 := Iff.rfl

theorem marks_gt_iff {m : Nat} {q : ℝ} :
    Marks (.ofMantissaAndAccuracy m (.inexact .gt)) q ↔ m + 1 / 2 < q ∧ q < m + 1 := Iff.rfl

variable {em : ExtendedMantissa} {q r : ℝ} {m : Nat} {e : ℤ} {accuracy : Accuracy}

@[simp] theorem shiftRightOne_even (half : Nat) (roundBit stickyBit : Bool) :
    ExtendedMantissa.shiftRightOne ⟨2 * half, roundBit, stickyBit⟩ =
      ⟨half, false, roundBit || stickyBit⟩ := by
  simp [ExtendedMantissa.shiftRightOne]

@[simp] theorem shiftRightOne_odd (half : Nat) (roundBit stickyBit : Bool) :
    ExtendedMantissa.shiftRightOne ⟨2 * half + 1, roundBit, stickyBit⟩ =
      ⟨half, true, roundBit || stickyBit⟩ := by
  have halved : (2 * half + 1) / 2 = half := by omega
  simp [ExtendedMantissa.shiftRightOne, halved]

theorem Marks.shiftRightOne (marks : Marks em q) : Marks em.shiftRightOne (q / 2) := by
  obtain ⟨m, roundBit, stickyBit⟩ := em
  obtain ⟨half, rfl | rfl⟩ := m.even_or_odd'
  · rw [shiftRightOne_even]
    cases roundBit <;> cases stickyBit <;> simp only [Marks, Bool.or_self, Bool.or_true,
      Bool.or_false] at marks ⊢ <;> push_cast at marks <;> grind
  · rw [shiftRightOne_odd]
    cases roundBit <;> cases stickyBit <;> simp only [Marks, Bool.or_self, Bool.or_true,
      Bool.or_false] at marks ⊢ <;> push_cast at marks <;> grind

theorem Marks.shiftRight (marks : Marks em q) (k : Nat) : Marks (em >>> k) (q / 2 ^ k) := by
  change Marks (k.repeat ExtendedMantissa.shiftRightOne em) _
  induction k with
  | zero => simpa [Nat.repeat] using marks
  | succ k ih =>
    rw [Nat.repeat, pow_succ, ← div_div]
    exact ih.shiftRightOne

@[simp] theorem roundedMantissa_below (m : Nat) (stickyBit : Bool) :
    (⟨m, false, stickyBit⟩ : ExtendedMantissa).roundedMantissa = m := by
  cases stickyBit <;> rfl

@[simp] theorem roundedMantissa_tie (m : Nat) :
    (⟨m, true, false⟩ : ExtendedMantissa).roundedMantissa = m + m % 2 := rfl

@[simp] theorem roundedMantissa_above (m : Nat) :
    (⟨m, true, true⟩ : ExtendedMantissa).roundedMantissa = m + 1 := rfl

theorem Marks.roundedMantissa (marks : Marks em q) : |(em.roundedMantissa : ℝ) - q| ≤ 1 / 2 := by
  obtain ⟨m, roundBit, stickyBit⟩ := em
  rw [abs_le]
  cases roundBit with
  | false =>
    obtain ⟨ge, le⟩ : m ≤ q ∧ q ≤ m + 1 / 2 := by
      cases stickyBit <;> simp only [Marks] at marks <;> constructor <;> linarith
    rw [roundedMantissa_below]
    constructor <;> linarith
  | true =>
    cases stickyBit with
    | false =>
      -- a tie, which goes either way
      obtain rfl : q = m + 1 / 2 := marks
      have parity : ((m % 2 : Nat) : ℝ) ≤ 1 := by exact_mod_cast Nat.le_of_lt_succ (m.mod_lt two_pos)
      have parity_nonneg : (0 : ℝ) ≤ (m % 2 : Nat) := Nat.cast_nonneg _
      rw [roundedMantissa_tie, Nat.cast_add]
      constructor <;> linarith
    | true =>
      obtain ⟨above, below⟩ : m + 1 / 2 < q ∧ q < m + 1 := marks
      rw [roundedMantissa_above, Nat.cast_add_one]
      constructor <;> linarith

theorem Marks.mantissa_bounds (marks : Marks em q) : em.mantissa ≤ q ∧ q < em.mantissa + 1 := by
  obtain ⟨m, roundBit, stickyBit⟩ := em
  cases roundBit <;> cases stickyBit <;> simp only [Marks] at marks <;> constructor <;> linarith

theorem le_targetExponent (fine : 2 ^ 52 ≤ m ∨ e ≤ -1074) :
    e ≤ Format.binary64.targetExponent (totalExponent m e) := by
  rw [targetExponent_eq, totalExponent]
  rcases fine with wide | low
  · have width : 52 ≤ m.log2 := (Nat.le_log2 (by omega)).mpr wide
    omega
  · omega

/-- The first shift leaves 53 bits, or as few as there are above the least exponent. -/
theorem Marks.shiftToTargetExponent (marks : Marks (.ofMantissaAndAccuracy m accuracy) (r / 2 ^ e))
    (fine : 2 ^ 52 ≤ m ∨ e ≤ -1074) :
    ∃ em t, shiftToTargetExponent .binary64 m e accuracy = (em, t) ∧ Marks em (r / 2 ^ t) ∧
      em.mantissa < 2 ^ 53 ∧ -1074 ≤ t ∧ (2 ^ 52 ≤ em.mantissa ∨ t = -1074) := by
  obtain ⟨k, target⟩ := Int.le.dest (le_targetExponent fine)
  have mantissa_eq : (ExtendedMantissa.ofMantissaAndAccuracy m accuracy).mantissa = m := by
    cases accuracy with
    | exact => rfl
    | inexact order => cases order <;> rfl
  refine ⟨ExtendedMantissa.ofMantissaAndAccuracy m accuracy >>> k, e + k, ?_, ?_, ?_, ?_, ?_⟩
  · unfold UnpackedFloat.shiftToTargetExponent shiftToExponent
    dsimp only
    rw [← target, add_sub_cancel_left, Int.toNat_natCast]
  · rw [zpow_add₀ two_ne_zero, zpow_natCast, ← div_div]
    exact marks.shiftRight k
  all_goals
    rw [targetExponent_eq, totalExponent] at target
  · have lt : m < 2 ^ (m.log2 + 1) := Nat.lt_log2_self
    rw [mantissa_shiftRight, mantissa_eq, Nat.div_lt_iff_lt_mul (Nat.two_pow_pos k), ← pow_add]
    exact lt.trans_le (Nat.pow_le_pow_right Nat.two_pos (by omega))
  · omega
  · rw [mantissa_shiftRight, mantissa_eq, Nat.le_div_iff_mul_le (Nat.two_pow_pos k), ← pow_add]
    by_cases least : e + k = -1074
    · exact .inr least
    · have width : 52 + k = m.log2 := by omega
      rw [width]
      exact .inl (Nat.log2_self_le (by rintro rfl; simp at width))

def unit : Sign → ℝ
  | .positive => 1
  | .negative => -1

noncomputable def value : UnpackedFloat → ℝ
  | .finite s m e _ => unit s * (m * 2 ^ e)
  | _ => 0

@[simp] theorem value_zero (s : Sign) : value (.zero s) = 0 := rfl

/-- The numbers that an operation on finite floats can give. -/
inductive Proper : UnpackedFloat → Prop
  | zero (s : Sign) : Proper (.zero s)
  | finite (s : Sign) {m : Nat} {e : ℤ} (canonical : Canonical m e) :
    Proper (.finite s m e canonical.pos)

structure Rounded (r : ℝ) (f : UnpackedFloat) : Prop where
  proper : Proper f
  nearest : Nearest r (value f)

theorem Nearest.unit_mul {v : ℝ} (nearest : Nearest r v) (s : Sign) :
    Nearest (unit s * r) (unit s * v) := by
  cases s with
  | positive => simpa [unit] using nearest
  | negative => simpa [unit] using nearest.neg

/-- Rounding may carry into one bit more, and that bit is shifted out again. -/
theorem roundWithAccuracy_proper {t : ℤ} (s : Sign)
    (first : shiftToTargetExponent .binary64 m e accuracy = (em, t))
    (le : em.roundedMantissa ≤ 2 ^ 53) (low : -1074 ≤ t)
    (fine : 2 ^ 52 ≤ em.roundedMantissa ∨ t = -1074) :
    ∃ f, roundWithAccuracy .binary64 s m e accuracy = f ∧ Proper f ∧
      value f = unit s * (em.roundedMantissa * 2 ^ t) := by
  by_cases none : em.roundedMantissa = 0
  · have least : t = -1074 := by omega
    refine ⟨.zero s, ?_, .zero s, by simp [none, value]⟩
    unfold roundWithAccuracy
    rw [first]
    dsimp only
    rw [none, least]
    rfl
  have pos : 0 < em.roundedMantissa := Nat.pos_of_ne_zero none
  by_cases carried : em.roundedMantissa = 2 ^ 53
  · have canonical : Canonical (2 ^ 52) (t + 1) := ⟨by omega, by omega, by omega, by omega⟩
    have second : shiftToTargetExponent .binary64 em.roundedMantissa t .exact =
        (⟨2 ^ 52, false, false⟩, t + 1) := by
      have again := shiftToTargetExponent_exact canonical 1
      rwa [pow_one, Int.ofNat_one, add_sub_cancel_right, ← pow_succ, ← carried] at again
    refine ⟨_, roundWithAccuracy_eq s first second canonical.pos, .finite s canonical, ?_⟩
    rw [carried, value, zpow_add_one₀ two_ne_zero]
    push_cast
    ring
  · have canonical : Canonical em.roundedMantissa t := ⟨pos, by omega, by omega, low⟩
    have second : shiftToTargetExponent .binary64 em.roundedMantissa t .exact =
        (⟨em.roundedMantissa, false, false⟩, t) := by
      have again := shiftToTargetExponent_exact canonical 0
      rwa [pow_zero, Nat.mul_one, Int.ofNat_zero, sub_zero] at again
    exact ⟨_, roundWithAccuracy_eq s first second pos, .finite s canonical, rfl⟩

/-- What is marked by a mantissa that is wide enough is rounded to the nearest. -/
theorem Marks.rounded (marks : Marks (.ofMantissaAndAccuracy m accuracy) (r / 2 ^ e))
    (fine : 2 ^ 52 ≤ m ∨ e ≤ -1074) (s : Sign) :
    Rounded (unit s * r) (roundWithAccuracy .binary64 s m e accuracy) := by
  obtain ⟨em, t, first, shifted, lt, low, fine⟩ := marks.shiftToTargetExponent fine
  obtain ⟨kept, carried⟩ := roundedMantissa_bounds em
  obtain ⟨f, f_eq, proper, value_eq⟩ := roundWithAccuracy_proper s first (by omega) low (by omega)
  have unit_pos : (0 : ℝ) < 2 ^ t := by positivity
  rw [f_eq]
  refine ⟨proper, value_eq ▸ Nearest.unit_mul ⟨em.roundedMantissa, t, by simp, ?_, low, ?_⟩ s⟩
  · have near := mul_le_mul_of_nonneg_right shifted.roundedMantissa unit_pos.le
    rw [← abs_of_pos unit_pos, ← abs_mul, abs_of_pos unit_pos, sub_mul,
      div_mul_cancel₀ _ unit_pos.ne'] at near
    linarith
  · apply fine.symm.imp_right
    intro wide
    have cut := (le_div_iff₀ unit_pos).mp shifted.mantissa_bounds.1
    have scaled : (2 : ℝ) ^ 52 ≤ em.mantissa := by exact_mod_cast wide
    rw [zpow_add₀ two_ne_zero, mul_comm]
    calc (2 : ℝ) ^ (52 : ℤ) * 2 ^ t ≤ em.mantissa * 2 ^ t := by gcongr; exact_mod_cast scaled
      _ ≤ r := cut
      _ ≤ |r| := le_abs_self r

end WaypointNav.Binary64
