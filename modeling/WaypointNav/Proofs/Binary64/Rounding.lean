import WaypointNav.Proofs.Binary64.Encoding

/-! Rounding. A number in canonical form is kept, also when it comes with zero bits behind it, and any number of
a middling size is rounded to a nonzero one. -/
namespace WaypointNav.Binary64

open Float.Model UnpackedFloat

theorem shiftRight_exact (m k : Nat) :
    (⟨m * 2 ^ k, false, false⟩ : ExtendedMantissa) >>> k = ⟨m, false, false⟩ := by
  change k.repeat ExtendedMantissa.shiftRightOne _ = _
  induction k generalizing m with
  | zero => simp [Nat.repeat]
  | succ k ih =>
    rw [Nat.pow_succ', ← Nat.mul_assoc, Nat.repeat, ih]
    simp [ExtendedMantissa.shiftRightOne]

theorem mantissa_shiftRight (em : ExtendedMantissa) (k : Nat) :
    (em >>> k).mantissa = em.mantissa / 2 ^ k := by
  change (k.repeat ExtendedMantissa.shiftRightOne em).mantissa = _
  induction k with
  | zero => simp [Nat.repeat]
  | succ k ih =>
    rw [Nat.repeat, Nat.pow_succ, ← Nat.div_div_eq_div_mul, ← ih]
    rfl

theorem roundedMantissa_bounds (em : ExtendedMantissa) :
    em.mantissa ≤ em.roundedMantissa ∧ em.roundedMantissa ≤ em.mantissa + 1 := by
  obtain ⟨m, roundBit, stickyBit⟩ := em
  unfold ExtendedMantissa.roundedMantissa
  cases roundBit with
  | false => cases stickyBit <;> exact ⟨Nat.le_refl m, Nat.le_succ m⟩
  | true =>
    cases stickyBit with
    | false =>
      -- a tie: up if the mantissa is odd
      change m ≤ m + m % 2 ∧ m + m % 2 ≤ m + 1
      omega
    | true => exact ⟨Nat.le_succ m, Nat.le_refl _⟩

theorem log2_mul_two_pow {m : Nat} (pos : 0 < m) (k : Nat) : (m * 2 ^ k).log2 = m.log2 + k := by
  induction k with
  | zero => rw [Nat.pow_zero, Nat.mul_one]; rfl
  | succ k ih =>
    have whole := Nat.mul_pos pos (Nat.two_pow_pos k)
    rw [Nat.pow_succ, ← Nat.mul_assoc, Nat.mul_comm, Nat.log2_two_mul (Nat.ne_of_gt whole), ih]
    rfl

theorem shiftToTargetExponent_exact {m : Nat} {e : Int} (canonical : Canonical m e) (k : Nat) :
    shiftToTargetExponent .binary64 (m * 2 ^ k) (e - k) .exact = (⟨m, false, false⟩, e) := by
  have total : totalExponent (m * 2 ^ k) (e - k) = totalExponent m e := by
    unfold totalExponent
    rw [log2_mul_two_pow canonical.pos]
    omega
  have shift : (e - (e - k)).toNat = k := by omega
  unfold shiftToTargetExponent shiftToExponent
  dsimp only
  rw [total, canonical.target, shift, Int.sub_add_cancel]
  exact congrArg (·, e) (shiftRight_exact m k)

theorem roundWithAccuracy_eq {spec : Format} {m : Nat} {e e₁ e₂ : Int} {accuracy : Accuracy}
    {em₁ em₂ : ExtendedMantissa} (s : Sign)
    (first : shiftToTargetExponent spec m e accuracy = (em₁, e₁))
    (second : shiftToTargetExponent spec em₁.roundedMantissa e₁ .exact = (em₂, e₂))
    (pos : 0 < em₂.mantissa) :
    roundWithAccuracy spec s m e accuracy = .finite s em₂.mantissa e₂ pos := by
  unfold roundWithAccuracy
  rw [first]
  dsimp only
  rw [second]
  exact dif_neg (Nat.ne_of_gt pos)

theorem round_exact {m : Nat} {e : Int} (canonical : Canonical m e) (s : Sign) (k : Nat) :
    roundWithAccuracy .binary64 s (m * 2 ^ k) (e - k) .exact = .finite s m e canonical.pos := by
  have again := shiftToTargetExponent_exact canonical 0
  rw [Nat.pow_zero, Nat.mul_one, Int.ofNat_zero, Int.sub_zero] at again
  exact roundWithAccuracy_eq s (shiftToTargetExponent_exact canonical k) again canonical.pos

theorem shiftToTargetExponent_eq {m : Nat} {e : Int} {k : Nat} (width : m.log2 = k + 52)
    (low : -1074 ≤ e + k) (accuracy : Accuracy) :
    ∃ em, shiftToTargetExponent .binary64 m e accuracy = (em, e + k) ∧
      em.mantissa = m / 2 ^ k := by
  have shift : (Format.binary64.targetExponent (totalExponent m e) - e).toNat = k := by
    rw [targetExponent_eq, totalExponent, width]
    omega
  unfold shiftToTargetExponent shiftToExponent
  dsimp only
  rw [shift]
  refine ⟨_, rfl, ?_⟩
  rw [mantissa_shiftRight]
  cases accuracy with
  | exact => rfl
  | inexact order => cases order <;> rfl

theorem nonzero_round {m : Nat} {e : Int} {k : Nat} (width : m.log2 = k + 52)
    (low : -1074 ≤ e + k) (high : e + k < 971) (s : Sign) (accuracy : Accuracy) :
    Nonzero (.pack (roundWithAccuracy .binary64 s m e accuracy)) := by
  obtain ⟨em, first, mantissa_eq⟩ := shiftToTargetExponent_eq width low accuracy
  have nonzero : m ≠ 0 := by
    rintro rfl
    rw [Nat.log2_zero] at width
    omega
  obtain ⟨ge, lt⟩ := (Nat.log2_eq_iff nonzero).mp width
  have least : 2 ^ 52 ≤ em.mantissa := by
    rw [mantissa_eq, Nat.le_div_iff_mul_le (Nat.two_pow_pos k), Nat.mul_comm, ← Nat.pow_add]
    exact ge
  have most : em.mantissa < 2 ^ 53 := by
    rw [mantissa_eq, Nat.div_lt_iff_lt_mul (Nat.two_pow_pos k), ← Nat.pow_add, Nat.add_comm]
    exact lt
  -- Rounding up may carry into one bit more, and that bit is shifted out again.
  obtain ⟨kept, carried⟩ := roundedMantissa_bounds em
  have rounded : ∃ j, j ≤ 1 ∧ em.roundedMantissa.log2 = j + 52 ∧
      2 ^ 52 ≤ em.roundedMantissa / 2 ^ j ∧ em.roundedMantissa / 2 ^ j < 2 ^ 53 := by
    by_cases fits : em.roundedMantissa < 2 ^ 53
    · exact ⟨0, Nat.zero_le 1, log2_eq (Nat.le_trans least kept) fits, by omega, by omega⟩
    · exact ⟨1, Nat.le_refl 1, log2_eq (by omega) (by omega), by omega, by omega⟩
  obtain ⟨j, j_le, width', least', most'⟩ := rounded
  have low' : -1074 ≤ e + k + j := by omega
  obtain ⟨em', second, mantissa_eq'⟩ := shiftToTargetExponent_eq width' low' .exact
  rw [← mantissa_eq'] at least' most'
  have pos := Nat.lt_of_lt_of_le (Nat.two_pow_pos 52) least'
  rw [roundWithAccuracy_eq s first second pos]
  exact nonzero_pack least' most' low' (by omega)

end WaypointNav.Binary64
