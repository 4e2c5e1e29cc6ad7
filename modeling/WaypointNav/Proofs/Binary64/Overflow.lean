import WaypointNav.Proofs.Binary64.Order

/-! Arithmetic that may overflow. A result that is too large for the format is an infinity of its sign, so the
root of a sum of squares of differences is never NaN, however far apart the finite floats are. -/
namespace WaypointNav.Binary64

open Float.Model UnpackedFloat

section Unpacked

variable {f g : UnpackedFloat}

inductive Extended : UnpackedFloat → Prop
  | proper {f : UnpackedFloat} (proper : Proper f) : Extended f
  | infinity (s : Sign) : Extended (.infinity s)

inductive Unsigned : UnpackedFloat → Prop
  | proper {f : UnpackedFloat} (proper : Proper f) (nonneg : 0 ≤ value f) : Unsigned f
  | infinity : Unsigned (.infinity .positive)

theorem Rounded.unsigned {r : ℝ} (rounded : Rounded r f) (nonneg : 0 ≤ r) : Unsigned f :=
  .proper rounded.proper (rounded.nearest.nonneg nonneg)

theorem unpack_pack_infinity (s : Sign) :
    (Float.Model.pack (.infinity s)).unpack = .infinity s := by
  cases s <;> rfl

theorem unpack_pack_huge (s : Sign) {m : Nat} {e : ℤ} (pos : 0 < m) (high : 971 < e) :
    (Float.Model.pack (.finite s m e pos)).unpack = .infinity s := by
  have exceeds : 2 ^ 11 ≤ (e + 1023 + 52).toNat + 1 := by omega
  have packed : Float.Model.pack (.finite s m e pos) = .pack (.infinity s) := by
    unfold Float.Model.pack
    congr 2
    exact if_pos exceeds
  rw [packed, unpack_pack_infinity]

/-- Packing keeps a number or makes it the infinity of its sign. -/
theorem Proper.unpack_pack_cases (proper : Proper f) :
    (Float.Model.pack f).unpack = f ∨
      ∃ s, (Float.Model.pack f).unpack = .infinity s ∧ (0 ≤ value f → s = .positive) := by
  cases proper with
  | zero s => exact .inl (unpack_pack_zero s)
  | @finite s m e canonical =>
    rcases le_or_gt e 971 with low | high
    · exact .inl (canonical.unpack_pack low s)
    · refine .inr ⟨s, unpack_pack_huge s canonical.pos high, fun nonneg => ?_⟩
      cases s with
      | positive => rfl
      | negative => exact absurd nonneg (not_le.mpr (value_neg_of_negative canonical))

theorem Extended.unpack_pack (extended : Extended f) : Extended (Float.Model.pack f).unpack := by
  cases extended with
  | infinity s =>
    rw [unpack_pack_infinity]
    exact .infinity s
  | proper proper =>
    rcases proper.unpack_pack_cases with kept | ⟨s, huge, -⟩
    · rw [kept]
      exact .proper proper
    · rw [huge]
      exact .infinity s

theorem Unsigned.unpack_pack (unsigned : Unsigned f) : Unsigned (Float.Model.pack f).unpack := by
  cases unsigned with
  | infinity =>
    rw [unpack_pack_infinity]
    exact .infinity
  | proper proper nonneg =>
    rcases proper.unpack_pack_cases with kept | ⟨s, huge, sign⟩
    · rw [kept]
      exact .proper proper nonneg
    · rw [huge, sign nonneg]
      exact .infinity

theorem Extended.isNaN_eq (extended : Extended f) : f.isNaN = false := by
  cases extended with
  | infinity s => rfl
  | proper proper => cases proper <;> rfl

theorem Extended.mul_self (extended : Extended f) : Unsigned (f.mul .binary64 f) := by
  cases extended with
  | infinity s => cases s <;> exact .infinity
  | proper proper => exact (proper.mul proper).unsigned (mul_self_nonneg _)

theorem Unsigned.add (first : Unsigned f) (second : Unsigned g) :
    Unsigned (f.add .binary64 g) := by
  cases first with
  | infinity =>
    cases second with
    | infinity => exact .infinity
    | proper second => cases second <;> exact .infinity
  | proper first first_nonneg =>
    cases second with
    | infinity => cases first <;> exact .infinity
    | proper second second_nonneg =>
      exact (first.add second).unsigned (add_nonneg first_nonneg second_nonneg)

theorem Unsigned.sqrt (unsigned : Unsigned f) : Extended (f.sqrt .binary64) := by
  cases unsigned with
  | infinity => exact .infinity .positive
  | proper proper nonneg => exact .proper (proper.sqrt nonneg).proper

end Unpacked

section Floats

variable {x y : Float}

theorem extended_sub (x_finite : x.isFinite = true) (y_finite : y.isFinite = true) :
    Extended (x - y).toModel.unpack :=
  .unpack_pack (.proper ((proper_of_isFinite x_finite).sub (proper_of_isFinite y_finite)).proper)

/-- The root of a sum of two squares. -/
theorem extended_norm (x_extended : Extended x.toModel.unpack) (y_extended : Extended y.toModel.unpack) :
    Extended (x * x + y * y).sqrt.toModel.unpack :=
  (x_extended.mul_self.unpack_pack.add y_extended.mul_self.unpack_pack).unpack_pack.sqrt.unpack_pack

end Floats

end WaypointNav.Binary64
