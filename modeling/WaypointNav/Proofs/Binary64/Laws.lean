import WaypointNav.Proofs.Binary64.Rounding

/-! Laws of float arithmetic that rounding does not touch. -/
namespace WaypointNav.Binary64

open Float.Model UnpackedFloat

theorem one_unpack :
    (1 : Float).toModel.unpack = .finite .positive (2 ^ 52) (-52) (Nat.two_pow_pos 52) := rfl

theorem divCore_self {m : Nat} (pos : 0 < m) (e : Int) :
    divCore .binary64 m e m e = (2 ^ 53, -53, .exact) := by
  unfold divCore
  dsimp only
  rw [Int.sub_self, Int.sub_self]
  change ((m <<< 53) / m, -53, accuracyOfFraction ((m <<< 53) % m) m) = _
  rw [Nat.shiftLeft_eq, Nat.mul_div_cancel_left _ pos, Nat.mul_mod_right]
  rfl

theorem div_self {x : Float} (nonzero : Nonzero x.toModel) : x / x = 1 := by
  obtain ⟨s, m, e, pos, read⟩ := nonzero
  have quotient : UnpackedFloat.div .binary64 (.finite s m e pos) (.finite s m e pos) =
      roundWithAccuracy .binary64 .positive (2 ^ 53) (-53) .exact := by
    simp only [UnpackedFloat.div, divCore_self pos]
    cases s <;> rfl
  change Float.ofModel (.pack (UnpackedFloat.div .binary64 _ _)) = _
  rw [read, quotient]
  rfl

theorem mul_one (x : Float) : x * 1 = x := by
  change Float.ofModel (.pack (UnpackedFloat.mul .binary64 _ (1 : Float).toModel.unpack)) = _
  have product : UnpackedFloat.mul .binary64 x.toModel.unpack (1 : Float).toModel.unpack =
      x.toModel.unpack := by
    rw [one_unpack]
    cases read : x.toModel.unpack with
    | notANumber => rfl
    | infinity s | zero s => cases s <;> rfl
    | finite s m e pos =>
      have sign : s * .positive = s := by cases s <;> rfl
      change roundWithAccuracy .binary64 (s * .positive) (m * 2 ^ 52) (e - (52 : Nat)) .exact = _
      rw [sign]
      exact round_exact (canonical_of_unpack read) s 52
  rw [product, pack_unpack]

def IsZero (x : Float) : Prop :=
  ∃ s, x.toModel.unpack = .zero s

theorem mul_zero {x : Float} (finite : x.isFinite = true) : IsZero (x * (1 - 1)) := by
  have zero : (1 - 1 : Float).toModel.unpack = .zero .positive := rfl
  change x.toModel.unpack.isFinite = true at finite
  change ∃ s, (Float.Model.pack (UnpackedFloat.mul _ _ (1 - 1 : Float).toModel.unpack)).unpack = _
  rw [zero]
  cases read : x.toModel.unpack with
  | notANumber | infinity s =>
    rw [read] at finite
    cases finite
  | zero s | finite s m e pos => exact ⟨_, unpack_pack_zero _⟩

theorem sub_same {x : Float} (finite : x.isFinite = true) : x - x = 0 := by
  change x.toModel.unpack.isFinite = true at finite
  change Float.ofModel (.pack (UnpackedFloat.sub .binary64 _ _)) = 0
  cases read : x.toModel.unpack with
  | notANumber | infinity s =>
    rw [read] at finite
    cases finite
  | zero s => cases s <;> rfl
  | finite s m e pos =>
    have difference : UnpackedFloat.sub .binary64 (.finite s m e pos) (.finite s m e pos) =
        .zero .positive := by
      simp only [UnpackedFloat.sub, Int.sub_self, UnpackedFloat.normalize]
      rfl
    rw [difference]
    rfl

theorem zero_add {x y : Float} (zero : IsZero x) (finite : y.isFinite = true) :
    (x + y == y) = true := by
  obtain ⟨s, zero⟩ := zero
  change y.toModel.unpack.isFinite = true at finite
  change (Float.Model.pack (UnpackedFloat.add .binary64 _ _)).unpack.beq _ = true
  rw [zero]
  cases read : y.toModel.unpack with
  | notANumber | infinity t =>
    rw [read] at finite
    cases finite
  | zero t => cases s <;> cases t <;> rfl
  | finite t m e pos =>
    change (Float.Model.pack (.finite t m e pos)).unpack.beq _ = true
    rw [← read, pack_unpack, read]
    cases t <;> simp [UnpackedFloat.beq, UnpackedFloat.compare]

theorem nonzero_ofNat {n : Nat} (pos : 0 < n) (lt : n < 2 ^ 53) : Nonzero (.ofNat n) := by
  have short : n.log2 < 53 := (Nat.log2_lt (Nat.ne_of_gt pos)).mpr lt
  have shift : (0 - Format.binary64.targetExponent (totalExponent n 0)).toNat = 52 - n.log2 := by
    rw [targetExponent_eq, totalExponent]
    omega
  have normal : UnpackedFloat.ofNat .binary64 n =
      roundWithAccuracy .binary64 .positive (n * 2 ^ (52 - n.log2))
        (0 - (52 - n.log2 : Nat)) .exact := by
    unfold UnpackedFloat.ofNat UnpackedFloat.ofInt UnpackedFloat.normalize
    rw [Int.compare_eq_gt.mpr (Int.natCast_pos.mpr pos)]
    unfold UnpackedFloat.round decreaseExponent
    dsimp only
    rw [Int.toNat_natCast, shift, Nat.shiftLeft_eq]
  have width : (n * 2 ^ (52 - n.log2)).log2 = 0 + 52 := by
    rw [log2_mul_two_pow pos]
    omega
  unfold Float.Model.ofNat
  rw [normal]
  exact nonzero_round width (by omega) (by omega) _ _

theorem nonzero_ofScientific {n : Nat} (pos : 0 < n) (lt : n < 2 ^ 64) :
    Nonzero (.ofScientific n 0) := by
  have short : n.log2 < 64 := (Nat.log2_lt (Nat.ne_of_gt pos)).mpr lt
  have product : UnpackedFloat.ofScientific .binary64 n 0 =
      roundWithAccuracy .binary64 .positive (n * 2 ^ 53) (-53) .exact := by
    have range : (2 : Int) ^ Format.binary64.exponentBits = 2048 := rfl
    have near : ¬(0 : Int) < -(2 ^ Format.binary64.exponentBits + (n.log2 : Int)) := by omega
    unfold UnpackedFloat.ofScientific
    rw [dif_neg (Nat.ne_of_gt pos), if_neg (by decide), if_neg near, if_pos (by decide)]
    change roundWithAccuracy .binary64 .positive (n <<< 53 * 1) (-53) .exact = _
    rw [Nat.mul_one, Nat.shiftLeft_eq]
  have width : (n * 2 ^ 53).log2 = n.log2 + 1 + 52 := log2_mul_two_pow pos 53
  unfold Float.Model.ofScientific
  rw [product]
  exact nonzero_round width (by omega) (by omega) _ _

theorem nonzero_toFloat {n : Nat} (pos : 0 < n) (lt : n < 2 ^ 64) : Nonzero n.toFloat.toModel := by
  change Nonzero (Float.ofScientific n false 0).toModel
  unfold Float.ofScientific
  split
  · next small =>
    change Nonzero (n.toUInt64.toFloat * 1).toModel
    rw [mul_one]
    change Nonzero (.ofNat (n % 2 ^ 64))
    rw [Nat.mod_eq_of_lt lt]
    exact nonzero_ofNat pos small.1
  · exact nonzero_ofScientific pos lt

end WaypointNav.Binary64
