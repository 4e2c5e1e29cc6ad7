import Mathlib

/-! The numbers behind the 64 bits of a float. Reading a word gives a number in canonical form, and writing
that number gives the word again. -/
namespace WaypointNav.Binary64

open Float.Model UnpackedFloat

/-- The form `m * 2 ^ e` in which a number is read: all 53 bits of `m` are in use, unless `e` is as small
as an exponent can be. -/
structure Canonical (m : Nat) (e : Int) : Prop where
  pos : 0 < m
  lt : m < 2 ^ 53
  subnormal : m < 2 ^ 52 → e = -1074
  ge : -1074 ≤ e

theorem log2_eq {m k : Nat} (ge : 2 ^ k ≤ m) (lt : m < 2 ^ (k + 1)) : m.log2 = k := by
  rw [Nat.log2_eq_log_two]
  exact Nat.log_eq_of_pow_le_of_lt_pow ge lt

theorem targetExponent_eq (t : Int) :
    Format.binary64.targetExponent t = max (t - 53) (-1074) := rfl

theorem Canonical.target {m : Nat} {e : Int} (canonical : Canonical m e) :
    Format.binary64.targetExponent (totalExponent m e) = e := by
  have ge := canonical.ge
  rw [targetExponent_eq, totalExponent]
  by_cases small : m < 2 ^ 52
  · have width := (Nat.log2_lt (Nat.ne_of_gt canonical.pos)).mpr small
    have least := canonical.subnormal small
    omega
  · have width := log2_eq (Nat.le_of_not_lt small) canonical.lt
    omega

theorem toNat_implicit (m : BitVec 52) : (1#1 ++ m).toNat = 2 ^ 52 + m.toNat := by
  rw [BitVec.toNat_append, ← Nat.shiftLeft_add_eq_or_of_lt m.isLt]
  rfl

theorem unpack_normal (s : Sign) {x : BitVec 11} (m : BitVec 52) (above : x ≠ 0#_)
    (below : x ≠ -1#_) (pos : 0 < (1#1 ++ m).toNat) :
    UnpackedFloat.unpack .binary64 (packComponents .binary64 s x m) =
      .finite s (1#1 ++ m).toNat (x.toNat - 1075) pos := by
  unfold UnpackedFloat.unpack
  dsimp only
  rw [unpackExponent_packComponents, if_neg below, if_neg above]
  simp only [unpackSign_packComponents, unpackMantissa_packComponents, Sign.ofBitVec_toBitVec]
  rfl

theorem pack_unpack (f : Float.Model) : .pack f.unpack = f := by
  obtain ⟨bits, valid⟩ := f
  unfold Float.Model.pack Float.Model.unpack
  congr 1
  exact UInt64.eq_of_toBitVec_eq (pack_unpack_of_valid valid)

theorem canonical_of_unpack {f : Float.Model} {s : Sign} {m : Nat} {e : Int} {pos : 0 < m}
    (read : f.unpack = .finite s m e pos) : Canonical m e := by
  unfold Float.Model.unpack UnpackedFloat.unpack at read
  dsimp only at read
  split at read
  · split at read <;> cases read
  · split at read
    · next bottom =>
      rw [bottom] at read
      split at read
      · cases read
      · cases read
        have lt := (@unpackMantissa .binary64 f.toBits.toBitVec).isLt
        exact ⟨pos, Nat.lt_of_lt_of_le lt (by decide), fun _ => rfl, by decide⟩
    · next above =>
      cases read
      refine ⟨pos, BitVec.isLt _, ?_, ?_⟩
      · intro small
        rw [toNat_implicit] at small
        omega
      · have nonzero : BitVec.toNat _ ≠ 0 := fun same => above (BitVec.eq_of_toNat_eq same)
        change -1074 ≤ (BitVec.toNat _ : Int) - 1075
        omega

def Nonzero (f : Float.Model) : Prop :=
  ∃ s m e pos, f.unpack = .finite s m e pos

theorem unpack_pack_zero (s : Sign) : (Float.Model.pack (.zero s)).unpack = .zero s := by
  cases s <;> rfl

theorem unpack_pack_normal (s : Sign) {m : Nat} {e : Int} (pos : 0 < m) (ge : 2 ^ 52 ≤ m)
    (lt : m < 2 ^ 53) (low : -1074 ≤ e) (high : e ≤ 971) :
    (Float.Model.pack (.finite s m e pos)).unpack = .finite s m e pos := by
  obtain ⟨x, x_eq⟩ : ∃ x : BitVec 11, x.toNat = (e + 1075).toNat :=
    ⟨.ofNatLT (e + 1075).toNat (by omega), BitVec.toNat_ofNatLT _ _⟩
  obtain ⟨b, rfl⟩ : ∃ b : BitVec 52, (1#1 ++ b).toNat = m := by
    refine ⟨.ofNatLT (m - 2 ^ 52) (by omega), ?_⟩
    rw [toNat_implicit, BitVec.toNat_ofNatLT]
    omega
  obtain rfl : (x.toNat : Int) - 1075 = e := by omega
  have above : x ≠ 0#11 := by
    rintro rfl
    change 0 = _ at x_eq
    omega
  have below : x ≠ -1#11 := by
    rintro rfl
    change 2047 = _ at x_eq
    omega
  have read := unpack_normal s b above below pos
  -- Only a word with all exponent bits set can fail to be valid.
  have valid : Format.binary64.Valid (packComponents .binary64 s x b) :=
    ⟨fun top => absurd ((unpackExponent_packComponents ..).symm.trans top) below⟩
  change UnpackedFloat.unpack .binary64 (UnpackedFloat.pack .binary64 (.finite s _ _ pos)) = _
  rw [← read, pack_unpack_of_valid valid]

theorem nonzero_pack {s : Sign} {m : Nat} {e : Int} {pos : 0 < m} (ge : 2 ^ 52 ≤ m)
    (lt : m < 2 ^ 53) (low : -1074 ≤ e) (high : e ≤ 971) :
    Nonzero (.pack (.finite s m e pos)) :=
  ⟨s, m, e, pos, unpack_pack_normal s pos ge lt low high⟩

theorem unpack_subnormal (s : Sign) {m : BitVec 52} (pos : 0 < m.toNat) :
    UnpackedFloat.unpack .binary64 (packComponents .binary64 s 0#_ m) =
      .finite s m.toNat (-1074) pos := by
  have nonzero : m ≠ 0#_ := by
    rintro rfl
    exact Nat.lt_irrefl 0 pos
  unfold UnpackedFloat.unpack
  dsimp only
  rw [unpackExponent_packComponents, if_neg (by decide), if_pos rfl]
  simp only [unpackSign_packComponents, unpackMantissa_packComponents, Sign.ofBitVec_toBitVec]
  rw [dif_neg nonzero]
  rfl

theorem unpack_pack_subnormal (s : Sign) {m : Nat} (pos : 0 < m) (lt : m < 2 ^ 52) :
    (Float.Model.pack (.finite s m (-1074) pos)).unpack = .finite s m (-1074) pos := by
  obtain ⟨b, rfl⟩ : ∃ b : BitVec 52, b.toNat = m := ⟨.ofNatLT m lt, BitVec.toNat_ofNatLT _ _⟩
  have read := unpack_subnormal s pos
  have valid : Format.binary64.Valid (packComponents .binary64 s 0#_ b) :=
    ⟨fun top => absurd ((unpackExponent_packComponents ..).symm.trans top) (by decide)⟩
  change UnpackedFloat.unpack .binary64 (UnpackedFloat.pack .binary64 (.finite s _ _ pos)) = _
  rw [← read, pack_unpack_of_valid valid]

theorem exponent_le_of_unpack {f : Float.Model} {s : Sign} {m : Nat} {e : Int} {pos : 0 < m}
    (read : f.unpack = .finite s m e pos) : e ≤ 971 := by
  unfold Float.Model.unpack UnpackedFloat.unpack at read
  dsimp only at read
  split at read
  · split at read <;> cases read
  · next below =>
    split at read
    · next bottom =>
      rw [bottom] at read
      split at read <;> cases read
      decide
    · cases read
      have lt := BitVec.isLt (@unpackExponent .binary64 f.toBits.toBitVec)
      have top : BitVec.toNat _ ≠ 2047 := fun same => below (BitVec.eq_of_toNat_eq same)
      change (BitVec.toNat _ : Int) - 1075 ≤ 971
      change _ < 2048 at lt
      omega

end WaypointNav.Binary64
