import WaypointNav.Proofs.Binary64.Monotone

/-! Infinities and NaN. Neither of them goes away in sums, squares and roots, and only an overflow or two
infinities at once make one of numbers. -/
namespace WaypointNav.Binary64

open Float.Model UnpackedFloat

section Unpacked

variable {f g : UnpackedFloat}

theorem Proper.add_extended (proper : Proper f) (extended : Extended g) :
    Extended (f.add .binary64 g) := by
  cases extended with
  | proper second => exact .proper (proper.add second).proper
  | infinity s => cases proper <;> exact .infinity s

theorem Proper.unpack_pack_of_overflow (proper : Proper f)
    (overflow : ¬(Float.Model.pack f).unpack.isFinite = true) :
    ∃ s, (Float.Model.pack f).unpack = .infinity s := by
  rcases proper.unpack_pack_cases with kept | ⟨s, huge, -⟩
  · rw [kept] at overflow
    cases proper <;> exact absurd rfl overflow
  · exact ⟨s, huge⟩

end Unpacked

section Floats

variable {x y : Float}

theorem extended_iff : Extended x.toModel.unpack ↔ x.isNaN = false := by
  refine ⟨Extended.isNaN_eq, fun number => ?_⟩
  change x.toModel.unpack.isNaN = false at number
  cases read : x.toModel.unpack with
  | notANumber =>
    rw [read] at number
    cases number
  | infinity s => exact .infinity s
  | zero s => exact .proper (.zero s)
  | finite s m e pos => exact .proper (.finite s (canonical_of_unpack read))

theorem isNaN_eq_false_of_isFinite (finite : x.isFinite = true) : x.isNaN = false :=
  extended_iff.mp (.proper (proper_of_isFinite finite))

theorem unpack_of_isNaN (nan : x.isNaN = true) : x.toModel.unpack = .notANumber := by
  change x.toModel.unpack.isNaN = true at nan
  cases read : x.toModel.unpack with
  | notANumber => rfl
  | infinity s | zero s | finite s m e pos =>
    rw [read] at nan
    cases nan

theorem isNaN_pack {f : UnpackedFloat} (nan : f = .notANumber) :
    (Float.ofModel (.pack f)).isNaN = true := by
  rw [nan]
  rfl

theorem isNaN_sub_left (nan : x.isNaN = true) (y : Float) : (x - y).isNaN = true := by
  apply isNaN_pack
  rw [unpack_of_isNaN nan]
  cases y.toModel.unpack <;> rfl

theorem isNaN_mul_left (nan : x.isNaN = true) (y : Float) : (x * y).isNaN = true := by
  apply isNaN_pack
  rw [unpack_of_isNaN nan]
  cases y.toModel.unpack <;> rfl

theorem isNaN_add_left (nan : x.isNaN = true) (y : Float) : (x + y).isNaN = true := by
  apply isNaN_pack
  rw [unpack_of_isNaN nan]
  cases y.toModel.unpack <;> rfl

theorem isNaN_add_right (x : Float) (nan : y.isNaN = true) : (x + y).isNaN = true := by
  apply isNaN_pack
  rw [unpack_of_isNaN nan]
  cases x.toModel.unpack <;> rfl

theorem isNaN_sqrt (nan : x.isNaN = true) : x.sqrt.isNaN = true := by
  apply isNaN_pack
  rw [unpack_of_isNaN nan]
  rfl

theorem isNaN_abs (nan : x.isNaN = true) : x.abs.isNaN = true := by
  apply isNaN_pack
  rw [unpack_of_isNaN nan]
  rfl

theorem isNaN_zero_mul {s : Sign} (infinite : x.toModel.unpack = .infinity s) : (0 * x).isNaN = true := by
  apply isNaN_pack
  rw [infinite]
  rfl

/-- A NaN is not above anything. -/
theorem isNaN_eq_false_of_le (le : y ≤ x) : x.isNaN = false := by
  by_contra nan
  change decide (Option.any _ (UnpackedFloat.compare _ _) = true) = true at le
  rw [unpack_of_isNaN ((Bool.not_eq_false x.isNaN).mp nan)] at le
  cases read : y.toModel.unpack <;> rw [read] at le <;> cases le

theorem not_lt_of_isNaN (nan : x.isNaN = true) (y : Float) : ¬y < x := by
  change ¬decide ((UnpackedFloat.compare _ _ == _) = true) = true
  rw [unpack_of_isNaN nan]
  cases y.toModel.unpack <;> nofun

/-- The greatest of the three may be infinite. -/
theorem not_lt_of_le_of_le {bound : Float} (y_finite : y.isFinite = true) (x_finite : x.isFinite = true)
    (x_le : x ≤ y) (le : y ≤ bound) : ¬bound < x := by
  by_cases finite : bound.isFinite = true
  · rw [lt_iff finite x_finite, not_lt]
    exact ((le_iff x_finite y_finite).mp x_le).trans ((le_iff y_finite finite).mp le)
  · have first := proper_of_isFinite x_finite
    have second := proper_of_isFinite y_finite
    change decide (Option.any _ (UnpackedFloat.compare _ _) = true) = true at le
    change ¬decide ((UnpackedFloat.compare _ _ == _) = true) = true
    generalize x.toModel.unpack = f, y.toModel.unpack = g at first second le ⊢
    change ¬bound.toModel.unpack.isFinite = true at finite
    cases read : bound.toModel.unpack with
    | notANumber => cases first <;> nofun
    | infinity s =>
      rw [read] at le
      cases s with
      | positive => cases first <;> nofun
      | negative => cases second <;> cases le
    | zero s | finite s m e pos =>
      rw [read] at finite
      exact absurd rfl finite

/-- What lies strictly above a float and below a finite one is finite. -/
theorem isFinite_of_between {a b : Float} (above : a < x) (below : ¬b ≤ x) (b_finite : b.isFinite = true) :
    x.isFinite = true := by
  have proper := proper_of_isFinite b_finite
  change decide ((UnpackedFloat.compare _ _ == _) = true) = true at above
  change ¬decide (Option.any _ (UnpackedFloat.compare _ _) = true) = true at below
  change x.toModel.unpack.isFinite = true
  generalize b.toModel.unpack = g at proper below
  cases read : x.toModel.unpack with
  | zero s | finite s m e pos => rfl
  | notANumber =>
    rw [read] at above
    cases read : a.toModel.unpack <;> rw [read] at above <;> cases above
  | infinity s =>
    rw [read] at above below
    cases s with
    | positive => cases proper <;> simp [UnpackedFloat.compare] at below
    | negative =>
      cases read : a.toModel.unpack with
      | infinity t => rw [read] at above; cases t <;> cases above
      | _ => rw [read] at above; cases above

theorem isFinite_of_pack {f : UnpackedFloat} (finite : (Float.ofModel (.pack f)).isFinite = true) :
    f.isFinite = true := by
  change (Float.Model.pack f).unpack.isFinite = true at finite
  cases f with
  | zero s | finite s m e pos => rfl
  | notANumber => cases finite
  | infinity s => cases s <;> cases finite

theorem isFinite_of_sqrt (finite : x.sqrt.isFinite = true) : x.isFinite = true := by
  have result := isFinite_of_pack finite
  change x.toModel.unpack.isFinite = true
  generalize x.toModel.unpack = f at result ⊢
  cases f with
  | zero s | finite s m e pos => rfl
  | notANumber => cases result
  | infinity s => cases s <;> cases result

theorem isFinite_of_mul_self (finite : (x * x).isFinite = true) : x.isFinite = true := by
  have result := isFinite_of_pack finite
  change x.toModel.unpack.isFinite = true
  generalize x.toModel.unpack = f at result ⊢
  cases f with
  | zero s | finite s m e pos => rfl
  | notANumber | infinity s => cases result

theorem isFinite_of_add (finite : (x + y).isFinite = true) :
    x.isFinite = true ∧ y.isFinite = true := by
  have result := isFinite_of_pack finite
  change x.toModel.unpack.isFinite = true ∧ y.toModel.unpack.isFinite = true
  generalize x.toModel.unpack = f, y.toModel.unpack = g at result ⊢
  cases f with
  | zero s | finite s m e pos =>
    cases g with
    | zero t | finite t n d pos' => exact ⟨rfl, rfl⟩
    | notANumber | infinity t => cases result
  | notANumber => cases g <;> cases result
  | infinity s =>
    cases g with
    | infinity t => cases s <;> cases t <;> cases result
    | zero t | finite t n d pos' | notANumber => cases result

end Floats

end WaypointNav.Binary64
