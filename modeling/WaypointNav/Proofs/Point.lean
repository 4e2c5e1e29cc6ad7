import WaypointNav.Point
import WaypointNav.Proofs.Binary64.Laws
import WaypointNav.Proofs.Binary64.Overflow

/-! Points of the plane as complex numbers. The distances computed for points that are not too far out are the
true ones up to rounding; those of any finite points are at least no NaN. -/
namespace WaypointNav.Point

open Binary64

noncomputable def place (p : Point) : ℂ :=
  ⟨real p.x, real p.y⟩

@[simp] theorem re_place (p : Point) : (place p).re = real p.x := rfl

@[simp] theorem im_place (p : Point) : (place p).im = real p.y := rfl

structure Inside (bound : ℝ) (p : Point) : Prop where
  x : Bounded bound p.x
  y : Bounded bound p.y

variable {p o v : Point}

theorem Inside.mono {small large : ℝ} (inside : p.Inside small) (le : small ≤ large) :
    p.Inside large :=
  ⟨inside.x.mono le, inside.y.mono le⟩

theorem norm_sub_le_of_coordinates {z w : ℂ} (error : ℝ) (re : |z.re - w.re| ≤ error)
    (im : |z.im - w.im| ≤ error) : ‖z - w‖ ≤ 2 * error := by
  have sum := Complex.norm_le_abs_re_add_abs_im (z - w)
  rw [Complex.sub_re, Complex.sub_im] at sum
  linarith

theorem Inside.norm_place_le {bound : ℝ} (inside : p.Inside bound) : ‖place p‖ ≤ 2 * bound :=
  (Complex.norm_le_abs_re_add_abs_im _).trans (by
    have := inside.x.le
    have := inside.y.le
    simp only [place]
    linarith)

theorem Inside.sub (p_inside : p.Inside 2048) (o_inside : o.Inside 2048) :
    (p - o).Inside 4096 ∧ ‖place (p - o) - (place p - place o)‖ ≤ 1 / 2 ^ 39 := by
  have along {x y : Float} (x_bounded : Bounded 2048 x) (y_bounded : Bounded 2048 y) :
      Bounded 4096 (x - y) ∧ |real (x - y) - (real x - real y)| ≤ 1 / 2 ^ 40 := by
    obtain ⟨computes, le⟩ := x_bounded.sub y_bounded (k := 12) (by norm_num) (by norm_num)
    obtain ⟨bounded, error⟩ := computes.bounded le
    norm_num at bounded error ⊢
    exact ⟨bounded, by linarith⟩
  obtain ⟨x_bounded, x_error⟩ := along p_inside.x o_inside.x
  obtain ⟨y_bounded, y_error⟩ := along p_inside.y o_inside.y
  refine ⟨⟨x_bounded, y_bounded⟩, ?_⟩
  refine (norm_sub_le_of_coordinates (1 / 2 ^ 40) x_error y_error).trans ?_
  norm_num

/-- A square root keeps the relative error of its argument. -/
theorem abs_sqrt_sub_le {s d w ε : ℝ} (d_nonneg : 0 ≤ d) (w_nonneg : 0 ≤ w) (w_le : w ≤ 1)
    (ε_nonneg : 0 ≤ ε) (near : |s - d ^ 2| ≤ w * d ^ 2 + ε ^ 2) : |√s - d| ≤ w * d + ε := by
  obtain ⟨above, below⟩ := abs_le.mp near
  rw [abs_le]
  constructor
  · by_cases small : d - w * d ≤ ε
    · have := Real.sqrt_nonneg s
      linarith
    · have root : d - w * d - ε ≤ √s := by
        apply Real.le_sqrt_of_sq_le
        nlinarith [mul_nonneg w_nonneg (sq_nonneg d)]
      linarith
  · have root : √s ≤ d + w * d + ε := by
      apply Real.sqrt_le_iff.mpr
      constructor
      · positivity
      · nlinarith [mul_nonneg w_nonneg (sq_nonneg d), mul_nonneg d_nonneg ε_nonneg,
          mul_nonneg (mul_nonneg w_nonneg d_nonneg) ε_nonneg, sq_nonneg (w * d)]
    linarith

theorem square_error {x : Float} (bounded : Bounded 4096 x) :
    Bounded (2 ^ 24) (x * x) ∧ 0 ≤ real (x * x) ∧
      |real (x * x) - real x * real x| ≤ real x * real x / 2 ^ 53 + 1 / 2 ^ 200 := by
  obtain ⟨computes, le⟩ := bounded.mul bounded (k := 24) (by norm_num) (by norm_num)
  have error := computes.error
  rw [abs_mul_self] at error
  exact ⟨(computes.bounded le).1, computes.nearest.nonneg (mul_self_nonneg _), error⟩

theorem sq_norm_place (v : Point) : ‖place v‖ ^ 2 = real v.x * real v.x + real v.y * real v.y := by
  rw [Complex.sq_norm, Complex.normSq_apply]
  rfl

theorem Inside.norm (inside : v.Inside 4096) :
    v.norm.isFinite = true ∧ |real v.norm - ‖place v‖| ≤ ‖place v‖ / 2 ^ 50 + 1 / 2 ^ 98 := by
  obtain ⟨x_bounded, x_nonneg, x_error⟩ := square_error inside.x
  obtain ⟨y_bounded, y_nonneg, y_error⟩ := square_error inside.y
  obtain ⟨sum, sum_le⟩ := x_bounded.add y_bounded (k := 25) (by norm_num) (by norm_num)
  have sum_nonneg := sum.nearest.nonneg (add_nonneg x_nonneg y_nonneg)
  have sum_error := sum.error
  rw [abs_of_nonneg (add_nonneg x_nonneg y_nonneg)] at sum_error
  have near : |real (v.x * v.x + v.y * v.y) - ‖place v‖ ^ 2| ≤
      1 / 2 ^ 51 * ‖place v‖ ^ 2 + (1 / 2 ^ 99) ^ 2 := by
    rw [sq_norm_place]
    rw [abs_le] at x_error y_error sum_error ⊢
    norm_num at x_error y_error sum_error ⊢
    constructor <;> linarith [mul_self_nonneg (real v.x), mul_self_nonneg (real v.y)]
  have root_error := abs_sqrt_sub_le (norm_nonneg _) (by norm_num) (by norm_num) (by norm_num) near
  have length_le := inside.norm_place_le
  have root_nonneg := Real.sqrt_nonneg (real (v.x * v.x + v.y * v.y))
  rw [abs_le] at root_error
  have root_le : |√(real (v.x * v.x + v.y * v.y))| ≤ 2 ^ 14 := by
    rw [abs_of_nonneg root_nonneg]
    norm_num at root_error ⊢
    linarith
  have root := computes_sqrt sum.finite sum_nonneg (root_le.trans (pow_le_limit (by norm_num)))
  have error := root.error
  rw [abs_of_nonneg root_nonneg] at error
  refine ⟨root.finite, ?_⟩
  change |real (v.x * v.x + v.y * v.y).sqrt - _| ≤ _
  rw [abs_le] at error ⊢
  norm_num at root_error error ⊢
  constructor <;> linarith [norm_nonneg (place v)]

/-- The distance computed is the true one, to well below a nanometer. -/
theorem Inside.distance (p_inside : p.Inside 2048) (o_inside : o.Inside 2048) :
    (p.distance o).isFinite = true ∧
      |real (p.distance o) - ‖place p - place o‖| ≤ 1 / 2 ^ 35 := by
  obtain ⟨inside, offset_error⟩ := p_inside.sub o_inside
  obtain ⟨finite, error⟩ := inside.norm
  refine ⟨finite, ?_⟩
  have length_le := inside.norm_place_le
  have moved := (abs_norm_sub_norm_le _ _).trans offset_error
  change |real (p - o).norm - _| ≤ _
  rw [abs_le] at error moved ⊢
  norm_num at error moved ⊢
  constructor <;> linarith

theorem Inside.add (o_inside : o.Inside 1000) (v_inside : v.Inside 1024) :
    (o + v).Inside 2048 ∧ ‖place (o + v) - (place o + place v)‖ ≤ 1 / 2 ^ 40 := by
  have along {x y : Float} (x_bounded : Bounded 1000 x) (y_bounded : Bounded 1024 y) :
      Bounded 2048 (x + y) ∧ |real (x + y) - (real x + real y)| ≤ 1 / 2 ^ 41 := by
    obtain ⟨computes, le⟩ := x_bounded.add y_bounded (k := 11) (by norm_num) (by norm_num)
    obtain ⟨bounded, error⟩ := computes.bounded le
    norm_num at bounded error ⊢
    exact ⟨bounded, by linarith⟩
  obtain ⟨x_bounded, x_error⟩ := along o_inside.x v_inside.x
  obtain ⟨y_bounded, y_error⟩ := along o_inside.y v_inside.y
  refine ⟨⟨x_bounded, y_bounded⟩, ?_⟩
  refine (norm_sub_le_of_coordinates (1 / 2 ^ 41) x_error y_error).trans ?_
  norm_num

theorem Inside.scale {bound : ℝ} (inside : v.Inside bound) {factor : Float}
    (finite : factor.isFinite = true) (le : |real factor| * ‖place v‖ ≤ 1024) :
    (v.scale factor).Inside 1024 ∧
      ‖place (v.scale factor) - real factor * place v‖ ≤ 1 / 2 ^ 41 := by
  have along {x : Float} (bounded : Bounded bound x) (x_le : |real x| ≤ ‖place v‖) :
      Bounded 1024 (x * factor) ∧ |real (x * factor) - real factor * real x| ≤ 1 / 2 ^ 42 := by
    have product_le : |real x * real factor| ≤ 2 ^ 10 := by
      rw [abs_mul, mul_comm]
      refine (mul_le_mul_of_nonneg_left x_le (abs_nonneg _)).trans (le.trans ?_)
      norm_num
    have computes := computes_mul bounded.finite finite
      (product_le.trans (pow_le_limit (by norm_num)))
    obtain ⟨scaled, error⟩ := computes.bounded product_le
    rw [mul_comm (real factor)]
    norm_num at scaled error ⊢
    exact ⟨scaled, by linarith⟩
  obtain ⟨x_bounded, x_error⟩ := along inside.x (Complex.abs_re_le_norm (place v))
  obtain ⟨y_bounded, y_error⟩ := along inside.y (Complex.abs_im_le_norm (place v))
  refine ⟨⟨x_bounded, y_bounded⟩, ?_⟩
  refine (norm_sub_le_of_coordinates (1 / 2 ^ 42) ?_ ?_).trans (by norm_num)
  · rw [Complex.re_ofReal_mul]
    exact x_error
  · rw [Complex.im_ofReal_mul]
    exact y_error

theorem bounded_half : Bounded (1 / 2) 0.5 ∧ Bounded (1 / 2) (1 - 0.5) := by
  obtain ⟨half, -⟩ := real_of_unpack (x := 0.5) (m := 2 ^ 52) (e := -53) (by decide) rfl
  obtain ⟨rest, -⟩ := real_of_unpack (x := 1 - 0.5) (m := 2 ^ 52) (e := -53) (by decide) rfl
  norm_num at half rest
  norm_num
  exact ⟨half, rest⟩

/-- Midpoints never stray beyond their ends, whatever the rounding. -/
theorem Inside.interpolate (p_inside : p.Inside 2048) (o_inside : o.Inside 2048) :
    (p.interpolate o 0.5).Inside 2048 := by
  have along {x y : Float} (x_bounded : Bounded 2048 x) (y_bounded : Bounded 2048 y) :
      Bounded 2048 (x * (1 - 0.5) + y * 0.5) := by
    obtain ⟨first, first_le⟩ := x_bounded.mul bounded_half.2 (k := 10) (by norm_num) (by norm_num)
    obtain ⟨second, second_le⟩ := y_bounded.mul bounded_half.1 (k := 10) (by norm_num) (by norm_num)
    obtain ⟨sum, sum_le⟩ := (first.bounded first_le).1.add (second.bounded second_le).1 (k := 11)
      (by norm_num) (by norm_num)
    exact (sum.bounded sum_le).1.mono (by norm_num)
  exact ⟨along p_inside.x o_inside.x, along p_inside.y o_inside.y⟩

theorem distance_self (finite : p.isFinite = true) : p.distance p = 0 := by
  rw [isFinite, Bool.and_eq_true] at finite
  have offset : p - p = origin := by
    change Point.mk (p.x - p.x) (p.y - p.y) = _
    rw [sub_same finite.1, sub_same finite.2]
    rfl
  unfold distance
  rw [offset]
  rfl

theorem isNaN_distance (p_finite : p.isFinite = true) (o_finite : o.isFinite = true) :
    (p.distance o).isNaN = false := by
  rw [isFinite, Bool.and_eq_true] at p_finite o_finite
  exact (extended_norm (extended_sub p_finite.1 o_finite.1)
    (extended_sub p_finite.2 o_finite.2)).isNaN_eq

end WaypointNav.Point
