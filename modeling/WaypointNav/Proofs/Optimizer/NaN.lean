import WaypointNav.Proofs.Binary64.Special
import WaypointNav.Proofs.Optimizer.Separation

/-! When the reference optimizer's paths are free of NaN. A push divides the clearance by a distance of more than
a nanometer. If that quotient overflows, a point straight beside an obstacle is pushed by zero times infinity;
if it never does, no point is ever a NaN, even where pushes carry points out to infinity. -/
namespace WaypointNav

open Binary64

def Point.isNaN (p : Point) : Bool :=
  p.x.isNaN || p.y.isNaN

namespace Point

variable {p o v : Point}

theorem isNaN_eq_false_iff : p.isNaN = false ↔ p.x.isNaN = false ∧ p.y.isNaN = false :=
  Bool.or_eq_false_iff

theorem isNaN_eq_false_of_isFinite (finite : p.isFinite = true) : p.isNaN = false := by
  rw [isFinite, Bool.and_eq_true] at finite
  exact isNaN_eq_false_iff.mpr ⟨Binary64.isNaN_eq_false_of_isFinite finite.1,
    Binary64.isNaN_eq_false_of_isFinite finite.2⟩

/-- A point at a distance from another that is a number. -/
theorem isNaN_eq_false_of_norm (number : (p - o).norm.isNaN = false) : p.isNaN = false := by
  by_contra nan
  have coordinate : p.x.isNaN = true ∨ p.y.isNaN = true := by
    rwa [Bool.not_eq_false, isNaN, Bool.or_eq_true] at nan
  have norm_nan : (p - o).norm.isNaN = true := by
    rcases coordinate with x_nan | y_nan
    · exact isNaN_sqrt (isNaN_add_left (isNaN_mul_left (isNaN_sub_left x_nan _) _) _)
    · exact isNaN_sqrt (isNaN_add_right _ (isNaN_mul_left (isNaN_sub_left y_nan _) _))
  rw [norm_nan] at number
  cases number

theorem isFinite_of_norm (finite : v.norm.isFinite = true) :
    v.x.isFinite = true ∧ v.y.isFinite = true := by
  obtain ⟨x_square, y_square⟩ := isFinite_of_add (isFinite_of_sqrt finite)
  exact ⟨isFinite_of_mul_self x_square, isFinite_of_mul_self y_square⟩

theorem isFinite_interpolate (p_finite : p.isFinite = true) (o_finite : o.isFinite = true) :
    (p.interpolate o 0.5).isFinite = true := by
  rw [isFinite, Bool.and_eq_true] at p_finite o_finite ⊢
  exact ⟨isFinite_add_of_halves (bounded_mul_half p_finite.1 bounded_half.2)
      (bounded_mul_half o_finite.1 bounded_half.1),
    isFinite_add_of_halves (bounded_mul_half p_finite.2 bounded_half.2)
      (bounded_mul_half o_finite.2 bounded_half.1)⟩

end Point

structure Query.Finite (query : Query) : Prop where
  obstacles : ∀ o ∈ query.obstacles, o.isFinite = true
  current : ∀ p ∈ query.current, p.isFinite = true

namespace ClearanceConfig

variable {config : ClearanceConfig} {p o : Point} {c d : Float}

/-- The least distance at which a push is radial. -/
def leastRadial : Float := 1.0000000000000003e-9

theorem unpack_leastRadial :
    leastRadial.toModel.unpack = .finite .positive 4835703278458518 (-82) (by decide) := rfl

theorem real_leastRadial : Bounded ((4835703278458518 : Nat) * 2 ^ (-82 : ℤ)) leastRadial ∧
    real leastRadial = (4835703278458518 : Nat) * 2 ^ (-82 : ℤ) :=
  real_of_unpack (by decide) unpack_leastRadial

/-- There is no float between a nanometer and the least radial distance. -/
theorem leastRadial_of_above (finite : d.isFinite = true) (above : 1e-9 < d) :
    d = leastRadial ∨ real leastRadial < real d := by
  obtain ⟨nano, nano_eq⟩ := real_nano
  have nano_canonical : Canonical 4835703278458517 (-82) := by constructor <;> norm_num
  have least_canonical : Canonical 4835703278458518 (-82) := by constructor <;> norm_num
  have above := (lt_iff nano.finite finite).mp above
  rw [nano_eq] at above
  have pos := nano_canonical.magnitude_pos.trans above
  rw [real_leastRadial.2]
  have proper := proper_of_isFinite finite
  unfold real at above pos ⊢
  cases read : d.toModel.unpack with
  | notANumber | infinity s | zero s =>
    rw [read] at pos
    exact absurd pos (lt_irrefl 0)
  | finite s m e m_pos =>
    have canonical := canonical_of_unpack read
    rw [read] at above pos
    cases s with
    | negative => exact absurd pos (value_neg_of_negative canonical).not_gt
    | positive =>
      rw [value_positive] at above ⊢
      rcases lt_trichotomy e (-82) with lower | rfl | higher
      · exact absurd above (canonical.magnitude_lt nano_canonical lower).not_gt
      · have more : 4835703278458517 + 1 ≤ m := by
          exact_mod_cast lt_of_mul_lt_mul_right above (by positivity)
        rcases eq_or_lt_of_le more with rfl | more
        · left
          have same : d.toModel = leastRadial.toModel := by
            rw [← pack_unpack d.toModel, read, ← unpack_leastRadial, pack_unpack]
          exact congrArg Float.ofModel same
        · right
          gcongr
      · exact .inr (least_canonical.magnitude_lt canonical higher)

/-- A quotient that does not overflow at the least radial distance does so at no other. -/
theorem isFinite_factor (positive : Config.Positive c) (least : (c / leastRadial).isFinite = true)
    (finite : d.isFinite = true) (above : 1e-9 < d) : (c / d).isFinite = true := by
  rcases leastRadial_of_above finite above with rfl | farther
  · exact least
  have c_pos : 0 < real c := (lt_iff (by decide) positive.1).mp positive.2
  have least_pos : 0 < real leastRadial := by
    rw [real_leastRadial.2]
    norm_num
  have quotient := (proper_of_isFinite positive.1).div (proper_of_isFinite finite)
    (least_pos.trans farther).ne'
  have greater := (proper_of_isFinite positive.1).div (proper_of_isFinite real_leastRadial.1.finite)
    least_pos.ne'
  have nonneg := quotient.nearest.nonneg (div_pos c_pos (least_pos.trans farther)).le
  have le := quotient.mono greater (div_lt_div_of_pos_left c_pos least_pos farther)
  refine quotient.proper.isFinite_pack_iff.mpr ?_
  rw [abs_of_nonneg nonneg]
  exact le.trans ((le_abs_self _).trans (greater.proper.isFinite_pack_iff.mp least))

section Paths

variable {obstacles : List Point}

/-- A push gives a point whose coordinates are numbers, whatever it is given. -/
theorem isNaN_pushFrom (positive : Config.Positive config.clearance)
    (least : (config.clearance / leastRadial).isFinite = true) (o_finite : o.isFinite = true)
    (p : Point) : (config.pushFrom p o).isNaN = false := by
  rw [Point.isFinite, Bool.and_eq_true] at o_finite
  have displaced {x y : Float} (x_finite : x.isFinite = true) (y_number : y.isNaN = false) :
      (x + y).isNaN = false :=
    extended_iff.mp ((proper_of_isFinite x_finite).add_extended (extended_iff.mpr y_number)).unpack_pack
  unfold pushFrom
  dsimp only
  split
  case isTrue far => exact Point.isNaN_eq_false_of_norm (isNaN_eq_false_of_le far)
  case isFalse close =>
    split
    case isTrue apart =>
      have norm_finite := isFinite_of_between apart close positive.1
      have factor_finite := isFinite_factor positive least norm_finite apart
      obtain ⟨x_finite, y_finite⟩ := Point.isFinite_of_norm norm_finite
      have scaled {x : Float} (finite : x.isFinite = true) :
          (x * (config.clearance / (p - o).norm)).isNaN = false :=
        extended_iff.mp (Extended.proper ((proper_of_isFinite finite).mul
          (proper_of_isFinite factor_finite)).proper).unpack_pack
      exact Point.isNaN_eq_false_iff.mpr
        ⟨displaced o_finite.1 (scaled x_finite), displaced o_finite.2 (scaled y_finite)⟩
    case isFalse =>
      exact Point.isNaN_eq_false_iff.mpr
        ⟨displaced o_finite.1 (Binary64.isNaN_eq_false_of_isFinite positive.1),
          displaced o_finite.2 (show (0 : Float).isNaN = false by decide)⟩

/-- The last of the pushes decides. -/
theorem isNaN_pushClear (positive : Config.Positive config.clearance)
    (least : (config.clearance / leastRadial).isFinite = true) (some_obstacle : obstacles ≠ [])
    (finite : ∀ o ∈ obstacles, o.isFinite = true) (p : Point) :
    (config.pushClear obstacles p).isNaN = false := by
  obtain ⟨earlier, last, rfl⟩ := List.eq_nil_or_concat obstacles |>.resolve_left some_obstacle
  rw [List.concat_eq_append, pushClear_append]
  exact isNaN_pushFrom positive least (finite last (by simp)) _

variable {P : Point → Prop} {path : List Point}

theorem forall_mem_pushed (push : ∀ p, P p → P (config.pushClear obstacles p))
    (all : ∀ p ∈ path, P p) : ∀ q ∈ config.pushed obstacles path, P q := by
  fun_induction pushed config obstacles path with
  | case1 | case2 => exact all
  | case3 p rest several ih =>
    obtain ⟨first, rest_all⟩ := List.forall_mem_cons.mp all
    exact List.forall_mem_cons.mpr ⟨push p first, ih rest_all⟩

theorem forall_mem_densify
    (middle : ∀ p q, P p → P q → P (config.pushClear obstacles (p.interpolate q 0.5)))
    (room : Nat) (all : ∀ p ∈ path, P p) : ∀ q ∈ config.densify obstacles room path, P q := by
  fun_induction densify config obstacles room path with
  | case1 | case2 | case3 => exact all
  | case4 room p q rest wide middle_point ih =>
    obtain ⟨first, rest_all⟩ := List.forall_mem_cons.mp all
    have second := rest_all q List.mem_cons_self
    exact ih (List.forall_mem_cons.mpr
      ⟨first, List.forall_mem_cons.mpr ⟨middle p q first second, rest_all⟩⟩)
  | case5 room p q rest narrow ih =>
    obtain ⟨first, rest_all⟩ := List.forall_mem_cons.mp all
    exact List.forall_mem_cons.mpr ⟨first, ih rest_all⟩

theorem forall_mem_path {query : Query}
    (push : ∀ p, P p → P (config.pushClear query.obstacles p))
    (middle : ∀ p q, P p → P q → P (config.pushClear query.obstacles (p.interpolate q 0.5)))
    (all : ∀ p ∈ query.current, P p) : ∀ q ∈ config.path query, P q := by
  intro q mem
  exact forall_mem_densify middle _ (forall_mem_pushed push all) q (List.mem_of_mem_take mem)

end Paths

theorem isNaN_path (positive : Config.Positive config.clearance)
    (least : (config.clearance / leastRadial).isFinite = true) {query : Query}
    (finite : query.Finite) : ∀ q ∈ config.path query, q.isNaN = false := by
  by_cases vacant : query.obstacles = []
  · -- Nothing is pushed, and midpoints of finite points are finite.
    have keep (p : Point) : config.pushClear query.obstacles p = p := by
      rw [vacant]
      rfl
    intro q mem
    refine Point.isNaN_eq_false_of_isFinite (config.forall_mem_path ?_ ?_ finite.current q mem)
    · intro p p_finite
      rwa [keep]
    · intro p q p_finite q_finite
      rw [keep]
      exact Point.isFinite_interpolate p_finite q_finite
  · have pushed := isNaN_pushClear positive least vacant finite.obstacles
    refine forall_mem_path (P := fun p => p.isNaN = false) (fun p _ => pushed p)
      (fun p q _ _ => pushed _) ?_
    exact fun p mem => Point.isNaN_eq_false_of_isFinite (finite.current p mem)

/-- A point straight beside an obstacle, at the least distance at which it is pushed away from it. -/
def besideObstacle : Query where
  obstacles := [.origin]
  current := [⟨0, leastRadial⟩, .origin]
  capacity := 2

theorem distance_beside : (Point.mk 0 leastRadial - .origin).norm = leastRadial := by
  decide +kernel

/-- It is pushed by zero times infinity. -/
theorem isNaN_beside (positive : Config.Positive config.clearance)
    (overflow : ¬(config.clearance / leastRadial).isFinite = true) :
    (config.pushFrom ⟨0, leastRadial⟩ .origin).isNaN = true := by
  obtain ⟨least, least_eq⟩ := real_leastRadial
  have c_pos : 0 < real config.clearance := (lt_iff (by decide) positive.1).mp positive.2
  have least_pos : 0 < real leastRadial := by
    rw [least_eq]
    norm_num
  have close : ¬leastRadial ≥ config.clearance := by
    intro far
    have le := (le_iff positive.1 least.finite).mp far
    refine overflow (computes_div positive.1 least.finite least_pos.ne' ?_).finite
    rw [abs_of_pos (div_pos c_pos least_pos)]
    exact ((div_le_one least_pos).mpr le).trans (one_le_zpow₀ one_le_two (by norm_num))
  have apart : leastRadial > 1e-9 := by decide +kernel
  have pushed : (config.pushFrom ⟨0, leastRadial⟩ .origin).x =
      0 + (0 - 0) * (config.clearance / leastRadial) := by
    unfold pushFrom
    dsimp only
    rw [distance_beside, if_neg close, if_pos apart]
    rfl
  have quotient := (proper_of_isFinite positive.1).div (proper_of_isFinite least.finite) least_pos.ne'
  obtain ⟨s, infinite⟩ := quotient.proper.unpack_pack_of_overflow overflow
  have x_nan : (config.pushFrom ⟨0, leastRadial⟩ .origin).x.isNaN = true := by
    rw [pushed, sub_same (by decide)]
    exact isNaN_add_right 0 (isNaN_zero_mul infinite)
  rw [Point.isNaN, x_nan, Bool.true_or]

/-- For a positive finite clearance, the answers to all questions about finite points and obstacles are free of NaN
exactly if the clearance divided by the least radial distance does not overflow, that is up to a clearance of
about `1.8e299` meters. The spacing and the room do not matter. -/
theorem nan_free_iff (config : ClearanceConfig) (positive : Config.Positive config.clearance) :
    (∀ query : Query, query.Finite → ∀ q ∈ config.path query, q.isNaN = false) ↔
      (config.clearance / leastRadial).isFinite = true := by
  refine ⟨fun free => ?_, fun least query finite => isNaN_path positive least finite⟩
  by_contra overflow
  have finite : besideObstacle.Finite := by constructor <;> decide +kernel
  have nan := isNaN_beside positive overflow
  rw [free besideObstacle finite] at nan
  · cases nan
  · rw [path_of_full rfl]
    exact List.mem_cons_self

theorem nan_free_by_default : Config.Positive ({} : ClearanceConfig).clearance ∧
    ∀ query : Query, query.Finite → ∀ q ∈ ({} : ClearanceConfig).path query, q.isNaN = false := by
  have positive : Config.Positive ({} : ClearanceConfig).clearance := by
    constructor <;> decide +kernel
  exact ⟨positive, (nan_free_iff {} positive).mpr (by decide +kernel)⟩

def halfMeterAway : Query where
  obstacles := [⟨0, 0⟩]
  current := [⟨0, 0.5⟩, ⟨5, 0⟩]
  capacity := 2

/-- Twice a clearance close to the greatest float overflows. -/
theorem nan_half_meter_away : Config.Positive (⟨1.7e308, 0.5⟩ : ClearanceConfig).clearance ∧
    Config.Positive (⟨1.7e308, 0.5⟩ : ClearanceConfig).maxSpacing ∧ halfMeterAway.Finite ∧
    ∃ q ∈ (⟨1.7e308, 0.5⟩ : ClearanceConfig).path halfMeterAway, q.isNaN = true := by
  rw [path_of_full rfl]
  refine ⟨?_, ?_, ?_, ?_⟩
  · constructor <;> decide +kernel
  · constructor <;> decide +kernel
  · constructor <;> decide +kernel
  · decide +kernel

end ClearanceConfig

end WaypointNav
