import WaypointNav.Proofs.Config
import WaypointNav.Proofs.ObstacleMap.Separation
import WaypointNav.Proofs.Optimizer.Clearance
import WaypointNav.Proofs.Point

/-! How far from an obstacle the reference optimizer's paths stay. A push leaves a point at the clearance from
the obstacle it is pushed from, up to rounding, and a later push can only undo that where two clearance discs
overlap. -/
namespace WaypointNav

open Binary64

def Point.Within (bound : Float) (p : Point) : Prop :=
  p.x.abs ≤ bound ∧ p.y.abs ≤ bound

instance (bound : Float) (p : Point) : Decidable (p.Within bound) :=
  inferInstanceAs (Decidable (_ ∧ _))

namespace ClearanceConfig

open Point

variable {config : ClearanceConfig} {p o : Point}

/-- The float next to a nanometer. -/
theorem real_nano : Bounded ((4835703278458517 : Nat) * 2 ^ (-82 : ℤ)) 1e-9 ∧
    real 1e-9 = (4835703278458517 : Nat) * 2 ^ (-82 : ℤ) :=
  real_of_unpack (by decide) rfl

/-- A clearance of at most a kilometer. -/
structure Moderate (config : ClearanceConfig) : Prop where
  bounded : Bounded 1000 config.clearance
  pos : 0 < real config.clearance

/-- Scaling a vector of about length `d` to the length `c`, by a quotient that is rounded. -/
theorem abs_scaled_sub_le {c d length factor : ℝ} (c_pos : 0 < c) (c_le : c ≤ 1000) (d_ge : 1 / 2 ^ 30 ≤ d)
    (d_lt : d < c) (length_nonneg : 0 ≤ length) (near : |d - length| ≤ length / 2 ^ 50 + 1 / 2 ^ 98)
    (factor_near : |factor - c / d| ≤ |c / d| / 2 ^ 53 + 1 / 2 ^ 200) :
    |factor * length - c| ≤ 1 / 2 ^ 38 := by
  have d_pos : 0 < d := by linarith [show (0 : ℝ) < 1 / 2 ^ 30 by norm_num]
  have quotient_pos : 0 < c / d := div_pos c_pos d_pos
  have quotient_le : c / d ≤ 1000 * 2 ^ 30 := by
    rw [div_le_iff₀ d_pos]
    norm_num at d_ge ⊢
    linarith
  have length_le : length ≤ 2 * d := by
    have := (abs_le.mp near).1
    norm_num at this d_ge ⊢
    linarith
  have scaled_le : c / d * length ≤ 2000 := by
    calc c / d * length ≤ c / d * (2 * d) := by gcongr
      _ = 2 * c := by field_simp
      _ ≤ 2000 := by linarith
  have split : factor * length - c = (factor - c / d) * length + c / d * (length - d) := by
    field_simp
    ring
  rw [abs_of_pos quotient_pos] at factor_near
  calc |factor * length - c|
      ≤ |factor - c / d| * length + c / d * |d - length| := by
        rw [split]
        refine (abs_add_le _ _).trans (le_of_eq ?_)
        rw [abs_mul, abs_mul, abs_of_nonneg length_nonneg, abs_of_pos quotient_pos, abs_sub_comm d]
    _ ≤ (c / d / 2 ^ 53 + 1 / 2 ^ 200) * length + c / d * (length / 2 ^ 50 + 1 / 2 ^ 98) := by gcongr
    _ = c / d * length / 2 ^ 53 + length / 2 ^ 200 + c / d * length / 2 ^ 50 + c / d / 2 ^ 98 := by ring
    _ ≤ 1 / 2 ^ 38 := by
      generalize c / d * length = scaled at scaled_le
      generalize c / d = quotient at quotient_le
      norm_num
      linarith

theorem inside_add_of_near {v : Point} {length : ℝ} (o_inside : o.Inside 1000)
    (v_inside : v.Inside 1024) (near : |‖place v‖ - length| ≤ 1 / 2 ^ 37) :
    (o + v).Inside 2048 ∧ |‖place (o + v) - place o‖ - length| ≤ 1 / 2 ^ 35 := by
  obtain ⟨inside, error⟩ := o_inside.add v_inside
  refine ⟨inside, ?_⟩
  rw [← sub_sub] at error
  have moved := (abs_norm_sub_norm_le _ _).trans error
  rw [abs_le] at near moved ⊢
  norm_num at near moved ⊢
  constructor <;> linarith

theorem Moderate.sidestep (moderate : config.Moderate) :
    (Point.mk config.clearance 0).Inside 1024 ∧
      ‖place ⟨config.clearance, 0⟩‖ = real config.clearance := by
  have zero : real 0 = 0 := rfl
  have zero_bounded : Bounded 1024 0 := by
    refine ⟨by decide, ?_⟩
    rw [zero, abs_zero]
    norm_num
  refine ⟨⟨moderate.bounded.mono (by norm_num), zero_bounded⟩, ?_⟩
  · have along : place ⟨config.clearance, 0⟩ = (real config.clearance : ℂ) := by
      apply Complex.ext
      · rw [re_place, Complex.ofReal_re]
      · rw [im_place, Complex.ofReal_im, zero]
    rw [along, Complex.norm_real, Real.norm_of_nonneg moderate.pos.le]

theorem Moderate.radial (moderate : config.Moderate) {v : Point} (inside : v.Inside 4096)
    (apart : 1e-9 < v.norm) (short : real v.norm < real config.clearance) :
    (v.scale (config.clearance / v.norm)).Inside 1024 ∧
      |‖place (v.scale (config.clearance / v.norm))‖ - real config.clearance| ≤ 1 / 2 ^ 37 := by
  obtain ⟨finite, error⟩ := inside.norm
  obtain ⟨nano, nano_eq⟩ := real_nano
  have least : 1 / 2 ^ 30 ≤ real v.norm := by
    have := (lt_iff nano.finite finite).mp apart
    rw [nano_eq] at this
    norm_num at this ⊢
    linarith
  have norm_pos : 0 < real v.norm := lt_of_lt_of_le (by norm_num) least
  have quotient_pos := div_pos moderate.pos norm_pos
  have quotient_le : |real config.clearance / real v.norm| ≤ 2 ^ 40 := by
    have clearance_le := moderate.bounded.le
    rw [abs_of_pos moderate.pos] at clearance_le
    rw [abs_of_pos quotient_pos, div_le_iff₀ norm_pos]
    norm_num at least ⊢
    linarith
  have computes := computes_div moderate.bounded.finite finite norm_pos.ne'
    (quotient_le.trans (pow_le_limit (by norm_num)))
  have clearance_le := (le_abs_self _).trans moderate.bounded.le
  have factor_nonneg := computes.nearest.nonneg quotient_pos.le
  have length_near := abs_scaled_sub_le moderate.pos clearance_le least short (norm_nonneg _) error
    computes.error
  have length_le : |real (config.clearance / v.norm)| * ‖place v‖ ≤ 1024 := by
    rw [abs_of_nonneg factor_nonneg]
    rw [abs_le] at length_near
    norm_num at length_near
    linarith
  obtain ⟨scaled_inside, scaled_error⟩ := inside.scale computes.finite length_le
  refine ⟨scaled_inside, ?_⟩
  have moved := (abs_norm_sub_norm_le _ _).trans scaled_error
  rw [norm_mul, Complex.norm_real, Real.norm_of_nonneg factor_nonneg] at moved
  rw [abs_le] at length_near moved ⊢
  norm_num at length_near moved ⊢
  constructor <;> linarith

/-- A push leaves a point that is far enough alone, and puts any other onto the edge of the disc. -/
theorem pushFrom_spec (moderate : config.Moderate) (p_inside : p.Inside 2048)
    (o_inside : o.Inside 1000) :
    (config.pushFrom p o).Inside 2048 ∧
      real config.clearance - 1 / 2 ^ 35 ≤ ‖place (config.pushFrom p o) - place o‖ ∧
      (config.pushFrom p o = p ∨
        ‖place (config.pushFrom p o) - place o‖ ≤ real config.clearance + 1 / 2 ^ 35) := by
  obtain ⟨offset_inside, offset_error⟩ := p_inside.sub (o_inside.mono (by norm_num))
  obtain ⟨finite, error⟩ := offset_inside.norm
  have onto {v : Point} (inside : v.Inside 1024)
      (near : |‖place v‖ - real config.clearance| ≤ 1 / 2 ^ 37) :
      (o + v).Inside 2048 ∧ real config.clearance - 1 / 2 ^ 35 ≤ ‖place (o + v) - place o‖ ∧
        (o + v = p ∨ ‖place (o + v) - place o‖ ≤ real config.clearance + 1 / 2 ^ 35) := by
    obtain ⟨landed, near⟩ := inside_add_of_near o_inside inside near
    rw [abs_le] at near
    exact ⟨landed, by linarith, .inr (by linarith)⟩
  unfold pushFrom
  dsimp only
  split
  case isTrue far =>
    have length_le := offset_inside.norm_place_le
    have moved := (abs_norm_sub_norm_le _ _).trans offset_error
    have reached := (le_iff moderate.bounded.finite finite).mp far
    refine ⟨p_inside, ?_, .inl rfl⟩
    rw [abs_le] at error moved
    norm_num at error moved ⊢
    linarith
  case isFalse close =>
    have short : real (p - o).norm < real config.clearance := by
      rw [← not_le, ← le_iff moderate.bounded.finite finite]
      exact close
    split
    case isTrue apart =>
      obtain ⟨inside, near⟩ := moderate.radial offset_inside apart short
      exact onto inside near
    case isFalse =>
      obtain ⟨inside, length_eq⟩ := moderate.sidestep
      apply onto inside
      rw [length_eq, sub_self, abs_zero]
      norm_num

/-- Clear of `o`, up to the rounding of a push to its edge and of one away from it. -/
structure Clear (config : ClearanceConfig) (o q : Point) : Prop where
  inside : q.Inside 2048
  far : real config.clearance - 3 / 2 ^ 35 ≤ ‖place q - place o‖

theorem pushClear_append (first second : List Point) :
    config.pushClear (first ++ second) p = config.pushClear second (config.pushClear first p) :=
  List.foldl_append

theorem pushClear_inside (moderate : config.Moderate) {obstacles : List Point}
    (obstacles_inside : ∀ other ∈ obstacles, other.Inside 1000) (p_inside : p.Inside 2048) :
    (config.pushClear obstacles p).Inside 2048 := by
  induction obstacles generalizing p with
  | nil => exact p_inside
  | cons other obstacles ih =>
    obtain ⟨other_inside, rest_inside⟩ := List.forall_mem_cons.mp obstacles_inside
    exact ih rest_inside (pushFrom_spec moderate p_inside other_inside).1

/-- A push from an obstacle two clearances away cannot bring a point back: it ends on an edge that is a
clearance away. -/
theorem Clear.pushFrom (clear : config.Clear o p) (moderate : config.Moderate) {other : Point}
    (other_inside : other.Inside 1000)
    (apart : 2 * real config.clearance - 2 / 2 ^ 35 ≤ ‖place o - place other‖) :
    config.Clear o (config.pushFrom p other) := by
  obtain ⟨inside, -, kept | edge⟩ := pushFrom_spec moderate clear.inside other_inside
  · rwa [kept]
  · refine ⟨inside, ?_⟩
    have triangle := norm_sub_le_norm_sub_add_norm_sub (place o)
      (place (config.pushFrom p other)) (place other)
    rw [norm_sub_rev (place o) (place (config.pushFrom p other))] at triangle
    linarith

theorem Clear.pushClear (clear : config.Clear o p) (moderate : config.Moderate) {later : List Point}
    (later_inside : ∀ other ∈ later, other.Inside 1000)
    (apart : ∀ other ∈ later, 2 * real config.clearance - 2 / 2 ^ 35 ≤ ‖place o - place other‖) :
    config.Clear o (config.pushClear later p) := by
  induction later generalizing p with
  | nil => exact clear
  | cons other later ih =>
    obtain ⟨other_inside, later_inside⟩ := List.forall_mem_cons.mp later_inside
    obtain ⟨other_apart, apart⟩ := List.forall_mem_cons.mp apart
    exact ih (clear.pushFrom moderate other_inside other_apart) later_inside apart

theorem clear_pushClear (moderate : config.Moderate) {earlier later : List Point}
    (inside : ∀ other ∈ earlier ++ o :: later, other.Inside 1000)
    (apart : ∀ other ∈ later, 2 * real config.clearance - 2 / 2 ^ 35 ≤ ‖place o - place other‖)
    (p_inside : p.Inside 2048) : config.Clear o (config.pushClear (earlier ++ o :: later) p) := by
  obtain ⟨earlier_inside, rest_inside⟩ := List.forall_mem_append.mp inside
  obtain ⟨o_inside, later_inside⟩ := List.forall_mem_cons.mp rest_inside
  rw [pushClear_append]
  have before := pushClear_inside moderate earlier_inside p_inside
  obtain ⟨pushed_inside, far, -⟩ := pushFrom_spec moderate before o_inside
  have clear : config.Clear o (config.pushFrom (config.pushClear earlier p) o) :=
    ⟨pushed_inside, by linarith⟩
  exact clear.pushClear moderate later_inside apart

structure Lined (P : Point → Prop) (path : List Point) : Prop where
  inside : ∀ p ∈ path, p.Inside 2048
  clear : ∀ p ∈ path.dropLast, P p

section Paths

variable {P : Point → Prop} {obstacles path : List Point}

theorem Lined.cons (p_inside : p.Inside 2048) (p_clear : path ≠ [] → P p) (lined : Lined P path) :
    Lined P (p :: path) := by
  refine ⟨List.forall_mem_cons.mpr ⟨p_inside, lined.inside⟩, ?_⟩
  by_cases last : path = []
  · simp [last]
  · rw [List.dropLast_cons_of_ne_nil last]
    exact List.forall_mem_cons.mpr ⟨p_clear last, lined.clear⟩

theorem Lined.take (lined : Lined P path) (count : Nat) : Lined P (path.take count) := by
  refine ⟨fun p mem => lined.inside p (List.mem_of_mem_take mem), ?_⟩
  intro p mem
  apply lined.clear p
  rw [List.dropLast_eq_take] at mem ⊢
  rw [List.take_take] at mem
  exact List.take_subset_take_left path (by rw [List.length_take]; omega) mem

variable (pushed_spec : ∀ p, p.Inside 2048 →
  (config.pushClear obstacles p).Inside 2048 ∧ P (config.pushClear obstacles p))

include pushed_spec

theorem lined_pushed (inside : ∀ p ∈ path, p.Inside 2048) : Lined P (config.pushed obstacles path) := by
  fun_induction pushed config obstacles path with
  | case1 => exact ⟨inside, by simp⟩
  | case2 last => exact ⟨inside, by simp⟩
  | case3 p rest several ih =>
    obtain ⟨p_inside, inside⟩ := List.forall_mem_cons.mp inside
    obtain ⟨pushed_inside, clear⟩ := pushed_spec p p_inside
    exact (ih inside).cons pushed_inside fun _ => clear

theorem Lined.densify (room : Nat) (lined : Lined P path) :
    Lined P (config.densify obstacles room path) := by
  fun_induction ClearanceConfig.densify config obstacles room path with
  | case1 | case2 | case3 => exact lined
  | case4 room p q rest wide middle ih =>
    obtain ⟨p_inside, rest_inside⟩ := List.forall_mem_cons.mp lined.inside
    obtain ⟨q_inside, -⟩ := List.forall_mem_cons.mp rest_inside
    obtain ⟨p_clear, rest_clear⟩ := List.forall_mem_cons.mp lined.clear
    obtain ⟨middle_inside, middle_clear⟩ := pushed_spec _ (p_inside.interpolate q_inside)
    have after : Lined P (q :: rest) := ⟨rest_inside, rest_clear⟩
    exact ih ((after.cons middle_inside fun _ => middle_clear).cons p_inside fun _ => p_clear)
  | case5 room p q rest narrow ih =>
    obtain ⟨p_inside, rest_inside⟩ := List.forall_mem_cons.mp lined.inside
    obtain ⟨p_clear, rest_clear⟩ := List.forall_mem_cons.mp lined.clear
    exact (ih ⟨rest_inside, rest_clear⟩).cons p_inside fun _ => p_clear

theorem lined_path {query : Query} (obstacles_eq : query.obstacles = obstacles)
    (inside : ∀ p ∈ query.current, p.Inside 2048) : Lined P (config.path query) := by
  subst obstacles_eq
  exact ((lined_pushed pushed_spec inside).densify pushed_spec _).take _

end Paths

theorem real_kilometer : (1000 : Float).isFinite = true ∧ real 1000 = 1000 := by
  obtain ⟨bounded, eq⟩ :=
    real_of_unpack (x := 1000) (m := 1000 * 2 ^ 43) (e := -43) (by decide) rfl
  refine ⟨bounded.finite, ?_⟩
  rw [eq]
  norm_num

theorem inside_of_within (within : p.Within 1000) : p.Inside 1000 := by
  obtain ⟨finite, eq⟩ := real_kilometer
  obtain ⟨x_le, y_le⟩ := within
  rw [abs_le_iff finite, eq] at x_le y_le
  exact ⟨x_le, y_le⟩

theorem moderate_of_positive (positive : Config.Positive config.clearance)
    (le : config.clearance ≤ 1000) : config.Moderate := by
  obtain ⟨finite, eq⟩ := real_kilometer
  have pos : 0 < real config.clearance := (lt_iff (by decide) positive.1).mp positive.2
  have le := (le_iff positive.1 finite).mp le
  rw [eq] at le
  exact ⟨⟨positive.1, by rwa [abs_of_pos pos]⟩, pos⟩

theorem Moderate.apart (moderate : config.Moderate) {other : Point} (o_inside : o.Inside 1000)
    (other_inside : other.Inside 1000) (apart : 2 * config.clearance ≤ o.distance other) :
    2 * real config.clearance - 2 / 2 ^ 35 ≤ ‖place o - place other‖ := by
  obtain ⟨two, two_eq⟩ := real_of_unpack (x := 2) (m := 2 ^ 52) (e := -51) (by decide) rfl
  obtain ⟨computes, le⟩ := two.mul moderate.bounded (k := 11) (by norm_num) (by norm_num)
  obtain ⟨bounded, doubled⟩ := computes.bounded le
  obtain ⟨finite, error⟩ :=
    (o_inside.mono (by norm_num)).distance (other_inside.mono (by norm_num))
  have reached := (le_iff bounded.finite finite).mp apart
  rw [two_eq] at doubled
  rw [abs_le] at doubled error
  norm_num at doubled error reached ⊢
  linarith

theorem Clear.le_distance (clear : config.Clear o p) (moderate : config.Moderate)
    (o_inside : o.Inside 1000) : config.clearance - 1e-9 ≤ p.distance o := by
  obtain ⟨nano, nano_eq⟩ := real_nano
  obtain ⟨computes, le⟩ := moderate.bounded.sub nano (k := 10) (by norm_num) (by norm_num)
  obtain ⟨bounded, reduced⟩ := computes.bounded le
  obtain ⟨finite, error⟩ := clear.inside.distance (o_inside.mono (by norm_num))
  have far := clear.far
  rw [le_iff bounded.finite finite]
  rw [nano_eq] at reduced
  rw [abs_le] at reduced error
  norm_num at reduced error far ⊢
  linarith

/-- Every point of a path but its last one, midpoints included, keeps the clearance from each obstacle that
all later ones in the list are two clearances away from: from the last obstacle in any case, and from every
one if no two clearance discs overlap. -/
theorem path_clear_of_obstacle (config : ClearanceConfig) (query : Query) (o : Point)
    (earlier later : List Point) (positive : Config.Positive config.clearance)
    (clearance_le : config.clearance ≤ 1000) (obstacles_eq : query.obstacles = earlier ++ o :: later)
    (obstacles_within : ∀ other ∈ query.obstacles, other.Within 1000)
    (current_within : ∀ p ∈ query.current, p.Within 1000)
    (apart : ∀ other ∈ later, 2 * config.clearance ≤ o.distance other) :
    ∀ q ∈ (config.path query).dropLast, config.clearance - 1e-9 ≤ q.distance o := by
  have moderate := moderate_of_positive positive clearance_le
  have inside : ∀ other ∈ earlier ++ o :: later, other.Inside 1000 := by
    intro other mem
    exact inside_of_within (obstacles_within other (obstacles_eq ▸ mem))
  have later_inside : ∀ other ∈ later, other.Inside 1000 := by
    intro other mem
    exact inside other (List.mem_append_right _ (List.mem_cons_of_mem o mem))
  have o_inside : o.Inside 1000 := inside o (List.mem_append_right _ List.mem_cons_self)
  have current_inside : ∀ p ∈ query.current, p.Inside 2048 := by
    intro p mem
    exact (inside_of_within (current_within p mem)).mono (by norm_num)
  have lined : Lined (config.Clear o) (config.path query) := by
    refine lined_path (fun p p_inside => ?_) obstacles_eq current_inside
    have clear := clear_pushClear moderate inside
      (fun other mem => moderate.apart o_inside (later_inside other mem) (apart other mem)) p_inside
    exact ⟨clear.inside, clear⟩
  exact fun q mem => (lined.clear q mem).le_distance moderate o_inside

/-- A straight leg through an obstacle, with another one more than two clearances further on. -/
def throughFirst : Query where
  obstacles := [⟨1, 0.1⟩, ⟨3, 0.1⟩]
  current := [⟨0, 0⟩, ⟨1, 0⟩, ⟨2, 0⟩]
  capacity := 10

theorem path_through_obstacle_clear : Config.Positive ({} : ClearanceConfig).clearance ∧
    (∀ other ∈ [(⟨3, 0.1⟩ : Point)],
      2 * ({} : ClearanceConfig).clearance ≤ (⟨1, 0.1⟩ : Point).distance other) ∧
    ∀ q ∈ (({} : ClearanceConfig).path throughFirst).dropLast,
      ({} : ClearanceConfig).clearance - 1e-9 ≤ q.distance ⟨1, 0.1⟩ := by
  have positive : Config.Positive ({} : ClearanceConfig).clearance := by
    constructor <;> decide +kernel
  have apart : ∀ other ∈ [(⟨3, 0.1⟩ : Point)],
      2 * ({} : ClearanceConfig).clearance ≤ (⟨1, 0.1⟩ : Point).distance other := by
    decide +kernel
  exact ⟨positive, apart, path_clear_of_obstacle {} throughFirst ⟨1, 0.1⟩ [] [⟨3, 0.1⟩] positive
    (by decide +kernel) rfl (by decide +kernel) (by decide +kernel) apart⟩

/-- Two obstacles that a map keeps apart, closer than two clearances to each other. -/
def betweenObstacles : Query where
  obstacles := [⟨0, 0⟩, ⟨1, 0⟩]
  current := [⟨0.1, 0⟩, ⟨5, 0⟩]
  capacity := 2

theorem path_of_full {query : Query} (full : query.capacity = query.current.length) :
    config.path query = config.pushed query.obstacles query.current := by
  rw [config.path_eq_take_pushed (Nat.le_of_eq full), full,
    ← config.length_pushed query.obstacles query.current, List.take_length]

/-- The push from the second obstacle undoes the one from the first. -/
theorem pushed_back_in :
    ((ObstacleMap.empty 2 1).insertAll betweenObstacles.obstacles).2.obstacles =
      betweenObstacles.obstacles ∧
    (∀ o ∈ betweenObstacles.obstacles, o.Within 1000) ∧
    (∀ p ∈ betweenObstacles.current, p.Within 1000) ∧
    ∃ q ∈ ((⟨0.8, 10⟩ : ClearanceConfig).path betweenObstacles).dropLast,
      ∃ o ∈ betweenObstacles.obstacles, ¬(0.8 - 1e-9 ≤ q.distance o) := by
  rw [path_of_full rfl]
  refine ⟨?_, ?_, ?_, ?_⟩ <;> decide +kernel

end ClearanceConfig

end WaypointNav
