import WaypointNav.Optimizer.Clearance
import WaypointNav.Proofs.Replanner

/-! The reference optimizer is tame: it answers every question that a leg can ask, with a path that fits, is
no shorter than the one asked about and ends where that one ends. -/
namespace WaypointNav

structure Query.Refined (query : Query) (path : List Point) : Prop where
  length_ge : query.current.length ≤ path.length
  fits : path.length ≤ query.capacity
  getLast?_eq : path.getLast? = query.current.getLast?

def Optimizer.Tame (optimizer : Optimizer σ) : Prop :=
  ∀ memory query, query.current.length ≤ query.capacity →
    ∃ path, (optimizer memory query).1 = .ok path ∧ query.Refined path

namespace ClearanceConfig

variable (config : ClearanceConfig) (obstacles : List Point)

@[simp] theorem length_pushed (path : List Point) :
    (config.pushed obstacles path).length = path.length := by
  fun_induction pushed config obstacles path with
  | case1 | case2 => rfl
  | case3 p rest _ ih => rw [List.length_cons, ih, List.length_cons]

@[simp] theorem getLast?_pushed (path : List Point) :
    (config.pushed obstacles path).getLast? = path.getLast? := by
  fun_induction pushed config obstacles path with
  | case1 | case2 => rfl
  | case3 p rest several ih =>
    cases rest with
    | nil => exact absurd rfl several
    | cons q rest =>
      rw [List.getLast?_cons, ih, List.getLast?_cons_cons, List.getLast?_cons, Option.getD_some]

theorem length_le_densify (room : Nat) (path : List Point) :
    path.length ≤ (config.densify obstacles room path).length := by
  fun_induction densify config obstacles room path with
  | case1 | case2 | case3 => exact Nat.le_refl _
  | case4 room p q rest wide middle ih =>
    rw [List.length_cons] at ih
    exact Nat.le_of_succ_le ih
  | case5 room p q rest narrow ih => exact Nat.succ_le_succ ih

theorem length_densify_le (room : Nat) (path : List Point) :
    (config.densify obstacles room path).length ≤ path.length + room := by
  fun_induction densify config obstacles room path with
  | case1 => exact Nat.le_refl _
  | case2 | case3 => exact Nat.le_add_right _ _
  | case4 room p q rest wide middle ih =>
    simp only [List.length_cons] at ih ⊢
    omega
  | case5 room p q rest narrow ih =>
    simp only [List.length_cons] at ih ⊢
    omega

@[simp] theorem getLast?_densify (room : Nat) (path : List Point) :
    (config.densify obstacles room path).getLast? = path.getLast? := by
  fun_induction densify config obstacles room path with
  | case1 | case2 | case3 => rfl
  | case4 room p q rest wide middle ih =>
    rw [ih, List.getLast?_cons_cons, List.getLast?_cons_cons, List.getLast?_cons_cons]
  | case5 room p q rest narrow ih =>
    rw [List.getLast?_cons, ih, List.getLast?_cons_cons, List.getLast?_cons, Option.getD_some]

theorem path_eq_take_densify (query : Query) :
    config.path query = (config.densify query.obstacles (query.capacity - query.current.length)
      (config.pushed query.obstacles query.current)).take query.capacity := by
  unfold path
  dsimp only
  rw [length_pushed]

/-- A path that there is room for is not cut. -/
theorem path_eq_densify {query : Query} (room : query.current.length ≤ query.capacity) :
    config.path query = config.densify query.obstacles (query.capacity - query.current.length)
      (config.pushed query.obstacles query.current) := by
  have shorter := config.length_densify_le query.obstacles
    (query.capacity - query.current.length) (config.pushed query.obstacles query.current)
  rw [length_pushed] at shorter
  rw [path_eq_take_densify]
  exact List.take_of_length_le (by omega)

/-- Without room for midpoints a path is only pushed. -/
theorem path_eq_take_pushed {query : Query} (full : query.capacity ≤ query.current.length) :
    config.path query = (config.pushed query.obstacles query.current).take query.capacity := by
  rw [path_eq_take_densify, Nat.sub_eq_zero_of_le full, densify]

theorem refined_path {query : Query} (room : query.current.length ≤ query.capacity) :
    query.Refined (config.path query) := by
  have longer := config.length_le_densify query.obstacles
    (query.capacity - query.current.length) (config.pushed query.obstacles query.current)
  have shorter := config.length_densify_le query.obstacles
    (query.capacity - query.current.length) (config.pushed query.obstacles query.current)
  rw [length_pushed] at longer shorter
  rw [config.path_eq_densify room]
  exact ⟨longer, by omega, by rw [getLast?_densify, getLast?_pushed]⟩

theorem tame_optimizer : config.optimizer.Tame :=
  fun _ query room => ⟨config.path query, rfl, config.refined_path room⟩

end ClearanceConfig

end WaypointNav
