import WaypointNav.Proofs.Optimizer.Separation
import WaypointNav.Proofs.Optimizer.Shape
import WaypointNav.Proofs.Replanner.Atomicity

/-! A clear path is left alone. The search for wide gaps has nothing to add to what it ended with, and points that
are far enough from every obstacle are not pushed, so the answer to a question about such an answer is the same
path again. -/
namespace WaypointNav

/-- The route after one of its legs was replanned so many times, with the same obstacles. -/
def Replanner.repeated {σ : Type} (optimizer : Optimizer σ) (index : Nat) (obstacles : List Point) :
    Replanner σ → Route → Nat → Route
  | _, route, 0 => route
  | replanner, route, times + 1 =>
    let done := replanner.replan optimizer route index obstacles
    done.replanner.repeated optimizer index obstacles done.route times

namespace ClearanceConfig

variable (config : ClearanceConfig) (obstacles : List Point)

/-- No push moves the point. -/
def Far (p : Point) : Prop :=
  ∀ o ∈ obstacles, p.distance o ≥ config.clearance

variable {config obstacles}

theorem pushClear_of_far {p : Point} (far : config.Far obstacles p) :
    config.pushClear obstacles p = p := by
  induction obstacles with
  | nil => rfl
  | cons o obstacles ih =>
    obtain ⟨first, rest⟩ := List.forall_mem_cons.mp far
    have kept : config.pushFrom p o = p := if_pos first
    change config.pushClear obstacles (config.pushFrom p o) = p
    rw [kept, ih rest]

theorem pushed_of_far {path : List Point} (far : ∀ p ∈ path.dropLast, config.Far obstacles p) :
    config.pushed obstacles path = path := by
  fun_induction pushed config obstacles path with
  | case1 | case2 => rfl
  | case3 p rest several ih =>
    rw [List.dropLast_cons_of_ne_nil fun none => several none] at far
    obtain ⟨first, rest_far⟩ := List.forall_mem_cons.mp far
    rw [pushClear_of_far first, ih rest_far]

/-- The search for wide gaps is over for good: what room it leaves stays unused. -/
theorem densify_again (obstacles : List Point) (room : Nat) (path : List Point) :
    config.densify obstacles (path.length + room - (config.densify obstacles room path).length)
      (config.densify obstacles room path) = config.densify obstacles room path := by
  fun_induction densify config obstacles room path with
  | case1 path => rw [Nat.add_zero, Nat.sub_self, densify]
  | case2 room => exact config.densify_nil obstacles _
  | case3 room p => cases [p].length + room - [p].length <;> simp [densify]
  | case4 room p q rest wide middle ih =>
    have total : (p :: q :: rest).length + (room + 1) = (p :: middle :: q :: rest).length + room := by
      simp only [List.length_cons]
      omega
    rw [total]
    exact ih
  | case5 room p q rest narrow ih =>
    obtain ⟨tail, found⟩ : ∃ tail, config.densify obstacles (room + 1) (q :: rest) = q :: tail := by
      have head := config.head?_densify obstacles (room + 1) (q :: rest)
      exact List.head?_eq_some_iff.mp head
    rw [found] at ih ⊢
    have left : (p :: q :: rest).length + (room + 1) - (p :: q :: tail).length =
        (q :: rest).length + (room + 1) - (q :: tail).length := by
      simp only [List.length_cons]
      omega
    rw [left]
    generalize (q :: rest).length + (room + 1) - (q :: tail).length = room' at ih ⊢
    cases room' with
    | zero => rw [densify]
    | succ room' => rw [densify, if_neg narrow, ih]

theorem path_again {query : Query}
    (far : ∀ p ∈ (config.path query).dropLast, config.Far query.obstacles p) :
    config.path { query with current := config.path query } = config.path query := by
  rw [path_eq_take_densify]
  dsimp only
  rw [pushed_of_far far]
  rcases Nat.le_total query.current.length query.capacity with fits | full
  · have shorter := (config.refined_path fits).fits
    have again := config.densify_again query.obstacles
      (query.capacity - query.current.length) (config.pushed query.obstacles query.current)
    rw [← config.path_eq_densify fits, length_pushed, Nat.add_sub_cancel' fits] at again
    rw [again, List.take_of_length_le shorter]
  -- A path that is cut leaves no room.
  · have length_eq : (config.path query).length = query.capacity := by
      rw [config.path_eq_take_pushed full, List.length_take, length_pushed, Nat.min_eq_left full]
    rw [length_eq, Nat.sub_self, densify, List.take_of_length_le length_eq.le]

section Replans

variable {route : Route} {index : Nat} {leg : Leg}

theorem route_replan (found : route.legs[index]? = some leg) (replanner : Replanner Unit) :
    (replanner.replan config.optimizer route index obstacles).route =
      route.setLeg index
        (.filled leg.capacity (config.path ⟨obstacles, leg.points, leg.capacity⟩)) := by
  have refined : Query.Refined ⟨obstacles, leg.points, leg.capacity⟩ _ :=
    config.refined_path leg.length_points_le
  have verdict : (replanner.ask config.optimizer index leg obstacles).verdict = .ok _ :=
    Invocation.verdict_eq_ok_iff.mpr ⟨rfl, refined.fits⟩
  rw [Replanner.replan_of_leg (Route.leg_eq_ok_iff.mpr found)]
  unfold Invocation.settle
  rw [verdict]
  rfl

theorem repeated_of_kept (kept : ∀ replanner : Replanner Unit,
    (replanner.replan config.optimizer route index obstacles).route = route)
    (replanner : Replanner Unit) (times : Nat) :
    replanner.repeated config.optimizer index obstacles route times = route := by
  induction times generalizing replanner with
  | zero => rfl
  | succ times ih =>
    rw [Replanner.repeated, kept]
    exact ih _

end Replans

/-- A path whose points but the last are all clear is its own answer. So a leg that was replanned once keeps that
path through any number of further replans around the same obstacles, and nothing else of the route changes. -/
theorem replan_settles (config : ClearanceConfig) (query : Query)
    (clear : ∀ p ∈ (config.path query).dropLast, config.Far query.obstacles p) :
    config.path { query with current := config.path query } = config.path query ∧
      ∀ (replanner : Replanner Unit) (route : Route) (index : Nat) (leg : Leg),
        route.legs[index]? = some leg → leg.points = query.current → leg.capacity = query.capacity →
        ∃ settled, route.Replaced settled index query.capacity (config.path query) ∧
          ∀ times, replanner.repeated config.optimizer index query.obstacles route (times + 1) =
            settled := by
  have again := path_again clear
  refine ⟨again, ?_⟩
  intro replanner route index leg found points_eq capacity_eq
  have fits : (config.path query).length ≤ query.capacity :=
    (config.refined_path (by rw [← points_eq, ← capacity_eq]; exact leg.length_points_le)).fits
  have first (replanner : Replanner Unit) :
      (replanner.replan config.optimizer route index query.obstacles).route =
        route.setLeg index (.filled query.capacity (config.path query)) := by
    rw [route_replan found, points_eq, capacity_eq]
  refine ⟨route.setLeg index (.filled query.capacity (config.path query)), ?_, ?_⟩
  · exact Route.replaced_setLeg found (Leg.holds_filled fits)
  intro times
  have found' : (route.setLeg index (.filled query.capacity (config.path query))).legs[index]? =
      some (.filled query.capacity (config.path query)) :=
    Route.leg_eq_ok_iff.mp (Route.leg_setLeg_self (Route.leg_eq_ok_iff.mpr found) _)
  rw [Replanner.repeated, first]
  apply repeated_of_kept
  intro replanner
  rw [route_replan found', Leg.points_filled, Leg.capacity_filled fits, again]
  simp only [Route.setLeg, List.set_set]

def fullThroughObstacle : Query where
  obstacles := [⟨1, 0.1⟩]
  current := [⟨0, 0⟩, ⟨1, 0⟩, ⟨2, 0⟩]
  capacity := 3

theorem settled_through_obstacle :
    (∀ p ∈ (({} : ClearanceConfig).path fullThroughObstacle).dropLast,
      ({} : ClearanceConfig).Far fullThroughObstacle.obstacles p) ∧
    (({} : ClearanceConfig).path fullThroughObstacle ≠ fullThroughObstacle.current) ∧
    ({} : ClearanceConfig).path
        { fullThroughObstacle with current := ({} : ClearanceConfig).path fullThroughObstacle } =
      ({} : ClearanceConfig).path fullThroughObstacle := by
  have far : ∀ p ∈ (({} : ClearanceConfig).path fullThroughObstacle).dropLast,
      ({} : ClearanceConfig).Far fullThroughObstacle.obstacles p := by
    rw [path_of_full rfl]
    unfold Far
    decide +kernel
  refine ⟨far, ?_, (replan_settles {} fullThroughObstacle far).1⟩
  rw [path_of_full rfl]
  decide +kernel

end ClearanceConfig

end WaypointNav
