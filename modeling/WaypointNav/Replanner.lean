import WaypointNav.Optimizer
import WaypointNav.Route

/-! Replanning one leg: the optimizer is asked once, and either its whole answer is installed or the
route stays as it was. -/
namespace WaypointNav

structure Replanner (σ : Type) where
  memory : σ
  replans : Nat := 0
  failures : Nat := 0
  timed : Bool := false

structure Replan (σ : Type) where
  result : Except Fault Nat
  route : Route
  replanner : Replanner σ
  calls : List Invocation

def Replanner.replan (optimizer : Optimizer σ) (replanner : Replanner σ) (route : Route) (index : Nat)
    (obstacles : List Point) : Replan σ :=
  match route.leg index with
  | .error fault => ⟨.error fault, route, replanner, []⟩
  | .ok leg =>
    let query := ⟨obstacles, leg.points, leg.capacity⟩
    let (answer, memory) := optimizer replanner.memory query
    let asked := { replanner with memory, timed := true }
    let calls := [⟨index, query, answer⟩]
    match answer.bind leg.install with
    | .error fault => ⟨.error fault, route, { asked with failures := asked.failures + 1 }, calls⟩
    | .ok leg =>
      ⟨.ok leg.size, route.setLeg index leg, { asked with replans := asked.replans + 1 }, calls⟩

end WaypointNav
