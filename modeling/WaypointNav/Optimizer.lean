import WaypointNav.Fault
import WaypointNav.Point

namespace WaypointNav

/-- What an optimizer is asked: a path for one leg, given every known obstacle, the leg's valid points
and the number of points it holds. -/
structure Query where
  obstacles : List Point
  current : List Point
  capacity : Nat

/-- Any path optimizer. It may remember, fail, and answer with too many points or none. -/
abbrev Optimizer (σ : Type) :=
  σ → Query → Except Fault (List Point) × σ

structure Invocation where
  leg : Nat
  query : Query
  answer : Except Fault (List Point)

end WaypointNav
