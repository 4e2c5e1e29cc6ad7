import WaypointNav.Config
import WaypointNav.Route

/-! The first plan of a route: the outer polygon and a straight, evenly divided leg along each side. -/
namespace WaypointNav.RouteConfig

def outline (config : RouteConfig) (start : Point) : List Point :=
  start :: if config.relative then config.outerWaypoints.map (start + ·) else config.outerWaypoints

/-- The points that divide the way from `a` to `b` into `count` equal steps, `a` excluded and `b`
included. -/
def divide (a b : Point) (count : Nat) : List Point :=
  (List.range count).map fun k => a.interpolate b ((k + 1).toFloat / count.toFloat)

def straightLeg (config : RouteConfig) (outer : List Point) (index : Nat) : Except Fault Leg :=
  if h : index < outer.length then
    let next := (index + 1) % outer.length
    have : next < outer.length := Nat.mod_lt _ (Nat.zero_lt_of_lt h)
    Leg.ofPoints config.innerSpace (divide outer[index] outer[next] config.innerLength)
  else .error (.outOfRange index outer.length)

def plan (config : RouteConfig) (start : Point) : Except Fault Route := do
  let outer := config.outline start
  let legs ← (List.range outer.length).mapM (config.straightLeg outer)
  Route.ofParts outer legs

end WaypointNav.RouteConfig
