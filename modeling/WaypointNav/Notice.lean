import WaypointNav.Decimal.Fixed
import WaypointNav.Point

namespace WaypointNav

inductive Notice
  | routeStart (p : Point)
  | waypointAdded (p : Point)
  | routeReady (outerLength innerLength : Nat)
  | outerMoved (index : Nat) (p : Point)
deriving DecidableEq

namespace Notice

def place (p : Point) : String :=
  Decimal.fixed 2 p.x ++ "/" ++ Decimal.fixed 2 p.y

def ofOutline : List Point → List Notice
  | [] => []
  | start :: rest => .routeStart start :: rest.map .waypointAdded

def message : Notice → String
  | .routeStart p => "[OUTER TRAJECTORY] Starting position (" ++ place p ++ ")"
  | .waypointAdded p => "[OUTER TRAJECTORY] Point added: (" ++ place p ++ ")"
  | .routeReady outerLength innerLength =>
    s!"Trajectory initialized: {outerLength} outer waypoints, {innerLength} inner points per leg"
  | .outerMoved index p =>
    s!"[OUTER TRAJECTORY] Setting new waypoint at {index}, going to: (" ++ place p ++ ")"

end Notice

end WaypointNav
