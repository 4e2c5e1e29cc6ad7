import WaypointNav.Leg

/-! A closed polygon of outer waypoints and one leg per waypoint: leg `i` leads from waypoint `i` to the
next one, the last leg back to the first. -/
namespace WaypointNav

structure Route where
  outer : List Point
  legs : List Leg

namespace Route

def ofParts (outer : List Point) (legs : List Leg) : Except Fault Route :=
  if outer.length = legs.length then .ok ⟨outer, legs⟩
  else .error (.config s!"{outer.length} outer points but {legs.length} inner segments")

def length (route : Route) : Nat :=
  route.outer.length

def waypoint (route : Route) (index : Nat) : Except Fault Point :=
  match route.outer[index]? with
  | some p => .ok p
  | none => .error (.outOfRange index route.outer.length)

def leg (route : Route) (index : Nat) : Except Fault Leg :=
  match route.legs[index]? with
  | some leg => .ok leg
  | none => .error (.outOfRange index route.legs.length)

def setLeg (route : Route) (index : Nat) (leg : Leg) : Route :=
  { route with legs := route.legs.set index leg }

def install (route : Route) (index : Nat) (points : List Point) : Except Fault Route := do
  let leg ← route.leg index
  let leg ← leg.install points
  return route.setLeg index leg

def next? (route : Route) (index : Nat) : Option Nat :=
  if route.outer.isEmpty then none else some ((index + 1) % route.length)

end Route

end WaypointNav
